import ScriptManual.Host.Basic
import ScriptManual.Log.Entry

/-!
This module contains where records go: to a file as entries, or to the error output as they are if
there is no file and they are important enough.
-/

namespace ScriptManual

namespace Log

inductive Sink where
  | console (least : Level)
  | file (path : Path) (first : Bool)
  deriving Repr, DecidableEq

namespace Sink

def initial : Sink := .console Level.warning

def off : Sink := .console 51

def isEnabled (s : Sink) (level : Level) : Bool :=
  match s with
  | .console least => least ≤ level
  | .file _ _ => Level.info ≤ level

variable {m : Type → Type} [Monad m] [Host m]

/--
Start to log to a file if there is one. The directories above it are created from its path as it is
given, and the file is found from its absolute path.
-/
def start (directory : Path) (path? : Option Path) : m (Except OsError Sink) :=
  match path? with
  | none => return .ok .off
  | some path => do
    match ← Host.makeDirectories path.parent with
    | .error e => return .error e
    | .ok () =>
      let path := Path.absolute directory path
      match ← Host.appendFile path [] with
      | .error e => return .error e
      | .ok () => return .ok (.file path true)

/--
Log a record. An entry is lost if it goes beyond a limit, is no text or cannot be written.
-/
def log (s : Sink) (r : Record) : m Sink := do
  if !s.isEnabled r.level then
    return s
  match s with
  | .console _ =>
    Host.putError (r.message ++ ['\n'])
    return s
  | .file path first =>
    match r.entry (← Host.clock) first with
    | .error _ =>
      Host.reportLoss
      return s
    | .ok entry =>
      match entry.toText with
      | .error _ => Host.reportLoss
      | .ok t =>
        match ← Host.appendFile path (t ++ ['\n']) with
        | .error _ => Host.reportLoss
        | .ok () => pure ()
      return .file path false

def logEvents (s : Sink) (events : List Event) : m Sink :=
  events.foldlM (fun s e => do s.log (e.record (← Host.clock))) s

end Sink

end Log

end ScriptManual
