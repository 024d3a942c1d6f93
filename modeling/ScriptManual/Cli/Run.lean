import ScriptManual.Assoc.Basic
import ScriptManual.Cli.CommandLine
import ScriptManual.Cli.Generate
import ScriptManual.Cli.Usage
import ScriptManual.Log.Sink
import ScriptManual.Path.Map
import ScriptManual.Settings.Load

/-!
This module contains a run of the program: from the command line over the files that it names to what
is written and shown.
-/

namespace ScriptManual

namespace Cli

inductive Failure where
  | path (e : Path.MapError)
  | settings (e : Settings.Error)
  | unreadableScript (script : Path) (e : OsError)
  | undecodableScript (script : Path) (fault : Text.Utf8.Fault)
  | extract (e : ExtractError)
  deriving Repr, DecidableEq

def Failure.message : Failure → WideText
  | .path e => e.message
  | .settings e => e.message
  | .unreadableScript script e =>
    WideText.ofText "Failed to read source file: ".toList ++ script.toText
      ++ WideText.ofText (": ".toList ++ e.message)
  | .undecodableScript script fault =>
    WideText.ofText "Failed to read source file: ".toList ++ script.toText
      ++ WideText.ofText (": ".toList ++ fault.message)
  | .extract e => e.message

def Failure.kind : Failure → Text
  | .path _ => "PathMappingError".toList
  | .settings _ => "SettingsError".toList
  | .unreadableScript _ _ | .undecodableScript _ _ => "OptdocError".toList
  | .extract (.missingSection _) => "MissingOptionsSectionError".toList
  | .extract (.duplicateShort _) => "DuplicateShortOptionError".toList

inductive Crash where
  | os (e : OsError)
  | undecodableSettings (fault : Text.Utf8.Fault)
  | limit (l : Json.Limit)
  | unresolvable (e : Path.Unresolvable)
  | unencodable (fault : WideText.EncodeFault)
  | noPath
  | noFormat
  deriving Repr, DecidableEq

def Crash.message : Crash → Text
  | .os e => e.message
  | .undecodableSettings fault => fault.message
  | .limit l => l.message
  | .unresolvable e => e.message
  | .unencodable fault => fault.message
  | .noPath => "normalize() argument 2 must be str, not list".toList
  | .noFormat => "[] is not a valid OutputFormat".toList

inductive Stop where
  | failure (f : Failure)
  | crash (c : Crash)
  deriving Repr, DecidableEq

inductive Ending where
  | status (n : Nat)
  | crash (c : Crash)
  deriving Repr, DecidableEq

def meant (s : Path.Surroundings) : Given → Except Stop Path
  | .text t =>
    (Path.meant s (some s.workingDirectory) t).mapError fun
      | .unresolvable e => .crash (.unresolvable e)
      | e => .failure (.path e)
  | .nothing => .error (.crash .noPath)

def meant? (s : Path.Surroundings) : Option Given → Except Stop (Option Path)
  | none => .ok none
  | some given => (meant s given).map some

def Request.updates (r : Request) : Except Stop (List (Text × Json)) := do
  let format ←
    match r.format? with
    | none => pure []
    | some .nothing => throw (.crash .noFormat)
    | some (.text t) => pure [(Settings.formatKey, Json.str t)]
  let missing :=
    if r.allowMissing then [(Settings.missingKey, Json.text MissingPolicy.helpOnly.name)] else []
  let marker :=
    match r.marker? with
    | none => []
    | some (.text t) => [(Settings.markerKey, Json.str t)]
    | some .nothing => [(Settings.markerKey, Json.arr [])]
  return format ++ missing ++ marker

variable (v : Settings.Validation)

def Request.override (r : Request) (s : Settings) : Except Stop Settings := do
  let updates ← r.updates
  if updates.isEmpty then
    return s
  let members := updates.foldl (fun members (key, value) => Assoc.set key value members) (v.dump s)
  (v.validate Settings.declaration (.object members)).mapError fun description =>
    .failure (.settings (.invalid .commandLine description))

def loadSettings (file? : Option (Path × Except OsError (List UInt8))) : Except Stop Settings :=
  match file? with
  | none => .ok .standard
  | some (path, contents) =>
    (Settings.load v path contents).mapError fun
      | .refused e => .failure (.settings e)
      | .unasked e => .crash (.os e)
      | .undecodable fault => .crash (.undecodableSettings fault)
      | .limit l => .crash (.limit l)

def scriptLines (path : Path) (contents : Except OsError (List UInt8)) : Except Stop (List Text) := do
  let bytes ← contents.mapError fun e =>
    if e.isFromSystem then .failure (.unreadableScript path e) else .crash (.os e)
  let text ← (Text.Utf8.decode bytes).mapError fun fault => .failure (.undecodableScript path fault)
  return Text.lines (Text.unifyNewlines text)

def Request.title (r : Request) (script : Path) : WideText :=
  match r.title? with
  | some (.text t) => if t.isEmpty then script.name else t
  | _ => script.name

abbrev RunM (m : Type → Type) := ExceptT Stop (StateT Log.Sink m)

section

variable {m : Type → Type} [Monad m] [Host m]

def report (events : List Log.Event) : StateT Log.Sink m Unit := do
  let log : m Log.Sink := (← get).logEvents events
  set (← log)

def pathField (path? : Option Path) : Log.Value :=
  match path? with
  | some path => .path path
  | none => .null

def resolve (p : Path) : RunM m Path := do
  let resolve : m (Except Path.Unresolvable Path) := Host.resolve p
  match ← resolve with
  | .ok p => return p
  | .error e => throw (.crash (.unresolvable e))

def deliver (output? : Option Path) (text : Except WideText.EncodeFault Text) : RunM m Unit :=
  match output? with
  | none =>
    match text with
    | .error fault => throw (.crash (.unencodable fault))
    | .ok text => do
      let putOut : m Unit := Host.putOut text
      putOut
  | some path => do
    let makeDirectories : m (Except OsError Unit) := Host.makeDirectories path.parent
    match ← makeDirectories with
    | .error e => throw (.crash (.os e))
    | .ok () => pure ()
    let writeFile : m (Except OsError Unit) := Host.writeFile path text
    match ← writeFile with
    | .error e => throw (.crash (.os e))
    | .ok () => pure ()

def readFile (path : Path) : RunM m (Except OsError (List UInt8)) := do
  let read : m (Except OsError (List UInt8)) := Host.readFile path
  read

def generate (s : Path.Surroundings) (r : Request) : RunM m Unit := do
  let log? ← (← MonadExcept.ofExcept (meant? s r.logFile?)).mapM resolve
  let start : m (Except OsError Log.Sink) := Log.Sink.start s.workingDirectory log?
  match ← start with
  | .error e => throw (.crash (.os e))
  | .ok sink => set sink
  let script ← resolve (← MonadExcept.ofExcept (meant s (.text r.script)))
  let config? ← (← MonadExcept.ofExcept (meant? s r.config?)).mapM resolve
  let output? ← (← MonadExcept.ofExcept (meant? s r.output?)).mapM resolve
  let file? ← config?.mapM fun path => return (path, ← readFile path)
  let settings ← MonadExcept.ofExcept (do r.override v (← loadSettings v file?))
  .lift <| report [⟨Log.Level.info, "app_start".toList,
    [("source_file".toList, .path script), ("output_format".toList, .text settings.format.name),
      ("config_file".toList, pathField config?), ("log_file".toList, pathField log?)]⟩]
  let lines ← MonadExcept.ofExcept (scriptLines script (← readFile script))
  let generation := settings.generate (r.title script) lines
  .lift <| report generation.events
  let warn : m Unit := Host.putError generation.warning
  warn
  match generation.result with
  | .error e => throw (.failure (.extract e))
  | .ok generated =>
    deliver output? generated.text
    .lift <| report [⟨Log.Level.info, "app_stop".toList,
      [("reason".toList, .text "done".toList), ("output_file".toList, pathField output?)]⟩]

def conclude : Except Stop Unit → StateT Log.Sink m Ending
  | .ok () => return .status 0
  | .error (.crash c) => return .crash c
  | .error (.failure f) => do
    report [⟨Log.Level.error, "app_error".toList,
      [("error_type".toList, .text f.kind), ("error".toList, .text f.message)]⟩]
    let tell : m Unit := Host.putError ("ERROR: ".toList ++ f.message.shown ++ ['\n'])
    tell
    return .status 1

def run (s : Path.Surroundings) (arguments : List WideText) : m Ending :=
  match Command.ofArguments arguments with
  | .error e => do
    Host.putError (usage ++ programName ++ ": error: ".toList ++ e.message.shown ++ ['\n'])
    return .status 2
  | .ok .help => do
    Host.putOut help
    return .status 0
  | .ok (.generate r) => do
    let work : StateT Log.Sink m Ending := do conclude (← (generate v s r).run)
    return (← work.run .initial).1

end

end Cli

end ScriptManual
