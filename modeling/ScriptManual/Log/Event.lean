import ScriptManual.Assoc.Basic
import ScriptManual.Json.Writer
import ScriptManual.Log.Value
import ScriptManual.Path.Links

/-!
This module contains log events and the records they are logged as. The message of a record is a JSON
object with the time, the name of the event and its fields.
-/

namespace ScriptManual

namespace Log

abbrev Level := Int

namespace Level

def info : Level := 20

def warning : Level := 30

def error : Level := 40

def name (level : Level) : Text :=
  let names : List (Level × String) :=
    [(0, "NOTSET"), (10, "DEBUG"), (20, "INFO"), (30, "WARNING"), (40, "ERROR"), (50, "CRITICAL")]
  match names.lookup level with
  | some name => name.toList
  | none => "Level ".toList ++ Text.ofInt level

end Level

def programLogger : Text := "optdoc".toList

structure Clock where
  localTime : Text
  utc : Text

structure Event where
  level : Level
  name : Text
  fields : List (Text × Value)

structure Record where
  level : Level
  logger : Text
  message : Text
  deriving Repr, DecidableEq

def fileFields : List Text :=
  ["source_file", "output_file", "config_file", "log_file"].map String.toList

/--
Turn the text in a field that holds a file into a path from `directory`, where there are no links.
-/
def resolveField (directory : Path) (key : Text) (value : Value) :
    Except Path.Unresolvable Value :=
  match value with
  | .text t =>
    if fileFields.contains key then
      (Path.resolve? Path.noLinks directory (Path.ofText t)).map .path
    else
      .ok value
  | _ => .ok value

def Event.resolve (directory : Path) (e : Event) : Except Path.Unresolvable Event := do
  let fields ← e.fields.mapM fun (key, value) =>
    return (key, ← resolveField directory key value)
  return { e with fields }

def Event.payload (clock : Clock) (e : Event) : List (Text × Json) :=
  e.fields.foldl (fun members (key, value) => Assoc.set key value.toJson members)
    [("ts".toList, .text clock.localTime), ("event".toList, .text e.name)]

def Event.record (clock : Clock) (e : Event) : Record :=
  ⟨e.level, programLogger, (Json.object (e.payload clock)).write⟩

end Log

end ScriptManual
