import ScriptManual.Assoc.Basic
import ScriptManual.Json.Reader
import ScriptManual.Log.Event

/-!
This module contains the entries of a log file. An entry is a heading with the name of the event and
a line for each of its keys. There is an empty line between entries.
-/

namespace ScriptManual

namespace Log

def keyOrders : List (String × List String) :=
  [("app_start", ["ts", "level", "source_file", "output_format", "config_file", "log_file"]),
    ("extract_done", ["ts", "level", "help_lines", "option_count", "options"]),
    ("options_section_missing", ["ts", "level", "help_lines"]),
    ("emit_done", ["ts", "level", "option_count", "statement_count"]),
    ("docs_rendered", ["ts", "level", "output_format", "option_count"]),
    ("app_stop", ["ts", "level", "reason", "output_file"]),
    ("app_error", ["ts", "level", "error_type", "error"])]

def keyOrder (event : WideText) : List Text :=
  let found? := keyOrders.find? fun (name, _) => WideText.ofText name.toList == event
  (found?.map Prod.snd |>.getD ["ts", "level"]).map String.toList

/--
The members of a message that is a JSON object. Other messages have none.
-/
def messageMembers? (message : Text) : Except Json.Limit (Option (List (WideText × Value))) :=
  if message.head? == some '\x7b' && message.getLast? == some '\x7d' then
    match Json.ofText message with
    | .ok (.obj members) => .ok (some (Value.ofJsonMembers members))
    | .ok _ => .ok none
    | .error (.limit l) => .error l
    | .error _ => .ok none
  else
    .ok none

def Record.members (clock : Clock) (r : Record) : Except Json.Limit (List (WideText × Value)) := do
  let member (key : String) (t : Text) : WideText × Value := (WideText.ofText key.toList, .text t)
  let base := [member "ts_utc" clock.utc, member "level" r.level.name, member "logger" r.logger]
  match ← messageMembers? r.message with
  | some members => return members.foldl (fun base (key, value) => Assoc.set key value base) base
  | none => return base ++ [member "event" r.logger, member "message" r.message]

/--
The keys that an entry has lines for, in the order of the lines: first those that the event puts
first, then the others in the order of their characters.
-/
def lineKeys (event : WideText) (members : List (WideText × Value)) : List WideText :=
  let present (key : WideText) : Bool := (members.lookup key).any fun value => !value.isNull
  let preferred := (keyOrder event).map WideText.ofText
  let others := (members.map Prod.fst).filter fun key => !preferred.contains key && present key
  preferred.filter present ++ others.mergeSort WideText.le

def writeLine (key : WideText) (value : Value) : WideText :=
  key ++ WideText.ofText ": ".toList
    ++ WideText.replaceChar '\n' ['\\', 'n'] value.display

/--
Write the entry of a record. All entries but the first one start with an empty line.
-/
def Record.entry (clock : Clock) (first : Bool) (r : Record) : Except Json.Limit WideText := do
  let members ← r.members clock
  let eventKey := WideText.ofText "event".toList
  let event := match members.lookup eventKey with
    | some value => value.display
    | none => r.logger
  let members := members.filter fun (key, _) => key != eventKey
  let lines := (lineKeys event members).map fun key =>
    writeLine key ((members.lookup key).getD .null)
  let heading := WideText.ofText "=== ".toList ++ event ++ WideText.ofText " ===".toList
  let body := [CodePoint.char '\n'].intercalate (heading :: lines)
  return if first then body else .char '\n' :: body

end Log

end ScriptManual
