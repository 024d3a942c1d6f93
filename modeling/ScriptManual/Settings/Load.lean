import ScriptManual.Host.OsError
import ScriptManual.Json.Reader
import ScriptManual.Settings.Basic
import ScriptManual.Text.Lines
import ScriptManual.Text.Utf8

/-!
This module contains the way from the contents of a settings file to settings.
-/

namespace ScriptManual

namespace Settings

inductive Origin where
  | file (path : Path)
  | commandLine
  deriving Repr, DecidableEq

inductive Error where
  | unreadable (path : Path)
  | notJson (path : Path) (text : Text) (fault : Json.Fault)
  | invalid (origin : Origin) (description : Text)
  deriving Repr, DecidableEq

def Error.message : Error → WideText
  | .unreadable path => WideText.ofText "Failed to read settings file: ".toList ++ path.toText
  | .notJson path text fault =>
    WideText.ofText "Settings file is not valid JSON: ".toList ++ path.toText
      ++ WideText.ofText (": ".toList ++ fault.message text)
  | .invalid (.file path) description =>
    WideText.ofText "Invalid settings in ".toList ++ path.toText
      ++ WideText.ofText (": ".toList ++ description)
  | .invalid .commandLine description => "Invalid command-line settings: ".toList ++ description

inductive LoadError where
  | refused (e : Error)
  | unasked (e : OsError)
  | undecodable (fault : Text.Utf8.Fault)
  | limit (l : Json.Limit)
  deriving Repr, DecidableEq

def load (v : Validation) (path : Path) (contents : Except OsError (List UInt8)) :
    Except LoadError Settings := do
  let bytes ← contents.mapError fun e =>
    if e.isFromSystem then .refused (.unreadable path) else .unasked e
  let text ← (Text.Utf8.decode bytes).mapError .undecodable
  let text := Text.unifyNewlines text
  let value ← (Json.ofText text).mapError fun
    | .limit l => .limit l
    | fault => .refused (.notJson path text fault)
  (v.validate declaration value).mapError fun description =>
    .refused (.invalid (.file path) description)

end Settings

end ScriptManual
