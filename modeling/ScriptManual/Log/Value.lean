import ScriptManual.Json.Basic
import ScriptManual.Number.Shortest
import ScriptManual.Path.Basic
import ScriptManual.Text.Quoted

/-!
This module contains the values of log fields, their form as JSON values in a log message, and their
form as text in a log file.
-/

namespace ScriptManual

namespace Log

inductive Value where
  | null
  | bool (b : Bool)
  | int (n : Int)
  | float (x : Binary64)
  | text (t : WideText)
  | path (p : Path)
  | list (items : List Value)
  | tuple (items : List Value)
  | dict (members : List (WideText × Value))
  deriving Inhabited

namespace Value

mutual

def inner : Value → Text
  | .null => "None".toList
  | .bool b => (if b then "True" else "False").toList
  | .int n => Text.ofInt n
  | .float x => x.toText
  | .text t => t.quoted
  | .path p => "PosixPath(".toList ++ p.toText.quoted ++ [')']
  | .list items => '[' :: innerItems items ++ [']']
  | .tuple items =>
    match items with
    | [item] => '(' :: inner item ++ [',', ')']
    | items => '(' :: innerItems items ++ [')']
  | .dict members => '\x7b' :: innerMembers members ++ ['\x7d']

def innerItems : List Value → Text
  | [] => []
  | [item] => inner item
  | item :: items => inner item ++ ',' :: ' ' :: innerItems items

def innerMembers : List (WideText × Value) → Text
  | [] => []
  | [(key, value)] => key.quoted ++ ':' :: ' ' :: inner value
  | (key, value) :: members =>
    key.quoted ++ ':' :: ' ' :: inner value ++ ',' :: ' ' :: innerMembers members

end

def display : Value → WideText
  | .text t => t
  | .path p => p.toText
  | value => value.inner

mutual

def toJson : Value → Json
  | .null => .null
  | .bool b => .bool b
  | .int n => .int n
  | .float x => .float x
  | .text t => .str t
  | .path p => .str p.toText
  | .list items | .tuple items => .arr (toJsonItems items)
  | .dict members => .text (inner (.dict members))

def toJsonItems : List Value → List Json
  | [] => []
  | item :: items => toJson item :: toJsonItems items

end

mutual

def ofJson : Json → Value
  | .null => .null
  | .bool b => .bool b
  | .int n => .int n
  | .float x => .float x
  | .str t => .text t
  | .arr items => .list (ofJsonItems items)
  | .obj members => .dict (ofJsonMembers members)

def ofJsonItems : List Json → List Value
  | [] => []
  | item :: items => ofJson item :: ofJsonItems items

def ofJsonMembers : List (WideText × Json) → List (WideText × Value)
  | [] => []
  | (key, value) :: members => (key, ofJson value) :: ofJsonMembers members

end

def isNull : Value → Bool
  | .null => true
  | _ => false

end Value

end Log

end ScriptManual
