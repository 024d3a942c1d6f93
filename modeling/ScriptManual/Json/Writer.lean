import ScriptManual.Json.Basic
import ScriptManual.Number.Shortest

/-!
This module contains the writer of JSON texts. Texts are compact: there is no white space between
tokens, and only the characters that cannot stand in a string are escaped.
-/

namespace ScriptManual

namespace Json

def escapeChar (c : Char) : Text :=
  if c = '"' then ['\\', '"']
  else if c = '\\' then ['\\', '\\']
  else if c = '\n' then ['\\', 'n']
  else if c = '\r' then ['\\', 'r']
  else if c = '\t' then ['\\', 't']
  else if c = '\x08' then ['\\', 'b']
  else if c = '\x0c' then ['\\', 'f']
  else if c.toNat < 0x20 then '\\' :: 'u' :: Text.hex 4 c.toNat
  else [c]

def escapePoint : CodePoint → Text
  | .char c => escapeChar c
  | .surrogate offset => CodePoint.escapeSurrogate offset

def writeString (t : WideText) : Text :=
  '"' :: t.flatMap escapePoint ++ ['"']

def writeFloat : Binary64 → Text
  | .nan => "NaN".toList
  | .infinite negative => (if negative then "-Infinity" else "Infinity").toList
  | x => x.toText

mutual

def write : Json → Text
  | .null => "null".toList
  | .bool b => (if b then "true" else "false").toList
  | .int n => Text.ofInt n
  | .float x => writeFloat x
  | .str t => writeString t
  | .arr items => '[' :: writeItems items ++ [']']
  | .obj members => '{' :: writeMembers members ++ ['}']

def writeItems : List Json → Text
  | [] => []
  | [item] => write item
  | item :: items => write item ++ ',' :: writeItems items

def writeMembers : List (WideText × Json) → Text
  | [] => []
  | [(key, value)] => writeString key ++ ':' :: write value
  | (key, value) :: members => writeString key ++ ':' :: write value ++ ',' :: writeMembers members

end

end Json

end ScriptManual
