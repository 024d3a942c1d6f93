import ScriptManual.Assoc.Basic
import ScriptManual.Json.Token

/-!
This module contains the reader of JSON texts. It runs over the tokens with a stack of the arrays and
objects that are still open, and stops at the first token that cannot continue the text.
-/

namespace ScriptManual

namespace Json

inductive Frame where
  | array (items : List Json)
  | object (members : List (WideText × Json)) (key : WideText)

/--
What the next token has to be. The stack holds the open arrays and objects, innermost first.
-/
inductive Expectation where
  | anyValue (stack : List Frame)
  | firstItem (stack : List Frame)
  | firstKey (stack : List Frame)
  | nextKey (members : List (WideText × Json)) (stack : List Frame)
  | colon (members : List (WideText × Json)) (key : WideText) (stack : List Frame)
  | next (value : Json) (frame : Frame) (stack : List Frame)
  | finish (value : Json)

namespace Expectation

def after (value : Json) : List Frame → Expectation
  | [] => .finish value
  | frame :: stack => .next value frame stack

def afterValueToken (position : Nat) (token : Token) (stack : List Frame) :
    Except Fault Expectation :=
  match token with
  | .str t => .ok (after (.str t) stack)
  | .scalar value => .ok (after value stack)
  | .openBracket =>
    if stack.length < assumedMaxDepth then .ok (.firstItem stack) else .error (.limit .arrayDepth)
  | .openBrace =>
    if stack.length < assumedMaxDepth then .ok (.firstKey stack) else .error (.limit .objectDepth)
  | .badString fault | .bad fault => .error fault
  | _ => .error (.valueExpected position)

def afterKeyToken (position : Nat) (token : Token) (members : List (WideText × Json))
    (stack : List Frame) : Except Fault Expectation :=
  match token with
  | .str key => .ok (.colon members key stack)
  | .badString fault => .error fault
  | _ => .error (.keyExpected position)

def step (position : Nat) (token : Token) : Expectation → Except Fault Expectation
  | .anyValue stack => afterValueToken position token stack
  | .firstItem stack =>
    match token with
    | .closeBracket => .ok (after (.arr []) stack)
    | _ => afterValueToken position token (.array [] :: stack)
  | .firstKey stack =>
    match token with
    | .closeBrace => .ok (after (.obj []) stack)
    | _ => afterKeyToken position token [] stack
  | .nextKey members stack => afterKeyToken position token members stack
  | .colon members key stack =>
    match token with
    | .colon => .ok (.anyValue (.object members key :: stack))
    | _ => .error (.colonExpected position)
  | .next value (.array items) stack =>
    match token with
    | .comma => .ok (.anyValue (.array (value :: items) :: stack))
    | .closeBracket => .ok (after (.arr (value :: items).reverse) stack)
    | _ => .error (.commaExpected position)
  | .next value (.object members key) stack =>
    match token with
    | .comma => .ok (.nextKey (Assoc.set key value members) stack)
    | .closeBrace => .ok (after (.obj (Assoc.set key value members)) stack)
    | _ => .error (.commaExpected position)
  | .finish value =>
    match token with
    | .finish => .ok (.finish value)
    | _ => .error (.extraData position)

def run : List (Nat × Token) → Expectation → Except Fault Expectation
  | [], expectation => .ok expectation
  | (position, token) :: tokens, expectation => do run tokens (← step position token expectation)

end Expectation

def ofText (t : Text) : Except Fault Json := do
  if t.head? == some '\uFEFF' then
    throw .byteOrderMark
  match ← Expectation.run (Token.ofText 0 t) (.anyValue []) with
  | .finish value => return value
  | _ => throw (.valueExpected t.length)

def Fault.position? : Fault → Option Nat
  | .byteOrderMark => some 0
  | .valueExpected p | .keyExpected p | .colonExpected p | .commaExpected p | .extraData p
  | .controlCharacter p | .unterminatedString p | .badEscape p | .badUnicodeEscape p => some p
  | .limit _ => none

def Limit.message : Limit → Text
  | .integerDigits digits =>
    "Exceeds the limit (4300 digits) for integer string conversion: value has ".toList
      ++ Text.ofNat digits
      ++ " digits; use sys.set_int_max_str_digits() to increase the limit".toList
  | .arrayDepth =>
    "maximum recursion depth exceeded while decoding a JSON array from a unicode string".toList
  | .objectDepth =>
    "maximum recursion depth exceeded while decoding a JSON object from a unicode string".toList

def Fault.reason : Fault → Text
  | .byteOrderMark => "Unexpected UTF-8 BOM (decode using utf-8-sig)".toList
  | .valueExpected _ => "Expecting value".toList
  | .keyExpected _ => "Expecting property name enclosed in double quotes".toList
  | .colonExpected _ => "Expecting ':' delimiter".toList
  | .commaExpected _ => "Expecting ',' delimiter".toList
  | .extraData _ => "Extra data".toList
  | .controlCharacter _ => "Invalid control character at".toList
  | .unterminatedString _ => "Unterminated string starting at".toList
  | .badEscape _ => "Invalid \\escape".toList
  | .badUnicodeEscape _ => "Invalid \\uXXXX escape".toList
  | .limit l => l.message

def Fault.message (t : Text) (fault : Fault) : Text :=
  match fault.position? with
  | none => fault.reason
  | some position =>
    let before := t.take position
    let line := before.count '\n' + 1
    let column := (before.reverse.takeWhile (· != '\n')).length + 1
    fault.reason ++ ": line ".toList ++ Text.ofNat line ++ " column ".toList ++ Text.ofNat column
      ++ " (char ".toList ++ Text.ofNat position ++ ")".toList

end Json

end ScriptManual
