import ScriptManual.Json.Basic

/-!
This module contains the tokens of a JSON text. Each token carries the number of characters in front
of it. The tokens of a text end with `finish`, or with `bad` where no token starts.
-/

namespace ScriptManual

namespace Json

inductive Limit where
  | integerDigits (digits : Nat)
  | arrayDepth
  | objectDepth
  deriving Repr, DecidableEq

/--
Why a JSON text is not read. Positions count the characters in front of the fault.
-/
inductive Fault where
  | byteOrderMark
  | valueExpected (position : Nat)
  | keyExpected (position : Nat)
  | colonExpected (position : Nat)
  | commaExpected (position : Nat)
  | extraData (position : Nat)
  | controlCharacter (position : Nat)
  | unterminatedString (position : Nat)
  | badEscape (position : Nat)
  | badUnicodeEscape (position : Nat)
  | limit (l : Limit)
  deriving Repr, DecidableEq

def maxIntegerDigits : Nat := 4300

/--
The most arrays and objects that may be open at a time. The limit is assumed.
-/
def assumedMaxDepth : Nat := 990

inductive Token where
  | openBracket
  | closeBracket
  | openBrace
  | closeBrace
  | comma
  | colon
  | str (t : WideText)
  | scalar (value : Json)
  | badString (fault : Fault)
  | bad (fault : Fault)
  | finish

def isSpace (c : Char) : Bool :=
  c == ' ' || c == '\t' || c == '\n' || c == '\r'

def hex4? (a b c d : Char) : Option Nat := do
  let a ← Text.hexDigit? a
  let b ← Text.hexDigit? b
  let c ← Text.hexDigit? c
  let d ← Text.hexDigit? d
  return ((a * 16 + b) * 16 + c) * 16 + d

def simpleEscape? : Char → Option Char
  | '"' => some '"'
  | '\\' => some '\\'
  | '/' => some '/'
  | 'b' => some '\x08'
  | 'f' => some '\x0c'
  | 'n' => some '\n'
  | 'r' => some '\r'
  | 't' => some '\t'
  | _ => none

def unitPoint (n : Nat) : CodePoint :=
  if h : 0xD800 ≤ n ∧ n < 0xE000 then .surrogate ⟨n - 0xD800, by omega⟩ else .char (Char.ofNat n)

def joinSurrogates? (high low : Nat) : Option Char :=
  if 0xD800 ≤ high ∧ high ≤ 0xDBFF ∧ 0xDC00 ≤ low ∧ low ≤ 0xDFFF then
    some (Char.ofNat (0x10000 + (high - 0xD800) * 0x400 + (low - 0xDC00)))
  else
    none

/--
Read the digits of a code unit whose `u` stands at `position`. They cannot be the end of the text,
because a string still has to be closed.
-/
def scanUnit (position : Nat) : Text → Except Fault Nat
  | a :: b :: c :: d :: _ :: _ =>
    match hex4? a b c d with
    | some unit => .ok unit
    | none => .error (.badUnicodeEscape position)
  | _ => .error (.badUnicodeEscape position)

/--
Read one code point at `position` of a string that starts at `start`: the code point and the number of
characters it is written with.
-/
def scanPoint (start position : Nat) : Text → Except Fault (CodePoint × Nat)
  | [] | ['\\'] => .error (.unterminatedString start)
  | '\\' :: 'u' :: cs => do
    let unit ← scanUnit (position + 1) cs
    match cs.drop 4 with
    | '\\' :: 'u' :: ds =>
      if 0xD800 ≤ unit ∧ unit ≤ 0xDBFF ∧ ¬(ds.drop 4).isEmpty then
        let low ← scanUnit (position + 7) ds
        match joinSurrogates? unit low with
        | some c => return (.char c, 12)
        | none => return (unitPoint unit, 6)
      else
        return (unitPoint unit, 6)
    | _ => return (unitPoint unit, 6)
  | '\\' :: c :: _ =>
    match simpleEscape? c with
    | some escaped => .ok (.char escaped, 2)
    | none => .error (.badEscape position)
  | c :: _ => if c.toNat < 0x20 then .error (.controlCharacter position) else .ok (.char c, 1)

/--
Read the rest of a string that starts at `start`, up to and including the closing quote: the text and
the number of characters read.
-/
def scanString (start position : Nat) : Text → Except Fault (WideText × Nat)
  | [] => .error (.unterminatedString start)
  | '"' :: _ => .ok ([], 1)
  | c :: cs => do
    let (read, width) ← scanPoint start position (c :: cs)
    let (rest, n) ← scanString start (position + width) (cs.drop (width - 1))
    return (read :: rest, n + width)
termination_by t => t.length
decreasing_by
  simp only [List.length_cons, List.length_drop]; omega

def scanFraction : Text → Text
  | '.' :: cs => cs.takeWhile Char.isDigit
  | _ => []

def scanExponent : Text → Option (Bool × Text × Nat)
  | e :: cs =>
    if e == 'e' || e == 'E' then
      let (negative, digits, width) :=
        match cs with
        | '-' :: ds => (true, ds.takeWhile Char.isDigit, 2)
        | '+' :: ds => (false, ds.takeWhile Char.isDigit, 2)
        | ds => (false, ds.takeWhile Char.isDigit, 1)
      if digits.isEmpty then none else some (negative, digits, width + digits.length)
    else
      none
  | [] => none

def scanNumber (negative : Bool) (t : Text) : Option (Except Fault Json × Nat) :=
  let whole :=
    match t with
    | '0' :: _ => ['0']
    | _ => t.takeWhile Char.isDigit
  if whole.isEmpty then
    none
  else
    let rest := t.drop whole.length
    let fraction := scanFraction rest
    let fractionWidth := if fraction.isEmpty then 0 else fraction.length + 1
    let exponent? := scanExponent (rest.drop fractionWidth)
    if fraction.isEmpty && exponent?.isNone then
      if maxIntegerDigits < whole.length then
        some (.error (.limit (.integerDigits whole.length)), whole.length)
      else
        let n : Int := Text.decimalValue whole
        some (.ok (.int (if negative then -n else n)), whole.length)
    else
      let (exponent, exponentWidth) :=
        match exponent? with
        | some (negative, digits, width) =>
          ((if negative then -(Text.decimalValue digits : Int) else Text.decimalValue digits), width)
        | none => (0, 0)
      let x := Binary64.ofDecimal negative (Text.decimalValue (whole ++ fraction))
        (exponent - fraction.length)
      some (.ok (.float x), whole.length + fractionWidth + exponentWidth)

def words : List (Text × Json) :=
  [("null".toList, .null), ("true".toList, .bool true), ("false".toList, .bool false),
    ("NaN".toList, .float .nan), ("Infinity".toList, .float (.infinite false)),
    ("-Infinity".toList, .float (.infinite true))]

def Token.scan (position : Nat) (c : Char) (cs : Text) : Token × Nat :=
  match c with
  | '[' => (.openBracket, 0)
  | ']' => (.closeBracket, 0)
  | '{' => (.openBrace, 0)
  | '}' => (.closeBrace, 0)
  | ',' => (.comma, 0)
  | ':' => (.colon, 0)
  | '"' =>
    match scanString position (position + 1) cs with
    | .ok (t, n) => (.str t, n)
    | .error fault => (.badString fault, 0)
  | _ =>
    match words.find? fun (word, _) => word.isPrefixOf (c :: cs) with
    | some (word, value) => (.scalar value, word.length - 1)
    | none =>
      let number? :=
        if c == '-' then
          (scanNumber true cs).map fun (value, n) => (value, n + 1)
        else
          scanNumber false (c :: cs)
      match number? with
      | some (.ok value, n) => (.scalar value, n - 1)
      | some (.error fault, _) => (.bad fault, 0)
      | none => (.bad (.valueExpected position), 0)

def Token.isLast : Token → Bool
  | .badString _ | .bad _ | .finish => true
  | _ => false

def Token.ofText (position : Nat) : Text → List (Nat × Token)
  | [] => [(position, .finish)]
  | c :: cs =>
    if isSpace c then
      ofText (position + 1) cs
    else
      let (token, n) := Token.scan position c cs
      (position, token) ::
        if token.isLast then [] else ofText (position + 1 + n) (cs.drop n)
termination_by t => t.length
decreasing_by
  all_goals simp only [List.length_cons, List.length_drop]; omega

end Json

end ScriptManual
