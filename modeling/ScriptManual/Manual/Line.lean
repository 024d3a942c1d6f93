import ScriptManual.Text.Blank
import ScriptManual.Text.Pattern

/-!
This module contains what a single line of a script says. A line that starts with the comment marker
says something by its text behind the marker, and what that is depends on whether the section that
declares the options has started and on the column that descriptions continue at.
-/

namespace ScriptManual

structure Header where
  column : Nat
  short : Char
  long : Text
  argument? : Option Text
  description : Text
  deriving Repr, DecidableEq

namespace Header

def isWordChar (c : Char) : Bool :=
  c.isAlphanum || c == '_'

def isLongChar (c : Char) : Bool :=
  c.isAlphanum || c == '-'

def argumentPattern : Pattern (Pattern.Piece × Pattern.Piece) := do
  let name ← Pattern.runFrom Char.isLower isWordChar
  let blanks ← Pattern.run1 Text.isAsciiBlank
  return (name, blanks)

/--
Read a header: `-short --long argument description`, where the argument may be missing.
-/
def pattern : Pattern Header := do
  let indent ← Pattern.run Text.isAsciiBlank
  Pattern.literal ['-']
  let short ← Pattern.char isWordChar
  let gap ← Pattern.run1 Text.isAsciiBlank
  Pattern.literal ['-', '-']
  let long ← Pattern.run1 isLongChar
  let gap' ← Pattern.run1 Text.isAsciiBlank
  let argument? ← Pattern.optional argumentPattern
  let first ← Pattern.char fun c => !Text.isAsciiBlank c
  let rest ← Pattern.restOfLine
  let argumentWidth := (argument?.map fun (name, blanks) => name.length + blanks.length).getD 0
  return {
    column := indent.length + 2 + gap.length + 2 + long.length + gap'.length + argumentWidth
    short
    long := long.text
    argument? := argument?.map fun (name, _) => name.text
    description := first :: rest
  }

end Header

inductive Role where
  | prose
  | sectionStart
  | header (h : Header)
  | default (value : Text)
  | continuation (rest : Text)
  deriving Repr, DecidableEq

inductive Line where
  | blank
  | code
  | comment (text : Text) (role : Role)
  deriving Repr, DecidableEq

inductive Scope where
  | prose
  | options (column? : Option Int)
  deriving Repr, DecidableEq

namespace Line

def isSectionStart (text : Text) : Bool :=
  "Options:".toList.isPrefixOf (text.dropWhile Text.isBlank)

def defaultValue? (text : Text) : Option Text :=
  match "Default:".toList.isPrefixOf? (text.dropWhile Text.isBlank) with
  | none => none
  | some rest =>
    let value := rest.dropWhile Text.isBlank
    if value.isEmpty || value.contains '\n' then none else some value

def afterSpaces? : (n : Nat) → Text → Option Text
  | 0, t => some t
  | n + 1, ' ' :: t => afterSpaces? n t
  | _ + 1, _ => none

/--
The rest of a text that has spaces in front of a column. A negative column counts from the end of the
text, and then there must not be anything in front of it.
-/
def continuation? (column : Int) (text : Text) : Option Text :=
  match column with
  | .ofNat n => afterSpaces? n text
  | .negSucc n => if text.length ≤ n + 1 then some text else none

/--
Take the marker and one space behind it off a comment line. A line is no comment if anything else
comes behind the marker.
-/
def stripMarker? (marker line : Text) : Option Text :=
  match marker.isPrefixOf? line with
  | some [] => some []
  | some (' ' :: rest) => some rest
  | _ => none

def roleOf (scope : Scope) (text : Text) : Role :=
  match scope with
  | .prose => if isSectionStart text then .sectionStart else .prose
  | .options column? =>
    match Header.pattern.match? text with
    | some h => .header h
    | none =>
      match defaultValue? text with
      | some value => .default value
      | none =>
        match column?.bind (continuation? · text) with
        | some rest => .continuation rest
        | none => .prose

def classify (marker : Text) (scope : Scope) (raw : Text) : Line :=
  let line := Text.trimEnd (fun c => c == '\r' || c == '\n') raw
  if Text.isAllBlank line then
    .blank
  else
    match stripMarker? marker line with
    | none => .code
    | some text => .comment text (roleOf scope text)

theorem afterSpaces?_eq_some_iff {n : Nat} {t rest : Text} :
    afterSpaces? n t = some rest ↔ t = List.replicate n ' ' ++ rest := by
  fun_induction afterSpaces? n t with
  | case1 t => simp
  | case2 n t ih => simp [ih, List.replicate_succ]
  | case3 n t h =>
    simp only [reduceCtorEq, List.replicate_succ, List.cons_append, false_iff]
    exact h _

end Line

end ScriptManual
