import ScriptManual.Manual.Basic
import ScriptManual.Manual.Line

/-!
This module contains the way from the lines of a script to its manual. The manual is written in the
first run of comments, which ends at the first blank line behind it.
-/

namespace ScriptManual

inductive ExtractError where
  | missingSection (helpLines : List Text)
  | duplicateShort (short : Char)
  deriving Repr, DecidableEq

def ExtractError.message : ExtractError → Text
  | .missingSection _ => "No 'Options:' section found in the leading comment block.".toList
  | .duplicateShort short =>
    "Short option '-".toList ++ short :: "' is declared more than once.".toList

structure Extraction where
  helpLines : List Text
  options : List OptionSpec
  deriving Repr, DecidableEq

def Extraction.manual (x : Extraction) : Manual :=
  ⟨Text.unlines x.helpLines, x.options, true⟩

/--
An option together with the column that its description continues at.
-/
structure Entry where
  spec : OptionSpec
  column : Nat

namespace Entry

def ofHeader (h : Header) : Entry :=
  ⟨⟨[h.short], h.long, h.argument?, h.description, none⟩, h.column⟩

def setValue (value : Text) (e : Entry) : Entry :=
  { e with spec.value? := some value }

def addLine (line : Text) (e : Entry) : Entry :=
  { e with spec.description := e.spec.description ++ '\n' :: line }

end Entry

structure Reading where
  helpLines : List Text
  entries? : Option (List Entry)

namespace Reading

def empty : Reading := ⟨[], none⟩

def scope (r : Reading) : Scope :=
  match r.entries? with
  | none => .prose
  | some entries => .options (entries.head?.map fun e => (e.column : Int))

def modifyLast (f : Entry → Entry) (r : Reading) : Reading :=
  { r with entries? := r.entries?.map fun entries => entries.modifyHead f }

def addComment (text : Text) (role : Role) (r : Reading) : Except ExtractError Reading :=
  let r := { r with helpLines := text :: r.helpLines }
  match role with
  | .prose => .ok r
  | .sectionStart => .ok { r with entries? := some [] }
  | .header h =>
    let entries := r.entries?.getD []
    if entries.any fun e => e.spec.short == [h.short] then
      .error (.duplicateShort h.short)
    else
      .ok { r with entries? := some (.ofHeader h :: entries) }
  | .default value => .ok (r.modifyLast (Entry.setValue value))
  | .continuation rest => .ok (r.modifyLast (Entry.addLine rest))

def finish (r : Reading) : Except ExtractError Extraction :=
  match r.entries? with
  | none => .error (.missingSection r.helpLines.reverse)
  | some entries => .ok ⟨r.helpLines.reverse, (entries.map Entry.spec).reverse⟩

end Reading

def extract (marker : Text) (lines : List Text) : Except ExtractError Extraction :=
  go .empty lines
where
  go (r : Reading) : List Text → Except ExtractError Extraction
    | [] => r.finish
    | line :: lines =>
      match Line.classify marker r.scope line with
      | .blank => if r.helpLines.isEmpty then go r lines else r.finish
      | .code => go r lines
      | .comment text role => do go (← r.addComment text role) lines

end ScriptManual
