import Mathlib.Data.List.SplitBy
import ScriptManual.Proofs.Arguments.Keys
import ScriptManual.Proofs.Manual.Comment
import ScriptManual.Proofs.Shell.Literal
import ScriptManual.Proofs.Shell.Printed
import ScriptManual.Shell.Script

/-!
This module contains what a generated script lists in front of its accessor: the help text and the
entries of its table. The manual that the script is generated from can be read back from there.
-/

namespace ScriptManual

namespace OptionSpec

end OptionSpec

structure Listing where
  help : Text
  entries : List (Text × Text)
  deriving Repr, DecidableEq

namespace Listing

open Shell

def help? (line : Text) : Option Text :=
  match (helpName ++ ['=']).isPrefixOf? line with
  | none => none
  | some value => Literal.readWhole? value

def entry? (line : Text) : Option (Text × Text) :=
  match (tableName ++ ['[']).isPrefixOf? line with
  | none => none
  | some rest =>
    match Text.cut ']' rest with
    | (key, some ('=' :: value)) =>
      if isPlain key then (Literal.readWhole? value).map (key, ·) else none
    | _ => none

def aboveAccessor? : List Text → Option (List Text)
  | [] => none
  | line :: lines =>
    if (Text.split '\n' accessor).isPrefixOf (line :: lines) then
      some []
    else
      (aboveAccessor? lines).map (line :: ·)

/--
Read a script up to its accessor. The second line declares the table, and every line behind it is the
assignment of an entry.
-/
def read? (script : Text) : Option Listing :=
  match Text.split '\n' script with
  | first :: second :: lines =>
    if second = Statement.declareTable.write then
      match help? first, (aboveAccessor? lines).bind (·.mapM entry?) with
      | some help, some entries => some ⟨help, entries⟩
      | _, _ => none
    else
      none
  | _ => none

def ofManual (m : Manual) : Listing := ⟨m.help, m.entries⟩

def write (l : Listing) : List Text :=
  (Statement.assignHelp l.help).write :: Statement.declareTable.write ::
    l.entries.map fun e => assignment e.1 (Literal.write e.2)

end Listing

end ScriptManual
