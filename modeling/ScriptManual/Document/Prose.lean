import ScriptManual.Manual.Line
import ScriptManual.Manual.Basic
import ScriptManual.Text.Lines

/-!
This module contains the parts of a manual that its documents are made of: the prose in front of the
section that declares the options, and the cells of the option table.
-/

namespace ScriptManual

namespace Document

/--
The lines of the help text in front of the section that declares the options, without blank lines at
the end.
-/
def proseLines (m : Manual) : List Text :=
  let lines := Text.lines m.help
  let lines := if m.hasSection then lines.takeWhile fun l => !Line.isSectionStart l else lines
  (lines.reverse.dropWhile Text.isAllBlank).reverse

def prose (m : Manual) : Text :=
  Text.join ['\n'] (proseLines m)

def columns : List Text :=
  ["Short", "Long", "Argument", "Default", "Description"].map String.toList

def row (o : OptionSpec) : List Text :=
  ['-' :: o.short, '-' :: '-' :: o.long, o.argument?.getD [], o.value?.getD [], o.description]

end Document

end ScriptManual
