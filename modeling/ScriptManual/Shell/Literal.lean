import ScriptManual.Text.Basic

/-!
This module contains the literals that a shell reads as ANSI-C strings: `$'`, the escaped text and an
apostrophe.
-/

namespace ScriptManual

namespace Shell

namespace Literal

def escapeChar (c : Char) : Text :=
  if c = '\\' then ['\\', '\\']
  else if c = '\n' then ['\\', 'n']
  else if c = '\'' then ['\\', '\'']
  else [c]

def escape (t : Text) : Text :=
  t.flatMap escapeChar

def write (t : Text) : Text :=
  '$' :: '\'' :: escape t ++ ['\'']

@[simp]
theorem escape_cons (c : Char) (cs : Text) : escape (c :: cs) = escapeChar c ++ escape cs := by
  simp [escape]

@[simp]
theorem escape_append (s t : Text) : escape (s ++ t) = escape s ++ escape t := by
  simp [escape]

end Literal

end Shell

end ScriptManual
