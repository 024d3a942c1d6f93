import ScriptManual.Text.Wide

/-!
This module contains the two classes of blank characters. A line is empty if it holds nothing but
blanks of the wide class, which covers every script's spaces and separators. Option headers are
written in ASCII and only look at the narrow class.
-/

namespace ScriptManual

namespace Text

def isAsciiBlank (c : Char) : Bool :=
  c == ' ' || (9 ≤ c.toNat && c.toNat ≤ 13)

/--
Blank characters of any script: white space, the four information separators, and the line and
paragraph separators.
-/
def isBlank (c : Char) : Bool :=
  let n := c.toNat
  n == 0x20 || (9 ≤ n && n ≤ 13) || (0x1C ≤ n && n ≤ 0x1F) || n == 0x85 || n == 0xA0 || n == 0x1680
    || (0x2000 ≤ n && n ≤ 0x200A) || n == 0x2028 || n == 0x2029 || n == 0x202F || n == 0x205F
    || n == 0x3000

def isAllBlank (t : Text) : Bool :=
  t.all isBlank

end Text

def CodePoint.isBlank (p : CodePoint) : Bool :=
  p.toChar?.any Text.isBlank

def WideText.isAllBlank (w : WideText) : Bool :=
  w.all CodePoint.isBlank

end ScriptManual
