import ScriptManual.Text.Basic

/-!
This module contains the two notions of a line. Scripts are cut at every line break of any script,
while the generated texts only know the line feed, for which `Text.split` is enough.
-/

namespace ScriptManual

namespace Text

/--
Characters that end a line: line feed, vertical tab, form feed, carriage return, three of the
information separators, next line, and the line and paragraph separators.
-/
def isLineBreak (c : Char) : Bool :=
  let n := c.toNat
  (10 ≤ n && n ≤ 13) || (0x1C ≤ n && n ≤ 0x1E) || n == 0x85 || n == 0x2028 || n == 0x2029

/--
Cut a text into its lines, without their line breaks. A carriage return followed by a line feed is
one break, and a break at the very end does not start another line.
-/
def lines : Text → List Text
  | [] => []
  | '\r' :: '\n' :: cs => [] :: lines cs
  | c :: cs =>
    if isLineBreak c then
      [] :: lines cs
    else
      match lines cs with
      | [] => [[c]]
      | line :: rest => (c :: line) :: rest

/--
Turn the line ends of stored files into line feeds: carriage returns and their pairs with a line
feed.
-/
def unifyNewlines : Text → Text
  | [] => []
  | '\r' :: '\n' :: cs => '\n' :: unifyNewlines cs
  | '\r' :: cs => '\n' :: unifyNewlines cs
  | c :: cs => c :: unifyNewlines cs

theorem not_mem_unifyNewlines (t : Text) : '\r' ∉ unifyNewlines t := by
  fun_induction unifyNewlines t with
  | case1 => simp
  | case2 cs ih => simpa using ih
  | case3 cs _ ih => simpa using ih
  | case4 c cs _ h ih => simpa [ih] using fun hc => h hc.symm

end Text

end ScriptManual
