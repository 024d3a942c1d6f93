import ScriptManual.Text.Composition.Data
import ScriptManual.Text.Wide
import Std.Data.HashMap

/-!
This module contains the composed normal form of a text: every character is decomposed, combining
characters are put in the order of their classes, and then characters are composed again as far as
possible.
-/

namespace ScriptManual

namespace Text

namespace Composition

def readEntries (data : List String) : List (Text × Text) :=
  data.flatMap fun line => (split ' ' line.toList).map fun entry =>
    let (key, value?) := cut '=' entry
    (key, value?.getD [])

def classes : Std.HashMap Nat Nat :=
  (readEntries classData).foldl
    (fun m (range, value) =>
      let (first, last?) := cut '-' range
      let first := hexValue first
      let last := hexValue (last?.getD [])
      (List.range (last + 1 - first)).foldl (fun m i => m.insert (first + i) (decimalValue value)) m)
    ∅

def decompositions : Std.HashMap Nat Text :=
  (readEntries decompositionData).foldl
    (fun m (c, parts) =>
      m.insert (hexValue c) ((split '+' parts).map fun part => Char.ofNat (hexValue part)))
    ∅

def pairs : Std.HashMap (Nat × Nat) Char :=
  (readEntries pairData).foldl
    (fun m (pair, c) =>
      let (first, second?) := cut '+' pair
      m.insert (hexValue first, hexValue (second?.getD [])) (Char.ofNat (hexValue c)))
    ∅

def classOf (c : Char) : Nat :=
  classes.getD c.toNat 0

/--
Decompose a character. A Hangul syllable consists of two or three letters that are counted off.
-/
def decompose (c : Char) : Text :=
  let n := c.toNat
  if 0xAC00 ≤ n ∧ n < 0xAC00 + 11172 then
    let i := n - 0xAC00
    let lead := Char.ofNat (0x1100 + i / 588)
    let vowel := Char.ofNat (0x1161 + i % 588 / 28)
    if i % 28 = 0 then [lead, vowel] else [lead, vowel, Char.ofNat (0x11A7 + i % 28)]
  else
    decompositions.getD n [c]

def compose? (first second : Char) : Option Char :=
  let a := first.toNat
  let b := second.toNat
  if 0x1100 ≤ a ∧ a < 0x1113 ∧ 0x1161 ≤ b ∧ b < 0x1176 then
    some (Char.ofNat (0xAC00 + (a - 0x1100) * 588 + (b - 0x1161) * 28))
  else if 0xAC00 ≤ a ∧ a < 0xAC00 + 11172 ∧ (a - 0xAC00) % 28 = 0 ∧ 0x11A7 < b ∧ b < 0x11C3 then
    some (Char.ofNat (a + (b - 0x11A7)))
  else
    pairs[(a, b)]?

/--
Put a character in front of a text whose combining characters are in order, behind those of a lower
class.
-/
def insertOrdered (c : Char) : Text → Text
  | [] => [c]
  | d :: ds =>
    let k := classOf d
    if k = 0 ∨ classOf c ≤ k then c :: d :: ds else d :: insertOrdered c ds

/--
Put the combining characters behind each character in the order of their classes. Those of one class
keep their order.
-/
def order : Text → Text
  | [] => []
  | c :: cs => if classOf c = 0 then c :: order cs else insertOrdered c (order cs)

/--
Compose `base` with the characters behind it. The characters in `kept`, newest first, stand between
and do not compose, and `last` is the class of the newest one.
-/
def composeFrom (base : Char) (kept : Text) (last : Nat) : Text → Text
  | [] => base :: kept.reverse
  | c :: cs =>
    let k := classOf c
    let composed? := if last = 0 ∨ last < k then compose? base c else none
    match composed? with
    | some composed => composeFrom composed kept last cs
    | none =>
      if k = 0 then
        base :: kept.reverse ++ composeFrom c [] 0 cs
      else
        composeFrom base (c :: kept) (max last k) cs

end Composition

/--
Turn a text into its composed normal form. Below the first combining character nothing changes.
-/
def toComposed (t : Text) : Text :=
  if t.all fun c => c.toNat < 0x300 then
    t
  else
    match Composition.order (t.flatMap Composition.decompose) with
    | [] => []
    | c :: cs => Composition.composeFrom c [] 0 cs

end Text

namespace WideText

/--
Turn a text into its composed normal form, given the characters in front of it since the last
surrogate, newest first. A surrogate that stands alone does not combine.
-/
def composeFrom (kept : Text) : WideText → WideText
  | [] => ofText (Text.toComposed kept.reverse)
  | .char c :: w => composeFrom (c :: kept) w
  | .surrogate offset :: w =>
    ofText (Text.toComposed kept.reverse) ++ .surrogate offset :: composeFrom [] w

def toComposed (w : WideText) : WideText :=
  composeFrom [] w

end WideText

end ScriptManual
