import ScriptManual.Number.Binary64

/-!
This module contains the text of a binary64 number: the fewest decimal digits that read back as the
number, laid out positionally while that stays short and with an exponent otherwise.
-/

namespace ScriptManual

namespace Binary64

def compareScaled (a : Nat) (p : Int) (b : Nat) (q : Int) : Ordering :=
  compare (a * pow10 p.toNat * pow2 (-q).toNat) (b * pow2 q.toNat * pow10 (-p).toNat)

/--
The ends of the interval of numbers that round to `mant * 2 ^ exp`, in units of `2 ^ (exp - 2)`. It
reaches halfway to both neighbours, and the neighbour below a power of two is nearer.
-/
def roundingInterval (mant : Nat) (exp : Int) : Nat × Nat :=
  (4 * mant - (if mant = pow2 52 && -1074 < exp then 1 else 2), 4 * mant + 2)

/--
Whether the decimal `digits * 10 ^ p` reads back as `mant * 2 ^ exp`. The ends of the interval do so
if the mantissa is even.
-/
def readsBack (mant : Nat) (exp : Int) (digits : Nat) (p : Int) : Bool :=
  let (low, high) := roundingInterval mant exp
  let closed := mant % 2 == 0
  let toLow := compareScaled digits p low (exp - 2)
  let toHigh := compareScaled digits p high (exp - 2)
  (toLow == .gt || (closed && toLow == .eq)) && (toHigh == .lt || (closed && toHigh == .eq))

/--
The multiple of `10 ^ p` nearest to `mant * 2 ^ exp` among those that read back, as its factor. Of
two equally near ones it is the even one.
-/
def nearestOnGrid? (mant : Nat) (exp p : Int) : Option Nat :=
  let num := mant * pow2 exp.toNat * pow10 (-p).toNat
  let den := pow2 (-exp).toNat * pow10 p.toNat
  let below := num / den
  match readsBack mant exp below p && below != 0, readsBack mant exp (below + 1) p with
  | true, true => some (roundDiv num den)
  | true, false => some below
  | false, true => some (below + 1)
  | false, false => none

def magnitude (mant : Nat) (exp : Int) : Int :=
  let guess := Int.fdiv ((mant.log2 + exp) * 30103) 100000
  let candidates := [guess - 1, guess, guess + 1]
  (candidates.find? fun k => compareScaled 1 k mant exp == .gt).getD (guess + 2)

/--
The fewest digits that read back as `mant * 2 ^ exp`, together with the exponent of ten that they
are scaled by. Seventeen digits always suffice.
-/
def shortestDigits (mant : Nat) (exp : Int) : Nat × Int :=
  let k := magnitude mant exp
  let found? := (List.range 17).findSome? fun (i : Nat) =>
    let p := k - 1 - i
    (nearestOnGrid? mant exp p).map fun digits => (digits, p)
  found?.getD (mant * pow2 exp.toNat * pow10 17, k - 17)

structure Layout where
  /-- The least number of digits in front of the point for which no exponent is written. It counts
  the zeros right after the point as negative. -/
  leastPoint : Int
  greatestPoint : Int
  exponentWidth : Nat

/--
Numbers are written positionally from `0.0001` to below `10 ^ 16`, always with a point, and
otherwise with a signed exponent of at least two digits.
-/
def layout : Layout := ⟨-3, 16, 2⟩

def Layout.write (l : Layout) (digits : Text) (point : Int) : Text :=
  if l.leastPoint ≤ point && point ≤ l.greatestPoint then
    if point ≤ 0 then
      '0' :: '.' :: List.replicate (-point).toNat '0' ++ digits
    else
      let whole := digits.take point.toNat
      let fraction := digits.drop point.toNat
      whole ++ List.replicate (point.toNat - digits.length) '0'
        ++ '.' :: (if fraction.isEmpty then ['0'] else fraction)
  else
    let fraction := digits.drop 1
    let exponent := point - 1
    let exponentDigits := Text.ofNat exponent.natAbs
    digits.take 1 ++ (if fraction.isEmpty then [] else '.' :: fraction)
      ++ 'e' :: (if exponent < 0 then '-' else '+')
      :: List.replicate (l.exponentWidth - exponentDigits.length) '0' ++ exponentDigits

def toText : Binary64 → Text
  | .nan => "nan".toList
  | .infinite negative => (if negative then "-inf" else "inf").toList
  | .finite negative mant exp =>
    let unsigned :=
      if mant = 0 then
        "0.0".toList
      else
        let (n, p) := shortestDigits mant exp
        let digits := Text.ofNat n
        layout.write (Text.trimEnd (· == '0') digits) (digits.length + p)
    if negative then '-' :: unsigned else unsigned

end Binary64

end ScriptManual
