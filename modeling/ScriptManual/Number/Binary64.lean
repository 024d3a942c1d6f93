import ScriptManual.Text.Basic

/-!
This module contains the binary floating point numbers of 64 bits, as exact integers scaled by a
power of two, and the correctly rounded way from a decimal number to the nearest of them.
-/

namespace ScriptManual

/--
A binary64 number without the payload of its NaNs. The finite number with mantissa `mant` and
exponent `exp` is `mant * 2 ^ exp`. Its mantissa lies below `2 ^ 53`, and at or above `2 ^ 52`
unless the exponent is the least one, `-1074`.
-/
inductive Binary64 where
  | nan
  | infinite (negative : Bool)
  | finite (negative : Bool) (mant : Nat) (exp : Int)
  deriving Repr, DecidableEq

namespace Binary64

def pow2 (k : Nat) : Nat := 1 <<< k

def pow10 (k : Nat) : Nat := Nat.pow 10 k

/--
The quotient of two natural numbers rounded to the nearest natural number, from halfway to the even
one.
-/
def roundDiv (num den : Nat) : Nat :=
  let quotient := num / den
  let rest := num % den
  if den < 2 * rest || (den == 2 * rest && quotient % 2 == 1) then quotient + 1 else quotient

def ofRatio (negative : Bool) (num den : Nat) : Binary64 :=
  if num = 0 then
    .finite negative 0 (-1074)
  else
    -- The quotient lies strictly between `2 ^ (guess + 52)` and `2 ^ (guess + 54)`.
    let guess : Int := (num.log2 : Int) - den.log2 - 53
    let scaledBy (exp : Int) : Nat × Nat := (num * pow2 (-exp).toNat, den * pow2 exp.toNat)
    let (n, d) := scaledBy guess
    let exp := max (-1074) (if pow2 53 ≤ n / d then guess + 1 else guess)
    let (n, d) := scaledBy exp
    let mant := roundDiv n d
    let (mant, exp) := if mant = pow2 53 then (pow2 52, exp + 1) else (mant, exp)
    if 971 < exp then .infinite negative else .finite negative mant exp

/--
The number nearest to `digits * 10 ^ exp`. Powers far outside the range are not computed.
-/
def ofDecimal (negative : Bool) (digits : Nat) (exp : Int) : Binary64 :=
  let magnitude : Int := (Nat.toDigits 10 digits).length + exp
  if digits = 0 || magnitude < -330 then
    .finite negative 0 (-1074)
  else if 310 < magnitude then
    .infinite negative
  else
    ofRatio negative (digits * pow10 exp.toNat) (pow10 (-exp).toNat)

end Binary64

end ScriptManual
