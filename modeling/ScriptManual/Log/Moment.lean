import ScriptManual.Text.Basic

/-!
This module contains the written form of a moment in a log.
-/

namespace ScriptManual

namespace Log

structure Moment where
  year : Nat
  month : Nat
  day : Nat
  hour : Nat
  minute : Nat
  second : Nat
  microsecond : Nat
  offset : Int
  deriving Repr, DecidableEq

namespace Moment

def digits (width : Nat) (n : Nat) : Text :=
  List.leftpad width '0' (Text.ofNat n)

def clockText (m : Moment) : Text :=
  Text.join ['-'] [digits 4 m.year, digits 2 m.month, digits 2 m.day] ++
    'T' :: Text.join [':'] [digits 2 m.hour, digits 2 m.minute, digits 2 m.second] ++
      if m.microsecond = 0 then [] else '.' :: digits 6 m.microsecond

def offsetText (offset : Int) : Text :=
  let n := offset.natAbs
  let parts := [digits 2 (n / 3600), digits 2 (n / 60 % 60)]
  let parts := if n % 60 = 0 then parts else parts ++ [digits 2 (n % 60)]
  (if offset < 0 then '-' else '+') :: Text.join [':'] parts

def localText (m : Moment) : Text :=
  clockText m ++ offsetText m.offset

def utcText (m : Moment) : Text :=
  clockText m ++ ['Z']

end Moment

end Log

end ScriptManual
