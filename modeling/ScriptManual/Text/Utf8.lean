import ScriptManual.Text.Basic

/-!
This module contains the UTF-8 form of a text. Reading it stops at the first byte that cannot go on
with the character it is in, and tells where that character starts.
-/

namespace ScriptManual

namespace Text

namespace Utf8

inductive Reason where
  | invalidStart
  | invalidContinuation
  | unexpectedEnd
  deriving Repr, DecidableEq

structure Fault where
  position : Nat
  length : Nat
  byte : UInt8
  reason : Reason
  deriving Repr, DecidableEq

/--
What the first byte of a character says: the number of bytes that follow, the bounds of the next one
and the bits of the character in this one.
-/
structure Lead where
  following : Nat
  least : UInt8
  greatest : UInt8
  bits : Nat

/--
Read the first byte of a character. The bounds of the second byte leave out characters that have a
shorter form, surrogates and numbers that are no characters.
-/
def lead? (b : UInt8) : Option Lead :=
  if b < 0x80 then some ⟨0, 0x80, 0xBF, b.toNat⟩
  else if b < 0xC2 then none
  else if b < 0xE0 then some ⟨1, 0x80, 0xBF, b.toNat - 0xC0⟩
  else if b < 0xF0 then
    some ⟨2, if b = 0xE0 then 0xA0 else 0x80, if b = 0xED then 0x9F else 0xBF, b.toNat - 0xE0⟩
  else if b < 0xF5 then
    some ⟨3, if b = 0xF0 then 0x90 else 0x80, if b = 0xF4 then 0x8F else 0xBF, b.toNat - 0xF0⟩
  else none

/--
Read the `following` bytes of a character after the `done` ones that have been read. The error is the
number of bytes that belong to the fault and its reason.
-/
def readFollowing (done : Nat) (least greatest : UInt8) (bits : Nat) :
    (following : Nat) → List UInt8 → Except (Nat × Reason) Nat
  | 0, _ => .ok bits
  | _ + 1, [] => .error (done, .unexpectedEnd)
  | following + 1, b :: bs =>
    if least ≤ b ∧ b ≤ greatest then
      readFollowing (done + 1) 0x80 0xBF (bits * 64 + (b.toNat - 0x80)) following bs
    else
      .error (done, .invalidContinuation)

def decodeFrom (position : Nat) : List UInt8 → Except Fault Text
  | [] => .ok []
  | b :: bs =>
    match lead? b with
    | none => .error ⟨position, 1, b, .invalidStart⟩
    | some lead =>
      match readFollowing 1 lead.least lead.greatest lead.bits lead.following bs with
      | .error (length, reason) => .error ⟨position, length, b, reason⟩
      | .ok n => do
        let rest ← decodeFrom (position + 1 + lead.following) (bs.drop lead.following)
        return Char.ofNat n :: rest
termination_by bs => bs.length
decreasing_by
  simp only [List.length_cons, List.length_drop]; omega

def decode (bytes : List UInt8) : Except Fault Text :=
  decodeFrom 0 bytes

def encode (t : Text) : List UInt8 :=
  t.flatMap String.utf8EncodeChar

def Reason.message : Reason → Text
  | .invalidStart => "invalid start byte".toList
  | .invalidContinuation => "invalid continuation byte".toList
  | .unexpectedEnd => "unexpected end of data".toList

def Fault.message (f : Fault) : Text :=
  let place :=
    if f.length = 1 then
      " byte 0x".toList ++ hex 2 f.byte.toNat ++ " in position ".toList ++ ofNat f.position
    else
      " bytes in position ".toList ++ ofNat f.position ++ '-' :: ofNat (f.position + f.length - 1)
  "'utf-8' codec can't decode".toList ++ place ++ ": ".toList ++ f.reason.message

end Utf8

end Text

end ScriptManual
