import ScriptManual.Text.Basic

/-!
This module contains texts in which surrogates can stand alone. A string of a JSON text can name half
of a surrogate pair, which is no character. Such a string is still a string, but it is in no file. A
surrogate also stands for each byte that is no text in what the system says: the names of files, the
arguments of the program and its environment.
-/

namespace ScriptManual

/--
A character, or a surrogate that stands alone, which is told by its distance from the first one.
-/
inductive CodePoint where
  | char (c : Char)
  | surrogate (offset : Fin 0x800)
  deriving Repr, DecidableEq

namespace CodePoint

def number : CodePoint → Nat
  | .char c => c.toNat
  | .surrogate offset => 0xD800 + offset

def toChar? : CodePoint → Option Char
  | .char c => some c
  | .surrogate _ => none

def isSurrogate : CodePoint → Bool
  | .char _ => false
  | .surrogate _ => true

def isNameable : CodePoint → Bool
  | .char _ => true
  | .surrogate offset => 0x480 ≤ offset.val && offset.val < 0x500

def escapeSurrogate (offset : Fin 0x800) : Text :=
  '\\' :: 'u' :: Text.hex 4 (surrogate offset).number

end CodePoint

abbrev WideText := List CodePoint

namespace WideText

def ofText (t : Text) : WideText :=
  t.map .char

instance : Coe Text WideText := ⟨ofText⟩

def toText? (w : WideText) : Option Text :=
  w.mapM CodePoint.toChar?

def replaceChar (c : Char) (r : Text) (w : WideText) : WideText :=
  w.flatMap fun p => if p = .char c then ofText r else [p]

def shown (w : WideText) : Text :=
  w.flatMap fun
    | .char c => [c]
    | .surrogate offset => CodePoint.escapeSurrogate offset

def isNameable (w : WideText) : Bool :=
  w.all CodePoint.isNameable

def byteCount (w : WideText) : Nat :=
  w.foldl (fun n p =>
    match p with
    | .char c => n + c.utf8Size
    | .surrogate _ => n + 1) 0

structure EncodeFault where
  first : Fin 0x800
  length : Nat
  position : Nat
  deriving Repr, DecidableEq

/--
The first surrogate that cannot be written as bytes, with those right behind it. The text starts at a
position, and `allowed` tells which surrogates can be written.
-/
def encodeFault? (allowed : CodePoint → Bool) (position : Nat) : WideText → Option EncodeFault
  | [] => none
  | .char _ :: w => encodeFault? allowed (position + 1) w
  | .surrogate offset :: w =>
    if allowed (.surrogate offset) then
      encodeFault? allowed (position + 1) w
    else
      some ⟨offset, (w.takeWhile CodePoint.isSurrogate).length + 1, position⟩

def textFault? (w : WideText) : Option EncodeFault :=
  w.encodeFault? (fun _ => false) 0

def toText (w : WideText) : Except EncodeFault Text :=
  match w.textFault? with
  | some fault => .error fault
  | none => .ok (w.filterMap CodePoint.toChar?)

def nameFault? (w : WideText) : Option EncodeFault :=
  w.encodeFault? CodePoint.isNameable 0

def EncodeFault.message (f : EncodeFault) : Text :=
  let place :=
    if f.length = 1 then
      " character '".toList ++ CodePoint.escapeSurrogate f.first ++ "' in position ".toList
        ++ Text.ofNat f.position
    else
      " characters in position ".toList ++ Text.ofNat f.position ++ '-' ::
        Text.ofNat (f.position + f.length - 1)
  "'utf-8' codec can't encode".toList ++ place ++ ": surrogates not allowed".toList

def le : WideText → WideText → Bool
  | [], _ => true
  | _ :: _, [] => false
  | a :: as, b :: bs => if a = b then le as bs else a.number < b.number

@[simp]
theorem ofText_nil : ofText [] = [] := rfl

@[simp]
theorem ofText_cons (c : Char) (t : Text) : ofText (c :: t) = .char c :: ofText t := rfl

end WideText

end ScriptManual
