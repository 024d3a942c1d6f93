import ScriptManual.Path.Basic
import ScriptManual.Text.Quoted

/-!
This module contains the ways in which an operation on files fails.
-/

namespace ScriptManual

inductive OsError.Kind where
  | notFound
  | exists
  | notDirectory
  | isDirectory
  | nameTooLong
  | linkLoop
  | unresolvable (e : Path.Unresolvable)
  | notEncodable (fault : WideText.EncodeFault)
  | tooDeep
  | other (number : Nat) (description : Text)
  deriving Repr, DecidableEq

def OsError.Kind.number? : OsError.Kind → Option Nat
  | .notFound => some 2
  | .exists => some 17
  | .notDirectory => some 20
  | .isDirectory => some 21
  | .nameTooLong => some 36
  | .linkLoop => some 40
  | .unresolvable _ | .notEncodable _ | .tooDeep => none
  | .other number _ => some number

def OsError.Kind.description : OsError.Kind → Text
  | .notFound => "No such file or directory".toList
  | .exists => "File exists".toList
  | .notDirectory => "Not a directory".toList
  | .isDirectory => "Is a directory".toList
  | .nameTooLong => "File name too long".toList
  | .linkLoop => "Too many levels of symbolic links".toList
  | .unresolvable e => e.message
  | .notEncodable fault => fault.message
  | .tooDeep => "maximum recursion depth exceeded while calling a Python object".toList
  | .other _ description => description

def OsError.Kind.ofNumber (number : Nat) (description : Text) : OsError.Kind :=
  let known : List OsError.Kind :=
    [.notFound, .exists, .notDirectory, .isDirectory, .nameTooLong, .linkLoop]
  (known.find? fun kind => kind.number? == some number).getD (.other number description)

structure OsError where
  kind : OsError.Kind
  path : Path
  deriving Repr, DecidableEq

def OsError.isFromSystem (e : OsError) : Bool :=
  e.kind.number?.isSome

def OsError.message (e : OsError) : Text :=
  match e.kind.number? with
  | some number =>
    "[Errno ".toList ++ Text.ofNat number ++ "] ".toList ++ e.kind.description ++ ": ".toList
      ++ e.path.toText.quoted
  | none => e.kind.description

end ScriptManual
