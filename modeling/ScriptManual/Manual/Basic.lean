import ScriptManual.Text.Basic

/-!
This module contains the manual of a script: its help text and the options that it declares.
-/

namespace ScriptManual

inductive Field where
  | short
  | long
  | argument
  | description
  | value
  deriving Repr, DecidableEq

namespace Field

def name : Field → Text
  | .short => "short".toList
  | .long => "long".toList
  | .argument => "argument".toList
  | .description => "description".toList
  | .value => "value".toList

def all : List Field := [.short, .long, .argument, .description, .value]

theorem mem_all (f : Field) : f ∈ all := by
  cases f <;> decide

theorem name_inj {f g : Field} : f.name = g.name ↔ f = g := by
  cases f <;> cases g <;> decide

end Field

structure OptionSpec where
  short : Text
  long : Text
  argument? : Option Text
  description : Text
  value? : Option Text
  deriving Repr, DecidableEq

namespace OptionSpec

def isSwitch (o : OptionSpec) : Bool :=
  o.argument?.isNone

def field? (o : OptionSpec) : Field → Option Text
  | .short => some o.short
  | .long => some o.long
  | .argument => o.argument?
  | .description => some o.description
  | .value => o.value?

def populated (o : OptionSpec) : List (Field × Text) :=
  Field.all.filterMap fun f => (o.field? f).map fun t => (f, t)

theorem mem_populated {o : OptionSpec} {f : Field} {t : Text} :
    (f, t) ∈ o.populated ↔ o.field? f = some t := by
  simp [populated, Field.mem_all]

end OptionSpec

structure Manual where
  help : Text
  options : List OptionSpec
  hasSection : Bool
  deriving Repr, DecidableEq

namespace Manual

def helpOnly (help : Text) : Manual := ⟨help, [], false⟩

def find? (m : Manual) (short : Text) : Option OptionSpec :=
  m.options.find? (·.short == short)

def findLong? (m : Manual) (long : Text) : Option OptionSpec :=
  m.options.find? (·.long == long)

end Manual

end ScriptManual
