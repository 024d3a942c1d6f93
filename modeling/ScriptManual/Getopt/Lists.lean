import ScriptManual.Manual.Basic

/-!
This module contains the two lists that tell `getopt` which options there are: the short names one
after the other, and the long names with commas in between. The name of an option that takes an
argument has a colon behind it in both.
-/

namespace ScriptManual

namespace Getopt

def mark (o : OptionSpec) : Text :=
  if o.isSwitch then [] else [':']

def shortList (options : List OptionSpec) : Text :=
  options.flatMap fun o => o.short ++ mark o

def longList (options : List OptionSpec) : Text :=
  Text.join [','] (options.map fun o => o.long ++ mark o)

/--
Look up a short name in a list of short names: whether it takes an argument, if it is there. A colon
is never a name.
-/
def shortTakesArgument? (name : Char) : Text → Option Bool
  | [] => none
  | c :: cs =>
    if c = name ∧ c ≠ ':' then
      some (cs.head? == some ':')
    else
      shortTakesArgument? name cs

structure LongName where
  name : Text
  takesArgument : Bool
  deriving Repr, DecidableEq

/--
Read one entry of a list of long names. A colon or an equals sign at the end says that the option
takes an argument.
-/
def LongName.ofEntry (entry : Text) : LongName :=
  match entry.reverse with
  | [] => ⟨[], false⟩
  | c :: name => if c = ':' ∨ c = '=' then ⟨name.reverse, true⟩ else ⟨entry, false⟩

def longNames (list : Text) : List LongName :=
  ((Text.split ',' list).filter fun entry => !entry.isEmpty).map LongName.ofEntry

end Getopt

end ScriptManual
