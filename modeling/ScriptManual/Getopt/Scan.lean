import ScriptManual.Getopt.Lists

/-!
This module contains the way from an argument vector to the flags in it, each with its argument, and
the positional arguments.
-/

namespace ScriptManual

namespace Getopt

inductive Error where
  | unknownShort (name : Char)
  | unknownLong (name : Text)
  | ambiguousLong (name : Text)
  | shortNeedsArgument (name : Char)
  | longNeedsArgument (name : Text)
  | longTakesNoArgument (name : Text)
  deriving Repr, DecidableEq

def Error.message : Error → Text
  | .unknownShort name => "option -".toList ++ name :: " not recognized".toList
  | .unknownLong name => "option --".toList ++ name ++ " not recognized".toList
  | .ambiguousLong name => "option --".toList ++ name ++ " not a unique prefix".toList
  | .shortNeedsArgument name => "option -".toList ++ name :: " requires argument".toList
  | .longNeedsArgument name => "option --".toList ++ name ++ " requires argument".toList
  | .longTakesNoArgument name => "option --".toList ++ name ++ " must not have an argument".toList

structure Interface where
  shorts : Text
  longs : List LongName
  optionsFirst : Bool
  deriving Repr

/--
Read the lists of short and long names. A plus sign in front of the short names says that options
only stand in front of the positional arguments.
-/
def Interface.ofLists (shorts longs : Text) : Interface :=
  match shorts with
  | '+' :: shorts => ⟨shorts, longNames longs, true⟩
  | shorts => ⟨shorts, longNames longs, false⟩

def Interface.ofOptions (options : List OptionSpec) : Interface :=
  .ofLists (shortList options) (longList options)

structure Occurrence where
  flag : Text
  argument : Text
  deriving Repr, DecidableEq

structure Scanned where
  occurrences : List Occurrence
  positionals : List Text
  deriving Repr, DecidableEq

def Scanned.prepend (occurrences : List Occurrence) (s : Scanned) : Scanned :=
  { s with occurrences := occurrences ++ s.occurrences }

inductive Step where
  | flags (occurrences : List Occurrence)
  | pending (occurrences : List Occurrence) (flag : Text) (error : Error)
  | positional
  | finish
  deriving Repr

/--
Find the long name that `name` stands for: the name itself, or the only one that starts with it.
-/
def resolveLong (longs : List LongName) (name : Text) : Except Error LongName :=
  let candidates := longs.filter fun l => name.isPrefixOf l.name
  if candidates.contains ⟨name, false⟩ then
    .ok ⟨name, false⟩
  else if candidates.contains ⟨name, true⟩ then
    .ok ⟨name, true⟩
  else
    match candidates with
    | [] => .error (.unknownLong name)
    | [l] => .ok l
    | _ => .error (.ambiguousLong name)

def stepLong (longs : List LongName) (body : Text) : Except Error Step := do
  let (name, argument?) := Text.cut '=' body
  let l ← resolveLong longs name
  let flag := '-' :: '-' :: l.name
  match l.takesArgument, argument? with
  | true, some argument => return .flags [⟨flag, argument⟩]
  | true, none => return .pending [] flag (.longNeedsArgument l.name)
  | false, some _ => throw (.longTakesNoArgument l.name)
  | false, none => return .flags [⟨flag, []⟩]

/--
Read an argument without its leading hyphen as a cluster of short flags. The first one that takes an
argument takes the rest of the cluster.
-/
def stepShorts (shorts : Text) : Text → Except Error Step
  | [] => .ok (.flags [])
  | c :: cs =>
    match shortTakesArgument? c shorts with
    | none => .error (.unknownShort c)
    | some true =>
      if cs.isEmpty then
        .ok (.pending [] ['-', c] (.shortNeedsArgument c))
      else
        .ok (.flags [⟨['-', c], cs⟩])
    | some false => do
      match ← stepShorts shorts cs with
      | .flags occurrences => return .flags (⟨['-', c], []⟩ :: occurrences)
      | .pending occurrences flag error => return .pending (⟨['-', c], []⟩ :: occurrences) flag error
      | step => return step

def Interface.step (i : Interface) : Text → Except Error Step
  | ['-', '-'] => .ok .finish
  | '-' :: '-' :: body => stepLong i.longs body
  | ['-'] => .ok .positional
  | '-' :: cluster => stepShorts i.shorts cluster
  | _ => .ok .positional

def Interface.scan (i : Interface) : List Text → Except Error Scanned
  | [] => .ok ⟨[], []⟩
  | argument :: rest => do
    match ← i.step argument with
    | .finish => return ⟨[], rest⟩
    | .flags occurrences => return (← i.scan rest).prepend occurrences
    | .pending occurrences flag error =>
      match rest with
      | [] => throw error
      | next :: rest => return (← i.scan rest).prepend (occurrences ++ [⟨flag, next⟩])
    | .positional =>
      if i.optionsFirst then
        return ⟨[], argument :: rest⟩
      else
        let s ← i.scan rest
        return { s with positionals := argument :: s.positionals }

end Getopt

end ScriptManual
