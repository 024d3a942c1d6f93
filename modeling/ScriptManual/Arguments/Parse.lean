import ScriptManual.Arguments.Table
import ScriptManual.Getopt.Scan

/-!
This module contains what a script does with its arguments. They are first put into a normal form,
the token vector, which has the flags in front, each with its argument, then `--` and the positional
arguments. The flags are then dispatched one after the other.
-/

namespace ScriptManual

namespace Arguments

def endOfOptions : Text := ['-', '-']

def helpShort : Text := ['h']

def lookup? (m : Manual) : Text → Option OptionSpec
  | '-' :: '-' :: long => m.findLong? long
  | ['-', c] => m.find? [c]
  | _ => none

def takesArgument (m : Manual) (token : Text) : Bool :=
  (lookup? m token).any fun o => !o.isSwitch

def occurrenceTokens (m : Manual) (o : Getopt.Occurrence) : List Text :=
  if takesArgument m o.flag then [o.flag, o.argument] else [o.flag]

def tokenize (m : Manual) (argv : List Text) : Except Getopt.Error (List Text) := do
  let s ← (Getopt.Interface.ofOptions m.options).scan argv
  return s.occurrences.flatMap (occurrenceTokens m) ++ endOfOptions :: s.positionals

inductive Error where
  | refused (cause : Getopt.Error)
  | unexpectedToken (token : Text)
  | missingArgument (token : Text)
  deriving Repr, DecidableEq

def Error.message : Error → Text
  | .refused cause => cause.message
  | .unexpectedToken token => "Unexpected token after tokenizing: '".toList ++ token ++ "'.".toList
  | .missingArgument _ => "list index out of range".toList

structure Parsed where
  table : Table
  positionals : List Text
  helpRequested : Bool
  deriving Repr, DecidableEq

def dispatch (m : Manual) (t : Table) : List Text → Except Error Parsed
  | [] => .ok ⟨t, [], false⟩
  | token :: tokens =>
    if token = endOfOptions then
      .ok ⟨t, tokens, false⟩
    else
      match lookup? m token with
      | none => .error (.unexpectedToken token)
      | some o =>
        let key := Table.key o.short Field.value.name
        if o.short = helpShort then
          .ok ⟨t, [], true⟩
        else if o.isSwitch then
          dispatch m (t.insert key Table.switchOn) tokens
        else
          match tokens with
          | [] => .error (.missingArgument token)
          | argument :: tokens => dispatch m (t.insert key argument) tokens

def parse (m : Manual) (argv : List Text) : Except Error Parsed := do
  let tokens ← (tokenize m argv).mapError .refused
  dispatch m (.ofManual m) tokens

end Arguments

end ScriptManual
