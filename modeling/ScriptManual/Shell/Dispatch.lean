import ScriptManual.Arguments.Parse

/-!
This module contains the loop of a generated script that dispatches the flags of its token vector,
first as commands and then as text.
-/

namespace ScriptManual

namespace Shell

def tableName : Text := "OPTIONS".toList

def assignment (key value : Text) : Text :=
  tableName ++ '[' :: key ++ ']' :: '=' :: value

inductive Command where
  | assignOn (key : Text)
  | assignNext (key : Text)
  | shift
  | shiftTwo
  | leave
  | print (delimiter text : Text)
  | exit (status : Nat)
  deriving Repr, DecidableEq

structure Arm where
  patterns : List Text
  commands : List Command
  deriving Repr, DecidableEq

structure Loop where
  arms : List Arm
  otherwise : List Command
  deriving Repr, DecidableEq

namespace Loop

/--
The delimiter of a text to print: `candidate` with as many underscores behind it as it takes for it
to be none of the lines.
-/
def freshDelimiter (lines : List Text) (candidate : Text) : Text :=
  if h : candidate ∈ lines then
    have := List.length_pos_of_mem h
    have := List.length_erase_of_mem h
    freshDelimiter (lines.erase candidate) (candidate ++ ['_'])
  else
    candidate
termination_by lines.length
decreasing_by omega

def helpDelimiter (help : Text) : Text :=
  freshDelimiter (Text.split '\n' help) "__OPTDOC_HELP__".toList

def printedHelp (help : Text) : Text :=
  if help.isEmpty || help.getLast? == some '\n' then help else help ++ ['\n']

def commandsFor (help : Text) (o : OptionSpec) : List Command :=
  let key := Table.key o.short Field.value.name
  if o.short = Arguments.helpShort then
    [.print (helpDelimiter help) (printedHelp help), .exit 0]
  else if o.isSwitch then
    [.assignOn key, .shift]
  else
    [.assignNext key, .shiftTwo]

def armFor (help : Text) (o : OptionSpec) : Arm :=
  ⟨['-' :: o.short, '-' :: '-' :: o.long], commandsFor help o⟩

def ofManual (m : Manual) : Loop where
  arms := m.options.map (armFor m.help) ++ [⟨[Arguments.endOfOptions], [.shift, .leave]⟩]
  otherwise := [.exit 1]

end Loop

def indent (levels : Nat) : Text := List.replicate (4 * levels) ' '

def Command.write : Command → List Text
  | .assignOn key => [indent 3 ++ assignment key Table.switchOn]
  | .assignNext key => [indent 3 ++ assignment key "\"$2\"".toList]
  | .shift => [indent 3 ++ "shift".toList]
  | .shiftTwo => [indent 3 ++ "shift 2".toList]
  | .leave => [indent 3 ++ "break".toList]
  | .print delimiter text =>
    [indent 3 ++ "cat <<'".toList ++ delimiter ++ ['\''], text ++ delimiter]
  | .exit status => [indent 3 ++ "exit ".toList ++ Text.ofNat status]

def Arm.write (a : Arm) : List Text :=
  (indent 2 ++ Text.join ['|'] a.patterns ++ [')']) :: a.commands.flatMap Command.write
    ++ [indent 3 ++ ";;".toList]

def Loop.write (l : Loop) : Text :=
  Text.join ['\n'] <|
    ["while [ $# -gt 0 ]; do".toList, indent 1 ++ "case \"$1\" in".toList]
      ++ l.arms.flatMap Arm.write ++ Arm.write ⟨[['*']], l.otherwise⟩
      ++ [indent 1 ++ "esac".toList, "done".toList]

end Shell

end ScriptManual
