import ScriptManual.Settings.Basic
import ScriptManual.Text.DecimalDigit
import ScriptManual.Text.Quoted

/-!
This module contains the command line of the program. Its arguments are first told apart one by one,
and then taken from left to right.
-/

namespace ScriptManual

namespace Cli

inductive Flag where
  | help
  | format
  | output
  | config
  | allowMissing
  | marker
  | title
  | logFile
  deriving Repr, DecidableEq

def spellings : List (WideText × Flag) :=
  [("-h".toList, .help), ("--help".toList, .help), ("--format".toList, .format),
    ("--output".toList, .output), ("--config".toList, .config),
    ("--allow-missing-options".toList, .allowMissing), ("--comment-marker".toList, .marker),
    ("--title".toList, .title), ("--log-file".toList, .logFile)]

def Flag.name (f : Flag) : WideText :=
  Text.join [.char '/'] ((spellings.filter fun (_, g) => g == f).map Prod.fst)

inductive UsageError where
  | ambiguous (argument : WideText) (candidates : List WideText)
  | unusedValue (flag : Flag) (value : WideText)
  | missingValue (flag : Flag)
  | unknownFormat (value : WideText)
  | missingScript
  | leftOver (arguments : List WideText)
  deriving Repr, DecidableEq

def UsageError.message : UsageError → WideText
  | .ambiguous argument candidates =>
    WideText.ofText "ambiguous option: ".toList ++ argument
      ++ WideText.ofText " could match ".toList ++ Text.join (WideText.ofText ", ".toList) candidates
  | .unusedValue flag value =>
    WideText.ofText "argument ".toList ++ flag.name
      ++ WideText.ofText (": ignored explicit argument ".toList ++ value.quoted)
  | .missingValue flag =>
    WideText.ofText "argument ".toList ++ flag.name
      ++ WideText.ofText ": expected one argument".toList
  | .unknownFormat value =>
    let choices := Text.join ", ".toList (OutputFormat.all.map fun f => Text.quoted f.name)
    WideText.ofText "argument ".toList ++ Flag.format.name
      ++ WideText.ofText (": invalid choice: ".toList ++ value.quoted
        ++ " (choose from ".toList ++ choices ++ [')'])
  | .missingScript => "the following arguments are required: script".toList
  | .leftOver arguments =>
    WideText.ofText "unrecognized arguments: ".toList ++ Text.join [.char ' '] arguments

inductive Piece where
  | argument (t : WideText)
  | separator
  | option (flag : Flag) (spelling : WideText) (value? : Option WideText)
  | unknown (t : WideText)
  deriving Repr, DecidableEq

abbrev hyphens : WideText := [.char '-', .char '-']

/--
Whether a text is a negative number, which is no option: digits, or digits with a point in front of
the last ones. A line feed at the end does not count.
-/
def isNegativeNumber (t : WideText) : Bool :=
  let isDigit (p : CodePoint) : Bool := p.toChar?.any Text.isDecimalDigit
  match t with
  | .char '-' :: body =>
    let body := if body.getLast? == some (.char '\n') then body.dropLast else body
    match Text.cut (.char '.') body with
    | (digits, none) => !digits.isEmpty && digits.all isDigit
    | (whole, some fraction) => whole.all isDigit && !fraction.isEmpty && fraction.all isDigit
  | _ => false

namespace Piece

/--
The options that an argument could be, given that it is none as it stands. Long names may be cut
short, and a short name may have a value right behind it.
-/
def candidates (t : WideText) : List Piece :=
  match t with
  | .char '-' :: .char '-' :: _ =>
    let (name, value?) := Text.cut (.char '=') t
    spellings.filterMap fun (spelling, flag) =>
      if name.isPrefixOf spelling then some (option flag spelling value?) else none
  | _ =>
    spellings.filterMap fun (spelling, flag) =>
      if spelling = t.take 2 then some (option flag spelling (some (t.drop 2))) else none

def spelling : Piece → WideText
  | .option _ spelling _ => spelling
  | .argument t | .unknown t => t
  | .separator => hyphens

def ofText (t : WideText) : Except UsageError Piece :=
  if t.head? != some (.char '-') || t == [.char '-'] then
    .ok (.argument t)
  else
    let (name, value?) := Text.cut (.char '=') t
    match spellings.lookup t, value?.isSome, spellings.lookup name with
    | some flag, _, _ => .ok (.option flag t none)
    | none, true, some flag => .ok (.option flag name value?)
    | none, _, _ =>
      match candidates t with
      | [piece] => .ok piece
      | [] =>
        if isNegativeNumber t || t.contains (.char ' ') then .ok (.argument t) else .ok (.unknown t)
      | pieces => .error (.ambiguous t (pieces.map spelling))

def ofArguments : List WideText → Except UsageError (List Piece)
  | [] => .ok []
  | t :: ts =>
    if t = hyphens then
      .ok (.separator :: ts.map .argument)
    else do
      let piece ← ofText t
      let pieces ← ofArguments ts
      return piece :: pieces

end Piece

inductive Given where
  | text (t : WideText)
  | nothing
  deriving Repr, DecidableEq

def Given.ofText (t : WideText) : Given :=
  if t = hyphens then .nothing else .text t

structure Request where
  script : WideText
  format? : Option Given
  output? : Option Given
  config? : Option Given
  allowMissing : Bool
  marker? : Option Given
  title? : Option Given
  logFile? : Option Given
  deriving Repr, DecidableEq

def Request.set (r : Request) (flag : Flag) (value : Given) : Request :=
  match flag with
  | .help | .allowMissing => r
  | .format => { r with format? := some value }
  | .output => { r with output? := some value }
  | .config => { r with config? := some value }
  | .marker => { r with marker? := some value }
  | .title => { r with title? := some value }
  | .logFile => { r with logFile? := some value }

inductive Command where
  | help
  | generate (r : Request)
  deriving Repr, DecidableEq

structure Taken where
  request : Request
  hasScript : Bool
  leftOver : List WideText

namespace Taken

def empty : Taken := ⟨⟨[], none, none, none, false, none, none, none⟩, false, []⟩

def leave (s : Taken) (t : WideText) : Taken :=
  { s with leftOver := t :: s.leftOver }

def setScript (s : Taken) (t : WideText) : Taken :=
  { s with request := { s.request with script := t }, hasScript := true }

def setValue (s : Taken) (flag : Flag) (value : Given) : Except UsageError Taken :=
  match flag, value with
  | .format, .text t =>
    if (OutputFormat.ofName? t).isSome then
      .ok { s with request := s.request.set flag value }
    else
      .error (.unknownFormat t)
  | _, _ => .ok { s with request := s.request.set flag value }

def finish (s : Taken) : Except UsageError Command :=
  if !s.hasScript then .error .missingScript
  else if !s.leftOver.isEmpty then .error (.leftOver s.leftOver.reverse)
  else .ok (.generate s.request)

end Taken

def helpWith (spelling value : WideText) : Except UsageError Command :=
  let rest := value.dropWhile (· == .char 'h')
  let isShort := spelling == WideText.ofText "-h".toList
  if isShort && !value.isEmpty && rest.isEmpty then
    .ok .help
  else
    .error (.unusedValue .help (if isShort then rest else value))

def take (s : Taken) : List Piece → Except UsageError Command
  | [] => s.finish
  | .argument t :: rest =>
    if s.hasScript then
      take (s.leave t) rest
    else
      -- The separator right behind the script goes with it.
      match rest with
      | .separator :: rest => take (s.setScript t) rest
      | rest => take (s.setScript t) rest
  | .separator :: rest => take (if s.hasScript || rest.isEmpty then s.leave hyphens else s) rest
  | .unknown t :: rest => take (s.leave t) rest
  | .option .help spelling (some value) :: _ => helpWith spelling value
  | .option .help _ none :: _ => .ok .help
  | .option .allowMissing _ (some value) :: _ => .error (.unusedValue .allowMissing value)
  | .option .allowMissing _ none :: rest =>
    take { s with request := { s.request with allowMissing := true } } rest
  | .option flag _ (some value) :: rest => do take (← s.setValue flag (.ofText value)) rest
  | .option flag _ none :: .argument t :: rest => do take (← s.setValue flag (.text t)) rest
  | .option flag _ none :: _ => .error (.missingValue flag)

def Command.ofArguments (arguments : List WideText) : Except UsageError Command := do
  take .empty (← Piece.ofArguments arguments)

end Cli

end ScriptManual
