import ScriptManual.Text.Printable
import ScriptManual.Text.Wide

/-!
This module contains the quoted form of a text, on one line and with printable characters only.
-/

namespace ScriptManual

namespace WideText

def quotationMark (t : WideText) : Char :=
  if t.contains (.char '\'') && !t.contains (.char '"') then '"' else '\''

def quoteChar (mark : Char) (c : Char) : Text :=
  if c = mark ∨ c = '\\' then ['\\', c]
  else if c = '\n' then ['\\', 'n']
  else if c = '\r' then ['\\', 'r']
  else if c = '\t' then ['\\', 't']
  else if Text.isPrintable c then [c]
  else if c.toNat < 0x100 then '\\' :: 'x' :: Text.hex 2 c.toNat
  else if c.toNat < 0x10000 then '\\' :: 'u' :: Text.hex 4 c.toNat
  else '\\' :: 'U' :: Text.hex 8 c.toNat

def quotePoint (mark : Char) : CodePoint → Text
  | .char c => quoteChar mark c
  | .surrogate offset => CodePoint.escapeSurrogate offset

def quoted (t : WideText) : Text :=
  let mark := quotationMark t
  mark :: t.flatMap (quotePoint mark) ++ [mark]

end WideText

def Text.quoted (t : Text) : Text :=
  WideText.quoted t

end ScriptManual
