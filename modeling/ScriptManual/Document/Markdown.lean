import ScriptManual.Document.Prose

/-!
This module contains the Markdown document of a manual: a title, the prose as a fenced block of text,
and the option table.
-/

namespace ScriptManual

namespace Document

namespace Markdown

def cell (t : Text) : Text :=
  Text.replaceChar '\n' "<br>".toList (Text.replaceChar '|' ['\\', '|'] t)

def tableRow (cells : List Text) : Text :=
  "| ".toList ++ Text.join " | ".toList cells ++ " |".toList

def separator : Text :=
  '|' :: Text.join ['|'] (columns.map fun _ => "---".toList) ++ ['|']

def proseBlock (m : Manual) : List Text :=
  let prose := prose m
  if prose.isEmpty then [] else ["```text".toList, prose, "```".toList, []]

def optionTable (options : List OptionSpec) : List Text :=
  if options.isEmpty then
    []
  else
    ["## Options".toList, [], tableRow columns, separator]
      ++ options.map (fun o => tableRow ((row o).map cell)) ++ [[]]

end Markdown

def markdown (m : Manual) (title : Text) : Text :=
  Text.join ['\n']
    (("# ".toList ++ title) :: [] :: Markdown.proseBlock m ++ Markdown.optionTable m.options)

end Document

end ScriptManual
