import ScriptManual.Document.Prose

/-!
This module contains the HTML document of a manual: a page with the title, the prose as preformatted
text and the option table.
-/

namespace ScriptManual

namespace Document

namespace Html

def escapeChar (c : Char) : Text :=
  if c = '&' then "&amp;".toList
  else if c = '<' then "&lt;".toList
  else if c = '>' then "&gt;".toList
  else if c = '"' then "&quot;".toList
  else if c = '\'' then "&#x27;".toList
  else [c]

def escape (t : Text) : Text :=
  t.flatMap escapeChar

def cell (t : Text) : Text :=
  Text.replaceChar '\n' "<br>".toList (escape t)

def element (name : Text) (content : Text) : Text :=
  '<' :: name ++ '>' :: content ++ '<' :: '/' :: name ++ ['>']

def tableRow (cellName : Text) (cells : List Text) : Text :=
  element "tr".toList (cells.flatMap (element cellName))

/--
The number of characters in front of the title, the first time that it is written.
-/
def titlePosition : Nat :=
  (Text.join ['\n'] (["<!DOCTYPE html>", "<html lang=\"en\">", "<head>", "<meta charset=\"utf-8\">",
    "<title>"].map String.toList)).length

def head (title : Text) : List Text :=
  ["<!DOCTYPE html>".toList, "<html lang=\"en\">".toList, "<head>".toList,
    "<meta charset=\"utf-8\">".toList, element "title".toList (escape title), "</head>".toList,
    "<body>".toList, element "h1".toList (escape title)]

def proseBlock (m : Manual) : List Text :=
  let prose := prose m
  if prose.isEmpty then [] else [element "pre".toList (escape prose)]

def optionTable (options : List OptionSpec) : List Text :=
  if options.isEmpty then
    []
  else
    [element "h2".toList "Options".toList, "<table>".toList, tableRow "th".toList columns]
      ++ options.map (fun o => tableRow "td".toList ((row o).map cell)) ++ ["</table>".toList]

end Html

def html (m : Manual) (title : Text) : Text :=
  Text.join ['\n']
    (Html.head title ++ Html.proseBlock m ++ Html.optionTable m.options
      ++ ["</body>".toList, "</html>".toList, []])

end Document

end ScriptManual
