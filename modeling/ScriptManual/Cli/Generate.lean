import ScriptManual.Document.Html
import ScriptManual.Document.Markdown
import ScriptManual.Log.Event
import ScriptManual.Manual.Extract
import ScriptManual.Settings.Basic
import ScriptManual.Shell.Script

/-!
This module contains the work of the program between its files: from the lines of a script and the
settings to the text to write, together with what is to be logged and shown on the way.
-/

namespace ScriptManual

def Extraction.events : Except ExtractError Extraction → List Log.Event
  | .ok x =>
    [⟨Log.Level.info, "extract_done".toList,
      [("help_lines".toList, .int x.helpLines.length),
        ("option_count".toList, .int x.options.length),
        ("options".toList, .list (x.options.map fun o => .text o.short))]⟩]
  | .error (.missingSection helpLines) =>
    [⟨Log.Level.warning, "options_section_missing".toList,
      [("help_lines".toList, .int helpLines.length)]⟩]
  | .error (.duplicateShort _) => []

def Shell.scriptEvents (m : Manual) : List Log.Event :=
  [⟨Log.Level.info, "emit_done".toList,
    [("option_count".toList, .int m.options.length),
      ("statement_count".toList, .int (statements m).length)]⟩]

def Document.events (f : OutputFormat) (m : Manual) : List Log.Event :=
  [⟨Log.Level.info, "docs_rendered".toList,
    [("output_format".toList, .text f.name), ("option_count".toList, .int m.options.length)]⟩]

def Document.titleFault (f : OutputFormat) (title : WideText) (fault : WideText.EncodeFault) :
    WideText.EncodeFault :=
  let before := (title.take fault.position).filterMap CodePoint.toChar?
  match f with
  | .shell => fault
  | .markdown => { fault with position := "# ".length + before.length }
  | .html => { fault with position := Html.titlePosition + (Html.escape before).length }

/--
Write a manual in a format. A document is no text if its title is none.
-/
def OutputFormat.render (f : OutputFormat) (m : Manual) (title : WideText) :
    Except WideText.EncodeFault Text :=
  match f with
  | .shell => .ok (Shell.script m)
  | .markdown => (title.toText.mapError (Document.titleFault f title)).map (Document.markdown m)
  | .html => (title.toText.mapError (Document.titleFault f title)).map (Document.html m)

def OutputFormat.events (f : OutputFormat) (m : Manual) : List Log.Event :=
  match f with
  | .shell => Shell.scriptEvents m
  | .markdown | .html => Document.events f m

def MissingPolicy.manual (p : MissingPolicy) :
    Except ExtractError Extraction → Except ExtractError Manual
  | .ok x => .ok x.manual
  | .error (.missingSection helpLines) =>
    match p with
    | .error => .error (.missingSection helpLines)
    | .helpOnly => .ok (.helpOnly (Text.unlines helpLines))
  | .error e => .error e

def Extraction.warning : Except ExtractError Extraction → Text
  | .error e =>
    "WARNING: ".toList ++ e.message ++ " Generating help only.\n".toList
  | .ok _ => []

structure Generated where
  manual : Manual
  text : Except WideText.EncodeFault Text

structure Generation where
  events : List Log.Event
  warning : Text
  result : Except ExtractError Generated

/--
Extract the manual of a script whose comments start with a marker. No line starts with a marker that
has a surrogate in it, so that there are no comments then.
-/
def extractMarked (marker : WideText) (lines : List Text) : Except ExtractError Extraction :=
  match marker.toText? with
  | some marker => extract marker lines
  | none => .error (.missingSection [])

def Settings.generate (s : Settings) (title : WideText) (lines : List Text) : Generation :=
  let extraction := extractMarked s.marker lines
  match s.missing.manual extraction with
  | .error e => ⟨Extraction.events extraction, [], .error e⟩
  | .ok manual =>
    ⟨Extraction.events extraction ++ s.format.events manual, Extraction.warning extraction,
      .ok ⟨manual, s.format.render manual title⟩⟩

end ScriptManual
