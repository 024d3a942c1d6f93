import ScriptManual.Json.Basic
import ScriptManual.Text.Blank

/-!
This module contains the settings that a script's manual is read and written with, and what is asked
of whoever checks that a JSON value describes settings.
-/

namespace ScriptManual

inductive MissingPolicy where
  | error
  | helpOnly
  deriving Repr, DecidableEq

def MissingPolicy.name : MissingPolicy → Text
  | .error => "error".toList
  | .helpOnly => "help-only".toList

inductive OutputFormat where
  | shell
  | markdown
  | html
  deriving Repr, DecidableEq

namespace OutputFormat

def name : OutputFormat → Text
  | .shell => "shell".toList
  | .markdown => "markdown".toList
  | .html => "html".toList

def all : List OutputFormat := [.shell, .markdown, .html]

def ofName? (name : WideText) : Option OutputFormat :=
  all.find? fun f => (f.name : WideText) == name

end OutputFormat

structure Settings where
  marker : WideText
  missing : MissingPolicy
  format : OutputFormat
  deriving Repr, DecidableEq

namespace Settings

def standard : Settings := ⟨[.char '#'], .error, .shell⟩

def markerKey : Text := "comment_marker".toList

def missingKey : Text := "missing_options".toList

def formatKey : Text := "output_format".toList

def isVisible (marker : WideText) : Bool :=
  !marker.isEmpty && !marker.any CodePoint.isBlank

def checkMarker (marker : WideText) : Except Text WideText :=
  if isVisible marker then
    .ok marker
  else
    .error "comment_marker must be non-empty and contain no whitespace".toList

/--
What settings are declared to be: those that are missing are taken from `standard`, and a marker that is
given goes through a check of its own.
-/
structure Declaration where
  standard : Settings
  checkMarker : WideText → Except Text WideText

def declaration : Declaration := ⟨standard, checkMarker⟩

structure Validation where
  validate : Declaration → Json → Except Text Settings
  dump : Settings → List (Text × Json)

/--
A validation by which the marker of settings is the one they have if nothing is said, or what its own
check has made of a marker.
-/
class LawfulValidation (v : Validation) : Prop where
  marker_of_validate {d : Declaration} {value : Json} {s : Settings} (h : v.validate d value = .ok s) :
    s.marker = d.standard.marker ∨ ∃ marker, d.checkMarker marker = .ok s.marker

end Settings

end ScriptManual
