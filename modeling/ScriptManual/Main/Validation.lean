import ScriptManual.Log.Value
import ScriptManual.Settings.Basic

/-!
This module contains the validation of settings that the program runs with. It does not stop at the
first thing that is wrong, and its report has all of it, without pointers to further reading.
-/

namespace ScriptManual

namespace Main

open Settings (Declaration Validation LawfulValidation)

inductive Problem where
  | notText
  | notUnicode
  | notRecord
  | notAmong (choices : List Text)
  | refused (reason : Text)

def recordName : Text := "GeneratorSettings".toList

namespace Problem

def kind : Problem → Text
  | .notText => "string_type".toList
  | .notUnicode => "string_unicode".toList
  | .notRecord => "model_type".toList
  | .notAmong _ => "enum".toList
  | .refused _ => "value_error".toList

def alternatives : List Text → Text
  | [] => []
  | [choice] => choice.quoted
  | [choice, last] => choice.quoted ++ " or ".toList ++ last.quoted
  | choice :: choices => choice.quoted ++ ", ".toList ++ alternatives choices

def message : Problem → Text
  | .notText => "Input should be a valid string".toList
  | .notUnicode =>
    "Input should be a valid string, unable to parse raw data as a unicode string".toList
  | .notRecord => "Input should be a valid dictionary or instance of ".toList ++ recordName
  | .notAmong choices => "Input should be ".toList ++ alternatives choices
  | .refused reason => "Value error, ".toList ++ reason

end Problem

structure Issue where
  key? : Option Text
  problem : Problem
  value : Json

/--
The characters in front of a text whose bytes come to `n` at most.
-/
def takeBytes (n : Nat) : Text → Text
  | [] => []
  | c :: cs => if c.utf8Size ≤ n then c :: takeBytes (n - c.utf8Size) cs else []

def shorten (t : Text) : Text :=
  if WideText.byteCount t ≤ 50 then
    t
  else
    takeBytes 25 t ++ "...".toList ++ (takeBytes 24 t.reverse).reverse

def typeName : Json → Text
  | .null => "NoneType".toList
  | .bool _ => "bool".toList
  | .int _ => "int".toList
  | .float _ => "float".toList
  | .str _ => "str".toList
  | .arr _ => "list".toList
  | .obj _ => "dict".toList

def Issue.report (i : Issue) : List Text :=
  i.key?.toList ++ ["  ".toList ++ i.problem.message ++ " [type=".toList ++ i.problem.kind
    ++ ", input_value=".toList ++ shorten (Log.Value.ofJson i.value).inner
    ++ ", input_type=".toList ++ typeName i.value ++ [']']]

def report (issues : List Issue) : Text :=
  let noun := if issues.length = 1 then " validation error for " else " validation errors for "
  Text.join ['\n'] ((Text.ofNat issues.length ++ noun.toList ++ recordName)
    :: issues.flatMap Issue.report)

abbrev Checked (α : Type) := Except (List Issue) α

def combine {α β γ : Type} (f : α → β → γ) : Checked α → Checked β → Checked γ
  | .ok a, .ok b => .ok (f a b)
  | .ok _, .error issues => .error issues
  | .error issues, .ok _ => .error issues
  | .error issues, .error more => .error (issues ++ more)

def member {α : Type} (key : Text) (check : Json → Except Problem α) (missing : α)
    (members : List (WideText × Json)) : Checked α :=
  match members.lookup (WideText.ofText key) with
  | some value => (check value).mapError fun problem => [⟨some key, problem, value⟩]
  | none => .ok missing

def asMarker (d : Declaration) : Json → Except Problem WideText
  | .str t => (d.checkMarker t).mapError .refused
  | _ => .error .notText

def asChoice {α : Type} (choices : List (Text × α)) : Json → Except Problem α
  | .str t =>
    match t.toText? with
    | some t =>
      match choices.lookup t with
      | some a => .ok a
      | none => .error (.notAmong (choices.map Prod.fst))
    | none => .error .notUnicode
  | _ => .error (.notAmong (choices.map Prod.fst))

def asMissing : Json → Except Problem MissingPolicy :=
  asChoice <| [.error, .helpOnly].map fun p => (MissingPolicy.name p, p)

def asFormat : Json → Except Problem OutputFormat :=
  asChoice <| OutputFormat.all.map fun f => (f.name, f)

def check (d : Declaration) : Json → Checked Settings
  | .obj members =>
    let marker := member Settings.markerKey (asMarker d) d.standard.marker members
    let missing := member Settings.missingKey asMissing d.standard.missing members
    let format := member Settings.formatKey asFormat d.standard.format members
    combine (fun marker (missing, format) => ⟨marker, missing, format⟩) marker
      (combine Prod.mk missing format)
  | value => .error [⟨none, .notRecord, value⟩]

def validation : Validation where
  validate d value := (check d value).mapError report
  dump s :=
    [(Settings.markerKey, .str s.marker), (Settings.missingKey, .text s.missing.name),
      (Settings.formatKey, .text s.format.name)]

theorem eq_ok_of_combine_eq_ok {α β γ : Type} {f : α → β → γ} {x : Checked α} {y : Checked β} {c : γ}
    (h : combine f x y = .ok c) : ∃ a b, x = .ok a ∧ f a b = c := by
  cases x with
  | error issues => cases y <;> contradiction
  | ok a =>
    cases y with
    | error issues => contradiction
    | ok b => exact ⟨a, b, rfl, Except.ok.inj h⟩

theorem eq_of_member_eq_ok {α : Type} {key : Text} {check : Json → Except Problem α} {missing a : α}
    {members : List (WideText × Json)} (h : member key check missing members = .ok a) :
    a = missing ∨ ∃ value, check value = .ok a := by
  unfold member at h
  split at h
  . next value _ =>
    refine .inr ⟨value, ?_⟩
    cases hc : check value <;> rw [hc] at h <;> cases h
    rfl
  . exact .inl (Except.ok.inj h).symm

theorem eq_ok_of_asMarker_eq_ok {d : Declaration} {value : Json} {marker : WideText}
    (h : asMarker d value = .ok marker) : ∃ t, d.checkMarker t = .ok marker := by
  unfold asMarker at h
  split at h
  . next t =>
    refine ⟨t, ?_⟩
    cases hc : d.checkMarker t <;> rw [hc] at h <;> cases h
    rfl
  . contradiction

instance : LawfulValidation validation where
  marker_of_validate {d value s} h := by
    change (check d value).mapError report = .ok s at h
    cases value with
    | obj members =>
      match hc : check d (.obj members) with
      | .error issues =>
        rw [hc] at h
        contradiction
      | .ok s' =>
        rw [hc] at h
        cases h
        obtain ⟨marker, rest, hm, rfl⟩ := eq_ok_of_combine_eq_ok hc
        obtain rfl | ⟨v, hv⟩ := eq_of_member_eq_ok hm
        . exact .inl rfl
        . exact .inr (eq_ok_of_asMarker_eq_ok hv)
    | _ => contradiction

end Main

end ScriptManual
