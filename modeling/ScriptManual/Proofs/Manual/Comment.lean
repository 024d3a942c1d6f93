import ScriptManual.Proofs.Manual.Outline
import ScriptManual.Proofs.Text.Lines
import ScriptManual.Proofs.Text.Split
import ScriptManual.Settings.Basic

/-!
This module contains the way back from texts to comments. A help text that is written as comments
again comes to the same manual as the script that it was taken from.
-/

namespace ScriptManual

namespace Settings

theorem isVisible_ofText {marker : Text} :
    isVisible (WideText.ofText marker) = true ↔ marker ≠ [] ∧ ∀ c ∈ marker, Text.isBlank c = false := by
  simp [isVisible, WideText.ofText, CodePoint.isBlank, CodePoint.toChar?]

end Settings

namespace Line

def ofText (marker text : Text) : Text := marker ++ ' ' :: text

theorem content_ofText (marker : Text) {text : Text} (h : content text = text) :
    content (ofText marker text) = ofText marker text := by
  rw [content_eq_trimEnd] at *
  cases hl : text.getLast? with
  | none =>
    rw [List.getLast?_eq_none_iff] at hl
    subst hl
    exact Text.trimEnd_append_of_getLast? (c := ' ') marker rfl rfl
  | some c =>
    have hc : isEnd c = false := Text.getLast?_trimEnd (t := text) (h.symm ▸ hl)
    have := Text.trimEnd_append_of_getLast? (marker ++ [' ']) hl hc
    simpa [ofText] using this

theorem commentText?_ofText {marker : Text} (hm : Settings.isVisible marker = true) {text : Text}
    (h : content text = text) : commentText? marker (ofText marker text) = some text := by
  obtain ⟨hne, hb⟩ := Settings.isVisible_ofText.1 hm
  have hn : isBlank (ofText marker text) = false := by
    obtain ⟨c, cs, rfl⟩ := List.exists_cons_of_ne_nil hne
    simp [isBlank_eq_isAllBlank, Text.isAllBlank, ofText, hb c (by simp)]
  unfold commentText?
  rw [hn, content_ofText marker h]
  exact stripMarker?_append marker text

theorem content_of_commentText? {marker raw text : Text} (h : commentText? marker raw = some text) :
    content text = text := by
  unfold commentText? at h
  split at h
  . contradiction
  . rw [content_eq_trimEnd]
    -- A text ends like the line that it comes from, which has no line end any more.
    cases hl : text.getLast? with
    | none =>
      rw [List.getLast?_eq_none_iff] at hl
      subst hl
      rfl
    | some c =>
      obtain ⟨-, rfl⟩ | hc := stripMarker?_eq_some_iff.1 h
      . contradiction
      . have he : (content raw).getLast? = some c := by
          rw [hc]
          simp [List.getLast?_cons, hl]
        exact Text.trimEnd_append_of_getLast? [] hl (Text.getLast?_trimEnd he)

theorem mem_content_of_commentText? {marker raw text : Text} {c : Char}
    (h : commentText? marker raw = some text) (hc : c ∈ text) : c ∈ content raw := by
  unfold commentText? at h
  split at h
  . contradiction
  . obtain ⟨-, rfl⟩ | hl := stripMarker?_eq_some_iff.1 h
    . contradiction
    . rw [hl]
      simp [hc]

end Line

theorem filterMap_map_of_forall {α β : Type} {f : β → Option α} {g : α → β} {as : List α}
    (h : ∀ a ∈ as, f (g a) = some a) : (as.map g).filterMap f = as := by
  rw [List.filterMap_map]
  exact (List.filterMap_congr h).trans List.filterMap_some

theorem mem_helpTexts {marker text : Text} {lines : List Text} (h : text ∈ helpTexts marker lines) :
    ∃ l ∈ lines, Line.commentText? marker l = some text := by
  obtain ⟨l, hl, ht⟩ := List.mem_filterMap.1 h
  exact ⟨l, (List.dropWhile_sublist _).subset ((List.takeWhile_sublist _).subset hl), ht⟩

theorem isLineBreak_of_mem_helpTexts {marker text t : Text}
    (ht : t ∈ helpTexts marker (Text.lines text)) : ∀ c ∈ t, Text.isLineBreak c = false := by
  obtain ⟨l, hl, h⟩ := mem_helpTexts ht
  intro c hc
  apply Text.isLineBreak_of_mem_lines hl
  obtain ⟨e, he, -⟩ := Text.exists_eq_trimEnd_append Line.isEnd l
  rw [he, List.mem_append]
  exact .inl (Line.mem_content_of_commentText? h hc)

theorem helpTexts_ofText {marker : Text} (hm : Settings.isVisible marker = true)
    {texts : List Text} (ht : ∀ t ∈ texts, Line.content t = t) :
    helpTexts marker (texts.map (Line.ofText marker)) = texts := by
  have hs : ∀ t ∈ texts, Line.commentText? marker (Line.ofText marker t) = some t := fun t h =>
    Line.commentText?_ofText hm (ht t h)
  have htake : (texts.map (Line.ofText marker)).takeWhile (fun l => !Line.isBlank l) =
      texts.map (Line.ofText marker) := by
    rw [List.takeWhile_eq_self_iff]
    intro l hl
    obtain ⟨t, h, rfl⟩ := List.mem_map.1 hl
    simp [Line.isBlank_of_commentText? (hs t h)]
  have hdrop : (texts.map (Line.ofText marker)).dropWhile
      (fun l => (Line.commentText? marker l).isNone) = texts.map (Line.ofText marker) := by
    cases texts with
    | nil => rfl
    | cons t ts =>
      rw [List.map_cons, List.dropWhile_cons_of_neg]
      simp [hs t (by simp)]
  unfold helpTexts
  rw [hdrop, htake, filterMap_map_of_forall hs]

def commented (marker help : Text) : List Text :=
  (Text.split '\n' help).dropLast.map (Line.ofText marker)

theorem commented_unlines (marker : Text) {texts : List Text} (h : ∀ t ∈ texts, '\n' ∉ t) :
    commented marker (Text.unlines texts) = texts.map (Line.ofText marker) := by
  rw [commented, Text.split_unlines h, List.dropLast_concat]

theorem extract_commented_helpTexts (marker : Text) {marker' : Text}
    (hm : Settings.isVisible marker' = true) {lines : List Text}
    (hl : ∀ l ∈ lines, '\n' ∉ Line.content l) :
    extract marker' (commented marker' (Text.unlines (helpTexts marker lines))) =
      extract marker lines := by
  have hn : ∀ t ∈ helpTexts marker lines, '\n' ∉ t := by
    intro t ht hc
    obtain ⟨l, hmem, h⟩ := mem_helpTexts ht
    exact hl l hmem (Line.mem_content_of_commentText? h hc)
  have hc : ∀ t ∈ helpTexts marker lines, Line.content t = t := by
    intro t ht
    obtain ⟨l, -, h⟩ := mem_helpTexts ht
    exact Line.content_of_commentText? h
  rw [commented_unlines marker' hn, extract_eq_ofTexts, helpTexts_ofText hm hc, ← extract_eq_ofTexts]

theorem helpLines_of_extract_eq_ok {marker : Text} {lines : List Text} {x : Extraction}
    (h : extract marker lines = .ok x) : x.helpLines = helpTexts marker lines := by
  rw [extract_eq_ofTexts, Outline.ofTexts] at h
  split at h
  . contradiction
  . split at h
    . contradiction
    . cases h
      rfl

theorem helpLines_of_extract_eq_missingSection {marker : Text} {lines texts : List Text}
    (h : extract marker lines = .error (.missingSection texts)) : texts = helpTexts marker lines := by
  rw [extract_eq_ofTexts, Outline.ofTexts] at h
  split at h
  . cases h
    rfl
  . split at h
    . cases h
    . contradiction

/--
The help text of a script can be taken for the script itself: written as comments, with any marker
that can be seen, it comes to the same manual, and to the same help text if it declares no options. A
line feed that is not part of a line end must not be in the script, because it would make two lines
of one in the help text.
-/
theorem extract_commented {marker' : Text} (hm : Settings.isVisible marker' = true) (marker : Text)
    {lines : List Text} (hl : ∀ l ∈ lines, '\n' ∉ Line.content l) :
    (∀ x, extract marker lines = .ok x →
      extract marker' (commented marker' x.manual.help) = .ok x) ∧
    (∀ texts, extract marker lines = .error (.missingSection texts) →
      extract marker' (commented marker' (Text.unlines texts)) = .error (.missingSection texts)) := by
  have he := extract_commented_helpTexts marker hm hl
  constructor
  . intro x hx
    have hh : x.manual.help = Text.unlines (helpTexts marker lines) := by
      rw [← helpLines_of_extract_eq_ok hx]
      rfl
    rw [hh, he, hx]
  . intro texts ht
    rw [helpLines_of_extract_eq_missingSection ht, he, ht, helpLines_of_extract_eq_missingSection ht]

def wrappedScript : List Text :=
  ["#!/bin/sh\n", "#  Copies.  \r\n", "#\n", "set -e\n", "#  Options:\n",
    "#   -o --out file  Where to write,\n", "#                    or '-'.\n",
    "#                  Default: out.txt\n", "\n", "# -x --later No option.\n"].map String.toList

def wrapped : Extraction where
  helpLines := [" Copies.  ", "", " Options:", "  -o --out file  Where to write,",
    "                   or '-'.", "                 Default: out.txt"].map String.toList
  options := [⟨['o'], "out".toList, some "file".toList, "Where to write,\n  or '-'.".toList,
    some "out.txt".toList⟩]

theorem extract_wrappedScript : extract ['#'] wrappedScript = .ok wrapped := by
  decide +kernel

theorem extract_commented_wrapped :
    Settings.isVisible ("//".toList : Text) = true ∧
    (∀ l ∈ wrappedScript, '\n' ∉ Line.content l) ∧
    extract ['#'] wrappedScript = .ok wrapped ∧
    extract "//".toList (commented "//".toList wrapped.manual.help) = .ok wrapped := by
  have hm : Settings.isVisible ("//".toList : Text) = true := by decide
  have hl : ∀ l ∈ wrappedScript, '\n' ∉ Line.content l := by decide +kernel
  have hx := (extract_commented hm ['#'] hl).1 wrapped extract_wrappedScript
  exact ⟨hm, hl, extract_wrappedScript, hx⟩

end ScriptManual
