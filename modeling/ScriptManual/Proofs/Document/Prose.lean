import Mathlib.Data.List.DropRight
import ScriptManual.Document.Prose
import ScriptManual.Proofs.Manual.Classified
import ScriptManual.Proofs.Manual.Comment

/-!
This module contains where the prose of a document ends: the renderer looks for the section of the
options in the help text, and finds the same line that was classified as its start when the manual
was extracted.
-/

namespace ScriptManual

theorem lines_unlines_helpTexts (marker text : Text) :
    Text.lines (Text.unlines (helpTexts marker (Text.lines text))) =
      helpTexts marker (Text.lines text) :=
  Text.lines_unlines fun _ ht => isLineBreak_of_mem_helpTexts ht

namespace Document

theorem proseLines_helpOnly (help : Text) :
    proseLines (.helpOnly help) = (Text.lines help).rdropWhile Text.isAllBlank := rfl

theorem proseLines_of_section {m : Manual} (hm : m.hasSection = true) {above below : List Text}
    {start : Text} (hl : Text.lines m.help = above ++ start :: below)
    (ha : ∀ t ∈ above, Line.isSectionStart t = false) (hs : Line.isSectionStart start = true) :
    proseLines m = above.rdropWhile Text.isAllBlank := by
  have htake : (above ++ start :: below).takeWhile (fun l => !Line.isSectionStart l) = above := by
    rw [List.takeWhile_append_of_pos (by simpa using ha), List.takeWhile_cons_of_neg (by simp [hs]),
      List.append_nil]
  unfold proseLines
  dsimp only
  rw [hl, hm, if_pos rfl, htake]
  rfl

/--
If a script has a manual, the prose of its documents are the comments in front of the line that was
classified as the start of the section, as far as the last one that is not blank. If it has none
because there is no section, the prose is the whole help text up to there.
-/
theorem prose_ends_at_section (marker text : Text) :
    (∀ x, extract marker (Text.lines text) = .ok x →
      ∃ above start below,
        classified marker .empty (Text.lines text) =
          above ++ .comment start .sectionStart :: below ∧
        (∀ l ∈ above, l.startsSection = false) ∧
        prose x.manual =
          Text.join ['\n'] ((above.filterMap Line.text?).rdropWhile Text.isAllBlank)) ∧
    (∀ texts, extract marker (Text.lines text) = .error (.missingSection texts) →
      Text.split '\n' (Text.unlines texts) = texts ++ [[]] ∧
      prose (.helpOnly (Text.unlines texts)) =
        Text.join ['\n'] (texts.rdropWhile Text.isAllBlank)) := by
  have hread := lines_unlines_helpTexts marker text
  constructor
  . intro x hx
    obtain ⟨above, start, below, hc, ha, hs, hh⟩ := exists_classified_of_extract hx
    refine ⟨above, start, below, hc, fun l hl => (ha l hl).startsSection, ?_⟩
    have hl : Text.lines x.manual.help =
        above.filterMap Line.text? ++ start :: below.filterMap Line.text? := by
      rw [← hh, helpLines_of_extract_eq_ok hx, ← hread, ← helpLines_of_extract_eq_ok hx]
      rfl
    rw [prose, proseLines_of_section rfl hl ?_ hs]
    intro t ht
    obtain ⟨l, hm, ht⟩ := List.mem_filterMap.1 ht
    exact (ha l hm).isSectionStart ht
  . intro texts hx
    have htexts := helpLines_of_extract_eq_missingSection hx
    constructor
    . apply Text.split_unlines
      rintro t ht hmem
      have := isLineBreak_of_mem_helpTexts (htexts ▸ ht) '\n' hmem
      contradiction
    . rw [prose, proseLines_helpOnly, htexts, hread]

def brokenText : Text :=
  "#!/bin/sh\n# Copies files.\r\nset -e\x0b#  \u2028#  Options: all of them\n# -a --all All".toList

def broken : Extraction where
  helpLines := ["Copies files.".toList, [' '], " Options: all of them".toList,
    "-a --all All".toList]
  options := [⟨['a'], "all".toList, none, "All".toList, none⟩]

def proseText : Text :=
  "# Copies files.\x0b# There are no Options: none.\u2028#\n#  \n\n# Options:".toList

theorem prose_ends_at_section_broken :
    extract ['#'] (Text.lines brokenText) = .ok broken ∧
    (∃ above start below,
      classified ['#'] .empty (Text.lines brokenText) =
        above ++ .comment start .sectionStart :: below ∧
      (∀ l ∈ above, l.startsSection = false) ∧
      prose broken.manual =
        Text.join ['\n'] ((above.filterMap Line.text?).rdropWhile Text.isAllBlank)) ∧
    extract ['#'] (Text.lines proseText) = .error (.missingSection
      ["Copies files.".toList, "There are no Options: none.".toList, [], [' ']]) ∧
    prose (.helpOnly "Copies files.\nThere are no Options: none.\n\n \n".toList) =
      "Copies files.\nThere are no Options: none.".toList := by
  have hx : extract ['#'] (Text.lines brokenText) = .ok broken := by decide +kernel
  have hn : extract ['#'] (Text.lines proseText) = .error (.missingSection
      ["Copies files.".toList, "There are no Options: none.".toList, [], [' ']]) := by
    decide +kernel
  exact ⟨hx, (prose_ends_at_section _ _).1 _ hx, hn, ((prose_ends_at_section _ _).2 _ hn).2⟩

end Document

end ScriptManual
