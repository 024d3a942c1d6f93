import Mathlib.Logic.Relation
import ScriptManual.Proofs.Manual.Comment

/-!
This module contains what does not matter for a manual: everything in a script but the comments from
the first one up to the first blank line behind it.
-/

namespace ScriptManual

namespace Line

theorem content_append {e : Text} (he : ∀ c ∈ e, isEnd c = true) (line : Text) :
    content (line ++ e) = content line :=
  Text.trimEnd_append he line

theorem isBlank_append {e : Text} (he : ∀ c ∈ e, isEnd c = true) (line : Text) :
    isBlank (line ++ e) = isBlank line := by
  rw [isBlank, content_append he, isBlank]

theorem commentText?_append {e : Text} (he : ∀ c ∈ e, isEnd c = true) (marker line : Text) :
    commentText? marker (line ++ e) = commentText? marker line := by
  rw [commentText?, isBlank_append he, content_append he, commentText?]

end Line

inductive Noise (marker : Text) : List Text → List Text → Prop where
  | lineEnd (above below : List Text) (line : Text) {e e' : Text}
    (he : ∀ c ∈ e, Line.isEnd c = true) (he' : ∀ c ∈ e', Line.isEnd c = true) :
    Noise marker (above ++ (line ++ e) :: below) (above ++ (line ++ e') :: below)
  | code (above below : List Text) {line : Text} (hb : Text.isAllBlank line = false)
    (hc : Line.isComment marker line = false) :
    Noise marker (above ++ below) (above ++ line :: below)
  | ahead (above below : List Text) {line : Text}
    (ha : ∀ l ∈ above, Line.isComment marker l = false)
    (hc : Line.isComment marker line = false) :
    Noise marker (above ++ below) (above ++ line :: below)
  | behind (above below below' : List Text) {blank : Text}
    (ha : ∃ l ∈ above, Line.isComment marker l = true) (hb : Text.isAllBlank blank = true) :
    Noise marker (above ++ blank :: below) (above ++ blank :: below')

variable {marker : Text}

def blockTexts (marker : Text) (lines : List Text) : List Text :=
  (lines.takeWhile fun l => !Line.isBlank l).filterMap (Line.commentText? marker)

theorem blockTexts_cons_of_isBlank {line : Text} (h : Line.isBlank line = true)
    (lines : List Text) : blockTexts marker (line :: lines) = [] := by
  rw [blockTexts, List.takeWhile_cons_of_neg (by simp [h]), List.filterMap_nil]

theorem blockTexts_cons_of_not_isBlank {line : Text} (h : Line.isBlank line = false)
    (lines : List Text) :
    blockTexts marker (line :: lines) =
      (Line.commentText? marker line).toList ++ blockTexts marker lines := by
  rw [blockTexts, List.takeWhile_cons_of_pos (by simp [h]), List.filterMap_cons]
  cases Line.commentText? marker line <;> rfl

theorem helpTexts_cons_of_none {line : Text} (h : Line.commentText? marker line = none)
    (lines : List Text) : helpTexts marker (line :: lines) = helpTexts marker lines := by
  rw [helpTexts, List.dropWhile_cons_of_pos (by simp [h]), helpTexts]

theorem helpTexts_cons_of_some {line text : Text} (h : Line.commentText? marker line = some text)
    (lines : List Text) : helpTexts marker (line :: lines) = text :: blockTexts marker lines := by
  rw [helpTexts, List.dropWhile_cons_of_neg (by simp [h])]
  show blockTexts marker (line :: lines) = _
  rw [blockTexts_cons_of_not_isBlank (Line.isBlank_of_commentText? h), h]
  rfl

structure SameTexts (marker : Text) (lines lines' : List Text) : Prop where
  help : helpTexts marker lines = helpTexts marker lines'
  block : blockTexts marker lines = blockTexts marker lines'

namespace SameTexts

variable {lines lines' : List Text}

theorem cons (h : SameTexts marker lines lines') (line : Text) :
    SameTexts marker (line :: lines) (line :: lines') := by
  constructor
  . cases ht : Line.commentText? marker line with
    | none => rw [helpTexts_cons_of_none ht, helpTexts_cons_of_none ht, h.help]
    | some text => rw [helpTexts_cons_of_some ht, helpTexts_cons_of_some ht, h.block]
  . cases hb : Line.isBlank line with
    | true => rw [blockTexts_cons_of_isBlank hb, blockTexts_cons_of_isBlank hb]
    | false =>
      rw [blockTexts_cons_of_not_isBlank hb, blockTexts_cons_of_not_isBlank hb, h.block]

theorem append (h : SameTexts marker lines lines') (above : List Text) :
    SameTexts marker (above ++ lines) (above ++ lines') := by
  induction above with
  | nil => exact h
  | cons line above ih => exact ih.cons line

theorem cons_of_eq {line line' : Text} (hb : Line.isBlank line = Line.isBlank line')
    (ht : Line.commentText? marker line = Line.commentText? marker line') (lines : List Text) :
    SameTexts marker (line :: lines) (line' :: lines) := by
  constructor
  . cases h : Line.commentText? marker line' with
    | none => rw [helpTexts_cons_of_none h, helpTexts_cons_of_none (ht.trans h)]
    | some text => rw [helpTexts_cons_of_some h, helpTexts_cons_of_some (ht.trans h)]
  . cases h : Line.isBlank line' with
    | true => rw [blockTexts_cons_of_isBlank h, blockTexts_cons_of_isBlank (hb.trans h)]
    | false =>
      rw [blockTexts_cons_of_not_isBlank h, blockTexts_cons_of_not_isBlank (hb.trans h), ht]

theorem cons_of_code {line : Text} (hb : Line.isBlank line = false)
    (ht : Line.commentText? marker line = none) (lines : List Text) :
    SameTexts marker lines (line :: lines) := by
  constructor
  . rw [helpTexts_cons_of_none ht]
  . rw [blockTexts_cons_of_not_isBlank hb, ht]
    rfl

end SameTexts

theorem helpTexts_append_of_none {above : List Text}
    (h : ∀ l ∈ above, Line.commentText? marker l = none) (lines : List Text) :
    helpTexts marker (above ++ lines) = helpTexts marker lines := by
  unfold helpTexts
  rw [List.dropWhile_append_of_pos]
  intro l hl
  simp [h l hl]

theorem blockTexts_append_blank {blank : Text} (hb : Line.isBlank blank = true)
    (above below : List Text) :
    blockTexts marker (above ++ blank :: below) = blockTexts marker above := by
  induction above with
  | nil => exact blockTexts_cons_of_isBlank hb below
  | cons line above ih =>
    rw [List.cons_append]
    cases hl : Line.isBlank line with
    | true => rw [blockTexts_cons_of_isBlank hl, blockTexts_cons_of_isBlank hl]
    | false => rw [blockTexts_cons_of_not_isBlank hl, blockTexts_cons_of_not_isBlank hl, ih]

theorem helpTexts_append_blank {above : List Text}
    (h : ∃ l ∈ above, Line.isComment marker l = true) {blank : Text}
    (hb : Line.isBlank blank = true) (below : List Text) :
    helpTexts marker (above ++ blank :: below) = helpTexts marker above := by
  induction above with
  | nil => simp at h
  | cons line above ih =>
    rw [List.cons_append]
    cases ht : Line.commentText? marker line with
    | some text =>
      rw [helpTexts_cons_of_some ht, helpTexts_cons_of_some ht, blockTexts_append_blank hb]
    | none =>
      rw [helpTexts_cons_of_none ht, helpTexts_cons_of_none ht]
      apply ih
      obtain ⟨l, hl, hc⟩ := h
      obtain rfl | hl := List.mem_cons.1 hl
      . rw [Line.commentText?_eq_none_iff, hc] at ht
        contradiction
      . exact ⟨l, hl, hc⟩

theorem Noise.helpTexts_eq {lines lines' : List Text} (h : Noise marker lines lines') :
    helpTexts marker lines = helpTexts marker lines' := by
  cases h with
  | @lineEnd above below line e e' he he' =>
    have hb : Line.isBlank (line ++ e) = Line.isBlank (line ++ e') := by
      rw [Line.isBlank_append he, Line.isBlank_append he']
    have ht : Line.commentText? marker (line ++ e) = Line.commentText? marker (line ++ e') := by
      rw [Line.commentText?_append he, Line.commentText?_append he']
    exact ((SameTexts.cons_of_eq hb ht below).append above).help
  | code above below hb hc =>
    rw [← Line.isBlank_eq_isAllBlank] at hb
    rw [← Line.commentText?_eq_none_iff] at hc
    exact ((SameTexts.cons_of_code hb hc below).append above).help
  | ahead above below ha hc =>
    have ha' : ∀ l ∈ above, Line.commentText? marker l = none := fun l hl =>
      Line.commentText?_eq_none_iff.2 (ha l hl)
    rw [helpTexts_append_of_none ha', helpTexts_append_of_none ha']
    rw [helpTexts_cons_of_none (Line.commentText?_eq_none_iff.2 hc)]
  | behind above below below' ha hb =>
    rw [← Line.isBlank_eq_isAllBlank] at hb
    rw [helpTexts_append_blank ha hb, helpTexts_append_blank ha hb]

theorem leadingComments_of_forall {comments : List Text}
    (h : ∀ l ∈ comments, Line.isComment marker l = true) :
    leadingComments marker comments = comments := by
  have hb : ∀ l ∈ comments, (!Text.isAllBlank l) = true := by
    intro l hl
    have hc := h l hl
    rw [Line.isComment, Bool.and_eq_true] at hc
    exact hc.1
  have hd : comments.dropWhile (fun l => !Line.isComment marker l) = comments := by
    cases comments with
    | nil => rfl
    | cons l ls => rw [List.dropWhile_cons_of_neg (by simp [h l (by simp)])]
  rw [leadingComments, hd, List.takeWhile_eq_self_iff.2 hb, List.filter_eq_self.2 h]

theorem helpTexts_leadingComments (marker : Text) (lines : List Text) :
    helpTexts marker (leadingComments marker lines) = helpTexts marker lines := by
  rw [helpTexts_eq_map_commentBody, helpTexts_eq_map_commentBody, leadingComments_of_forall]
  intro l hl
  exact (List.mem_filter.1 hl).2

/--
A manual is read off the leading comments alone. Nothing around them matters: not the line ends, nor
lines of code anywhere, nor what is ahead of the first comment and no comment itself, nor anything
behind the first blank line after it. The help text is what these comments say, line by line, whether
the script declares options or not.
-/
theorem extract_reads_leadingComments (marker : Text) (lines : List Text) :
    extract marker (leadingComments marker lines) = extract marker lines ∧
    (∀ lines', Relation.EqvGen (Noise marker) lines lines' →
      extract marker lines' = extract marker lines) ∧
    (∀ x, extract marker lines = .ok x → x.manual.help =
      Text.unlines ((leadingComments marker lines).map (Line.commentBody marker))) ∧
    (∀ texts, extract marker lines = .error (.missingSection texts) → Text.unlines texts =
      Text.unlines ((leadingComments marker lines).map (Line.commentBody marker))) := by
  refine ⟨?_, ?_, ?_, ?_⟩
  . rw [extract_eq_ofTexts, helpTexts_leadingComments, ← extract_eq_ofTexts]
  . intro lines' h
    rw [extract_eq_ofTexts, extract_eq_ofTexts]
    congr 1
    induction h with
    | rel _ _ h => exact h.helpTexts_eq.symm
    | refl _ => rfl
    | symm _ _ _ ih => exact ih.symm
    | trans _ _ _ _ _ ih ih' => exact ih'.trans ih
  . intro x hx
    rw [← helpTexts_eq_map_commentBody, ← helpLines_of_extract_eq_ok hx]
    rfl
  . intro texts ht
    rw [← helpTexts_eq_map_commentBody, ← helpLines_of_extract_eq_missingSection ht]

end ScriptManual
