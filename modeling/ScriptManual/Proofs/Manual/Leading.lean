import Mathlib.Data.List.Basic
import ScriptManual.Manual.Extract
import ScriptManual.Proofs.Text.Trim

/-!
This module contains what makes a line a comment, and the comments that a script starts with. It is
told without the extraction, which finds the same.
-/

namespace ScriptManual

namespace Line

def content (raw : Text) : Text :=
  Text.trimEnd (fun c => c == '\r' || c == '\n') raw

def isBlank (raw : Text) : Bool :=
  Text.isAllBlank (content raw)

def commentText? (marker raw : Text) : Option Text :=
  if isBlank raw then none else stripMarker? marker (content raw)

def isEnd (c : Char) : Bool := c == '\r' || c == '\n'

theorem content_eq_trimEnd (raw : Text) : content raw = Text.trimEnd isEnd raw := rfl

theorem isBlank_eq_isAllBlank (raw : Text) : isBlank raw = Text.isAllBlank raw := by
  obtain ⟨e, he, hp⟩ := Text.exists_eq_trimEnd_append isEnd raw
  have hb : e.all Text.isBlank = true := by
    rw [List.all_eq_true]
    intro c hc
    have hc := hp c hc
    simp only [isEnd, Bool.or_eq_true, beq_iff_eq] at hc
    obtain rfl | rfl := hc <;> rfl
  calc (Text.trimEnd isEnd raw).all Text.isBlank
      = (Text.trimEnd isEnd raw ++ e).all Text.isBlank := by
        rw [List.all_append, hb, Bool.and_true]
    _ = raw.all Text.isBlank := by rw [← he]

/--
Whether a line is a comment: it is not blank, and without its line end it is the marker alone or
starts with the marker and a space.
-/
def isComment (marker raw : Text) : Bool :=
  !Text.isAllBlank raw
    && (content raw == marker || (marker ++ [' ']).isPrefixOf (content raw))

/--
What is left of a comment without its marker, the space behind it and its line end.
-/
def commentBody (marker raw : Text) : Text :=
  (content raw).drop (marker.length + 1)

theorem stripMarker?_marker (marker : Text) : stripMarker? marker marker = some [] := by
  have h : marker.isPrefixOf? marker = some [] := by
    rw [List.isPrefixOf?_eq_some_iff_append_eq, List.append_nil]
  simp only [stripMarker?, h]

theorem stripMarker?_append (marker text : Text) :
    stripMarker? marker (marker ++ ' ' :: text) = some text := by
  have h : marker.isPrefixOf? (marker ++ ' ' :: text) = some (' ' :: text) := by
    rw [List.isPrefixOf?_eq_some_iff_append_eq]
  simp only [stripMarker?, h]

theorem stripMarker?_eq_some_iff {marker line text : Text} :
    stripMarker? marker line = some text ↔
      (line = marker ∧ text = []) ∨ line = marker ++ ' ' :: text := by
  constructor
  . intro h
    unfold stripMarker? at h
    split at h
    . next hp =>
      cases h
      rw [List.isPrefixOf?_eq_some_iff_append_eq, List.append_nil] at hp
      exact .inl ⟨hp.symm, rfl⟩
    . next hp =>
      cases h
      rw [List.isPrefixOf?_eq_some_iff_append_eq] at hp
      exact .inr hp.symm
    . contradiction
  . rintro (⟨rfl, rfl⟩ | rfl)
    . exact stripMarker?_marker line
    . exact stripMarker?_append marker text

theorem commentText?_eq_ite (marker raw : Text) :
    commentText? marker raw =
      if isComment marker raw then some (commentBody marker raw) else none := by
  unfold commentText? isComment commentBody
  rw [isBlank_eq_isAllBlank]
  cases Text.isAllBlank raw with
  | true => rfl
  | false =>
    simp only [Bool.false_eq_true, if_false, Bool.not_false, Bool.true_and, Bool.or_eq_true,
      beq_iff_eq, List.isPrefixOf_iff_prefix]
    split
    . next h =>
      rw [stripMarker?_eq_some_iff]
      obtain h | ⟨text, h⟩ := h
      . exact .inl ⟨h, by simp [h]⟩
      . refine .inr ?_
        rw [← h, List.drop_left' (by simp), List.append_assoc]
        rfl
    . next h =>
      cases hs : stripMarker? marker (content raw) with
      | none => rfl
      | some text =>
        exfalso
        apply h
        obtain ⟨hc, -⟩ | hc := stripMarker?_eq_some_iff.1 hs
        . exact .inl hc
        . exact .inr ⟨text, by simp [hc]⟩

theorem commentText?_eq_none_iff {marker raw : Text} :
    commentText? marker raw = none ↔ isComment marker raw = false := by
  simp [commentText?_eq_ite]

end Line

def leadingComments (marker : Text) (lines : List Text) : List Text :=
  ((lines.dropWhile fun l => !Line.isComment marker l).takeWhile
    fun l => !Text.isAllBlank l).filter (Line.isComment marker)

def helpTexts (marker : Text) (lines : List Text) : List Text :=
  ((lines.dropWhile fun l => (Line.commentText? marker l).isNone).takeWhile
    fun l => !Line.isBlank l).filterMap (Line.commentText? marker)

variable {marker : Text}

theorem helpTexts_eq_map_commentBody (lines : List Text) :
    helpTexts marker lines = (leadingComments marker lines).map (Line.commentBody marker) := by
  have hd : (fun l => !Line.isComment marker l) = fun l => (Line.commentText? marker l).isNone := by
    funext l
    rw [Line.commentText?_eq_ite]
    cases Line.isComment marker l <;> rfl
  have hb : (fun l => !Text.isAllBlank l) = fun l => !Line.isBlank l := by
    funext l
    rw [Line.isBlank_eq_isAllBlank]
  unfold helpTexts leadingComments
  rw [hd, hb, ← List.filterMap_eq_map, List.filterMap_filter]
  exact List.filterMap_congr fun l _ => Line.commentText?_eq_ite marker l

end ScriptManual
