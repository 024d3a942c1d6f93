import ScriptManual.Text.Basic

/-!
This module contains how cutting a text at a character goes together with writing pieces one after
the other.
-/

namespace ScriptManual

theorem intercalate_cons_eq_append_flatMap {α : Type} (sep : α) (t : List α) (ts : List (List α)) :
    [sep].intercalate (t :: ts) = t ++ ts.flatMap (sep :: ·) := by
  induction ts generalizing t with
  | nil => simp
  | cons u us ih =>
    rw [List.intercalate_cons_cons, ih u]
    simp

theorem intercalate_append_singleton {α : Type} (sep : α) {ts : List (List α)} (h : ts ≠ []) :
    [sep].intercalate ts ++ [sep] = ts.flatMap (· ++ [sep]) := by
  induction ts with
  | nil => contradiction
  | cons t us ih =>
    cases us with
    | nil => simp
    | cons u us =>
      rw [List.intercalate_cons_cons, List.append_assoc, ih (by simp)]
      simp

theorem intercalate_concat_nil {α : Type} (sep : α) (ts : List (List α)) :
    [sep].intercalate (ts ++ [[]]) = ts.flatMap (· ++ [sep]) := by
  induction ts with
  | nil => simp
  | cons t us ih =>
    rw [List.cons_append, List.flatMap_cons, ← ih]
    cases us with
    | nil => simp
    | cons u us => simp [List.intercalate_cons_cons]

namespace Text

section

variable {α : Type} [DecidableEq α]

theorem split_append_cons (sep : α) (t u : List α) :
    split sep (t ++ sep :: u) = split sep t ++ split sep u := by
  induction t with
  | nil => simp [split]
  | cons c cs ih =>
    rw [List.cons_append, split, split, ih]
    split
    . rfl
    . cases h : split sep cs with
      | nil => exact absurd h (split_ne_nil sep cs)
      | cons piece pieces => rfl

theorem split_of_not_mem {sep : α} {t : List α} (h : sep ∉ t) : split sep t = [t] := by
  induction t with
  | nil => rfl
  | cons c cs ih =>
    rw [List.mem_cons, not_or] at h
    rw [split, if_neg (Ne.symm h.1), ih h.2]

theorem split_join (sep : α) {pieces : List (List α)} (h : pieces ≠ []) :
    split sep (join [sep] pieces) = pieces.flatMap (split sep) := by
  induction pieces with
  | nil => contradiction
  | cons t ts ih =>
    cases ts with
    | nil => simp
    | cons u us =>
      rw [join_cons_cons, List.append_assoc, List.singleton_append, split_append_cons]
      rw [ih (by simp)]
      rfl

theorem flatMap_split_of_not_mem {sep : α} {pieces : List (List α)} (h : ∀ t ∈ pieces, sep ∉ t) :
    pieces.flatMap (split sep) = pieces := by
  induction pieces with
  | nil => rfl
  | cons t ts ih =>
    rw [List.flatMap_cons, split_of_not_mem (h t (by simp)), ih fun u hu => h u (by simp [hu])]
    rfl

omit [DecidableEq α] in
theorem not_mem_join {c : α} {sep : List α} (hs : c ∉ sep) {pieces : List (List α)}
    (h : ∀ t ∈ pieces, c ∉ t) : c ∉ join sep pieces := by
  induction pieces with
  | nil => simp
  | cons t ts ih =>
    have ht := h t (by simp)
    cases ts with
    | nil => simpa using ht
    | cons u us =>
      have hu := ih fun v hv => h v (by simp [hv])
      rw [join_cons_cons, List.mem_append, List.mem_append]
      simp [ht, hs, hu]

theorem not_mem_of_mem_split {sep : α} {t piece : List α} (h : piece ∈ split sep t) :
    sep ∉ piece := by
  induction t generalizing piece with
  | nil => simp_all [split]
  | cons c cs ih =>
    rw [split] at h
    split at h
    . obtain rfl | h := List.mem_cons.1 h
      . simp
      . exact ih h
    . next hc =>
      cases hs : split sep cs with
      | nil => exact absurd hs (split_ne_nil sep cs)
      | cons first pieces =>
        rw [hs] at h ih
        obtain rfl | h := List.mem_cons.1 h
        . have hf := ih (List.mem_cons_self)
          simp [Ne.symm hc, hf]
        . exact ih (List.mem_cons_of_mem first h)

omit [DecidableEq α] in
theorem join_cons (sep : α) (t : List α) (ts : List (List α)) :
    join [sep] (t :: ts) = t ++ ts.flatMap (sep :: ·) :=
  intercalate_cons_eq_append_flatMap sep t ts

theorem mem_of_mem_split {sep c : α} {t piece : List α} (h : piece ∈ split sep t)
    (hc : c ∈ piece) : c ∈ t := by
  rw [← join_split sep t]
  cases hs : split sep t with
  | nil => exact absurd hs (split_ne_nil sep t)
  | cons first pieces =>
    rw [hs] at h
    rw [join_cons, List.mem_append, List.mem_flatMap]
    obtain rfl | h := List.mem_cons.1 h
    . exact .inl hc
    . exact .inr ⟨piece, h, List.mem_cons_of_mem sep hc⟩

theorem cut_append_cons {sep : α} {t : List α} (h : sep ∉ t) (u : List α) :
    cut sep (t ++ sep :: u) = (t, some u) := by
  induction t with
  | nil => simp [cut]
  | cons c cs ih =>
    rw [List.mem_cons, not_or] at h
    rw [List.cons_append, cut, if_neg (Ne.symm h.1), ih h.2]

theorem cut_of_not_mem {sep : α} {t : List α} (h : sep ∉ t) : cut sep t = (t, none) := by
  induction t with
  | nil => rfl
  | cons c cs ih =>
    rw [List.mem_cons, not_or] at h
    rw [cut, if_neg (Ne.symm h.1), ih h.2]

end

theorem unlines_eq_join {pieces : List Text} (h : pieces ≠ []) :
    unlines pieces = join ['\n'] pieces ++ ['\n'] :=
  (intercalate_append_singleton '\n' h).symm

theorem join_concat_nil (pieces : List Text) : join ['\n'] (pieces ++ [[]]) = unlines pieces :=
  intercalate_concat_nil '\n' pieces

theorem unlines_split (t : Text) : unlines (split '\n' t) = t ++ ['\n'] := by
  rw [unlines_eq_join (split_ne_nil '\n' t), join_split]

theorem split_unlines_append {texts : List Text} (h : ∀ t ∈ texts, '\n' ∉ t) (u : Text) :
    split '\n' (unlines texts ++ u) = texts ++ split '\n' u := by
  induction texts with
  | nil => rfl
  | cons t ts ih =>
    rw [unlines_cons, List.append_assoc, List.cons_append, split_append_cons]
    rw [split_of_not_mem (h t (by simp)), ih fun v hv => h v (by simp [hv])]
    rfl

theorem split_unlines {texts : List Text} (h : ∀ t ∈ texts, '\n' ∉ t) :
    split '\n' (unlines texts) = texts ++ [[]] := by
  simpa [split] using split_unlines_append h []

end Text

end ScriptManual
