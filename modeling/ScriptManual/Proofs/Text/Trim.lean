import Mathlib.Data.List.TakeWhile
import ScriptManual.Text.Basic

/-!
This module contains what is left of a text when its end is trimmed.
-/

namespace ScriptManual

namespace Text

variable {α : Type} {p : α → Bool}

theorem trimEnd_append {e : List α} (he : ∀ c ∈ e, p c = true) (t : List α) :
    trimEnd p (t ++ e) = trimEnd p t := by
  unfold trimEnd
  rw [List.reverse_append, List.dropWhile_append_of_pos]
  simpa using he

theorem trimEnd_append_of_getLast? (s : List α) {t : List α} {c : α} (hl : t.getLast? = some c)
    (hc : p c = false) : trimEnd p (s ++ t) = s ++ t := by
  obtain ⟨t', rfl⟩ := List.getLast?_eq_some_iff.1 hl
  have hr : (s ++ (t' ++ [c])).reverse = c :: (s ++ t').reverse := by simp
  unfold trimEnd
  rw [hr, List.dropWhile_cons_of_neg (by simp [hc]), ← hr, List.reverse_reverse]

theorem getLast?_trimEnd {t : List α} {c : α} (h : (trimEnd p t).getLast? = some c) :
    p c = false := by
  unfold trimEnd at h
  rw [List.getLast?_reverse] at h
  simpa [h] using List.head?_dropWhile_not p t.reverse

theorem exists_eq_trimEnd_append (p : α → Bool) (t : List α) :
    ∃ e, t = trimEnd p t ++ e ∧ ∀ c ∈ e, p c = true := by
  refine ⟨(t.reverse.takeWhile p).reverse, ?_, ?_⟩
  . unfold trimEnd
    rw [← List.reverse_append, List.takeWhile_append_dropWhile, List.reverse_reverse]
  . intro c hc
    exact List.mem_takeWhile_imp (List.mem_reverse.1 hc)

end Text

end ScriptManual
