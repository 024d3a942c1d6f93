import ScriptManual.Text.Basic

/-!
This module contains what replacing a character does to a text: nothing where the character is not
there, and in any order if no replacement finds anything in another one.
-/

namespace ScriptManual

namespace Text

theorem replaceChar_cons (c : Char) (r : Text) (x : Char) (xs : Text) :
    replaceChar c r (x :: xs) = (if x = c then r else [x]) ++ replaceChar c r xs := by
  simp [replaceChar]

@[simp]
theorem replaceChar_append (c : Char) (r s t : Text) :
    replaceChar c r (s ++ t) = replaceChar c r s ++ replaceChar c r t := by
  simp [replaceChar]

theorem replaceChar_of_not_mem {c : Char} {t : Text} (h : c ∉ t) (r : Text) :
    replaceChar c r t = t := by
  induction t with
  | nil => rfl
  | cons x xs ih =>
    rw [List.mem_cons, not_or] at h
    rw [replaceChar_cons, if_neg (Ne.symm h.1), ih h.2]
    rfl

theorem not_mem_replaceChar {c : Char} {r : Text} (h : c ∉ r) (t : Text) :
    c ∉ replaceChar c r t := by
  induction t with
  | nil => exact List.not_mem_nil
  | cons x xs ih =>
    rw [replaceChar_cons, List.mem_append, not_or]
    refine ⟨?_, ih⟩
    split
    . exact h
    . next hx => simpa using Ne.symm hx

theorem replaceChar_comm {c d : Char} {r s : Text} (hcd : c ≠ d) (hr : d ∉ r) (hs : c ∉ s)
    (t : Text) : replaceChar d s (replaceChar c r t) = replaceChar c r (replaceChar d s t) := by
  induction t with
  | nil => rfl
  | cons x xs ih =>
    rw [replaceChar_cons, replaceChar_append, ih, replaceChar_cons d, replaceChar_append]
    congr 1
    by_cases hc : x = c
    . have hd : x ≠ d := hc ▸ hcd
      rw [if_pos hc, if_neg hd, replaceChar_of_not_mem hr]
      simp [replaceChar, hc]
    . by_cases hd : x = d
      . rw [if_neg hc, if_pos hd, replaceChar_of_not_mem hs]
        simp [replaceChar, hd]
      . rw [if_neg hc, if_neg hd]
        simp [replaceChar, hc, hd]

end Text

end ScriptManual
