import ScriptManual.Text.Blank
import ScriptManual.Text.Lines

/-!
This module contains how the lines of a text go together with writing them, and how they go together
with cutting the text at line feeds only.
-/

namespace ScriptManual

namespace Text

theorem lines_cons {c : Char} (hc : isLineBreak c = false) {cs first : Text} {rest : List Text}
    (h : lines cs = first :: rest) : lines (c :: cs) = (c :: first) :: rest := by
  have hr : c ≠ '\r' := by
    rintro rfl
    contradiction
  rw [lines]
  . simp [hc, h]
  . rintro cs' rfl
    contradiction

theorem isLineBreak_of_mem_lines {t line : Text} (h : line ∈ lines t) :
    ∀ c ∈ line, isLineBreak c = false := by
  fun_induction lines t generalizing line with
  | case1 => contradiction
  | case2 cs ih =>
    obtain rfl | h := List.mem_cons.1 h
    . simp
    . exact ih h
  | case3 c cs _ hc ih =>
    obtain rfl | h := List.mem_cons.1 h
    . simp
    . exact ih h
  | case4 c cs _ hc hl ih =>
    rw [List.mem_singleton.1 h]
    simpa using hc
  | case5 c cs _ hc first rest hl ih =>
    rw [hl] at ih
    obtain rfl | h := List.mem_cons.1 h
    . have hf := ih (List.mem_cons_self)
      simpa [hc] using hf
    . exact ih (List.mem_cons_of_mem first h)

theorem lines_append_lineFeed {line : Text} (h : ∀ c ∈ line, isLineBreak c = false) (t : Text) :
    lines (line ++ '\n' :: t) = line :: lines t := by
  induction line with
  | nil => rfl
  | cons c cs ih => exact lines_cons (h c (by simp)) (ih fun d hd => h d (by simp [hd]))

theorem lines_unlines {ls : List Text} (h : ∀ l ∈ ls, ∀ c ∈ l, isLineBreak c = false) :
    lines (unlines ls) = ls := by
  induction ls with
  | nil => rfl
  | cons l ls ih =>
    rw [unlines_cons, lines_append_lineFeed (h l (by simp)), ih fun l' hl => h l' (by simp [hl])]

theorem isBlank_of_isLineBreak {c : Char} (h : isLineBreak c = true) : isBlank c = true := by
  simp only [isLineBreak, isBlank, Bool.or_eq_true, Bool.and_eq_true, beq_iff_eq,
    decide_eq_true_eq] at *
  omega

theorem lines_cons_of_isLineBreak {c : Char} (hc : isLineBreak c = true) (hr : c ≠ '\r')
    (cs : Text) : lines (c :: cs) = [] :: lines cs := by
  rw [lines]
  . simp [hc]
  . rintro cs' rfl
    contradiction

theorem lines_ne_nil {t : Text} (h : t ≠ []) : lines t ≠ [] := by
  fun_cases lines t with
  | case1 => contradiction
  | _ => simp_all

theorem mem_of_mem_lines {t line : Text} {c : Char} (h : line ∈ lines t) (hc : c ∈ line) : c ∈ t := by
  fun_induction lines t generalizing line with
  | case1 => contradiction
  | case2 cs ih =>
    obtain rfl | h := List.mem_cons.1 h
    . contradiction
    . simp [ih h hc]
  | case3 c' cs _ _ ih =>
    obtain rfl | h := List.mem_cons.1 h
    . contradiction
    . simp [ih h hc]
  | case4 c' cs =>
    rw [List.mem_singleton.1 h, List.mem_singleton] at hc
    simp [hc]
  | case5 c' cs _ _ first rest hl ih =>
    rw [hl] at ih
    obtain rfl | h := List.mem_cons.1 h
    . obtain rfl | hc := List.mem_cons.1 hc
      . simp
      . simp [ih List.mem_cons_self hc]
    . simp [ih (List.mem_cons_of_mem first h) hc]

theorem lines_append_cons {s : Text} (hs : '\r' ∉ s) (t : Text) :
    lines (s ++ '\n' :: t) = lines (s ++ ['\n']) ++ lines t := by
  induction s with
  | nil => rfl
  | cons c cs ih =>
    rw [List.mem_cons, not_or] at hs
    rw [List.cons_append, List.cons_append]
    cases hc : isLineBreak c with
    | true =>
      rw [lines_cons_of_isLineBreak hc (Ne.symm hs.1), lines_cons_of_isLineBreak hc (Ne.symm hs.1),
        ih hs.2]
      rfl
    | false =>
      obtain ⟨first, rest, hl⟩ := List.exists_cons_of_ne_nil
        (lines_ne_nil (t := cs ++ ['\n']) (by simp))
      rw [lines_cons hc hl, lines_cons hc (by rw [ih hs.2, hl]; rfl)]
      rfl

theorem lines_unlines_eq_flatMap {ls : List Text} (h : ∀ l ∈ ls, '\r' ∉ l) :
    lines (unlines ls) = ls.flatMap fun l => lines (l ++ ['\n']) := by
  induction ls with
  | nil => rfl
  | cons l ls ih =>
    rw [unlines_cons, lines_append_cons (h l (by simp)), ih fun l' hl => h l' (by simp [hl])]
    rfl

theorem lines_concat_lineFeed {t : Text} (ht : '\r' ∉ t) :
    lines (t ++ ['\n']) = lines t ∨ lines (t ++ ['\n']) = lines t ++ [[]] := by
  induction t with
  | nil => exact .inr rfl
  | cons c cs ih =>
    rw [List.mem_cons, not_or] at ht
    rw [List.cons_append]
    cases hc : isLineBreak c with
    | true =>
      rw [lines_cons_of_isLineBreak hc (Ne.symm ht.1), lines_cons_of_isLineBreak hc (Ne.symm ht.1)]
      obtain h | h := ih ht.2 <;> simp [h]
    | false =>
      by_cases hcs : cs = []
      . subst hcs
        left
        rw [List.nil_append, lines_cons hc rfl]
        simp [lines, hc]
      . obtain ⟨first, rest, hl⟩ := List.exists_cons_of_ne_nil (lines_ne_nil hcs)
        rw [hl] at ih
        rw [lines_cons hc hl]
        obtain h | h := ih ht.2
        . exact .inl (lines_cons hc h)
        . exact .inr (lines_cons hc h)

end Text

end ScriptManual
