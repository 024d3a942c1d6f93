import Mathlib.Data.List.Lex
import Mathlib.Data.List.Sort
import ScriptManual.Text.Wide

/-!
This module contains the order of wide texts, which is that of the numbers of their code points, and
what replacing a character does to them.
-/

namespace ScriptManual

theorem CodePoint.number_inj {p q : CodePoint} : p.number = q.number ↔ p = q := by
  constructor
  . intro h
    cases p with
    | char c =>
      cases q with
      | char d => rw [Char.toNat_inj.1 h]
      | surrogate offset =>
        have hv : c.toNat < 0xD800 ∨ 0xDFFF < c.toNat ∧ c.toNat < 0x110000 := c.valid
        simp only [number] at h
        omega
    | surrogate offset =>
      cases q with
      | char d =>
        have hv : d.toNat < 0xD800 ∨ 0xDFFF < d.toNat ∧ d.toNat < 0x110000 := d.valid
        simp only [number] at h
        omega
      | surrogate offset' =>
        simp only [number] at h
        congr 1
        omega
  . rintro rfl
    rfl

namespace WideText

theorem map_number_inj {s t : WideText} : s.map CodePoint.number = t.map CodePoint.number ↔ s = t :=
  (List.map_injective_iff.2 fun _ _ => CodePoint.number_inj.1).eq_iff

theorem le_iff {s t : WideText} :
    le s t = true ↔ ¬List.Lex (· < ·) (t.map CodePoint.number) (s.map CodePoint.number) := by
  induction s generalizing t with
  | nil => simp [le]
  | cons a as ih =>
    cases t with
    | nil => simp [le]
    | cons b bs =>
      rw [List.map_cons, List.map_cons, List.cons_lex_cons_iff, CodePoint.number_inj, le]
      by_cases h : a = b
      . simp [h, ih]
      . have hn : a.number ≠ b.number := fun hn => h (CodePoint.number_inj.1 hn)
        rw [if_neg h, decide_eq_true_eq]
        simp only [Ne.symm h, false_and, or_false]
        omega

theorem lex_of_le {s t : WideText} (h : le s t = true) (hne : s ≠ t) :
    List.Lex (· < ·) (s.map CodePoint.number) (t.map CodePoint.number) := by
  obtain hlt | he | hlt := trichotomous_of (List.Lex (· < ·)) (s.map CodePoint.number)
    (t.map CodePoint.number)
  . exact hlt
  . exact absurd (map_number_inj.1 he) hne
  . exact absurd hlt (le_iff.1 h)

instance : IsTrans WideText (le · ·) where
  trans _ _ _ hst htu := le_iff.2 (IsOrderConnected.neg_trans (le_iff.1 htu) (le_iff.1 hst))

instance : Std.Total (α := WideText) (le · ·) where
  total s t := by
    rw [le_iff, le_iff, ← not_and_or]
    exact fun ⟨h, h'⟩ => asymm_of _ h h'

instance : Std.Antisymm (α := WideText) (le · ·) where
  antisymm s t hst hts := by
    by_contra hne
    exact le_iff.1 hts (lex_of_le hst hne)

theorem pairwise_mergeSort (ts : List WideText) : (ts.mergeSort le).Pairwise (le · ·) := by
  simpa using List.pairwise_mergeSort' (le · · : WideText → WideText → Prop) ts

theorem mergeSort_eq_insertionSort (ts : List WideText) :
    ts.mergeSort le = ts.insertionSort (le · ·) := by
  simpa using List.mergeSort_eq_insertionSort (le · · : WideText → WideText → Prop) ts

theorem not_mem_ofText {c : Char} {t : Text} (h : c ∉ t) : CodePoint.char c ∉ ofText t := by
  simpa [ofText] using h

theorem not_mem_replaceChar {c : Char} {r : Text} (h : c ∉ r) (w : WideText) :
    CodePoint.char c ∉ replaceChar c r w := by
  unfold replaceChar
  rw [List.mem_flatMap]
  rintro ⟨p, -, hp⟩
  split at hp
  . exact not_mem_ofText h hp
  . next hne => exact hne (List.mem_singleton.1 hp).symm

end WideText

end ScriptManual
