import Mathlib.Data.List.Basic
import ScriptManual.Text.Pattern

/-!
This module contains what the ways of a pattern say about the text that they are found on.
-/

namespace ScriptManual

namespace Pattern

variable {α β : Type}

@[simp]
theorem Piece.text_append (front rest : Text) :
    Piece.text ⟨front ++ rest, front.length⟩ = front := by
  simp [Piece.text]

theorem getElem?_rests_zero (p : Char → Bool) (t : Text) : (rests p t)[0]? = some t := by
  cases t <;> rfl

theorem getElem?_rests (p : Char → Bool) (t : Text) (n : Nat) (rest : Text) :
    (rests p t)[n]? = some rest ↔
      ∃ front, t = front ++ rest ∧ front.length = n ∧ ∀ c ∈ front, p c = true := by
  induction n generalizing t with
  | zero =>
    rw [getElem?_rests_zero]
    constructor
    . intro h
      cases h
      exact ⟨[], rfl, rfl, by simp⟩
    . rintro ⟨front, rfl, hn, -⟩
      rw [List.length_eq_zero_iff.1 hn]
      rfl
  | succ n ih =>
    cases t with
    | nil =>
      simp only [rests, List.getElem?_cons_succ, List.getElem?_nil, reduceCtorEq, false_iff]
      rintro ⟨front, ht, hn, -⟩
      simp_all
    | cons c cs =>
      simp only [rests, List.getElem?_cons_succ]
      cases hc : p c with
      | false =>
        simp only [Bool.false_eq_true, if_false, List.getElem?_nil, reduceCtorEq, false_iff]
        rintro ⟨front, ht, hn, hp⟩
        cases front with
        | nil => contradiction
        | cons d ds =>
          cases ht
          simp [hc] at hp
      | true =>
        simp only [if_true, ih]
        constructor
        . rintro ⟨front, rfl, rfl, hp⟩
          exact ⟨c :: front, rfl, rfl, by simpa [hc] using hp⟩
        . rintro ⟨front, ht, hn, hp⟩
          cases front with
          | nil => contradiction
          | cons d ds =>
            cases ht
            exact ⟨ds, rfl, Nat.succ.inj hn, fun e he => hp e (List.mem_cons_of_mem _ he)⟩

theorem mem_ways_bind {p : Pattern α} {f : α → Pattern β} {t rest : Text} {b : β} :
    (b, rest) ∈ (p >>= f).ways t ↔ ∃ a mid, (a, mid) ∈ p.ways t ∧ (b, rest) ∈ (f a).ways mid := by
  simp

theorem mem_ways_char {p : Char → Bool} {t rest : Text} {c : Char} :
    (c, rest) ∈ (char p).ways t ↔ t = c :: rest ∧ p c = true := by
  cases t with
  | nil => simp
  | cons d ds =>
    rw [ways_char_cons]
    split
    . next h =>
      simp only [List.mem_singleton, Prod.mk.injEq, List.cons.injEq]
      constructor
      . rintro ⟨rfl, rfl⟩
        exact ⟨⟨rfl, rfl⟩, h⟩
      . rintro ⟨⟨rfl, rfl⟩, -⟩
        exact ⟨rfl, rfl⟩
    . next h =>
      simp only [List.not_mem_nil, List.cons.injEq, false_iff]
      rintro ⟨⟨rfl, rfl⟩, hc⟩
      exact h hc

theorem mem_ways_literal {word t rest : Text} {read : Unit} :
    (read, rest) ∈ (literal word).ways t ↔ t = word ++ rest := by
  unfold ways literal
  rw [eq_comm, ← List.isPrefixOf?_eq_some_iff_append_eq]
  cases word.isPrefixOf? t with
  | none => simp
  | some r => simp [eq_comm]

theorem mem_ways_run {p : Char → Bool} {t rest : Text} {piece : Piece} :
    (piece, rest) ∈ (run p).ways t ↔
      ∃ front, t = front ++ rest ∧ piece = ⟨t, front.length⟩ ∧ ∀ c ∈ front, p c = true := by
  unfold ways run
  simp only [List.mem_reverse, List.mem_map, Prod.exists, List.mem_zipIdx_iff_getElem?,
    getElem?_rests, Prod.mk.injEq]
  constructor
  . rintro ⟨r, n, ⟨front, ht, rfl, hp⟩, rfl, rfl⟩
    exact ⟨front, ht, rfl, hp⟩
  . rintro ⟨front, ht, rfl, hp⟩
    exact ⟨rest, front.length, ⟨front, ht, rfl, hp⟩, rfl, rfl⟩

theorem mem_ways_runFrom {first p : Char → Bool} {t rest : Text} {piece : Piece} :
    (piece, rest) ∈ (runFrom first p).ways t ↔
      ∃ c front, t = c :: front ++ rest ∧ piece = ⟨t, (c :: front).length⟩ ∧ first c = true
        ∧ ∀ d ∈ front, p d = true := by
  cases t with
  | nil =>
    unfold ways runFrom
    simp
  | cons d ds =>
    unfold ways runFrom
    dsimp only
    split
    . next h =>
      simp only [List.mem_reverse, List.mem_map, Prod.exists, List.mem_zipIdx_iff_getElem?,
        getElem?_rests, Prod.mk.injEq]
      constructor
      . rintro ⟨r, n, ⟨front, rfl, rfl, hp⟩, rfl, rfl⟩
        exact ⟨d, front, rfl, rfl, h, hp⟩
      . rintro ⟨c, front, ht, rfl, -, hp⟩
        cases ht
        exact ⟨rest, front.length, ⟨front, rfl, rfl, hp⟩, rfl, rfl⟩
    . next h =>
      simp only [List.not_mem_nil, false_iff]
      rintro ⟨c, front, ht, -, hc, -⟩
      cases ht
      exact h hc

theorem mem_ways_run1 {p : Char → Bool} {t rest : Text} {piece : Piece} :
    (piece, rest) ∈ (run1 p).ways t ↔
      ∃ front, t = front ++ rest ∧ piece = ⟨t, front.length⟩ ∧ front ≠ []
        ∧ ∀ c ∈ front, p c = true := by
  rw [run1, mem_ways_runFrom]
  constructor
  . rintro ⟨c, front, ht, hpiece, hc, hf⟩
    exact ⟨c :: front, ht, hpiece, List.cons_ne_nil c front, by simpa [hc] using hf⟩
  . rintro ⟨front, ht, hpiece, hne, hf⟩
    obtain ⟨c, cs, rfl⟩ := List.exists_cons_of_ne_nil hne
    exact ⟨c, cs, ht, hpiece, hf c (by simp), fun d hd => hf d (by simp [hd])⟩

theorem mem_ways_optional {p : Pattern α} {t rest : Text} {a? : Option α} :
    (a?, rest) ∈ (optional p).ways t ↔
      (∃ a, a? = some a ∧ (a, rest) ∈ p.ways t) ∨ (a? = none ∧ rest = t) := by
  rw [ways, optional]
  simp only [List.mem_append, List.mem_map, Prod.exists, List.mem_singleton, Prod.mk.injEq]
  constructor
  . rintro (⟨a, r, h, rfl, rfl⟩ | h)
    . exact .inl ⟨a, rfl, h⟩
    . exact .inr h
  . rintro (⟨a, rfl, h⟩ | h)
    . exact .inl ⟨a, rest, h, rfl, rfl⟩
    . exact .inr h

theorem mem_ways_restOfLine {t rest line : Text} :
    (line, rest) ∈ restOfLine.ways t ↔ line = t ∧ rest = [] ∧ '\n' ∉ t := by
  unfold ways restOfLine
  split
  . next h => simp [h]
  . next h => simp [h]

theorem exists_mem_ways_of_match? {p : Pattern α} {t : Text} {a : α} (h : p.match? t = some a) :
    ∃ rest, (a, rest) ∈ p.ways t := by
  unfold match? at h
  obtain ⟨⟨b, rest⟩, hb, rfl⟩ := Option.map_eq_some_iff.1 h
  exact ⟨rest, List.mem_of_mem_head? hb⟩

theorem match?_of_head? {p : Pattern α} {t rest : Text} {a : α}
    (h : (p.ways t).head? = some (a, rest)) : p.match? t = some a := by
  rw [match?, h]
  rfl

/--
What is preferred after the preferred way of the first part is preferred overall, because it comes
before everything that falls back on another way.
-/
theorem head?_ways_bind {p : Pattern α} {f : α → Pattern β} {t mid rest : Text} {a : α} {b : β}
    (hp : (p.ways t).head? = some (a, mid)) (hf : ((f a).ways mid).head? = some (b, rest)) :
    ((p >>= f).ways t).head? = some (b, rest) := by
  obtain ⟨ways, hw⟩ := List.head?_eq_some_iff.1 hp
  rw [ways_bind, hw, List.flatMap_cons, List.head?_append, hf]
  rfl

theorem head?_ways_char {p : Char → Bool} {c : Char} (h : p c = true) (rest : Text) :
    ((char p).ways (c :: rest)).head? = some (c, rest) := by
  rw [ways_char_cons, if_pos h]
  rfl

theorem head?_ways_literal (word rest : Text) :
    ((literal word).ways (word ++ rest)).head? = some ((), rest) := by
  have h : word.isPrefixOf? (word ++ rest) = some rest := by
    rw [List.isPrefixOf?_eq_some_iff_append_eq]
  unfold ways literal
  rw [h]
  rfl

theorem getLast?_zipIdx_rests {p : Char → Bool} {front rest : Text}
    (hf : ∀ c ∈ front, p c = true) (hr : ∀ c ∈ rest.head?, p c = false) (n : Nat) :
    ((rests p (front ++ rest)).zipIdx n).getLast? = some (rest, n + front.length) := by
  induction front generalizing n with
  | nil =>
    cases rest with
    | nil => rfl
    | cons c cs => simp [rests, hr c rfl]
  | cons c cs ih =>
    rw [List.cons_append, rests, if_pos (hf c (by simp)), List.zipIdx_cons, List.getLast?_cons]
    rw [ih fun d hd => hf d (by simp [hd])]
    simp
    omega

theorem head?_ways_run {p : Char → Bool} {front rest : Text} (hf : ∀ c ∈ front, p c = true)
    (hr : ∀ c ∈ rest.head?, p c = false) :
    ((run p).ways (front ++ rest)).head? = some (⟨front ++ rest, front.length⟩, rest) := by
  unfold ways run
  rw [List.head?_reverse, List.getLast?_map, getLast?_zipIdx_rests hf hr]
  simp

theorem head?_ways_runFrom {first p : Char → Bool} {c : Char} {front rest : Text}
    (hc : first c = true) (hf : ∀ d ∈ front, p d = true) (hr : ∀ d ∈ rest.head?, p d = false) :
    ((runFrom first p).ways (c :: front ++ rest)).head? =
      some (⟨c :: front ++ rest, (c :: front).length⟩, rest) := by
  rw [List.cons_append]
  unfold ways runFrom
  dsimp only
  rw [if_pos hc, List.head?_reverse, List.getLast?_map, getLast?_zipIdx_rests hf hr]
  simp

theorem head?_ways_run1 {p : Char → Bool} {front rest : Text} (hne : front ≠ [])
    (hf : ∀ c ∈ front, p c = true) (hr : ∀ c ∈ rest.head?, p c = false) :
    ((run1 p).ways (front ++ rest)).head? = some (⟨front ++ rest, front.length⟩, rest) := by
  obtain ⟨c, cs, rfl⟩ := List.exists_cons_of_ne_nil hne
  exact head?_ways_runFrom (hf c (by simp)) (fun d hd => hf d (by simp [hd])) hr

theorem head?_ways_optional {p : Pattern α} {t rest : Text} {a : α}
    (h : (p.ways t).head? = some (a, rest)) :
    ((optional p).ways t).head? = some (some a, rest) := by
  obtain ⟨ways, hw⟩ := List.head?_eq_some_iff.1 h
  rw [Pattern.ways, optional, hw]
  rfl

theorem ways_optional_bind_of_nil {p : Pattern α} {f : Option α → Pattern β} {t : Text}
    (h : ∀ a mid, (a, mid) ∈ p.ways t → (f (some a)).ways mid = []) :
    (optional p >>= f).ways t = (f none).ways t := by
  rw [ways_bind]
  show List.flatMap _ (_ ++ [(none, t)]) = _
  rw [List.flatMap_append, List.flatMap_eq_nil_iff.2]
  . simp
  . rintro ⟨a?, rest⟩ hm
    obtain ⟨⟨a, mid⟩, hm, he⟩ := List.mem_map.1 hm
    cases he
    exact h a rest hm

theorem head?_ways_restOfLine {t : Text} (h : '\n' ∉ t) :
    (restOfLine.ways t).head? = some (t, []) := by
  unfold ways restOfLine
  rw [if_neg h]
  rfl

end Pattern

end ScriptManual
