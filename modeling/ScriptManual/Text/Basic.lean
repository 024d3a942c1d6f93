/-!
This module contains the texts that the library works on, as lists of characters, together with the
operations on them that `List` does not have: cutting at a character, trimming the end and
replacing single characters by texts. Cutting, joining and trimming do not ask what the characters are.
-/

namespace ScriptManual

abbrev Text := List Char

namespace Text

section

variable {α : Type} [DecidableEq α]

/--
Cut a text at every occurrence of `sep`. There is always at least one piece.
-/
def split (sep : α) : List α → List (List α)
  | [] => [[]]
  | c :: cs =>
    if c = sep then
      [] :: split sep cs
    else
      match split sep cs with
      | [] => [[c]]
      | piece :: pieces => (c :: piece) :: pieces

/--
Cut a text at the first occurrence of `sep`, which is in neither part. There is no second part if
`sep` does not occur.
-/
def cut (sep : α) : List α → List α × Option (List α)
  | [] => ([], none)
  | c :: cs =>
    if c = sep then
      ([], some cs)
    else
      let (before, after?) := cut sep cs
      (c :: before, after?)

end

def join {α : Type} (sep : List α) (pieces : List (List α)) : List α :=
  sep.intercalate pieces

def trimEnd {α : Type} (p : α → Bool) (t : List α) : List α :=
  (t.reverse.dropWhile p).reverse

def unlines (ls : List Text) : Text :=
  ls.flatMap (· ++ ['\n'])

def replaceChar (c : Char) (r : Text) (t : Text) : Text :=
  t.flatMap fun x => if x = c then r else [x]

def ofNat (n : Nat) : Text :=
  Nat.toDigits 10 n

def ofInt : Int → Text
  | .ofNat n => ofNat n
  | .negSucc n => '-' :: ofNat (n + 1)

def hex (width : Nat) (n : Nat) : Text :=
  (List.range width).reverse.map fun i => Nat.digitChar ((n >>> (4 * i)) % 16)

def hexDigit? (c : Char) : Option Nat :=
  if '0' ≤ c ∧ c ≤ '9' then some (c.toNat - '0'.toNat)
  else if 'a' ≤ c ∧ c ≤ 'f' then some (c.toNat - 'a'.toNat + 10)
  else if 'A' ≤ c ∧ c ≤ 'F' then some (c.toNat - 'A'.toNat + 10)
  else none

def hexValue (t : Text) : Nat :=
  t.foldl (fun n c => 16 * n + (hexDigit? c).getD 0) 0

def decimalValue (t : Text) : Nat :=
  t.foldl (fun n c => 10 * n + (c.toNat - '0'.toNat)) 0

/--
Whether a text comes before another one or is the same. The first character that differs decides, and
a text comes before those that it is the beginning of.
-/
def le : Text → Text → Bool
  | [], _ => true
  | _ :: _, [] => false
  | a :: as, b :: bs => if a = b then le as bs else a.toNat < b.toNat

section

variable {α : Type}

theorem split_ne_nil [DecidableEq α] (sep : α) (t : List α) : split sep t ≠ [] := by
  cases t with
  | nil => simp [split]
  | cons c cs =>
    simp only [split]
    split
    . simp
    . split <;> simp

@[simp]
theorem join_nil (sep : List α) : join sep [] = [] := by
  simp [join, List.intercalate]

@[simp]
theorem join_singleton (sep t : List α) : join sep [t] = t := by
  simp [join, List.intercalate]

theorem join_cons_cons (sep t u : List α) (ts : List (List α)) :
    join sep (t :: u :: ts) = t ++ sep ++ join sep (u :: ts) := by
  simp [join, List.intercalate, List.intersperse]

theorem join_split [DecidableEq α] (sep : α) (t : List α) : join [sep] (split sep t) = t := by
  induction t with
  | nil => simp [split]
  | cons c cs ih =>
    simp only [split]
    cases h : split sep cs with
    | nil => exact absurd h (split_ne_nil sep cs)
    | cons piece pieces =>
      rw [h] at ih
      split
      . next hc => rw [join_cons_cons, ih, hc]; rfl
      . cases pieces with
        | nil => simp_all
        | cons q qs => rw [join_cons_cons] at *; simp [← ih]

end

theorem le_total (s t : Text) : le s t = true ∨ le t s = true := by
  induction s generalizing t with
  | nil => simp [le]
  | cons a as ih =>
    cases t with
    | nil => simp [le]
    | cons b bs =>
      by_cases h : a = b
      . subst h
        simpa [le] using ih bs
      . have hn : a.toNat ≠ b.toNat := fun hn => h (Char.toNat_inj.1 hn)
        simp only [le, h, Ne.symm h, if_false, decide_eq_true_eq]
        omega

theorem le_antisymm {s t : Text} (h : le s t = true) (h' : le t s = true) : s = t := by
  induction s generalizing t with
  | nil =>
    cases t with
    | nil => rfl
    | cons b bs => simp [le] at h'
  | cons a as ih =>
    cases t with
    | nil => simp [le] at h
    | cons b bs =>
      by_cases hc : a = b
      . subst hc
        simp only [le, if_true] at h h'
        rw [ih h h']
      . simp only [le, hc, Ne.symm hc, if_false, decide_eq_true_eq] at h h'
        omega

theorem le_trans {s t u : Text} (h : le s t = true) (h' : le t u = true) : le s u = true := by
  induction s generalizing t u with
  | nil => simp [le]
  | cons a as ih =>
    cases t with
    | nil => simp [le] at h
    | cons b bs =>
      cases u with
      | nil => simp [le] at h'
      | cons c cs =>
        simp only [le] at h h' ⊢
        by_cases hab : a = b
        . subst hab
          by_cases hac : a = c
          . simp only [hac, if_true] at h h' ⊢
            exact ih h h'
          . simpa [hac] using h'
        . by_cases hbc : b = c
          . subst hbc
            simpa [hab] using h
          . simp only [hab, hbc, if_false, decide_eq_true_eq] at h h'
            by_cases hac : a = c
            . subst hac
              omega
            . simp only [hac, if_false, decide_eq_true_eq]
              omega

@[simp]
theorem unlines_nil : unlines [] = [] := rfl

@[simp]
theorem unlines_cons (l : Text) (ls : List Text) : unlines (l :: ls) = l ++ '\n' :: unlines ls := by
  simp [unlines]

@[simp]
theorem unlines_append (ls ms : List Text) : unlines (ls ++ ms) = unlines ls ++ unlines ms := by
  simp [unlines]

end Text

end ScriptManual
