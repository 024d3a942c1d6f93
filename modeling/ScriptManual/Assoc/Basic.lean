/-!
This module contains association lists in which a key keeps the place where it was first set.
-/

namespace ScriptManual

namespace Assoc

variable {κ α : Type} [BEq κ]

/--
Set the value of a key. A key that is there already keeps its place and gets the new value, a new key
goes to the end.
-/
def set (key : κ) (value : α) : List (κ × α) → List (κ × α)
  | [] => [(key, value)]
  | (k, v) :: entries => if k == key then (k, value) :: entries else (k, v) :: set key value entries

variable [LawfulBEq κ]

@[simp]
theorem lookup_set_self (key : κ) (value : α) (entries : List (κ × α)) :
    (set key value entries).lookup key = some value := by
  induction entries with
  | nil => simp [set]
  | cons e es ih =>
    obtain ⟨k, v⟩ := e
    simp only [set]
    split
    . next h => simp [beq_iff_eq.1 h]
    . next h =>
      have hk : (key == k) = false := beq_eq_false_iff_ne.2 fun e => h (by simp [e])
      simp [List.lookup_cons, hk, ih]

theorem lookup_set_of_ne {key other : κ} (value : α) (entries : List (κ × α)) (h : other ≠ key) :
    (set key value entries).lookup other = entries.lookup other := by
  induction entries with
  | nil => simp [set, List.lookup_cons, beq_eq_false_iff_ne.2 h]
  | cons e es ih =>
    obtain ⟨k, v⟩ := e
    simp only [set]
    split
    . next hk =>
      have : (other == k) = false := beq_eq_false_iff_ne.2 (beq_iff_eq.1 hk ▸ h)
      simp [List.lookup_cons, this]
    . simp [List.lookup_cons, ih]

theorem lookup_eq_some_iff_mem {key : κ} {value : α} {entries : List (κ × α)}
    (h : (entries.map Prod.fst).Nodup) :
    entries.lookup key = some value ↔ (key, value) ∈ entries := by
  induction entries with
  | nil => simp
  | cons e es ih =>
    obtain ⟨k, v⟩ := e
    rw [List.map_cons, List.nodup_cons] at h
    rw [List.lookup_cons, List.mem_cons, Prod.mk.injEq]
    split
    . next hk =>
      -- The key is the first one, so it is not that of another entry.
      obtain rfl := beq_iff_eq.1 hk
      have hn : (key, value) ∉ es := fun hm => h.1 (List.mem_map.2 ⟨_, hm, rfl⟩)
      simp [hn, eq_comm]
    . next hk =>
      have hne : key ≠ k := fun e => by simp [e] at hk
      simp [hne, ih h.2]

theorem mem_keys_set {key k : κ} {value : α} {entries : List (κ × α)} :
    k ∈ (set key value entries).map Prod.fst ↔ k = key ∨ k ∈ entries.map Prod.fst := by
  induction entries with
  | nil => simp [set]
  | cons e es ih =>
    obtain ⟨k', v⟩ := e
    simp only [set]
    split
    . next h => simp [beq_iff_eq.1 h]
    . simp only [List.map_cons, List.mem_cons, ih]
      constructor
      . rintro (h | h | h) <;> simp [h]
      . rintro (h | h | h) <;> simp [h]

theorem nodup_keys_set (key : κ) (value : α) {entries : List (κ × α)}
    (h : (entries.map Prod.fst).Nodup) : ((set key value entries).map Prod.fst).Nodup := by
  induction entries with
  | nil => simp [set]
  | cons e es ih =>
    obtain ⟨k, v⟩ := e
    simp only [List.map_cons, List.nodup_cons] at h
    simp only [set]
    split
    . simpa using h
    . next hk =>
      simp only [List.map_cons, List.nodup_cons, mem_keys_set]
      exact ⟨fun hm => hm.elim (fun e => hk (by simp [e])) h.1, ih h.2⟩

theorem mem_keys_iff {entries : List (κ × α)} {key : κ} :
    key ∈ entries.map Prod.fst ↔ ∃ value, entries.lookup key = some value := by
  rw [← Option.isSome_iff_exists, List.lookup_isSome_iff, List.mem_map]
  simp only [beq_iff_eq, @eq_comm _ key]

theorem lookup_foldl_set (key : κ) (entries base : List (κ × α)) :
    (entries.foldl (fun base (k, value) => set k value base) base).lookup key =
      (entries.reverse.lookup key).or (base.lookup key) := by
  induction entries generalizing base with
  | nil => rfl
  | cons e es ih =>
    obtain ⟨k, v⟩ := e
    rw [List.foldl_cons, ih, List.reverse_cons, List.lookup_append, Option.or_assoc]
    congr 1
    by_cases h : key = k
    . subst h
      simp
    . rw [lookup_set_of_ne _ _ h]
      simp [List.lookup_cons, beq_eq_false_iff_ne.2 h]

theorem nodup_keys_foldl_set {entries base : List (κ × α)} (h : (base.map Prod.fst).Nodup) :
    ((entries.foldl (fun base (k, value) => set k value base) base).map Prod.fst).Nodup := by
  induction entries generalizing base with
  | nil => exact h
  | cons e es ih => exact ih (nodup_keys_set e.1 e.2 h)

theorem lookup_filter_ne (entries : List (κ × α)) (removed key : κ) :
    (entries.filter fun (k, _) => k != removed).lookup key =
      if key == removed then none else entries.lookup key := by
  induction entries with
  | nil => simp
  | cons e es ih =>
    obtain ⟨k, v⟩ := e
    by_cases h : k = removed
    . rw [List.filter_cons_of_neg (by simp [h]), ih, List.lookup_cons]
      by_cases hk : key = removed
      . simp [hk]
      . simp [h, beq_eq_false_iff_ne.2 hk]
    . rw [List.filter_cons_of_pos (by simp [h]), List.lookup_cons, List.lookup_cons, ih]
      by_cases hk : key = k
      . simp [hk, h]
      . simp [beq_eq_false_iff_ne.2 hk]

end Assoc

end ScriptManual
