import ScriptManual.Proofs.Path.Resolve

/-!
This module contains what is known of the places that paths lead to if there are links. It does not
count how many links may lead into one another, as long as they are enough, and nothing on the way to
such a place is a link.
-/

namespace ScriptManual

namespace Path

variable {link? : Place → Option WideText}

section

variable {follow follow' : Place → List WideText → Except Unresolvable Place} {place q : Place}

theorem placeFrom_append (names more : List WideText) :
    placeFrom link? follow place (names ++ more) =
      placeFrom link? follow place names >>= fun q => placeFrom link? follow q more := by
  induction names generalizing place with
  | nil => rfl
  | cons name names ih =>
    rw [List.cons_append, placeFrom, placeFrom]
    split
    . exact ih
    . split
      . rfl
      . exact ih
      . rw [bind_assoc]
        exact congrArg _ (funext fun _ => ih)

theorem placeFrom_mono
    (hf : ∀ place names q, follow place names = .ok q → follow' place names = .ok q)
    {names : List WideText} (h : placeFrom link? follow place names = .ok q) :
    placeFrom link? follow' place names = .ok q := by
  induction names generalizing place with
  | nil => exact h
  | cons name names ih =>
    rw [placeFrom] at h ⊢
    split at h
    . next hd =>
      rw [if_pos hd]
      exact ih h
    . next hd =>
      rw [if_neg hd]
      split at h
      . contradiction
      . exact ih h
      . obtain ⟨r, hr, h⟩ := exists_of_bind_eq_ok h
        rw [hf _ _ r hr]
        exact ih h

end

theorem placeWithin_succ {p : Path} {depth : Nat} {place q : Place} {names : List WideText}
    (h : placeWithin link? p depth place names = .ok q) :
    placeWithin link? p (depth + 1) place names = .ok q := by
  induction depth generalizing place q names with
  | zero => exact placeFrom_mono (by simp) h
  | succ depth ih => exact placeFrom_mono (fun _ _ _ => ih) h

theorem placeWithin_of_le {p : Path} {depth depth' : Nat} {place q : Place} {names : List WideText}
    (hle : depth ≤ depth') (h : placeWithin link? p depth place names = .ok q) :
    placeWithin link? p depth' place names = .ok q := by
  induction hle with
  | refl => exact h
  | step _ ih => exact placeWithin_succ ih

/--
Whether a place can be gone to name by name: no name is two dots, the system can be asked for all of
them and none is a link.
-/
def IsSettled (link? : Place → Option WideText) (place : Place) : Prop :=
  ∀ front name, front ++ [name] <+: place →
    name ≠ dots ∧ nameFault? front name = none ∧ link? (front ++ [name]) = none

theorem isSettled_nil : IsSettled link? [] := by
  intro front name h
  simp at h

section

variable {place : Place} {name : WideText}

theorem IsSettled.of_prefix {front : Place} (h : IsSettled link? place) (hp : front <+: place) :
    IsSettled link? front :=
  fun front' name' h' => h front' name' (h'.trans hp)

theorem IsSettled.concat (h : IsSettled link? place) (hname : name ≠ dots)
    (hf : nameFault? place name = none) (hl : link? (place ++ [name]) = none) :
    IsSettled link? (place ++ [name]) := by
  intro front name' hp
  rw [List.prefix_concat_iff] at hp
  obtain he | hp := hp
  . obtain ⟨rfl, hn⟩ := List.append_inj' he rfl
    obtain rfl := List.singleton_inj.1 hn
    exact ⟨hname, hf, hl⟩
  . exact h front name' hp

theorem IsSettled.not_mem (h : IsSettled link? place) : dots ∉ place := by
  intro hm
  obtain ⟨front, back, rfl⟩ := List.append_of_mem hm
  exact (h front dots ⟨back, by simp⟩).1 rfl

end

theorem isSettled_placeFrom {follow : Place → List WideText → Except Unresolvable Place}
    (hf : ∀ place names q, IsSettled link? place → follow place names = .ok q → IsSettled link? q)
    {place q : Place} {names : List WideText} (hs : IsSettled link? place)
    (h : placeFrom link? follow place names = .ok q) : IsSettled link? q := by
  induction names generalizing place with
  | nil => exact Except.ok.inj h ▸ hs
  | cons name names ih =>
    rw [placeFrom] at h
    split at h
    . exact ih (hs.of_prefix (List.dropLast_prefix place)) h
    . next hd =>
      split at h
      . contradiction
      . next he hl => exact ih (hs.concat hd he hl) h
      . obtain ⟨r, hr, h⟩ := exists_of_bind_eq_ok h
        refine ih (hf _ _ r ?_ hr) h
        unfold linkStart
        split
        . exact isSettled_nil
        . exact hs

theorem isSettled_placeWithin {p : Path} {depth : Nat} {place q : Place} {names : List WideText}
    (hs : IsSettled link? place) (h : placeWithin link? p depth place names = .ok q) :
    IsSettled link? q := by
  induction depth generalizing place q names with
  | zero => exact isSettled_placeFrom (by simp) hs h
  | succ depth ih => exact isSettled_placeFrom (fun _ _ _ => ih) hs h

theorem placeFrom_of_isSettled (follow : Place → List WideText → Except Unresolvable Place)
    {place : Place} {names : List WideText} (h : IsSettled link? (place ++ names)) :
    placeFrom link? follow place names = .ok (place ++ names) := by
  induction names generalizing place with
  | nil => rw [placeFrom, List.append_nil]
  | cons name names ih =>
    obtain ⟨hd, he, hl⟩ := h place name ⟨names, by simp⟩
    rw [placeFrom, if_neg hd, he, hl]
    have happend : place ++ name :: names = (place ++ [name]) ++ names := by simp
    rw [happend] at h ⊢
    exact ih h

theorem resolve?_of_resolve?_eq_ok {directory p q : Path} (h : resolve? link? directory p = .ok q) :
    q.IsResolved ∧ resolve? link? directory q = .ok q := by
  obtain ⟨place, hplace, rfl⟩ := exists_of_map_eq_ok h
  have hs := isSettled_placeWithin isSettled_nil hplace
  have hq : Path.IsResolved ⟨.slash, place⟩ := ⟨rfl, hs.not_mem⟩
  refine ⟨hq, ?_⟩
  obtain ⟨follow, hf⟩ := placeWithin_eq link? ⟨.slash, place⟩ assumedMaxLinkDepth
  have hplace' : placeFrom link? follow [] place = .ok place := placeFrom_of_isSettled follow hs
  rw [resolve?, hf, hq.append_eq, hplace']
  rfl

end Path

end ScriptManual
