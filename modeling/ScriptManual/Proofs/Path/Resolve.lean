import ScriptManual.Path.Map

/-!
This module contains the form of the paths that users' paths are resolved to, and what resolving comes
to where there are no links.
-/

namespace ScriptManual

theorem eq_ok_of_mapError {ε ε' α : Type} {f : ε → ε'} {x : Except ε α} {a : α}
    (h : x.mapError f = .ok a) : x = .ok a := by
  cases x with
  | error e => contradiction
  | ok b =>
    cases h
    rfl

theorem exists_of_mapError_eq_error {ε ε' α : Type} {f : ε → ε'} {x : Except ε α} {e : ε'}
    (h : x.mapError f = .error e) : ∃ e', x = .error e' ∧ f e' = e := by
  cases x with
  | error e' => exact ⟨e', rfl, Except.error.inj h⟩
  | ok a => contradiction

theorem exists_of_map_eq_ok {ε α β : Type} {f : α → β} {x : Except ε α} {b : β}
    (h : x.map f = .ok b) : ∃ a, x = .ok a ∧ f a = b := by
  cases x with
  | error e => contradiction
  | ok a => exact ⟨a, rfl, Except.ok.inj h⟩

theorem exists_of_bind_eq_ok {ε α β : Type} {x : Except ε α} {f : α → Except ε β} {b : β}
    (h : x >>= f = .ok b) : ∃ a, x = .ok a ∧ f a = .ok b := by
  cases x with
  | error e => contradiction
  | ok a => exact ⟨a, rfl, h⟩

theorem bind_eq_error_cases {ε α β : Type} {x : Except ε α} {f : α → Except ε β} {e : ε}
    (h : x >>= f = .error e) : x = .error e ∨ ∃ a, x = .ok a ∧ f a = .error e := by
  cases x with
  | error e' => exact .inl (Except.error.inj h ▸ rfl)
  | ok a => exact .inr ⟨a, rfl, h⟩

namespace Path

/--
Whether a path starts with one slash and has no two dots in it. Such paths lead to the same place only
if they are equal.
-/
structure IsResolved (p : Path) : Prop where
  root_eq : p.root = .slash
  not_mem : dots ∉ p.components

theorem append_of_isAbsolute {p : Path} (h : p.isAbsolute = true) (directory : Path) :
    directory ++ p = p := by
  show append directory p = p
  rw [append, if_pos h]

theorem IsResolved.isAbsolute {p : Path} (hp : p.IsResolved) : p.isAbsolute = true := by
  rw [Path.isAbsolute, hp.root_eq]
  rfl

theorem IsResolved.append_eq {p : Path} (hp : p.IsResolved) (directory : Path) :
    directory ++ p = p :=
  append_of_isAbsolute hp.isAbsolute directory

def descend (place : Place) (names : List WideText) : Place :=
  names.foldl (fun place name => if name = dots then place.dropLast else place ++ [name]) place

theorem reverse_follow (visited components : List WideText) :
    (follow visited components).reverse = descend visited.reverse components := by
  induction components generalizing visited with
  | nil => rfl
  | cons c cs ih =>
    show (follow (if c = dots then visited.tail else c :: visited) cs).reverse =
      descend (if c = dots then visited.reverse.dropLast else visited.reverse ++ [c]) cs
    rw [ih]
    split
    . rw [List.dropLast_reverse]
    . rw [List.reverse_cons]

theorem descend_eq_append {names : List WideText} (h : dots ∉ names) (place : Place) :
    descend place names = place ++ names := by
  induction names generalizing place with
  | nil => simp [descend]
  | cons name names ih =>
    rw [List.mem_cons, not_or] at h
    show descend (if name = dots then place.dropLast else place ++ [name]) names = _
    rw [if_neg (Ne.symm h.1), ih h.2, List.append_assoc]
    rfl

def normalize (directory p : Path) : Path :=
  ⟨.slash, descend [] (directory ++ p).components⟩

theorem IsResolved.absolute_eq {p : Path} (hp : p.IsResolved) (directory : Path) :
    absolute directory p = p := by
  unfold absolute
  dsimp only
  rw [hp.append_eq, reverse_follow, List.reverse_nil, descend_eq_append hp.not_mem]
  rfl

section

variable {follow : Place → List WideText → Except Unresolvable Place} {place q : Place}
  {names : List WideText}

theorem eq_descend_of_placeFrom (h : placeFrom noLinks follow place names = .ok q) :
    q = descend place names := by
  induction names generalizing place with
  | nil => exact (Except.ok.inj h).symm
  | cons name names ih =>
    show q = descend (if name = dots then place.dropLast else place ++ [name]) names
    rw [placeFrom] at h
    split at h
    . next hn =>
      rw [if_pos hn]
      exact ih h
    . next hn =>
      rw [if_neg hn]
      split at h
      . contradiction
      . exact ih h
      . contradiction

end

theorem placeWithin_eq (link? : Place → Option WideText) (p : Path) (depth : Nat) :
    ∃ follow, placeWithin link? p depth = placeFrom link? follow := by
  cases depth with
  | zero => exact ⟨_, rfl⟩
  | succ depth => exact ⟨_, rfl⟩

theorem eq_normalize_of_resolve? {directory p q : Path} (h : resolve? noLinks directory p = .ok q) :
    q = normalize directory p := by
  obtain ⟨place, hplace, rfl⟩ := exists_of_map_eq_ok h
  obtain ⟨follow, hf⟩ := placeWithin_eq noLinks p assumedMaxLinkDepth
  rw [hf] at hplace
  rw [eq_descend_of_placeFrom hplace, normalize]

end Path

end ScriptManual
