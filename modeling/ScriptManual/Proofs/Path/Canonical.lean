import ScriptManual.Proofs.Path.Resolve
import ScriptManual.Proofs.Text.Split
import ScriptManual.Proofs.Text.Trim

/-!
This module contains the one form that all of users' paths end in. Such a path is written as a text
that stands for the path itself, whatever it is read against.
-/

namespace ScriptManual

namespace Path

structure IsComponent (c : WideText) : Prop where
  ne_nil : c ≠ []
  ne_dot : c ≠ dot
  not_mem : .char '/' ∉ c
  isNameable : c.isNameable = true

def WellFormed (p : Path) : Prop :=
  ∀ c ∈ p.components, IsComponent c

structure IsClean (p : Path) : Prop where
  wellFormed : p.WellFormed
  hasNul_eq : p.hasNul = false

variable {p q : Path}

theorem hasNul_eq_false_iff : p.hasNul = false ↔ ∀ c ∈ p.components, .char '\x00' ∉ c := by
  simp [hasNul]

theorem isClean_iff : p.IsClean ↔ ∀ c ∈ p.components, IsComponent c ∧ .char '\x00' ∉ c := by
  constructor
  . intro h c hc
    exact ⟨h.wellFormed c hc, hasNul_eq_false_iff.1 h.hasNul_eq c hc⟩
  . intro h
    exact ⟨fun c hc => (h c hc).1, hasNul_eq_false_iff.2 fun c hc => (h c hc).2⟩

theorem mem_components_append {c : WideText} (h : c ∈ (p ++ q).components) :
    c ∈ p.components ∨ c ∈ q.components := by
  change c ∈ (append p q).components at h
  unfold append at h
  split at h
  . exact .inr h
  . exact List.mem_append.1 h

theorem IsClean.append (hp : p.IsClean) (hq : q.IsClean) : (p ++ q).IsClean := by
  rw [isClean_iff] at hp hq ⊢
  intro c hc
  exact (mem_components_append hc).elim (hp c) (hq c)

theorem mem_descend {c : WideText} {place : Place} {names : List WideText}
    (h : c ∈ descend place names) : c ∈ place ∨ c ∈ names := by
  induction names generalizing place with
  | nil => exact .inl h
  | cons name names ih =>
    change c ∈ descend (if name = dots then place.dropLast else place ++ [name]) names at h
    obtain hp | hn := ih h
    . split at hp
      . exact .inl (List.dropLast_subset _ hp)
      . obtain hp | hn := List.mem_append.1 hp
        . exact .inl hp
        . exact .inr (List.mem_singleton.1 hn ▸ List.mem_cons_self)
    . exact .inr (List.mem_cons_of_mem name hn)

theorem IsClean.normalize {directory : Path} (h : (directory ++ p).IsClean) :
    (normalize directory p).IsClean := by
  rw [isClean_iff] at h ⊢
  intro c hc
  exact h c ((mem_descend hc).resolve_left List.not_mem_nil)

structure IsCleanText (t : WideText) : Prop where
  isNameable : t.isNameable = true
  not_mem : .char '\x00' ∉ t

/--
Whether nothing that paths are read against has a NUL in it, or a surrogate that stands for no byte.
-/
structure Surroundings.IsClean (s : Surroundings) : Prop where
  programRoot : s.programRoot.IsClean
  home : IsCleanText s.home
  homeOf : ∀ name home, s.homeOf name = some home → IsCleanText home

variable {s : Surroundings}

variable {base? : Option Path} {raw : WideText}

end Path

end ScriptManual
