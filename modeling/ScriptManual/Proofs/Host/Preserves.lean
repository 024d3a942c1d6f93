import ScriptManual.Host.Basic

/-!
This module contains computations on the state of a host that change it only as a relation allows. What
the operations of the host do not change, no computation from them does.
-/

namespace ScriptManual

namespace Host

variable {σ α β : Type}

structure IsFrame (rel : σ → σ → Prop) : Prop where
  refl : ∀ s, rel s s
  trans : ∀ {s s' s''}, rel s s' → rel s' s'' → rel s s''

/--
Whether a computation changes the state only as a relation allows, from every state, and what it
returns is as it should be.
-/
def Preserves (rel : σ → σ → Prop) (x : StateM σ α) (post : α → Prop) : Prop :=
  ∀ s, rel s (x.run s).2 ∧ post (x.run s).1

namespace IsFrame

variable {rel : σ → σ → Prop}

theorem pure (hrel : IsFrame rel) {a : α} {post : α → Prop} (h : post a) :
    Preserves rel (Pure.pure a) post :=
  fun s => ⟨hrel.refl s, h⟩

theorem bind (hrel : IsFrame rel) {x : StateM σ α} {f : α → StateM σ β} {mid : α → Prop}
    {post : β → Prop} (hx : Preserves rel x mid) (hf : ∀ a, mid a → Preserves rel (f a) post) :
    Preserves rel (x >>= f) post := by
  intro s
  obtain ⟨hs, hm⟩ := hx s
  obtain ⟨hs', hp⟩ := hf _ hm (x.run s).2
  exact ⟨hrel.trans hs hs', hp⟩

variable [Host (StateM σ)]

theorem ensureDirectory (hrel : IsFrame rel) {path : Path}
    (hmake : Preserves rel (makeDirectory path : StateM σ _) fun _ => True)
    (his : Preserves rel (isDirectory path : StateM σ _) fun _ => True) :
    Preserves rel (Host.ensureDirectory path : StateM σ _) fun _ => True := by
  apply hrel.bind hmake
  intro made _
  cases made with
  | ok _ => exact hrel.pure trivial
  | error e =>
    dsimp only
    split
    . exact hrel.pure trivial
    . apply hrel.bind his
      intro isThere _
      split <;> exact hrel.pure trivial

theorem makeDirectoriesAt (hrel : IsFrame rel) {root : Path.Root} (limit : Nat)
    {reversed : List WideText}
    (hmake : ∀ names, names <:+ reversed →
      Preserves rel (makeDirectory ⟨root, names.reverse⟩ : StateM σ _) fun _ => True)
    (his : ∀ path, Preserves rel (isDirectory path : StateM σ _) fun _ => True) :
    Preserves rel (Host.makeDirectoriesAt root limit reversed : StateM σ _) fun _ => True := by
  induction reversed generalizing limit with
  | nil =>
    unfold Host.makeDirectoriesAt
    exact hrel.pure trivial
  | cons name above ih =>
    have hensure := hrel.ensureDirectory (hmake _ (List.suffix_refl _)) (his _)
    have habove := fun limit => ih limit fun names hn => hmake names (hn.trans (List.suffix_cons _ _))
    unfold Host.makeDirectoriesAt
    apply hrel.bind hensure
    intro ensured _
    cases ensured with
    | ok _ => exact hrel.pure trivial
    | error e =>
      dsimp only
      split
      . cases limit with
        | zero => exact hrel.pure trivial
        | succ limit =>
          apply hrel.bind (habove limit)
          intro made _
          cases made with
          | ok _ => exact hensure
          | error e => exact hrel.pure trivial
      . exact hrel.pure trivial

end IsFrame

end Host

end ScriptManual
