import ScriptManual.Host.FileTree
import ScriptManual.Proofs.Host.Lawful
import ScriptManual.Proofs.Path.Links

/-!
This module contains that the host whose files are a tree changes no more than it is asked to. Files
and directories that are put into the tree change no link, and so paths lead where they led before.
-/

namespace ScriptManual

open ScriptManual.Path (Place)

namespace FileTree

def bytes? : FileTree → Option (List UInt8)
  | .file bytes => some bytes
  | _ => none

def file? (t : FileTree) (place : Place) : Option (List UInt8) :=
  (t.get? place).bind bytes?

/--
Whether a place can be walked to: all trees above it are there and are directories.
-/
def Reaches : FileTree → Place → Prop
  | _, [] => True
  | .file _, _ :: _ => False
  | .link _, _ :: _ => False
  | .directory entries, name :: names =>
    match entries.lookup name with
    | some t => t.Reaches names
    | none => names = []

theorem reaches_nil (t : FileTree) : t.Reaches [] := by
  rw [Reaches.eq_1]
  trivial

theorem Reaches.exists_directory {t : FileTree} {name : WideText} {names : List WideText}
    (h : t.Reaches (name :: names)) :
    ∃ entries, t = .directory entries ∧
      ((∃ t', entries.lookup name = some t' ∧ t'.Reaches names) ∨
        (entries.lookup name = none ∧ names = [])) := by
  cases t with
  | file bytes => exact h.elim
  | link target => exact h.elim
  | directory entries =>
    refine ⟨entries, rfl, ?_⟩
    rw [Reaches] at h
    cases hl : entries.lookup name with
    | some t' =>
      rw [hl] at h
      exact .inl ⟨t', rfl, h⟩
    | none =>
      rw [hl] at h
      exact .inr ⟨rfl, h⟩

theorem get?_append (t : FileTree) (place more : Place) :
    t.get? (place ++ more) = (t.get? place).bind (·.get? more) := by
  induction place generalizing t with
  | nil => simp
  | cons n ns ih =>
    cases t with
    | file bytes => rfl
    | link target => rfl
    | directory entries =>
      rw [List.cons_append, get?, get?]
      cases entries.lookup n with
      | none => rfl
      | some t' => exact ih t'

theorem reaches_concat {t : FileTree} {place : Place} {entries : List (WideText × FileTree)}
    (h : t.get? place = some (.directory entries)) (name : WideText) :
    t.Reaches (place ++ [name]) := by
  induction place generalizing t with
  | nil =>
    cases Option.some.inj ((get?_nil t).symm.trans h)
    rw [List.nil_append, Reaches]
    split <;> trivial
  | cons n ns ih =>
    cases t with
    | file bytes => contradiction
    | link target => contradiction
    | directory es =>
      rw [get?] at h
      obtain ⟨t', hl, ht⟩ := Option.bind_eq_some_iff.1 h
      rw [List.cons_append, Reaches, hl]
      exact ih ht

theorem reaches_of_get? {t t' : FileTree} {place : Place} (h : t.get? place = some t') :
    t.Reaches place := by
  induction place generalizing t with
  | nil => trivial
  | cons n ns ih =>
    cases t with
    | file bytes => contradiction
    | link target => contradiction
    | directory entries =>
      rw [get?] at h
      obtain ⟨t'', hl, h⟩ := Option.bind_eq_some_iff.1 h
      rw [Reaches, hl]
      exact ih h

theorem reaches_dropLast {t t' : FileTree} {place : Place} (h : t.get? place = some t') :
    t.Reaches place.dropLast := by
  obtain ⟨back, hb⟩ := List.dropLast_prefix place
  rw [← hb, get?_append] at h
  obtain ⟨t'', h, -⟩ := Option.bind_eq_some_iff.1 h
  exact reaches_of_get? h

theorem get?_put_append {t : FileTree} {place : Place} (h : t.Reaches place) (new : FileTree)
    (more : Place) : (t.put place new).get? (place ++ more) = new.get? more := by
  induction place generalizing t with
  | nil => rw [put_nil, List.nil_append]
  | cons n ns ih =>
    obtain ⟨entries, rfl, ⟨t', hl, hr⟩ | ⟨hl, rfl⟩⟩ := h.exists_directory
    . rw [put, List.cons_append, get?, Assoc.lookup_set_self, hl]
      exact ih hr
    . rw [put, List.cons_append, get?, Assoc.lookup_set_self, hl]
      simp

section

variable {β : Type} {view : FileTree → Option β}

/--
Putting a tree somewhere leaves all that is not in its place and no directory as it is.
-/
theorem bind_get?_put_of_not_prefix (hview : ∀ entries, view (.directory entries) = none)
    {t : FileTree} {place other : Place} (h : t.Reaches place) (hp : ¬place <+: other)
    (new : FileTree) : ((t.put place new).get? other).bind view = (t.get? other).bind view := by
  induction place generalizing t other with
  | nil => exact absurd List.nil_prefix hp
  | cons n ns ih =>
    obtain ⟨entries, rfl, hentry⟩ := h.exists_directory
    rw [put]
    cases other with
    | nil => simp [hview]
    | cons m ms =>
      rw [get?, get?]
      by_cases hm : m = n
      . subst hm
        rw [List.cons_prefix_cons, not_and] at hp
        rw [Assoc.lookup_set_self, Option.bind_some]
        obtain ⟨t', hl, hr⟩ | ⟨hl, rfl⟩ := hentry
        . rw [hl]
          exact ih hr (hp rfl)
        . exact absurd List.nil_prefix (hp rfl)
      . rw [Assoc.lookup_set_of_ne _ _ hm]

theorem bind_get?_put_of_ne (hview : ∀ entries, view (.directory entries) = none)
    {t new : FileTree} {place other : Place} (h : t.Reaches place)
    (ht : ∀ entries, t.get? place ≠ some (.directory entries))
    (hnew : ∀ more, more ≠ [] → new.get? more = none) (ho : other ≠ place) :
    ((t.put place new).get? other).bind view = (t.get? other).bind view := by
  by_cases hp : place <+: other
  . obtain ⟨more, rfl⟩ := hp
    have hne : more ≠ [] := by simpa using ho
    obtain ⟨name, names, rfl⟩ := List.exists_cons_of_ne_nil hne
    rw [get?_put_append h, hnew _ hne, get?_append]
    match ht' : t.get? place with
    | none => rfl
    | some (.file bytes) => rfl
    | some (.link target) => rfl
    | some (.directory entries) => exact absurd ht' (ht entries)
  . exact bind_get?_put_of_not_prefix hview h hp new

end

/--
Whether a tree can be put at a place without a change to anything else: the place can be walked to,
there is at most a file at it, and there is nothing below the new tree, which is no link.
-/
structure Fits (t : FileTree) (place : Place) (new : FileTree) : Prop where
  reaches : t.Reaches place
  get?_cases : t.get? place = none ∨ ∃ bytes, t.get? place = some (.file bytes)
  target?_eq : new.target? = none
  below : ∀ more, more ≠ [] → new.get? more = none

namespace Fits

variable {t new : FileTree} {place : Place}

theorem get?_put_self (h : t.Fits place new) : (t.put place new).get? place = some new := by
  have hg := get?_put_append h.reaches new []
  rwa [List.append_nil, get?_nil] at hg

theorem get?_ne (h : t.Fits place new) (entries : List (WideText × FileTree)) :
    t.get? place ≠ some (.directory entries) := by
  obtain h | ⟨bytes, h⟩ := h.get?_cases <;> simp [h]

theorem file?_put_of_ne (h : t.Fits place new) {other : Place} (ho : other ≠ place) :
    (t.put place new).file? other = t.file? other :=
  bind_get?_put_of_ne (fun _ => rfl) h.reaches h.get?_ne h.below ho

theorem link?_put (h : t.Fits place new) : (t.put place new).link? = t.link? := by
  funext other
  by_cases ho : other = place
  . rw [ho, link?, link?, h.get?_put_self]
    change new.target? = _
    rw [h.target?_eq]
    obtain h | ⟨bytes, h⟩ := h.get?_cases <;> rw [h] <;> rfl
  . exact bind_get?_put_of_ne (fun _ => rfl) h.reaches h.get?_ne h.below ho

end Fits

theorem get?_eq_none_of_ne_nil {more : Place} (h : more ≠ []) (bytes : List UInt8) :
    (file bytes).get? more = none ∧ empty.get? more = none := by
  obtain ⟨name, names, rfl⟩ := List.exists_cons_of_ne_nil h
  exact ⟨rfl, rfl⟩

theorem enter_eq_ok {t : FileTree} {place : Place} {name : WideText}
    (h : t.enter place name = .ok ()) :
    (∃ entries, t.get? place = some (.directory entries)) ∧ Path.nameFault? place name = none := by
  unfold enter at h
  split at h
  . contradiction
  . contradiction
  . contradiction
  . next entries he =>
    split at h
    . contradiction
    . next hf => exact ⟨⟨entries, he⟩, hf⟩

theorem reaches_of_walkFrom {t : FileTree}
    {follow : Place → List WideText → Except OsError.Kind Place}
    (hf : ∀ place names q, t.Reaches place → follow place names = .ok q → t.Reaches q)
    {place q : Place} {names : List WideText} (hr : t.Reaches place)
    (h : t.walkFrom follow place names = .ok q) : t.Reaches q := by
  induction names generalizing place with
  | nil => exact Except.ok.inj h ▸ hr
  | cons name names ih =>
    rw [walkFrom] at h
    obtain ⟨_, he, h⟩ := exists_of_bind_eq_ok h
    obtain ⟨⟨entries, hd⟩, -⟩ := enter_eq_ok he
    split at h
    . exact ih (reaches_dropLast hd) h
    . split at h
      . exact ih (reaches_concat hd name) h
      . refine hf _ _ q ?_ h
        unfold Path.linkStart
        split
        . trivial
        . exact hr

theorem reaches_of_walk {t : FileTree} {links : Nat} {place q : Place} {names : List WideText}
    (hr : t.Reaches place) (h : t.walk links place names = .ok q) : t.Reaches q := by
  induction links generalizing place q names with
  | zero => exact reaches_of_walkFrom (by simp) hr h
  | succ links ih => exact reaches_of_walkFrom (fun _ _ _ => ih) hr h

theorem placeFrom_of_walkFrom {t : FileTree}
    {follow : Place → List WideText → Except OsError.Kind Place}
    {follow' : Place → List WideText → Except Path.Unresolvable Place}
    (hf : ∀ place names more q, follow place (names ++ more) = .ok q →
      ∃ r, follow' place names = .ok r ∧ Path.placeFrom t.link? follow' r more = .ok q)
    {place q : Place} {names : List WideText} (h : t.walkFrom follow place names = .ok q) :
    Path.placeFrom t.link? follow' place names = .ok q := by
  induction names generalizing place with
  | nil => exact congrArg _ (Except.ok.inj h)
  | cons name names ih =>
    rw [walkFrom] at h
    obtain ⟨_, he, h⟩ := exists_of_bind_eq_ok h
    rw [Path.placeFrom, (enter_eq_ok he).2]
    split at h
    . next hd =>
      rw [if_pos hd]
      exact ih h
    . next hd =>
      rw [if_neg hd]
      split at h
      . next hl =>
        rw [hl]
        exact ih h
      . next target hl =>
        obtain ⟨r, hr, h⟩ := hf _ _ _ _ h
        rw [hl]
        change (follow' _ _ >>= _) = _
        rw [hr]
        exact h

/--
A walk through the tree ends where the path leads.
-/
theorem placeWithin_of_walk {t : FileTree} (p : Path) {links : Nat} {place q : Place}
    {names : List WideText} (h : t.walk links place names = .ok q) :
    Path.placeWithin t.link? p links place names = .ok q := by
  induction links generalizing place q names with
  | zero => exact placeFrom_of_walkFrom (by simp) h
  | succ links ih =>
    refine placeFrom_of_walkFrom ?_ h
    intro place names more q h
    have h := ih h
    obtain ⟨follow, hfollow⟩ := Path.placeWithin_eq t.link? p links
    rw [hfollow, Path.placeFrom_append] at h
    obtain ⟨r, hr, h⟩ := exists_of_bind_eq_ok h
    rw [← hfollow] at hr h
    exact ⟨r, hr, Path.placeWithin_succ h⟩

end FileTree

namespace World

open Host

/--
The place of the file that a path leads to. It does not count where a path leads that cannot lead to a
file.
-/
def target (w : World) (p : Path) : Place :=
  match Path.resolve? w.tree.link? w.directory p with
  | .ok q => q.components
  | .error _ => []

instance : View World where
  target := target
  file? w place := w.tree.file? place
  out := out

theorem locate_eq_ok {w : World} {p : Path} {place : Place} (h : w.locate p = .ok place) :
    w.target p = place ∧ w.tree.Reaches place := by
  obtain ⟨_, -, h⟩ := exists_of_bind_eq_ok h
  refine ⟨?_, FileTree.reaches_of_walk (FileTree.reaches_nil _) h⟩
  have hle : FileTree.maxLinks ≤ Path.assumedMaxLinkDepth := by decide
  have hp := Path.placeWithin_of_le hle (FileTree.placeWithin_of_walk p h)
  rw [target, Path.resolve?, hp]
  rfl

theorem run_change (p : Path) (f : World → Path → Except OsError.Kind FileTree) (w : World) :
    (change p f).run w =
      match f w p with
      | .ok tree => (.ok (), { w with tree })
      | .error kind => (.error ⟨kind, p⟩, w) := by
  unfold change
  rw [StateT.run_bind, StateT.run_get, pure_bind]
  cases f w p <;> rfl

theorem read_eq_ok {w : World} {p : Path} {bytes : List UInt8} (h : w.read p = .ok bytes) :
    View.file? w (View.target w p) = some bytes := by
  obtain ⟨place, hl, h⟩ := exists_of_bind_eq_ok h
  obtain ⟨rfl, -⟩ := locate_eq_ok hl
  change (w.tree.get? (w.target p)).bind FileTree.bytes? = some bytes
  split at h
  . next hg =>
    cases h
    rw [hg]
    rfl
  all_goals contradiction

theorem update_eq_ok {f : List UInt8 → Except OsError.Kind (List UInt8)} {w : World} {p : Path}
    {tree : FileTree} (h : update f w p = .ok tree) :
    ∃ old bytes, f old = .ok bytes ∧ w.tree.Fits (w.target p) (.file bytes) ∧
      tree = w.tree.put (w.target p) (.file bytes) := by
  obtain ⟨place, hl, h⟩ := exists_of_bind_eq_ok h
  obtain ⟨rfl, hr⟩ := locate_eq_ok hl
  have hbelow : ∀ bytes more, more ≠ [] → (FileTree.file bytes).get? more = none :=
    fun bytes _ hm => (FileTree.get?_eq_none_of_ne_nil hm bytes).1
  split at h
  . next old ht =>
    obtain ⟨bytes, hf, h⟩ := exists_of_bind_eq_ok h
    cases h
    exact ⟨old, bytes, hf, ⟨hr, .inr ⟨old, ht⟩, rfl, hbelow bytes⟩, rfl⟩
  . contradiction
  . contradiction
  . next ht =>
    obtain ⟨bytes, hf, h⟩ := exists_of_bind_eq_ok h
    cases h
    exact ⟨[], bytes, hf, ⟨hr, .inl ht, rfl, hbelow bytes⟩, rfl⟩

theorem makeDirectory_eq_ok {w : World} {p : Path} {tree : FileTree}
    (h : makeDirectory w p = .ok tree) :
    ∃ place, w.tree.get? place = none ∧ w.tree.Fits place .empty ∧ tree = w.tree.put place .empty := by
  obtain ⟨_, -, h⟩ := exists_of_bind_eq_ok h
  dsimp only at h
  split at h
  . contradiction
  . next name _ =>
    obtain ⟨above, -, h⟩ := exists_of_bind_eq_ok h
    obtain ⟨_, he, h⟩ := exists_of_bind_eq_ok h
    obtain ⟨⟨entries, hd⟩, -⟩ := FileTree.enter_eq_ok he
    split at h
    . contradiction
    . split at h
      . contradiction
      . next ht =>
        cases h
        refine ⟨above ++ [name], ht, ⟨FileTree.reaches_concat hd name, .inl ht, rfl, ?_⟩, rfl⟩
        exact fun _ hm => (FileTree.get?_eq_none_of_ne_nil hm []).2

theorem keeps_put {w : World} {place : Place} {new : FileTree} (h : w.tree.Fits place new) :
    Keeps (· = place) w { w with tree := w.tree.put place new } where
  out_eq := rfl
  target_eq p := by
    change target _ p = target w p
    unfold target
    rw [h.link?_put]
  file?_eq _ ho := h.file?_put_of_ne ho

theorem keeps_change_update (p : Path) (f : List UInt8 → Except OsError.Kind (List UInt8))
    (w : World) : Keeps (· = View.target w p) w ((change p (update f)).run w).2 := by
  rw [run_change]
  cases h : update f w p with
  | ok tree =>
    obtain ⟨_, _, _, hfits, rfl⟩ := update_eq_ok h
    exact keeps_put hfits
  | error kind => exact .refl _ w

instance : Lawful World where
  keeps_resolve p w := .refl _ w
  target_of_resolve {p q w} h := by
    change Path.resolve? w.tree.link? w.directory p = .ok q at h
    obtain ⟨hq, h'⟩ := Path.resolve?_of_resolve?_eq_ok h
    refine ⟨hq, ?_⟩
    change target w q = target w p
    rw [target, target, h, h']
  keeps_readFile p w := .refl _ w
  file?_of_readFile {p w bytes} h := by
    change (w.read p).mapError _ = _ at h
    exact read_eq_ok (eq_ok_of_mapError h)
  keeps_writeFile p t w := keeps_change_update p _ w
  keeps_of_writeFile {p t w e} h := by
    change ((change p (update _)).run w).1 = _ at h
    change Keeps _ w ((change p (update _)).run w).2
    rw [run_change] at h ⊢
    split at h
    . contradiction
    . exact .refl _ w
  file?_of_writeFile {p t w} h := by
    change ((change p (update _)).run w).1 = _ at h
    change ∃ text, _ ∧ View.file? ((change p (update _)).run w).2 (View.target w p) = _
    rw [run_change] at h ⊢
    split at h
    . next tree hu =>
      obtain ⟨_, bytes, hf, hfits, rfl⟩ := update_eq_ok hu
      obtain ⟨text, ht, rfl⟩ := exists_of_map_eq_ok (eq_ok_of_mapError hf)
      refine ⟨text, ht, ?_⟩
      change (FileTree.get? _ (w.target p)).bind _ = _
      rw [hfits.get?_put_self]
      rfl
    . contradiction
  keeps_appendFile p t w := keeps_change_update p _ w
  keeps_makeDirectory p w := by
    change Keeps _ w ((change p makeDirectory).run w).2
    rw [run_change]
    cases h : makeDirectory w p with
    | ok tree =>
      obtain ⟨place, ht, hfits, rfl⟩ := makeDirectory_eq_ok h
      have hk := keeps_put hfits
      refine ⟨⟨hk.target_eq, ?_⟩, hk.out_eq⟩
      intro other _
      by_cases ho : other = place
      . change FileTree.file? _ _ = FileTree.file? _ _
        unfold FileTree.file?
        rw [ho, hfits.get?_put_self, ht]
        rfl
      . exact hk.file?_eq other ho
    | error kind => exact .refl _ w
  keeps_isDirectory p w := .refl _ w
  out_putOut t w := rfl
  keepsFiles_putOut t w := ⟨fun _ => rfl, fun _ _ => rfl⟩
  keeps_putError t w := ⟨⟨fun _ => rfl, fun _ _ => rfl⟩, rfl⟩
  keeps_reportLoss w := ⟨⟨fun _ => rfl, fun _ _ => rfl⟩, rfl⟩
  keeps_clock w := .refl _ w

end World

end ScriptManual
