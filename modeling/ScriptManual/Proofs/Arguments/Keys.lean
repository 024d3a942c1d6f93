import ScriptManual.Arguments.Table
import ScriptManual.Proofs.Manual.Declared

/-!
This module contains the keys of a table, and those that the options of a manual have in one. No two
fields share a key, because a short name is a single character.
-/

namespace ScriptManual

namespace Table

theorem key_inj {c d : Char} {f g : Field} : key [c] f.name = key [d] g.name ↔ c = d ∧ f = g := by
  simp [key, Field.name_inj]

theorem get?_insert (t : Table) (key text k : Text) :
    (t.insert key text).get? k = if k = key then some text else t.get? k := by
  split
  . next hk => rw [hk, get?_insert_self]
  . next hk => rw [get?_insert_of_ne t text hk]

theorem isSome_get?_iff (t : Table) (key : Text) :
    (t.get? key).isSome = true ↔ key ∈ t.entries.map Prod.fst := by
  rw [get?, List.lookup_isSome_iff, List.mem_map]
  simp only [beq_iff_eq, @eq_comm _ key]

theorem perm_keys (t : Table) : t.keys.Perm (t.entries.map Prod.fst) :=
  List.mergeSort_perm _ _

theorem mem_keys_iff {t : Table} {key : Text} : key ∈ t.keys ↔ (t.get? key).isSome = true := by
  rw [t.perm_keys.mem_iff, isSome_get?_iff]

theorem pairwise_keys (t : Table) : t.keys.Pairwise fun k k' => Text.le k k' = true := by
  apply List.pairwise_mergeSort
  . intro a b c
    exact Text.le_trans
  . intro a b
    rw [Bool.or_eq_true]
    exact Text.le_total a b

end Table

namespace OptionSpec

def entries (o : OptionSpec) : List (Text × Text) :=
  o.populated.map fun (f, text) => (Table.key o.short f.name, text)

theorem mem_entries {o : OptionSpec} {k t : Text} :
    (k, t) ∈ o.entries ↔ ∃ f, o.field? f = some t ∧ Table.key o.short f.name = k := by
  simp [entries, mem_populated]

theorem nodup_keys {o : OptionSpec} (ho : o.WellFormed) : (o.entries.map Prod.fst).Nodup := by
  obtain ⟨c, hc, -⟩ := ho.short_form
  have hk : o.entries.map Prod.fst = Field.all.filterMap fun f =>
      (o.field? f).map fun _ => Table.key o.short f.name := by
    simp [entries, populated, List.map_filterMap, Function.comp_def]
  rw [hk]
  apply List.Nodup.filterMap
  . intro f g k hf hg
    obtain ⟨_, -, rfl⟩ := Option.map_eq_some_iff.1 hf
    obtain ⟨_, -, he⟩ := Option.map_eq_some_iff.1 hg
    rw [hc, Table.key_inj] at he
    exact he.2.symm
  . decide

end OptionSpec

namespace Manual

def entries (m : Manual) : List (Text × Text) :=
  m.options.flatMap OptionSpec.entries

theorem WellFormed.nodup_keys {m : Manual} (hm : m.WellFormed) :
    (m.entries.map Prod.fst).Nodup := by
  rw [entries, List.map_flatMap, List.nodup_flatMap]
  constructor
  . intro o ho
    exact OptionSpec.nodup_keys (hm.options o ho)
  . apply List.Pairwise.imp_of_mem _ (List.pairwise_map.1 hm.nodup_shorts)
    intro o o' ho ho' hne k hk hk'
    obtain ⟨c, hc, -⟩ := (hm.options o ho).short_form
    obtain ⟨c', hc', -⟩ := (hm.options o' ho').short_form
    obtain ⟨⟨_, t⟩, he, rfl⟩ := List.mem_map.1 hk
    obtain ⟨⟨_, t'⟩, he', hk⟩ := List.mem_map.1 hk'
    obtain ⟨f, -, rfl⟩ := OptionSpec.mem_entries.1 he
    obtain ⟨f', -, rfl⟩ := OptionSpec.mem_entries.1 he'
    dsimp only at hk
    rw [hc, hc', Table.key_inj] at hk
    rw [hc, hc', hk.1] at hne
    contradiction

end Manual

theorem Table.ofManual_eq_ofList (m : Manual) : ofManual m = ofList m.entries := rfl

end ScriptManual
