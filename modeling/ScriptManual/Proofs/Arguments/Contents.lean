import ScriptManual.Proofs.Arguments.Keys

/-!
This module contains what the table of a manual holds under each of its keys: the field of the option
that the key is made of.
-/

namespace ScriptManual

namespace Table

theorem get?_foldl_insert {entries : List (Text × Text)} (h : (entries.map Prod.fst).Nodup)
    (t : Table) (k : Text) :
    (entries.foldl (fun t (key, text) => t.insert key text) t).get? k =
      (entries.lookup k).or (t.get? k) := by
  induction entries generalizing t with
  | nil => simp
  | cons e es ih =>
    obtain ⟨key, text⟩ := e
    rw [List.map_cons, List.nodup_cons] at h
    rw [List.foldl_cons, ih h.2, List.lookup_cons]
    by_cases hk : k = key
    . -- The key is not set again behind its entry.
      subst hk
      have hn : es.lookup k = none := by
        rw [List.lookup_eq_none_iff]
        intro e he
        rw [bne_iff_ne]
        rintro rfl
        exact h.1 (List.mem_map.2 ⟨e, he, rfl⟩)
      rw [hn, get?_insert_self, beq_self_eq_true]
      rfl
    . rw [get?_insert_of_ne t text hk, beq_eq_false_iff_ne.2 hk]

theorem get?_ofList {entries : List (Text × Text)} (h : (entries.map Prod.fst).Nodup) (k : Text) :
    (ofList entries).get? k = entries.lookup k := by
  rw [ofList, get?_foldl_insert h, get?_empty, Option.or_none]

end Table

namespace Manual.WellFormed

variable {m : Manual}

theorem get?_ofManual (hm : m.WellFormed) (k : Text) :
    (Table.ofManual m).get? k = m.entries.lookup k := by
  rw [Table.ofManual_eq_ofList, Table.get?_ofList hm.nodup_keys]

theorem mem_entries_iff (hm : m.WellFormed) {o : OptionSpec} (ho : o ∈ m.options) {f : Field}
    {text : Text} :
    (Table.key o.short f.name, text) ∈ m.entries ↔ o.field? f = some text := by
  rw [Manual.entries, List.mem_flatMap]
  constructor
  . rintro ⟨o', ho', he⟩
    obtain ⟨f', hf, hk⟩ := OptionSpec.mem_entries.1 he
    obtain ⟨c, hc, -⟩ := (hm.options o ho).short_form
    obtain ⟨c', hc', -⟩ := (hm.options o' ho').short_form
    rw [hc, hc', Table.key_inj] at hk
    obtain ⟨rfl, rfl⟩ := hk
    have hs : o'.short = o.short := hc'.trans hc.symm
    rwa [← List.inj_on_of_nodup_map hm.nodup_shorts ho' ho hs]
  . intro hf
    exact ⟨o, ho, OptionSpec.mem_entries.2 ⟨f, hf, rfl⟩⟩

theorem get?_ofManual_key (hm : m.WellFormed) {o : OptionSpec} (ho : o ∈ m.options) (f : Field) :
    (Table.ofManual m).get? (Table.key o.short f.name) = o.field? f := by
  ext text
  rw [hm.get?_ofManual, Assoc.lookup_eq_some_iff_mem hm.nodup_keys, hm.mem_entries_iff ho]

end Manual.WellFormed

/--
The options of a script have the form that everything else relies on, so no two of their fields share
a key, and the table that the script starts with holds every field under its own.
-/
theorem extract_gives_fields_own_keys {marker : Text} {lines : List Text} {x : Extraction}
    (hx : extract marker lines = .ok x) :
    (x.options.map (·.short)).Nodup ∧
    (∀ o ∈ x.options,
      (∃ c, o.short = [c] ∧ Header.isWordChar c = true) ∧
      (o.long ≠ [] ∧ ∀ c ∈ o.long, Header.isLongChar c = true) ∧
      (∀ a, o.argument? = some a →
        ∃ c cs, a = c :: cs ∧ c.isLower = true ∧ ∀ d ∈ cs, Header.isWordChar d = true) ∧
      (∃ c cs, o.description = c :: cs ∧ Text.isAsciiBlank c = false) ∧
      ∀ v, o.value? = some v → ∃ c cs, v = c :: cs ∧ Text.isBlank c = false) ∧
    (x.options.flatMap fun o => o.populated.map fun e => Table.key o.short e.1.name).Nodup ∧
    ∀ o ∈ x.options, ∀ f,
      (Table.ofManual x.manual).get o.short f.name = (o.field? f).getD [] := by
  have hm := Extraction.wellFormed_manual hx
  refine ⟨hm.nodup_shorts, ?_, ?_, ?_⟩
  . intro o ho
    have hw := hm.options o ho
    exact ⟨hw.short_form, ⟨hw.long_ne_nil, hw.long_isLongChar⟩, hw.argument_form,
      hw.description_form, hw.value_form⟩
  . have hn := hm.nodup_keys
    rw [Manual.entries, List.map_flatMap] at hn
    simpa [OptionSpec.entries, Function.comp_def, Extraction.manual] using hn
  . intro o ho f
    rw [Table.get, hm.get?_ofManual_key ho]

theorem extract_gives_fields_own_keys_sample :
    extract ['#'] sampleScript = .ok sample ∧
    sampleValue ∈ sample.options ∧
    (Table.ofManual sample.manual).get ['s'] "argument".toList = ['n'] ∧
    (Table.ofManual sample.manual).get ['s'] "value".toList = [] := by
  have ho : sampleValue ∈ sample.options := by decide
  obtain ⟨-, -, -, hget⟩ := extract_gives_fields_own_keys extract_sampleScript
  exact ⟨extract_sampleScript, ho, hget sampleValue ho .argument, hget sampleValue ho .value⟩

end ScriptManual
