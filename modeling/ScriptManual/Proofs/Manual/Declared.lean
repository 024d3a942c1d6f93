import Mathlib.Data.List.Nodup
import ScriptManual.Proofs.Manual.Header
import ScriptManual.Proofs.Manual.Outline

/-!
This module contains the form of the options that a script declares. Everything that works on an
extracted manual relies on it.
-/

namespace ScriptManual

namespace Header

structure Valid (h : Header) : Prop where
  short_isWordChar : isWordChar h.short = true
  long_ne_nil : h.long ≠ []
  long_isLongChar : ∀ c ∈ h.long, isLongChar c = true
  argument_form : ∀ a, h.argument? = some a →
    ∃ c cs, a = c :: cs ∧ c.isLower = true ∧ ∀ d ∈ cs, isWordChar d = true
  description_form : ∃ c cs, h.description = c :: cs ∧ Text.isAsciiBlank c = false ∧ '\n' ∉ cs

theorem valid_of_match? {text : Text} {h : Header} (hm : pattern.match? text = some h) :
    Valid h := by
  obtain ⟨p, hp, -, rfl⟩ := exists_parts_of_match? hm
  constructor
  . exact hp.short
  . exact hp.long_ne_nil
  . exact hp.long
  . intro a ha
    obtain ⟨⟨name, gap⟩, hpa, rfl⟩ := Option.map_eq_some_iff.1 ha
    exact (hp.argument name gap hpa).1
  . exact hp.description

end Header

theorem Line.defaultValue?_form {text value : Text} (h : defaultValue? text = some value) :
    ∃ c cs, value = c :: cs ∧ Text.isBlank c = false := by
  unfold defaultValue? at h
  split at h
  . contradiction
  . next rest _ =>
    dsimp only at h
    split at h
    . contradiction
    . next hv =>
      cases h
      cases hd : rest.dropWhile Text.isBlank with
      | nil => simp [hd] at hv
      | cons c cs =>
        have := List.head?_dropWhile_not Text.isBlank rest
        rw [hd] at this
        exact ⟨c, cs, rfl, by simpa using this⟩

namespace OptionSpec

structure WellFormed (o : OptionSpec) : Prop where
  short_form : ∃ c, o.short = [c] ∧ Header.isWordChar c = true
  long_ne_nil : o.long ≠ []
  long_isLongChar : ∀ c ∈ o.long, Header.isLongChar c = true
  argument_form : ∀ a, o.argument? = some a →
    ∃ c cs, a = c :: cs ∧ c.isLower = true ∧ ∀ d ∈ cs, Header.isWordChar d = true
  description_form : ∃ c cs, o.description = c :: cs ∧ Text.isAsciiBlank c = false
  value_form : ∀ v, o.value? = some v → ∃ c cs, v = c :: cs ∧ Text.isBlank c = false

theorem find?_eq_some_iff {name : OptionSpec → Text} {options : List OptionSpec}
    (hn : (options.map name).Nodup) {t : Text} {o : OptionSpec} :
    options.find? (name · == t) = some o ↔ o ∈ options ∧ name o = t := by
  constructor
  . intro h
    exact ⟨List.mem_of_find?_eq_some h, by simpa using List.find?_some h⟩
  . rintro ⟨ho, rfl⟩
    have hs : (options.find? (name · == name o)).isSome := by
      rw [List.find?_isSome]
      exact ⟨o, ho, by simp⟩
    obtain ⟨o', hf⟩ := Option.isSome_iff_exists.1 hs
    have ho' := List.mem_of_find?_eq_some hf
    have ht : name o' = name o := by simpa using List.find?_some hf
    rw [hf, List.inj_on_of_nodup_map hn ho' ho ht]

theorem wellFormed_option {h : Header} (hv : h.Valid) (below : List Text) :
    (Outline.option (h, below)).WellFormed := by
  constructor
  . exact ⟨h.short, rfl, hv.short_isWordChar⟩
  . exact hv.long_ne_nil
  . exact hv.long_isLongChar
  . exact hv.argument_form
  . obtain ⟨c, cs, hd, hc, -⟩ := hv.description_form
    refine ⟨c, cs ++ (below.filterMap (Outline.addedLine? h.column)).flatMap ('\n' :: ·), ?_, hc⟩
    simp [Outline.option, hd]
  . intro v hval
    have hmem : v ∈ below.filterMap Outline.initialValue? := List.mem_of_getLast? hval
    obtain ⟨text, -, ht⟩ := List.mem_filterMap.1 hmem
    unfold Outline.initialValue? at ht
    split at ht
    . exact Line.defaultValue?_form ht
    . contradiction

end OptionSpec

namespace Outline

theorem valid_of_mem_headers {h : Header} {texts : List Text} (hm : h ∈ headers texts) :
    h.Valid := by
  obtain ⟨text, -, ht⟩ := List.mem_filterMap.1 hm
  exact Header.valid_of_match? ht

theorem map_short_option (bs : List (Header × List Text)) :
    (bs.map option).map (·.short) = (bs.map Prod.fst).map fun h => [h.short] := by
  simp only [List.map_map]
  rfl

end Outline

namespace Manual

structure WellFormed (m : Manual) : Prop where
  options : ∀ o ∈ m.options, o.WellFormed
  nodup_shorts : (m.options.map (·.short)).Nodup

end Manual

theorem Extraction.wellFormed_manual {marker : Text} {lines : List Text} {x : Extraction}
    (h : extract marker lines = .ok x) : x.manual.WellFormed := by
  rw [extract_eq_ofTexts, Outline.ofTexts] at h
  split at h
  . contradiction
  . next rest _ =>
    split at h
    . contradiction
    . next hr =>
      cases h
      constructor
      . intro o ho
        obtain ⟨⟨hd, below⟩, hb, rfl⟩ := List.mem_map.1 ho
        apply OptionSpec.wellFormed_option
        have hh : hd ∈ Outline.headers rest := by
          rw [← Outline.map_fst_blocks]
          exact List.mem_map_of_mem hb
        exact Outline.valid_of_mem_headers hh
      . have hn := Outline.nodup_of_firstRepeatedAfter? List.Pairwise.nil hr
        show (((Outline.blocks rest).map Outline.option).map (·.short)).Nodup
        rw [Outline.map_short_option, Outline.map_fst_blocks]
        rw [List.nil_append] at hn
        unfold List.Nodup at *
        rw [List.pairwise_map] at *
        simpa using hn

def sampleScript : List Text :=
  ["# Options:".toList, "# -v --verbose Talk".toList, "# -s --size n  Size".toList,
    "# -u --sizeup Grow".toList, "# -h --help Help".toList]

def sampleSwitch : OptionSpec :=
  ⟨['v'], "verbose".toList, none, "Talk".toList, none⟩

def sampleValue : OptionSpec :=
  ⟨['s'], "size".toList, some ['n'], "Size".toList, none⟩

def sample : Extraction where
  helpLines := ["Options:".toList, "-v --verbose Talk".toList, "-s --size n  Size".toList,
    "-u --sizeup Grow".toList, "-h --help Help".toList]
  options := [sampleSwitch, sampleValue,
    ⟨['u'], "sizeup".toList, none, "Grow".toList, none⟩,
    ⟨['h'], "help".toList, none, "Help".toList, none⟩]

theorem extract_sampleScript : extract ['#'] sampleScript = .ok sample := by
  decide +kernel

end ScriptManual
