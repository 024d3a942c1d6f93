import ScriptManual.Proofs.Getopt.Interface

/-!
This module contains what the two lists of names say to someone who has nothing else: how a list of
short names answers for a character, and how the names of all options are read back from both lists.
-/

namespace ScriptManual

namespace Getopt

structure Declaration where
  short : Text
  long : Text
  takesArgument : Bool
  deriving Repr, DecidableEq

def Declaration.ofOption (o : OptionSpec) : Declaration :=
  ⟨o.short, o.long, !o.isSwitch⟩

def shortNames : Text → List (Char × Bool)
  | [] => []
  | c :: cs => if c = ':' then shortNames cs else (c, cs.head? == some ':') :: shortNames cs

/--
Read the two lists together. They must have equally many names and the same ones marked.
-/
def declarations? (shorts longs : Text) : Option (List Declaration) :=
  if (shortNames shorts).map Prod.snd = (longNames longs).map (·.takesArgument) then
    some (List.zipWith (fun s l => ⟨[s.1], l.name, s.2⟩) (shortNames shorts) (longNames longs))
  else
    none

theorem shortNames_append_mark (o : OptionSpec) (shorts : Text) :
    shortNames (mark o ++ shorts) = shortNames shorts := by
  unfold mark
  split
  . rfl
  . simp [shortNames]

theorem head?_mark_append (o : OptionSpec) {shorts : Text} (h : shorts.head? ≠ some ':') :
    ((mark o ++ shorts).head? == some ':') = !o.isSwitch := by
  unfold mark
  cases o.isSwitch with
  | false => simp
  | true => simpa using h

theorem shortNames_shortList {options : List OptionSpec} (h : ∀ o ∈ options, o.WellFormed) :
    (shortNames (shortList options)).map (fun s => ([s.1], s.2)) =
      options.map fun o => (o.short, !o.isSwitch) := by
  induction options with
  | nil => rfl
  | cons o os ih =>
    have hos : ∀ o' ∈ os, o'.WellFormed := fun o' ho => h o' (by simp [ho])
    obtain ⟨s, hs, hw⟩ := (h o (by simp)).short_form
    have hcolon : s ≠ ':' := Header.ne_of_isWordChar hw (by decide)
    have hl : shortList (o :: os) = s :: (mark o ++ shortList os) := by
      simp [shortList, hs]
    rw [hl, shortNames, if_neg hcolon, shortNames_append_mark]
    rw [head?_mark_append o (head?_shortList_ne hos (by decide))]
    rw [List.map_cons, List.map_cons, ih hos, hs]

theorem declarations?_lists {options : List OptionSpec} (h : ∀ o ∈ options, o.WellFormed) :
    declarations? (shortList options) (longList options) =
      some (options.map Declaration.ofOption) := by
  have hs := shortNames_shortList h
  have hmarks : (shortNames (shortList options)).map Prod.snd =
      (options.map LongName.ofOption).map (·.takesArgument) := by
    have hm := congrArg (List.map Prod.snd) hs
    simpa [Function.comp_def, LongName.ofOption] using hm
  have hzip : List.zipWith (fun s l => (⟨[s.1], l.name, s.2⟩ : Declaration))
      (shortNames (shortList options)) (options.map LongName.ofOption) =
        List.zipWith (fun s l => (⟨s.1, l.name, s.2⟩ : Declaration))
          ((shortNames (shortList options)).map fun s => ([s.1], s.2))
          (options.map LongName.ofOption) := by
    rw [List.zipWith_map_left]
  unfold declarations?
  rw [longNames_longList h, if_pos hmarks, hzip, hs]
  rw [List.zipWith_map, List.zipWith_self]
  rfl

theorem shortTakesArgument?_eq_some_iff {m : Manual} (hm : m.WellFormed) {c : Char} {b : Bool} :
    shortTakesArgument? c (shortList m.options) = some b ↔
      ∃ o ∈ m.options, o.short = [c] ∧ o.isSwitch = !b := by
  rw [shortTakesArgument?_shortList hm.options, Option.map_eq_some_iff]
  constructor
  . rintro ⟨o, hf, rfl⟩
    obtain ⟨ho, hs⟩ := (OptionSpec.find?_eq_some_iff hm.nodup_shorts).1 hf
    exact ⟨o, ho, hs, by simp⟩
  . rintro ⟨o, ho, hs, hb⟩
    exact ⟨o, (OptionSpec.find?_eq_some_iff hm.nodup_shorts).2 ⟨ho, hs⟩, by simp [hb]⟩

theorem shortTakesArgument?_eq_none_iff {m : Manual} (hm : m.WellFormed) {c : Char} :
    shortTakesArgument? c (shortList m.options) = none ↔ ∀ o ∈ m.options, o.short ≠ [c] := by
  simp [shortTakesArgument?_shortList hm.options]

/--
The two lists of names of a script's options say everything about them that parsing needs. The list
of short names knows a character exactly if an option has it, and knows whether that option takes an
argument. The names of all options, in order, are read back from both lists, so scripts with the same
lists declare the same names.
-/
theorem lists_declare_options {marker : Text} {lines : List Text} {x : Extraction}
    (hx : extract marker lines = .ok x) :
    (∀ c,
      (shortTakesArgument? c (shortList x.manual.options) = some true ↔
        ∃ o ∈ x.manual.options, o.short = [c] ∧ o.isSwitch = false) ∧
      (shortTakesArgument? c (shortList x.manual.options) = some false ↔
        ∃ o ∈ x.manual.options, o.short = [c] ∧ o.isSwitch = true) ∧
      (shortTakesArgument? c (shortList x.manual.options) = none ↔
        ∀ o ∈ x.manual.options, o.short ≠ [c])) ∧
    declarations? (shortList x.manual.options) (longList x.manual.options) =
      some (x.manual.options.map Declaration.ofOption) ∧
    ∀ marker' lines' x', extract marker' lines' = .ok x' →
      shortList x'.manual.options = shortList x.manual.options →
      longList x'.manual.options = longList x.manual.options →
      x'.manual.options.map Declaration.ofOption = x.manual.options.map Declaration.ofOption := by
  have hm := Extraction.wellFormed_manual hx
  have hread := declarations?_lists hm.options
  refine ⟨fun c => ⟨shortTakesArgument?_eq_some_iff hm, shortTakesArgument?_eq_some_iff hm,
    shortTakesArgument?_eq_none_iff hm⟩, hread, ?_⟩
  intro marker' lines' x' hx' hs hl
  have hread' := declarations?_lists (Extraction.wellFormed_manual hx').options
  rw [hs, hl, hread] at hread'
  exact (Option.some.inj hread').symm

def rewordedScript : List Text :=
  ["// Options:".toList, "// -v  --verbose Say more.".toList, "//     Default: true".toList,
    "// -s --size kilobytes How much.".toList, "// -u --sizeup  Round up.".toList,
    "// -h --help This text.".toList]

def reworded : Extraction where
  helpLines := ["Options:".toList, "-v  --verbose Say more.".toList, "    Default: true".toList,
    "-s --size kilobytes How much.".toList, "-u --sizeup  Round up.".toList,
    "-h --help This text.".toList]
  options := [⟨['v'], "verbose".toList, none, "Say more.".toList, some "true".toList⟩,
    ⟨['s'], "size".toList, some "kilobytes".toList, "How much.".toList, none⟩,
    ⟨['u'], "sizeup".toList, none, "Round up.".toList, none⟩,
    ⟨['h'], "help".toList, none, "This text.".toList, none⟩]

theorem lists_declare_options_sample :
    extract ['#'] sampleScript = .ok sample ∧
    extract "//".toList rewordedScript = .ok reworded ∧
    shortTakesArgument? 's' "vs:uh".toList = some true ∧
    shortTakesArgument? 'v' "vs:uh".toList = some false ∧
    shortTakesArgument? ':' "vs:uh".toList = none ∧
    declarations? "vs:uh".toList "verbose,size:,sizeup,help".toList =
      some [⟨['v'], "verbose".toList, false⟩, ⟨['s'], "size".toList, true⟩,
        ⟨['u'], "sizeup".toList, false⟩, ⟨['h'], "help".toList, false⟩] ∧
    reworded.options.map Declaration.ofOption = sample.options.map Declaration.ofOption := by
  have hr : extract "//".toList rewordedScript = .ok reworded := by decide +kernel
  have hshorts : ∀ x ∈ [sample, reworded], shortList x.manual.options = "vs:uh".toList := by
    decide
  have hlongs : ∀ x ∈ [sample, reworded],
      longList x.manual.options = "verbose,size:,sizeup,help".toList := by
    decide
  obtain ⟨hanswers, hread, hsame⟩ := lists_declare_options extract_sampleScript
  have hreworded := hsame _ _ _ hr
  rw [hshorts sample (by simp)] at hanswers
  rw [hshorts sample (by simp), hlongs sample (by simp)] at hread hreworded
  refine ⟨extract_sampleScript, hr, (hanswers 's').1.2 ?_, (hanswers 'v').2.1.2 ?_,
    (hanswers ':').2.2.2 ?_, hread, hreworded (hshorts _ (by simp)) (hlongs _ (by simp))⟩
  . exact ⟨sampleValue, by decide, rfl, rfl⟩
  . exact ⟨sampleSwitch, by decide, rfl, rfl⟩
  . decide

end Getopt

end ScriptManual
