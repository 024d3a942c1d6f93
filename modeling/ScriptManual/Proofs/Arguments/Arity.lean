import ScriptManual.Proofs.Arguments.Outcome
import ScriptManual.Proofs.Getopt.Uses

/-!
This module contains whether the token vector has an argument behind a flag exactly if one was taken
for it. A flag is looked up as the first option with its name, while an argument is only taken for it
if no option with that name is a switch.
-/

namespace ScriptManual

namespace Arguments

/--
Whether the option that a flag names takes an argument, although the flag is also that of a switch.
-/
def Contested (m : Manual) (flag : Text) : Prop :=
  ∃ o, lookup? m flag = some o ∧ o.isSwitch = false ∧
    ∃ o' ∈ m.options, flag ∈ o'.flags ∧ o'.isSwitch = true

variable {m : Manual}

theorem Names.mem {flag : Text} {o : OptionSpec} (h : Names m flag o) :
    o ∈ m.options ∧ flag ∈ o.flags := by
  cases h with
  | short ho hs => exact ⟨ho, by simp [OptionSpec.flags, hs]⟩
  | @long name o hf =>
    have hl : o.long = name := by simpa using List.find?_some hf
    exact ⟨List.mem_of_find?_eq_some hf, by simp [OptionSpec.flags, hl]⟩

theorem takesArgument_eq_iff (hm : m.WellFormed) {u : Getopt.Use} (hu : u.Unanimous m.options) :
    takesArgument m u.flag = u.argument?.isSome ↔ ¬Contested m u.flag := by
  obtain ⟨hflag, hall⟩ := hu
  obtain ⟨o, hn⟩ := exists_names hm hflag
  have hl := (lookup?_eq_some_iff hm).2 hn
  obtain ⟨ho, hf⟩ := hn.mem
  rw [takesArgument_of_lookup? hl]
  constructor
  . rintro heq ⟨o', hl', hs, o'', ho'', hf'', hs''⟩
    rw [hl] at hl'
    cases hl'
    rw [hs, eq_comm, Bool.not_false, hall] at heq
    rw [heq o'' ho'' hf''] at hs''
    contradiction
  . intro hc
    rw [Bool.eq_iff_iff, hall, Bool.not_eq_true']
    constructor
    . intro hs o' ho' hf'
      rw [← Bool.not_eq_true]
      intro hs'
      exact hc ⟨o, hl, hs, o', ho', hf', hs'⟩
    . intro h
      exact h o ho hf

theorem occurrenceTokens_occurrence {u : Getopt.Use}
    (h : takesArgument m u.flag = u.argument?.isSome) :
    occurrenceTokens m u.occurrence = u.words := by
  unfold occurrenceTokens Getopt.Use.occurrence Getopt.Use.words
  dsimp only
  rw [h]
  cases u.argument? <;> rfl

theorem flatMap_occurrenceTokens {uses : List Getopt.Use}
    (h : ∀ u ∈ uses, takesArgument m u.flag = u.argument?.isSome) :
    (uses.map Getopt.Use.occurrence).flatMap (occurrenceTokens m) =
      uses.flatMap Getopt.Use.words := by
  rw [List.flatMap_map]
  apply List.flatMap_congr
  intro u hu
  exact occurrenceTokens_occurrence (h u hu)

/--
The token vector has an argument behind a flag exactly if one was taken for it, unless the flag names
an option that takes one and is also that of a switch. Without such flags it has every argument where
it was given, and the positional arguments behind them.
-/
theorem tokenize_keeps_arguments {marker : Text} {lines : List Text} {x : Extraction}
    (hx : extract marker lines = .ok x) (argv : List Text) :
    (∀ s, scan x.manual argv = .ok s →
      ∃ uses, Getopt.Takes (.ofOptions x.options) argv uses s.positionals ∧
        uses.map Getopt.Use.occurrence = s.occurrences ∧
        ((∀ u ∈ uses, ¬Contested x.manual u.flag) →
          tokenize x.manual argv =
            .ok (uses.flatMap Getopt.Use.words ++ endOfOptions :: s.positionals))) ∧
    ∀ uses positionals, Getopt.Takes (.ofOptions x.options) argv uses positionals →
      ∀ u ∈ uses,
        takesArgument x.manual u.flag = u.argument?.isSome ↔ ¬Contested x.manual u.flag := by
  have hm := Extraction.wellFormed_manual hx
  have hagree : ∀ uses positionals, Getopt.Takes (.ofOptions x.options) argv uses positionals →
      ∀ u ∈ uses,
        takesArgument x.manual u.flag = u.argument?.isSome ↔ ¬Contested x.manual u.flag := by
    intro uses positionals ht u hu
    exact takesArgument_eq_iff hm (ht.unanimous hm.options hm.nodup_shorts u hu)
  refine ⟨?_, hagree⟩
  intro s hs
  have hi := Getopt.Interface.optionsFirst_ofOptions hm.options
  obtain ⟨uses, ht, ho⟩ := Getopt.exists_takes_of_scan hi argv s hs
  refine ⟨uses, ht, ho, ?_⟩
  intro hc
  rw [tokenize_of_scan_eq_ok hs, ← ho, flatMap_occurrenceTokens]
  intro u hu
  exact (hagree uses _ ht u hu).2 (hc u hu)

theorem tokenize_keeps_arguments_sample :
    extract ['#'] sampleScript = .ok sample ∧
    Getopt.Takes (.ofOptions sample.options) (["-vs", "--", "f"].map String.toList)
      [⟨"-v".toList, none⟩, ⟨"-s".toList, some "--".toList⟩] ["f".toList] ∧
    (takesArgument sample.manual "-s".toList = true ↔ ¬Contested sample.manual "-s".toList) := by
  have hc : Getopt.Cluster (Getopt.Interface.ofOptions sample.options).shorts "vs".toList
      (some "--".toList) [⟨"-v".toList, none⟩, ⟨"-s".toList, some "--".toList⟩] :=
    .switch (by decide) (.detached (by decide) _)
  have ht : Getopt.Takes (.ofOptions sample.options) (["-vs", "--", "f"].map String.toList)
      [⟨"-v".toList, none⟩, ⟨"-s".toList, some "--".toList⟩] ["f".toList] :=
    .flags (by decide) (.cluster (by decide) hc) (.positional (.inl (by decide)) .nil)
  refine ⟨extract_sampleScript, ht, ?_⟩
  exact (tokenize_keeps_arguments extract_sampleScript _).2 _ _ ht
    ⟨"-s".toList, some "--".toList⟩ (by simp)

def contestedScript : List Text :=
  ["# Options:".toList, "# -b --size n  Size".toList, "# -a --size Small".toList]

def contested : Extraction where
  helpLines := ["Options:".toList, "-b --size n  Size".toList, "-a --size Small".toList]
  options := [⟨['b'], "size".toList, some ['n'], "Size".toList, none⟩,
    ⟨['a'], "size".toList, none, "Small".toList, none⟩]

/--
For a contested flag no argument is taken, but the token vector has one.
-/
theorem tokenize_adds_argument :
    extract ['#'] contestedScript = .ok contested ∧
    scan contested.manual ["--size".toList] = .ok ⟨[⟨"--size".toList, []⟩], []⟩ ∧
    Getopt.Takes (.ofOptions contested.options) ["--size".toList] [⟨"--size".toList, none⟩] [] ∧
    takesArgument contested.manual "--size".toList = true ∧
    tokenize contested.manual ["--size".toList] = .ok ["--size".toList, [], "--".toList] := by
  have hl : Getopt.resolveLong (Getopt.Interface.ofOptions contested.options).longs "size".toList =
      .ok ⟨"size".toList, false⟩ := by
    decide
  exact ⟨by decide +kernel, by decide +kernel, .flags (by decide) (.longSwitch (by decide) hl) .nil,
    by decide, by decide +kernel⟩

end Arguments

end ScriptManual
