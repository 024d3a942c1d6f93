import ScriptManual.Proofs.Arguments.Arity
import ScriptManual.Proofs.Arguments.Spelling

/-!
This module contains that the token vector is a normal form. Read as an argument vector, it says what
the arguments say that it was made from, so that putting it into its normal form changes nothing.
-/

namespace ScriptManual

namespace Arguments

variable {m : Manual} {o o' : OptionSpec} {flag : Text} {u : Getopt.Use}

theorem eq_of_mem_flags (hm : m.WellFormed) (hd : (m.options.map (·.long)).Nodup)
    (ho : o ∈ m.options) (ho' : o' ∈ m.options) (hf : flag ∈ o.flags) (hf' : flag ∈ o'.flags) :
    o = o' := by
  obtain rfl | rfl := OptionSpec.mem_flags.1 hf
  . obtain ⟨c, hc, -⟩ := (hm.options o ho).short_form
    rw [hc, OptionSpec.shortFlag_mem_flags (hm.ne_hyphen_of_short ho hc), ← hc] at hf'
    exact List.inj_on_of_nodup_map hm.nodup_shorts ho ho' hf'.symm
  . rw [OptionSpec.longFlag_mem_flags (hm.options o' ho')] at hf'
    exact List.inj_on_of_nodup_map hd ho ho' hf'.symm

theorem not_contested (hm : m.WellFormed) (hd : (m.options.map (·.long)).Nodup) (flag : Text) :
    ¬Contested m flag := by
  rintro ⟨o, hl, hs, o', ho', hf', hs'⟩
  obtain ⟨ho, hf⟩ := ((lookup?_eq_some_iff hm).1 hl).mem
  rw [eq_of_mem_flags hm hd ho ho' hf hf', hs'] at hs
  contradiction

/--
Whether a flag is a whole one of an option, used with an argument exactly if the option takes
one.
-/
def UsedAsDeclared (options : List OptionSpec) (u : Getopt.Use) : Prop :=
  ∃ o ∈ options, u.flag ∈ o.flags ∧ (u.argument?.isSome = true ↔ o.isSwitch = false)

theorem usedAsDeclared_of_unanimous (hm : m.WellFormed) (hd : (m.options.map (·.long)).Nodup)
    (h : u.Unanimous m.options) : UsedAsDeclared m.options u := by
  obtain ⟨⟨o, ho, hf⟩, hall⟩ := h
  refine ⟨o, ho, hf, ?_⟩
  rw [hall]
  constructor
  . intro h
    exact h o ho hf
  . intro hs o' ho' hf'
    rw [← eq_of_mem_flags hm hd ho ho' hf hf', hs]

theorem step_flag (hm : m.WellFormed) (hd : (m.options.map (·.long)).Nodup) (ho : o ∈ m.options)
    (hf : flag ∈ o.flags) :
    ∃ e, (Getopt.Interface.ofOptions m.options).step flag =
      .ok (if o.isSwitch then .flags [⟨flag, []⟩] else .pending [] flag e) := by
  have hw := hm.options o ho
  obtain rfl | rfl := OptionSpec.mem_flags.1 hf
  . have hstep := step_shorts hm ho []
    rw [List.append_nil] at hstep
    rw [hstep]
    cases hs : o.isSwitch with
    | true =>
      have hswitch := Getopt.stepShorts_switch hm.options hm.nodup_shorts ho hs []
      rw [List.append_nil] at hswitch
      rw [hswitch]
      exact ⟨.unknownLong [], rfl⟩
    | false =>
      obtain ⟨e, hvalue⟩ := Getopt.stepShorts_value hm.options hm.nodup_shorts ho hs []
      rw [List.append_nil, if_pos rfl] at hvalue
      exact ⟨e, hvalue⟩
  . rw [step_long hm hw.long_ne_nil, Getopt.stepLong_of_namesLong hd ho hw (.inl rfl)]
    refine ⟨.longNeedsArgument o.long, ?_⟩
    cases o.isSwitch <;> rfl

theorem scan_words_append (hm : m.WellFormed) (hd : (m.options.map (·.long)).Nodup)
    (hu : UsedAsDeclared m.options u) (rest : List Text) :
    scan m (u.words ++ rest) = (scan m rest).map (·.prepend [u.occurrence]) := by
  obtain ⟨flag, argument?⟩ := u
  obtain ⟨o, ho, hf, ha⟩ := hu
  obtain ⟨e, hstep⟩ := step_flag hm hd ho hf
  cases hs : o.isSwitch with
  | true =>
    rw [hs, if_pos rfl] at hstep
    have hn : argument? = none := by simpa [hs] using ha
    subst hn
    exact Getopt.Interface.scan_cons_of_flags hstep rest
  | false =>
    rw [hs, if_neg (by simp)] at hstep
    obtain ⟨argument, rfl⟩ := Option.isSome_iff_exists.1 (ha.2 hs)
    exact Getopt.Interface.scan_cons_of_pending hstep argument rest

theorem scan_flatMap_words (hm : m.WellFormed) (hd : (m.options.map (·.long)).Nodup)
    {uses : List Getopt.Use} (h : ∀ u ∈ uses, UsedAsDeclared m.options u) (positionals : List Text) :
    scan m (uses.flatMap Getopt.Use.words ++ endOfOptions :: positionals) =
      .ok ⟨uses.map Getopt.Use.occurrence, positionals⟩ := by
  induction uses with
  | nil => exact scan_endOfOptions m positionals
  | cons u us ih =>
    rw [List.flatMap_cons, List.append_assoc, scan_words_append hm hd (h u (by simp))]
    rw [ih fun u' hu' => h u' (by simp [hu'])]
    rfl

theorem exists_scan_of_tokenize {argv tokens : List Text} (h : tokenize m argv = .ok tokens) :
    ∃ s, scan m argv = .ok s := by
  cases hs : scan m argv with
  | error e =>
    rw [tokenize_of_scan_eq_error hs] at h
    contradiction
  | ok s => exact ⟨s, rfl⟩

/--
If the options have different long names, the token vector is its own normal form, and parsing it
comes to the same as parsing the arguments. It has the flags in front as they are declared, each with
the argument that was taken for it exactly if its option takes one, then `--` and the positional
arguments in their order.
-/
theorem tokenize_normalizes {marker : Text} {lines : List Text} {x : Extraction}
    (hx : extract marker lines = .ok x) (hd : (x.options.map (·.long)).Nodup)
    {argv tokens : List Text} (ht : tokenize x.manual argv = .ok tokens) :
    tokenize x.manual tokens = .ok tokens ∧
    parse x.manual tokens = parse x.manual argv ∧
    ∃ uses positionals, Getopt.Takes (.ofOptions x.options) argv uses positionals ∧
      scan x.manual argv = .ok ⟨uses.map Getopt.Use.occurrence, positionals⟩ ∧
      (∀ u ∈ uses, UsedAsDeclared x.options u) ∧
      tokens = uses.flatMap Getopt.Use.words ++ endOfOptions :: positionals := by
  have hm := Extraction.wellFormed_manual hx
  obtain ⟨s, hs⟩ := exists_scan_of_tokenize ht
  have hi := Getopt.Interface.optionsFirst_ofOptions hm.options
  obtain ⟨uses, htakes, ho⟩ := Getopt.exists_takes_of_scan hi argv s hs
  have hscan : scan x.manual argv = .ok ⟨uses.map Getopt.Use.occurrence, s.positionals⟩ := by
    rw [hs, ho]
  have hunanimous := htakes.unanimous hm.options hm.nodup_shorts
  have hdeclared : ∀ u ∈ uses, UsedAsDeclared x.options u := fun u hu =>
    usedAsDeclared_of_unanimous hm hd (hunanimous u hu)
  have hwords : (uses.map Getopt.Use.occurrence).flatMap (occurrenceTokens x.manual) =
      uses.flatMap Getopt.Use.words := by
    apply flatMap_occurrenceTokens
    intro u hu
    exact (takesArgument_eq_iff hm (hunanimous u hu)).2 (not_contested hm hd u.flag)
  have hargv := tokenize_of_scan_eq_ok hscan
  rw [hwords, ht] at hargv
  cases hargv
  -- The token vector says the same as the arguments, so the same vector comes out again.
  have htokens := tokenize_of_scan_eq_ok (scan_flatMap_words hm hd hdeclared s.positionals)
  rw [hwords] at htokens
  refine ⟨htokens, ?_, uses, s.positionals, htakes, hscan, hdeclared, rfl⟩
  rw [parse, parse, htokens, ht]

theorem tokenize_normalizes_sample :
    extract ['#'] sampleScript = .ok sample ∧
    (sample.options.map (·.long)).Nodup ∧
    tokenize sample.manual
        (["f", "--verb", "-vs", "--", "--size=", "-s-v", "--", "-h"].map String.toList) =
      .ok (["--verbose", "-v", "-s", "--", "--size", "", "-s", "-v", "--", "f", "-h"].map
        String.toList) ∧
    tokenize sample.manual
        (["--verbose", "-v", "-s", "--", "--size", "", "-s", "-v", "--", "f", "-h"].map
          String.toList) =
      .ok (["--verbose", "-v", "-s", "--", "--size", "", "-s", "-v", "--", "f", "-h"].map
        String.toList) := by
  have hd : (sample.options.map (·.long)).Nodup := by
    decide
  have ht : tokenize sample.manual
        (["f", "--verb", "-vs", "--", "--size=", "-s-v", "--", "-h"].map String.toList) =
      .ok (["--verbose", "-v", "-s", "--", "--size", "", "-s", "-v", "--", "f", "-h"].map
        String.toList) := by
    decide +kernel
  exact ⟨extract_sampleScript, hd, ht, (tokenize_normalizes extract_sampleScript hd ht).1⟩

end Arguments

end ScriptManual
