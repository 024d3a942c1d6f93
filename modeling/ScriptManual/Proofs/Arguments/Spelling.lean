import ScriptManual.Proofs.Arguments.Outcome
import ScriptManual.Proofs.Getopt.Step

/-!
This module contains the ways in which options and positional arguments can be spelled in an argument
vector, and that parsing the vector does not depend on which of them is taken.
-/

namespace ScriptManual

namespace Arguments

inductive Item where
  | switch (o : OptionSpec)
  | value (o : OptionSpec) (argument : Text)
  | positional (argument : Text)

namespace Item

def given? : Item → Option Given
  | .switch o => some ⟨o, []⟩
  | .value o argument => some ⟨o, argument⟩
  | .positional _ => none

def positional? : Item → Option Text
  | .positional argument => some argument
  | _ => none

end Item

/--
The words for a single item, or for switches in one cluster, which an option that takes an argument
may end.
-/
inductive Writes (options : List OptionSpec) : List Item → List Text → Prop where
  | positional {argument : Text} (h : Getopt.IsPositional argument) :
    Writes options [.positional argument] [argument]
  | longSwitch {o : OptionSpec} (ho : o ∈ options) (hs : o.isSwitch = true) {name : Text}
      (hn : Getopt.NamesLong options o name) :
    Writes options [.switch o] ['-' :: '-' :: name]
  | longDetached {o : OptionSpec} (ho : o ∈ options) (hs : o.isSwitch = false) {name : Text}
      (hn : Getopt.NamesLong options o name) (argument : Text) :
    Writes options [.value o argument] ['-' :: '-' :: name, argument]
  | longAttached {o : OptionSpec} (ho : o ∈ options) (hs : o.isSwitch = false) {name : Text}
      (hn : Getopt.NamesLong options o name) (argument : Text) :
    Writes options [.value o argument] ['-' :: '-' :: (name ++ '=' :: argument)]
  | switches {switches : List OptionSpec} (hne : switches ≠ [])
      (h : ∀ o ∈ switches, o ∈ options ∧ o.isSwitch = true) :
    Writes options (switches.map .switch) ['-' :: switches.flatMap (·.short)]
  | shortDetached {switches : List OptionSpec}
      (h : ∀ o ∈ switches, o ∈ options ∧ o.isSwitch = true) {o : OptionSpec} (ho : o ∈ options)
      (hs : o.isSwitch = false) (argument : Text) :
    Writes options (switches.map .switch ++ [.value o argument])
      ['-' :: (switches.flatMap (·.short) ++ o.short), argument]
  | shortAttached {switches : List OptionSpec}
      (h : ∀ o ∈ switches, o ∈ options ∧ o.isSwitch = true) {o : OptionSpec} (ho : o ∈ options)
      (hs : o.isSwitch = false) {argument : Text} (hne : argument ≠ []) :
    Writes options (switches.map .switch ++ [.value o argument])
      ['-' :: (switches.flatMap (·.short) ++ (o.short ++ argument))]

inductive Spells (options : List OptionSpec) : List Item → List Text → Prop where
  | nil : Spells options [] []
  | cons {items more : List Item} {words others : List Text} (h : Writes options items words)
      (hr : Spells options more others) : Spells options (items ++ more) (words ++ others)

/--
Whether words are read as what they are written for, whatever comes after them.
-/
structure ReadAs (m : Manual) (items : List Item) (words : List Text) (s : Getopt.Scanned) :
    Prop where
  standsFor : List.Forall₂ (StandsFor m) s.occurrences (items.filterMap Item.given?)
  positionals : s.positionals = items.filterMap Item.positional?
  scan_append : ∀ others, scan m (words ++ others) = (scan m others).map s.append

variable {m : Manual} {items more : List Item} {words others : List Text} {s s' : Getopt.Scanned}

theorem readAs_nil (m : Manual) : ReadAs m [] [] ⟨[], []⟩ := by
  constructor
  . exact .nil
  . rfl
  . intro others
    rw [List.nil_append]
    cases scan m others <;> rfl

theorem ReadAs.append (h : ReadAs m items words s) (h' : ReadAs m more others s') :
    ReadAs m (items ++ more) (words ++ others) (s.append s') := by
  constructor
  . rw [List.filterMap_append]
    exact List.rel_append h.standsFor h'.standsFor
  . rw [List.filterMap_append, ← h.positionals, ← h'.positionals]
    rfl
  . intro rest
    rw [List.append_assoc, h.scan_append, h'.scan_append]
    cases scan m rest with
    | error e => rfl
    | ok r => exact congrArg Except.ok (s.append_assoc s' r).symm

theorem readAs_of_positional (hm : m.WellFormed) {argument : Text}
    (h : Getopt.IsPositional argument) :
    ReadAs m [.positional argument] [argument] ⟨[], [argument]⟩ := by
  constructor
  . exact .nil
  . rfl
  . intro others
    have hi := Getopt.Interface.optionsFirst_ofOptions hm.options
    refine (Getopt.Interface.scan_cons_of_positional hi ?_ others).trans ?_
    . exact Getopt.Interface.step_positional _ h
    . rfl

theorem readAs_of_flags {word : Text} {occurrences : List Getopt.Occurrence}
    (h : (Getopt.Interface.ofOptions m.options).step word = .ok (.flags occurrences))
    (hs : List.Forall₂ (StandsFor m) occurrences (items.filterMap Item.given?))
    (hp : items.filterMap Item.positional? = []) : ReadAs m items [word] ⟨occurrences, []⟩ := by
  constructor
  . exact hs
  . exact hp.symm
  . intro others
    exact Getopt.Interface.scan_cons_of_flags h others

theorem readAs_of_pending {word flag argument : Text} {occurrences : List Getopt.Occurrence}
    {e : Getopt.Error}
    (h : (Getopt.Interface.ofOptions m.options).step word = .ok (.pending occurrences flag e))
    (hs : List.Forall₂ (StandsFor m) (occurrences ++ [⟨flag, argument⟩])
      (items.filterMap Item.given?))
    (hp : items.filterMap Item.positional? = []) :
    ReadAs m items [word, argument] ⟨occurrences ++ [⟨flag, argument⟩], []⟩ := by
  constructor
  . exact hs
  . exact hp.symm
  . intro others
    exact Getopt.Interface.scan_cons_of_pending h argument others

theorem names_short (hm : m.WellFormed) {o : OptionSpec} (ho : o ∈ m.options) :
    Names m ('-' :: o.short) o := by
  obtain ⟨c, hc, -⟩ := (hm.options o ho).short_form
  rw [hc]
  exact .short ho hc

theorem names_long (hd : (m.options.map (·.long)).Nodup) {o : OptionSpec} (ho : o ∈ m.options) :
    Names m ('-' :: '-' :: o.long) o := by
  apply Names.long
  rw [OptionSpec.find?_eq_some_iff hd]
  exact ⟨ho, rfl⟩

theorem standsFor_switches (hm : m.WellFormed) {switches : List OptionSpec}
    (h : ∀ o ∈ switches, o ∈ m.options ∧ o.isSwitch = true) :
    List.Forall₂ (StandsFor m) (switches.map Getopt.Occurrence.ofSwitch)
      ((switches.map Item.switch).filterMap Item.given?) := by
  induction switches with
  | nil => exact .nil
  | cons o os ih =>
    have ho := names_short hm (h o (by simp)).1
    exact .cons ⟨ho, rfl⟩ (ih fun o' ho' => h o' (by simp [ho']))

theorem positional?_switches (switches : List OptionSpec) :
    (switches.map Item.switch).filterMap Item.positional? = [] := by
  rw [List.filterMap_map, List.filterMap_eq_nil_iff]
  intro o _
  rfl

theorem step_long (hm : m.WellFormed) {body : Text} (h : body ≠ []) :
    (Getopt.Interface.ofOptions m.options).step ('-' :: '-' :: body) =
      Getopt.stepLong (m.options.map Getopt.LongName.ofOption) body := by
  rw [Getopt.Interface.ofOptions_eq hm.options, Getopt.Interface.step_long _ h]

theorem step_shorts (hm : m.WellFormed) {o : OptionSpec} (ho : o ∈ m.options) (cluster : Text) :
    (Getopt.Interface.ofOptions m.options).step ('-' :: (o.short ++ cluster)) =
      Getopt.stepShorts (Getopt.shortList m.options) (o.short ++ cluster) := by
  obtain ⟨c, hc, -⟩ := (hm.options o ho).short_form
  rw [Getopt.Interface.ofOptions_eq hm.options, hc]
  -- No short name is a hyphen, so this is neither a long flag nor the end of the options.
  exact Getopt.Interface.step_shorts _ (hm.ne_hyphen_of_short ho hc) cluster

theorem step_cluster (hm : m.WellFormed) {switches : List OptionSpec}
    (h : ∀ o ∈ switches, o ∈ m.options ∧ o.isSwitch = true) {o : OptionSpec} (ho : o ∈ m.options)
    (rest : Text) :
    (Getopt.Interface.ofOptions m.options).step
        ('-' :: (switches.flatMap (·.short) ++ (o.short ++ rest)))
      =
    (Getopt.stepShorts (Getopt.shortList m.options) (o.short ++ rest)).map
      (Getopt.Step.prepend (switches.map .ofSwitch)) := by
  rw [← Getopt.stepShorts_switches hm.options hm.nodup_shorts h]
  cases switches with
  | nil => exact step_shorts hm ho rest
  | cons first switches =>
    rw [List.flatMap_cons, List.append_assoc]
    exact step_shorts hm (h first (by simp)).1 _

theorem exists_readAs_of_writes (hm : m.WellFormed) (hd : (m.options.map (·.long)).Nodup)
    (h : Writes m.options items words) : ∃ s, ReadAs m items words s := by
  cases h with
  | positional h => exact ⟨_, readAs_of_positional hm h⟩
  | @longSwitch o ho hs name hn =>
    have hw := hm.options o ho
    have hstep := Getopt.stepLong_of_namesLong hd ho hw hn
    rw [← step_long hm (hn.ne_nil hw), if_pos hs] at hstep
    refine ⟨_, readAs_of_flags hstep ?_ rfl⟩
    exact .cons ⟨names_long hd ho, rfl⟩ .nil
  | @longDetached o ho hs name hn argument =>
    have hw := hm.options o ho
    have hstep := Getopt.stepLong_of_namesLong hd ho hw hn
    rw [← step_long hm (hn.ne_nil hw), hs, if_neg (by simp)] at hstep
    refine ⟨_, readAs_of_pending hstep ?_ rfl⟩
    exact .cons ⟨names_long hd ho, rfl⟩ .nil
  | @longAttached o ho hs name hn argument =>
    have hstep := Getopt.stepLong_attached hd ho (hm.options o ho) hs hn argument
    rw [← step_long hm (by simp)] at hstep
    refine ⟨_, readAs_of_flags hstep ?_ rfl⟩
    exact .cons ⟨names_long hd ho, rfl⟩ .nil
  | @switches switches hne h =>
    have hcluster := Getopt.stepShorts_switches hm.options hm.nodup_shorts h []
    rw [List.append_nil] at hcluster
    cases switches with
    | nil => contradiction
    | cons o os =>
      rw [List.flatMap_cons, ← step_shorts hm (h o (by simp)).1] at hcluster
      refine ⟨_, readAs_of_flags hcluster ?_ (positional?_switches _)⟩
      rw [List.append_nil]
      exact standsFor_switches hm h
  | @shortDetached switches h o ho hs argument =>
    obtain ⟨e, hstep⟩ := Getopt.stepShorts_value hm.options hm.nodup_shorts ho hs []
    rw [if_pos rfl] at hstep
    have hcluster := step_cluster hm h ho []
    rw [hstep, List.append_nil] at hcluster
    refine ⟨_, readAs_of_pending hcluster ?_ ?_⟩
    . rw [List.filterMap_append, List.append_nil]
      apply List.rel_append (standsFor_switches hm h)
      exact .cons ⟨names_short hm ho, rfl⟩ .nil
    . rw [List.filterMap_append, positional?_switches]
      rfl
  | @shortAttached switches h o ho hs argument hne =>
    obtain ⟨e, hstep⟩ := Getopt.stepShorts_value hm.options hm.nodup_shorts ho hs argument
    rw [if_neg hne] at hstep
    have hcluster := step_cluster hm h ho argument
    rw [hstep] at hcluster
    refine ⟨_, readAs_of_flags hcluster ?_ ?_⟩
    . rw [List.filterMap_append]
      apply List.rel_append (standsFor_switches hm h)
      exact .cons ⟨names_short hm ho, rfl⟩ .nil
    . rw [List.filterMap_append, positional?_switches]
      rfl

theorem exists_readAs_of_spells (hm : m.WellFormed) (hd : (m.options.map (·.long)).Nodup)
    (h : Spells m.options items words) : ∃ s, ReadAs m items words s := by
  induction h with
  | nil => exact ⟨_, readAs_nil m⟩
  | cons h _ ih =>
    obtain ⟨s, hs⟩ := exists_readAs_of_writes hm hd h
    obtain ⟨s', hs'⟩ := ih
    exact ⟨_, hs.append hs'⟩

theorem scan_endOfOptions (m : Manual) (tail : List Text) :
    scan m (endOfOptions :: tail) = .ok ⟨[], tail⟩ := by
  apply Getopt.Interface.scan_cons_of_finish
  rfl

/--
However options and positional arguments are spelled, parsing succeeds and comes to what they say, up
to the first request for help. Words behind the end of the options are positional, whatever they are.
-/
theorem parse_spells {marker : Text} {lines : List Text} {x : Extraction}
    (hx : extract marker lines = .ok x) (hd : (x.options.map (·.long)).Nodup) {items : List Item}
    {words : List Text} (h : Spells x.options items words) :
    parse x.manual words =
      .ok (outcome (.ofManual x.manual) (items.filterMap Item.given?)
        (items.filterMap Item.positional?)) ∧
    ∀ tail, parse x.manual (words ++ endOfOptions :: tail) =
      .ok (outcome (.ofManual x.manual) (items.filterMap Item.given?)
        (items.filterMap Item.positional? ++ tail)) := by
  have hm := Extraction.wellFormed_manual hx
  obtain ⟨s, hs⟩ := exists_readAs_of_spells hm hd h
  have hparse : ∀ others tail, scan x.manual others = .ok ⟨[], tail⟩ →
      parse x.manual (words ++ others) =
        .ok (outcome (.ofManual x.manual) (items.filterMap Item.given?)
          (items.filterMap Item.positional? ++ tail)) := by
    intro others tail ho
    have hscan : scan x.manual (words ++ others) = .ok (s.append ⟨[], tail⟩) := by
      rw [hs.scan_append, ho]
      rfl
    have hg : List.Forall₂ (StandsFor x.manual) (s.append ⟨[], tail⟩).occurrences
        (items.filterMap Item.given?) := by
      rw [Getopt.Scanned.append, List.append_nil]
      exact hs.standsFor
    rw [parse_eq_outcome hm hscan hg, Getopt.Scanned.append, hs.positionals]
  constructor
  . have := hparse [] [] rfl
    rwa [List.append_nil, List.append_nil] at this
  . intro tail
    exact hparse _ tail (scan_endOfOptions x.manual tail)

theorem parse_spells_sample :
    extract ['#'] sampleScript = .ok sample ∧
    (sample.options.map (·.long)).Nodup ∧
    Spells sample.options
      [.switch sampleSwitch, .switch sampleSwitch, .value sampleValue "--".toList,
        .positional "f".toList, .value sampleValue "-v".toList]
      (["--verb", "-vs", "--", "f", "--size=-v"].map String.toList) ∧
    parse sample.manual (["--verb", "-vs", "--", "f", "--size=-v", "--", "-h"].map String.toList) =
      .ok ⟨((Table.ofManual sample.manual).insert "vvalue".toList "true".toList).insert
        "svalue".toList "-v".toList, ["f".toList, "-h".toList], false⟩ := by
  have hd : (sample.options.map (·.long)).Nodup := by
    decide
  have hverb : Writes sample.options [.switch sampleSwitch] ['-' :: '-' :: "verb".toList] :=
    .longSwitch (by decide) rfl (.inr (by decide))
  have hvs : Writes sample.options ([sampleSwitch].map .switch ++ [.value sampleValue "--".toList])
      ['-' :: ([sampleSwitch].flatMap (·.short) ++ sampleValue.short), "--".toList] :=
    .shortDetached (by decide) (by decide) rfl "--".toList
  have hf : Writes sample.options [.positional "f".toList] ["f".toList] :=
    .positional (.inl (by decide))
  have hsize : Writes sample.options [.value sampleValue "-v".toList]
      ['-' :: '-' :: ("size".toList ++ '=' :: "-v".toList)] :=
    .longAttached (by decide) rfl (.inl rfl) "-v".toList
  have hs := Spells.cons hverb (.cons hvs (.cons hf (.cons hsize .nil)))
  have hp := (parse_spells extract_sampleScript hd hs).2 ["-h".toList]
  exact ⟨extract_sampleScript, hd, hs, hp⟩

end Arguments

end ScriptManual
