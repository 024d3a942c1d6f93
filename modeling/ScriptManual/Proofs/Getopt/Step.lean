import ScriptManual.Proofs.Getopt.Interface

/-!
This module contains what a single argument says that is spelled in one of the ways in which flags
and positional arguments can be: long flags, also shortened, clusters of short flags, and the rest.
-/

namespace ScriptManual

namespace Getopt

variable {options : List OptionSpec} {o : OptionSpec}

/--
Whether a text is a long name of an option or short for it. A shortened name must not be short for
another one, but a whole name may be.
-/
def NamesLong (options : List OptionSpec) (o : OptionSpec) (name : Text) : Prop :=
  name = o.long ∨
    name ≠ [] ∧ name <+: o.long ∧ ∀ o' ∈ options, name <+: o'.long → o'.long = o.long

def IsPositional (argument : Text) : Prop :=
  argument.head? ≠ some '-' ∨ argument = ['-']

theorem NamesLong.isPrefix {name : Text} (h : NamesLong options o name) : name <+: o.long := by
  obtain rfl | ⟨-, hp, -⟩ := h
  . exact List.prefix_refl o.long
  . exact hp

theorem NamesLong.ne_nil {name : Text} (h : NamesLong options o name) (ho : o.WellFormed) :
    name ≠ [] := by
  obtain rfl | ⟨hn, -, -⟩ := h
  . exact ho.long_ne_nil
  . exact hn

theorem NamesLong.not_mem {name : Text} (h : NamesLong options o name) (ho : o.WellFormed) :
    '=' ∉ name := by
  intro hm
  have hl : '=' ∈ o.long := h.isPrefix.subset hm
  exact Header.not_mem_of_isLongChar ho.long_isLongChar (by decide) hl

theorem mem_candidates_iff (hd : (options.map (·.long)).Nodup) (ho : o ∈ options) (b : Bool) :
    ⟨o.long, b⟩ ∈ (options.map LongName.ofOption).filter (fun l => o.long.isPrefixOf l.name) ↔
      b = !o.isSwitch := by
  rw [List.mem_filter, List.mem_map]
  constructor
  . rintro ⟨⟨o', ho', heq⟩, -⟩
    rw [LongName.ofOption, LongName.mk.injEq] at heq
    rw [← heq.2, List.inj_on_of_nodup_map hd ho' ho heq.1]
  . rintro rfl
    exact ⟨⟨o, ho, rfl⟩, by simp⟩

theorem filter_isPrefixOf_eq_singleton (hd : (options.map (·.long)).Nodup) (ho : o ∈ options)
    {name : Text} (hp : name <+: o.long)
    (hu : ∀ o' ∈ options, name <+: o'.long → o'.long = o.long) :
    (options.map LongName.ofOption).filter (fun l => name.isPrefixOf l.name) =
      [LongName.ofOption o] := by
  have hf : options.filter (fun o' => name.isPrefixOf o'.long) = [o] := by
    rw [List.filter_congr (q := (· == o)), List.filter_beq]
    . rw [List.count_eq_one_of_mem hd.of_map ho]
      rfl
    . intro o' ho'
      rw [Bool.eq_iff_iff, List.isPrefixOf_iff_prefix, beq_iff_eq]
      constructor
      . intro h
        exact List.inj_on_of_nodup_map hd ho' ho (hu o' ho' h)
      . rintro rfl
        exact hp
  rw [List.filter_map]
  exact congrArg (List.map LongName.ofOption) hf

theorem resolveLong_of_namesLong (hd : (options.map (·.long)).Nodup) (ho : o ∈ options)
    {name : Text} (h : NamesLong options o name) :
    resolveLong (options.map LongName.ofOption) name = .ok (.ofOption o) := by
  unfold resolveLong
  dsimp only
  obtain rfl | ⟨-, hp, hu⟩ := h
  . -- Longer names are candidates too, but the one with this name comes before them.
    have hc : ∀ b, ((options.map LongName.ofOption).filter
        fun l => o.long.isPrefixOf l.name).contains ⟨o.long, b⟩ = (b == !o.isSwitch) := by
      intro b
      rw [Bool.eq_iff_iff, List.contains_iff_mem, beq_iff_eq]
      exact mem_candidates_iff hd ho b
    rw [hc, hc]
    unfold LongName.ofOption
    cases o.isSwitch <;> rfl
  . rw [filter_isPrefixOf_eq_singleton hd ho hp hu]
    split
    . next h =>
      rw [List.contains_iff_mem, List.mem_singleton] at h
      rw [h]
    . split
      . next h =>
        rw [List.contains_iff_mem, List.mem_singleton] at h
        rw [h]
      . rfl

theorem stepLong_of_namesLong (hd : (options.map (·.long)).Nodup) (ho : o ∈ options)
    (hw : o.WellFormed) {name : Text} (h : NamesLong options o name) :
    stepLong (options.map LongName.ofOption) name =
      if o.isSwitch then
        .ok (.flags [⟨'-' :: '-' :: o.long, []⟩])
      else
        .ok (.pending [] ('-' :: '-' :: o.long) (.longNeedsArgument o.long)) := by
  unfold stepLong
  rw [Text.cut_of_not_mem (h.not_mem hw)]
  dsimp only
  rw [resolveLong_of_namesLong hd ho h]
  unfold LongName.ofOption
  cases o.isSwitch <;> rfl

theorem stepLong_attached (hd : (options.map (·.long)).Nodup) (ho : o ∈ options)
    (hw : o.WellFormed) (hs : o.isSwitch = false) {name : Text} (h : NamesLong options o name)
    (argument : Text) :
    stepLong (options.map LongName.ofOption) (name ++ '=' :: argument) =
      .ok (.flags [⟨'-' :: '-' :: o.long, argument⟩]) := by
  unfold stepLong
  rw [Text.cut_append_cons (h.not_mem hw)]
  dsimp only
  rw [resolveLong_of_namesLong hd ho h]
  unfold LongName.ofOption
  rw [hs]
  rfl

def Scanned.append (s t : Scanned) : Scanned :=
  ⟨s.occurrences ++ t.occurrences, s.positionals ++ t.positionals⟩

theorem Scanned.append_assoc (s t u : Scanned) : (s.append t).append u = s.append (t.append u) := by
  simp [append]

def Step.prepend (occurrences : List Occurrence) : Step → Step
  | .flags more => .flags (occurrences ++ more)
  | .pending more flag error => .pending (occurrences ++ more) flag error
  | s => s

def Occurrence.ofSwitch (o : OptionSpec) : Occurrence :=
  ⟨'-' :: o.short, []⟩

theorem shortTakesArgument?_of_mem (hw : ∀ o ∈ options, o.WellFormed)
    (hn : (options.map (·.short)).Nodup) (ho : o ∈ options) {c : Char} (hc : o.short = [c]) :
    shortTakesArgument? c (shortList options) = some !o.isSwitch := by
  have hf : options.find? (·.short == [c]) = some o :=
    (OptionSpec.find?_eq_some_iff hn).2 ⟨ho, hc⟩
  rw [shortTakesArgument?_shortList hw, hf]
  rfl

theorem stepShorts_switch (hw : ∀ o ∈ options, o.WellFormed)
    (hn : (options.map (·.short)).Nodup) (ho : o ∈ options) (hs : o.isSwitch = true)
    (cluster : Text) :
    stepShorts (shortList options) (o.short ++ cluster) =
      (stepShorts (shortList options) cluster).map (Step.prepend [.ofSwitch o]) := by
  obtain ⟨c, hc, -⟩ := (hw o ho).short_form
  unfold Occurrence.ofSwitch
  rw [hc, List.singleton_append, stepShorts, shortTakesArgument?_of_mem hw hn ho hc, hs]
  cases stepShorts (shortList options) cluster with
  | error e => rfl
  | ok s => cases s <;> rfl

theorem stepShorts_switches (hw : ∀ o ∈ options, o.WellFormed)
    (hn : (options.map (·.short)).Nodup) {switches : List OptionSpec}
    (h : ∀ o ∈ switches, o ∈ options ∧ o.isSwitch = true) (cluster : Text) :
    stepShorts (shortList options) (switches.flatMap (·.short) ++ cluster) =
      (stepShorts (shortList options) cluster).map
        (Step.prepend (switches.map .ofSwitch)) := by
  induction switches with
  | nil =>
    rw [List.flatMap_nil, List.nil_append]
    cases stepShorts (shortList options) cluster with
    | error e => rfl
    | ok s => cases s <;> rfl
  | cons o os ih =>
    have ho := h o (by simp)
    rw [List.flatMap_cons, List.append_assoc, stepShorts_switch hw hn ho.1 ho.2]
    rw [ih fun o' ho' => h o' (by simp [ho'])]
    cases stepShorts (shortList options) cluster with
    | error e => rfl
    | ok s => cases s <;> rfl

theorem stepShorts_value (hw : ∀ o ∈ options, o.WellFormed) (hn : (options.map (·.short)).Nodup)
    (ho : o ∈ options) (hs : o.isSwitch = false) (argument : Text) :
    ∃ e, stepShorts (shortList options) (o.short ++ argument) =
      if argument = [] then
        .ok (.pending [] ('-' :: o.short) e)
      else
        .ok (.flags [⟨'-' :: o.short, argument⟩]) := by
  obtain ⟨c, hc, -⟩ := (hw o ho).short_form
  refine ⟨.shortNeedsArgument c, ?_⟩
  rw [hc, List.singleton_append, stepShorts, shortTakesArgument?_of_mem hw hn ho hc, hs]
  cases argument <;> rfl

namespace Interface

theorem step_positional (i : Interface) {argument : Text} (h : IsPositional argument) :
    i.step argument = .ok .positional := by
  obtain h | rfl := h
  . unfold step
    split
    . simp at h
    . simp at h
    . rfl
    . simp at h
    . rfl
  . rfl

theorem step_long (i : Interface) {body : Text} (h : body ≠ []) :
    i.step ('-' :: '-' :: body) = stepLong i.longs body := by
  cases body with
  | nil => contradiction
  | cons c cs => rfl

theorem step_shorts (i : Interface) {c : Char} (hc : c ≠ '-') (cluster : Text) :
    i.step ('-' :: c :: cluster) = stepShorts i.shorts (c :: cluster) := by
  unfold step
  split
  . next h =>
    cases h
    contradiction
  . next h =>
    cases h
    contradiction
  . next h => simp at h
  . next h =>
    cases h
    rfl
  . next h => exact absurd rfl (h _)

end Interface

end Getopt

end ScriptManual
