import ScriptManual.Proofs.Getopt.Step

/-!
This module contains where the arguments of flags come from. Every word of an argument vector is a
flag with what is attached to it, the argument of the flag in front of it, a positional argument, or
the end of the options.
-/

namespace ScriptManual

namespace Getopt

structure Use where
  flag : Text
  argument? : Option Text
  deriving Repr, DecidableEq

namespace Use

def occurrence (u : Use) : Occurrence :=
  ⟨u.flag, u.argument?.getD []⟩

def words (u : Use) : List Text :=
  u.flag :: u.argument?.toList

end Use

/--
What the short flags of a cluster take. Only the last one takes an argument, which is the rest of the
cluster, or the next word if there is no rest.
-/
inductive Cluster (shorts : Text) : Text → (next? : Option Text) → List Use → Prop where
  | nil : Cluster shorts [] none []
  | switch {c : Char} {cs : Text} {next? : Option Text} {uses : List Use}
      (hc : shortTakesArgument? c shorts = some false) (h : Cluster shorts cs next? uses) :
    Cluster shorts (c :: cs) next? (⟨['-', c], none⟩ :: uses)
  | attached {c : Char} {cs : Text} (hc : shortTakesArgument? c shorts = some true) (hne : cs ≠ []) :
    Cluster shorts (c :: cs) none [⟨['-', c], some cs⟩]
  | detached {c : Char} (hc : shortTakesArgument? c shorts = some true) (next : Text) :
    Cluster shorts [c] (some next) [⟨['-', c], some next⟩]

inductive Word (i : Interface) : Text → (next? : Option Text) → List Use → Prop where
  | longSwitch {name l : Text} (hn : '=' ∉ name) (hl : resolveLong i.longs name = .ok ⟨l, false⟩) :
    Word i ('-' :: '-' :: name) none [⟨'-' :: '-' :: l, none⟩]
  | longAttached {name l : Text} (hn : '=' ∉ name) (hl : resolveLong i.longs name = .ok ⟨l, true⟩)
      (argument : Text) :
    Word i ('-' :: '-' :: (name ++ '=' :: argument)) none [⟨'-' :: '-' :: l, some argument⟩]
  | longDetached {name l : Text} (hn : '=' ∉ name) (hl : resolveLong i.longs name = .ok ⟨l, true⟩)
      (next : Text) :
    Word i ('-' :: '-' :: name) (some next) [⟨'-' :: '-' :: l, some next⟩]
  | cluster {c : Char} {cs : Text} {next? : Option Text} {uses : List Use} (hc : c ≠ '-')
      (h : Cluster i.shorts (c :: cs) next? uses) :
    Word i ('-' :: c :: cs) next? uses

/--
What the flags of an argument vector take, and the positional arguments that are left.
-/
inductive Takes (i : Interface) : List Text → List Use → (positionals : List Text) → Prop where
  | nil : Takes i [] [] []
  | finish (rest : List Text) : Takes i (['-', '-'] :: rest) [] rest
  | positional {argument : Text} {rest positionals : List Text} {uses : List Use}
      (h : IsPositional argument) (hr : Takes i rest uses positionals) :
    Takes i (argument :: rest) uses (argument :: positionals)
  | flags {word : Text} {next? : Option Text} {rest positionals : List Text} {uses more : List Use}
      (hne : word ≠ ['-', '-']) (h : Word i word next? uses) (hr : Takes i rest more positionals) :
    Takes i (word :: (next?.toList ++ rest)) (uses ++ more) positionals

def Step.Gives (R : Option Text → List Use → Prop) : Step → Prop
  | .flags occurrences => ∃ uses, R none uses ∧ uses.map Use.occurrence = occurrences
  | .pending occurrences flag _ =>
    ∀ next, ∃ uses, R (some next) uses ∧ uses.map Use.occurrence = occurrences ++ [⟨flag, next⟩]
  | .positional => False
  | .finish => False

theorem gives_stepShorts {shorts cluster : Text} {s : Step}
    (h : stepShorts shorts cluster = .ok s) : s.Gives (Cluster shorts cluster) := by
  induction cluster generalizing s with
  | nil =>
    cases h
    exact ⟨[], .nil, rfl⟩
  | cons c cs ih =>
    rw [stepShorts] at h
    split at h
    . contradiction
    . next hc =>
      split at h
      . next hcs =>
        cases h
        rw [List.isEmpty_iff] at hcs
        subst hcs
        intro next
        exact ⟨_, .detached hc next, rfl⟩
      . next hcs =>
        cases h
        rw [List.isEmpty_iff] at hcs
        exact ⟨_, .attached hc hcs, rfl⟩
    . next hc =>
      cases hs : stepShorts shorts cs with
      | error e =>
        rw [hs] at h
        contradiction
      | ok s' =>
        have hg := ih hs
        rw [hs] at h
        cases s' with
        | flags occurrences =>
          cases h
          obtain ⟨uses, hu, rfl⟩ := hg
          exact ⟨_, .switch hc hu, rfl⟩
        | pending occurrences flag error =>
          cases h
          intro next
          obtain ⟨uses, hu, ho⟩ := hg next
          refine ⟨_, .switch hc hu, ?_⟩
          rw [List.map_cons, ho]
          rfl
        | positional => exact hg.elim
        | finish => exact hg.elim

theorem gives_stepLong {i : Interface} {body : Text} {s : Step} (h : stepLong i.longs body = .ok s) :
    s.Gives (Word i ('-' :: '-' :: body)) := by
  unfold stepLong at h
  by_cases hb : '=' ∈ body
  . obtain ⟨name, argument, rfl, hn⟩ := List.eq_append_cons_of_mem hb
    rw [Text.cut_append_cons hn] at h
    dsimp only at h
    cases hr : resolveLong i.longs name with
    | error e =>
      rw [hr] at h
      contradiction
    | ok l =>
      rw [hr] at h
      obtain ⟨l, takes⟩ := l
      cases takes with
      | false => contradiction
      | true =>
        cases h
        exact ⟨_, .longAttached hn hr argument, rfl⟩
  . rw [Text.cut_of_not_mem hb] at h
    dsimp only at h
    cases hr : resolveLong i.longs body with
    | error e =>
      rw [hr] at h
      contradiction
    | ok l =>
      rw [hr] at h
      obtain ⟨l, takes⟩ := l
      cases takes with
      | false =>
        cases h
        exact ⟨_, .longSwitch hb hr, rfl⟩
      | true =>
        cases h
        intro next
        exact ⟨_, .longDetached hb hr next, rfl⟩

theorem step_cases {i : Interface} {word : Text} {s : Step} (h : i.step word = .ok s) :
    (s = .finish ∧ word = ['-', '-']) ∨ (s = .positional ∧ IsPositional word) ∨
      (word ≠ ['-', '-'] ∧ s.Gives (Word i word)) := by
  unfold Interface.step at h
  split at h
  . cases h
    exact .inl ⟨rfl, rfl⟩
  . next body hne =>
    refine .inr (.inr ⟨?_, gives_stepLong h⟩)
    simpa using hne
  . cases h
    exact .inr (.inl ⟨rfl, .inr rfl⟩)
  . next cluster hend hlong hhyphen =>
    obtain ⟨c, cs, rfl⟩ : ∃ c cs, cluster = c :: cs := by
      cases cluster with
      | nil => exact absurd rfl hhyphen
      | cons c cs => exact ⟨c, cs, rfl⟩
    have hc : c ≠ '-' := by
      rintro rfl
      exact hlong cs rfl
    refine .inr (.inr ⟨?_, ?_⟩)
    . simp [hc]
    . have hg := gives_stepShorts h
      cases s with
      | flags occurrences =>
        obtain ⟨uses, hu, ho⟩ := hg
        exact ⟨uses, .cluster hc hu, ho⟩
      | pending occurrences flag error =>
        intro next
        obtain ⟨uses, hu, ho⟩ := hg next
        exact ⟨uses, .cluster hc hu, ho⟩
      | positional => exact hg
      | finish => exact hg
  . next h' =>
    cases h
    refine .inr (.inl ⟨rfl, .inl ?_⟩)
    intro hh
    obtain ⟨cs, rfl⟩ := List.head?_eq_some_iff.1 hh
    exact h' cs rfl

theorem exists_takes_of_scan {i : Interface} (hi : i.optionsFirst = false) (argv : List Text)
    (s : Scanned) (h : i.scan argv = .ok s) :
    ∃ uses, Takes i argv uses s.positionals ∧ uses.map Use.occurrence = s.occurrences := by
  match argv with
  | [] =>
    cases h
    exact ⟨[], .nil, rfl⟩
  | word :: rest =>
    cases hs : i.step word with
    | error e =>
      rw [Interface.scan_cons_of_error hs] at h
      contradiction
    | ok step =>
      obtain ⟨rfl, rfl⟩ | ⟨rfl, hp⟩ | ⟨hne, hg⟩ := step_cases hs
      . rw [Interface.scan_cons_of_finish hs] at h
        cases h
        exact ⟨[], .finish rest, rfl⟩
      . rw [Interface.scan_cons_of_positional hi hs] at h
        obtain ⟨s', hs', rfl⟩ := exists_of_map_eq_ok h
        obtain ⟨uses, ht, ho⟩ := exists_takes_of_scan hi rest s' hs'
        exact ⟨uses, .positional hp ht, ho⟩
      . cases step with
        | flags occurrences =>
          rw [Interface.scan_cons_of_flags hs] at h
          obtain ⟨s', hs', rfl⟩ := exists_of_map_eq_ok h
          obtain ⟨more, ht, ho⟩ := exists_takes_of_scan hi rest s' hs'
          obtain ⟨uses, hw, hu⟩ := hg
          refine ⟨uses ++ more, .flags hne hw ht, ?_⟩
          rw [List.map_append, hu, ho]
          rfl
        | pending occurrences flag e =>
          cases rest with
          | nil =>
            rw [Interface.scan_singleton_of_pending hs] at h
            contradiction
          | cons next rest =>
            rw [Interface.scan_cons_of_pending hs] at h
            obtain ⟨s', hs', rfl⟩ := exists_of_map_eq_ok h
            obtain ⟨more, ht, ho⟩ := exists_takes_of_scan hi rest s' hs'
            obtain ⟨uses, hw, hu⟩ := hg next
            refine ⟨uses ++ more, .flags hne hw ht, ?_⟩
            rw [List.map_append, hu, ho]
            rfl
        | positional => exact hg.elim
        | finish => exact hg.elim
termination_by argv.length

/--
Whether there are options with the flag of a use, and an argument is taken exactly if all of them take
one.
-/
def Use.Unanimous (options : List OptionSpec) (u : Use) : Prop :=
  (∃ o ∈ options, u.flag ∈ o.flags) ∧
    (u.argument?.isSome = true ↔ ∀ o ∈ options, u.flag ∈ o.flags → o.isSwitch = false)

theorem not_mem_of_resolveLong {longs : List LongName} {name l : Text}
    (h : resolveLong longs name = .ok ⟨l, true⟩) : ⟨l, false⟩ ∉ longs := by
  intro hm
  unfold resolveLong at h
  dsimp only at h
  split at h
  . cases h
  . next hf =>
    split at h
    . -- The name is a whole one, and those of switches come first.
      cases h
      apply hf
      rw [List.contains_iff_mem, List.mem_filter]
      exact ⟨hm, by simp⟩
    . split at h
      . contradiction
      . next l' hc =>
        cases h
        have hl : (⟨l, true⟩ : LongName) ∈ longs.filter fun l => name.isPrefixOf l.name := by
          rw [hc]
          simp
        have hl' : (⟨l, false⟩ : LongName) ∈ longs.filter fun l => name.isPrefixOf l.name :=
          List.mem_filter.2 ⟨hm, (List.mem_filter.1 hl).2⟩
        rw [hc] at hl'
        simp at hl'
      . contradiction

variable {options : List OptionSpec}

theorem unanimous_of_resolveLong (hw : ∀ o ∈ options, o.WellFormed) {name l : Text} {u : Use}
    (hf : u.flag = '-' :: '-' :: l)
    (h : resolveLong (options.map LongName.ofOption) name = .ok ⟨l, u.argument?.isSome⟩) :
    u.Unanimous options := by
  obtain ⟨o, ho, heq⟩ := List.mem_map.1 (mem_of_resolveLong h)
  rw [LongName.ofOption, LongName.mk.injEq] at heq
  obtain ⟨hl, ht⟩ := heq
  have hfo : u.flag ∈ o.flags := by
    rw [hf, OptionSpec.longFlag_mem_flags (hw o ho)]
    exact hl
  refine ⟨⟨o, ho, hfo⟩, ?_⟩
  constructor
  . intro hu o' ho' hf'
    rw [hf, OptionSpec.longFlag_mem_flags (hw o' ho')] at hf'
    rw [hu] at h
    rw [← Bool.not_eq_true]
    intro hs
    apply not_mem_of_resolveLong h
    refine List.mem_map.2 ⟨o', ho', ?_⟩
    rw [LongName.ofOption, hf', hs]
    rfl
  . intro hall
    rw [← ht, hall o ho hfo]
    rfl

theorem unanimous_of_shortTakesArgument? (hw : ∀ o ∈ options, o.WellFormed)
    (hn : (options.map (·.short)).Nodup) {c : Char} {u : Use} (hf : u.flag = ['-', c])
    (h : shortTakesArgument? c (shortList options) = some u.argument?.isSome) :
    u.Unanimous options := by
  rw [shortTakesArgument?_shortList hw, Option.map_eq_some_iff] at h
  obtain ⟨o, ho, hs⟩ := h
  rw [OptionSpec.find?_eq_some_iff hn] at ho
  obtain ⟨ho, hc⟩ := ho
  have hhyphen : c ≠ '-' := by
    obtain ⟨c', hc', hword⟩ := (hw o ho).short_form
    rw [hc] at hc'
    cases hc'
    exact Header.ne_of_isWordChar hword (by decide)
  have hone : ∀ o' ∈ options, u.flag ∈ o'.flags ↔ o' = o := by
    intro o' ho'
    rw [hf, OptionSpec.shortFlag_mem_flags hhyphen, ← hc]
    constructor
    . exact List.inj_on_of_nodup_map hn ho' ho
    . rintro rfl
      rfl
  refine ⟨⟨o, ho, (hone o ho).2 rfl⟩, ?_⟩
  rw [← hs, Bool.not_eq_true']
  constructor
  . intro hsw o' ho' hf'
    rwa [(hone o' ho').1 hf']
  . intro hall
    exact hall o ho ((hone o ho).2 rfl)

theorem Cluster.unanimous (hw : ∀ o ∈ options, o.WellFormed) (hn : (options.map (·.short)).Nodup)
    {cs : Text} {next? : Option Text} {uses : List Use}
    (h : Cluster (shortList options) cs next? uses) : ∀ u ∈ uses, u.Unanimous options := by
  induction h with
  | nil => simp
  | switch hc _ ih =>
    rw [List.forall_mem_cons]
    exact ⟨unanimous_of_shortTakesArgument? hw hn rfl hc, ih⟩
  | attached hc _ =>
    rw [List.forall_mem_singleton]
    exact unanimous_of_shortTakesArgument? hw hn rfl hc
  | detached hc next =>
    rw [List.forall_mem_singleton]
    exact unanimous_of_shortTakesArgument? hw hn rfl hc

theorem Word.unanimous (hw : ∀ o ∈ options, o.WellFormed) (hn : (options.map (·.short)).Nodup)
    {word : Text} {next? : Option Text} {uses : List Use}
    (h : Word (.ofOptions options) word next? uses) : ∀ u ∈ uses, u.Unanimous options := by
  rw [Interface.ofOptions_eq hw] at h
  cases h with
  | longSwitch _ hl =>
    rw [List.forall_mem_singleton]
    exact unanimous_of_resolveLong hw rfl hl
  | longAttached _ hl argument =>
    rw [List.forall_mem_singleton]
    exact unanimous_of_resolveLong hw rfl hl
  | longDetached _ hl next =>
    rw [List.forall_mem_singleton]
    exact unanimous_of_resolveLong hw rfl hl
  | cluster _ h => exact h.unanimous hw hn

theorem Takes.unanimous (hw : ∀ o ∈ options, o.WellFormed) (hn : (options.map (·.short)).Nodup)
    {argv positionals : List Text} {uses : List Use}
    (h : Takes (.ofOptions options) argv uses positionals) : ∀ u ∈ uses, u.Unanimous options := by
  induction h with
  | nil => simp
  | finish rest => simp
  | positional _ _ ih => exact ih
  | flags _ h _ ih =>
    rw [List.forall_mem_append]
    exact ⟨h.unanimous hw hn, ih⟩

end Getopt

end ScriptManual
