import ScriptManual.Getopt.Scan
import ScriptManual.Proofs.Manual.Declared
import ScriptManual.Proofs.Text.Split

/-!
This module contains what an argument vector is read with if the options have the form that scripts
declare: the two lists of names say of every option which flags it has and whether it takes an
argument, and every flag that is read belongs to an option.
-/

namespace ScriptManual

namespace Header

theorem ne_of_isWordChar {c d : Char} (hc : isWordChar c = true) (hd : isWordChar d = false) :
    c ≠ d := by
  rintro rfl
  rw [hc] at hd
  contradiction

theorem not_mem_of_isLongChar {t : Text} {c : Char} (ht : ∀ d ∈ t, isLongChar d = true)
    (hc : isLongChar c = false) : c ∉ t := by
  intro hm
  rw [ht c hm] at hc
  contradiction

end Header

namespace OptionSpec

def flags (o : OptionSpec) : List Text :=
  ['-' :: o.short, '-' :: '-' :: o.long]

theorem mem_flags {o : OptionSpec} {flag : Text} :
    flag ∈ o.flags ↔ flag = '-' :: o.short ∨ flag = '-' :: '-' :: o.long := by
  simp [flags]

theorem shortFlag_mem_flags {o : OptionSpec} {c : Char} (hc : c ≠ '-') :
    ['-', c] ∈ o.flags ↔ o.short = [c] := by
  simp [flags, hc, eq_comm]

theorem longFlag_mem_flags {o : OptionSpec} (hw : o.WellFormed) {name : Text} :
    '-' :: '-' :: name ∈ o.flags ↔ o.long = name := by
  obtain ⟨s, hs, hc⟩ := hw.short_form
  have hn : '-' ≠ s := by
    rintro rfl
    contradiction
  simp [flags, hs, hn, eq_comm]

end OptionSpec

namespace Getopt

def LongName.ofOption (o : OptionSpec) : LongName :=
  ⟨o.long, !o.isSwitch⟩

theorem LongName.ofEntry_append_mark {o : OptionSpec} (h : o.WellFormed) :
    LongName.ofEntry (o.long ++ mark o) = .ofOption o := by
  unfold ofEntry mark ofOption
  cases hs : o.isSwitch with
  | false => simp
  | true =>
    simp only [if_true, List.append_nil, Bool.not_true]
    cases hr : o.long.reverse with
    | nil => exact absurd (List.reverse_eq_nil_iff.1 hr) h.long_ne_nil
    | cons c cs =>
      have hc : c ∈ o.long := by
        rw [← List.mem_reverse, hr]
        simp
      have hl := h.long_isLongChar c hc
      have h₁ : c ≠ ':' := by
        rintro rfl
        contradiction
      have h₂ : c ≠ '=' := by
        rintro rfl
        contradiction
      simp [h₁, h₂]

theorem longNames_longList {options : List OptionSpec} (h : ∀ o ∈ options, o.WellFormed) :
    longNames (longList options) = options.map LongName.ofOption := by
  cases options with
  | nil => rfl
  | cons o os =>
    unfold longNames longList
    rw [Text.split_join ',' (by simp), Text.flatMap_split_of_not_mem]
    . rw [List.filter_eq_self.2, List.map_map]
      . apply List.map_congr_left
        intro o' ho
        exact LongName.ofEntry_append_mark (h o' ho)
      . intro entry hm
        obtain ⟨o', ho, rfl⟩ := List.mem_map.1 hm
        simp [(h o' ho).long_ne_nil]
    . intro entry hm
      obtain ⟨o', ho, rfl⟩ := List.mem_map.1 hm
      have hc : Header.isLongChar ',' = false := by decide
      have hl := Header.not_mem_of_isLongChar (h o' ho).long_isLongChar hc
      unfold mark
      split <;> simp [hl]

theorem shortTakesArgument?_append_mark (name : Char) (o : OptionSpec) (shorts : Text) :
    shortTakesArgument? name (mark o ++ shorts) = shortTakesArgument? name shorts := by
  unfold mark
  split
  . rfl
  . simp [shortTakesArgument?]

theorem head?_shortList_ne {options : List OptionSpec} (h : ∀ o ∈ options, o.WellFormed) {c : Char}
    (hc : Header.isWordChar c = false) : (shortList options).head? ≠ some c := by
  cases options with
  | nil => simp [shortList]
  | cons o os =>
    obtain ⟨s, hs, hw⟩ := (h o (by simp)).short_form
    simp [shortList, hs, Header.ne_of_isWordChar hw hc]

theorem shortTakesArgument?_shortList {options : List OptionSpec}
    (h : ∀ o ∈ options, o.WellFormed) (name : Char) :
    shortTakesArgument? name (shortList options) =
      (options.find? (·.short == [name])).map fun o => !o.isSwitch := by
  induction options with
  | nil => rfl
  | cons o os ih =>
    obtain ⟨s, hs, hw⟩ := (h o (by simp)).short_form
    have hos : ∀ o' ∈ os, o'.WellFormed := fun o' ho => h o' (by simp [ho])
    have hl : shortList (o :: os) = s :: (mark o ++ shortList os) := by
      simp [shortList, hs]
    rw [hl, shortTakesArgument?]
    have hcolon : s ≠ ':' := Header.ne_of_isWordChar hw (by decide)
    by_cases hn : s = name
    . have hf : (o :: os).find? (·.short == [name]) = some o := by
        simp [hs, hn]
      rw [if_pos ⟨hn, hcolon⟩, hf]
      have hh := head?_shortList_ne hos (c := ':') (by decide)
      unfold mark
      cases hsw : o.isSwitch <;> simp [hsw, hh]
    . have hf : (o :: os).find? (·.short == [name]) = os.find? (·.short == [name]) := by
        simp [hs, hn]
      rw [if_neg (fun hc => hn hc.1), hf, shortTakesArgument?_append_mark]
      exact ih hos

theorem Interface.ofOptions_eq {options : List OptionSpec} (h : ∀ o ∈ options, o.WellFormed) :
    Interface.ofOptions options = ⟨shortList options, options.map LongName.ofOption, false⟩ := by
  unfold ofOptions ofLists
  have hp := head?_shortList_ne h (c := '+') (by decide)
  split
  . next hs => simp [hs] at hp
  . rw [longNames_longList h]

def Step.flagNames : Step → List Text
  | .flags occurrences => occurrences.map (·.flag)
  | .pending occurrences flag _ => occurrences.map (·.flag) ++ [flag]
  | .positional => []
  | .finish => []

theorem mem_of_resolveLong {longs : List LongName} {name : Text} {l : LongName}
    (h : resolveLong longs name = .ok l) : l ∈ longs := by
  unfold resolveLong at h
  dsimp only at h
  split at h
  . next hc =>
    cases h
    exact List.mem_of_mem_filter (List.contains_iff_mem.1 hc)
  . split at h
    . next hc =>
      cases h
      exact List.mem_of_mem_filter (List.contains_iff_mem.1 hc)
    . split at h
      . contradiction
      . next hc =>
        cases h
        have hm : l ∈ longs.filter fun l => name.isPrefixOf l.name := by
          rw [hc]
          simp
        exact List.mem_of_mem_filter hm
      . contradiction

variable {options : List OptionSpec}

theorem flagNames_stepLong {body : Text} {s : Step}
    (h : stepLong (options.map LongName.ofOption) body = .ok s) :
    ∀ flag ∈ s.flagNames, ∃ o ∈ options, flag ∈ o.flags := by
  unfold stepLong at h
  dsimp only at h
  cases hr : resolveLong (options.map LongName.ofOption) (Text.cut '=' body).1 with
  | error e =>
    rw [hr] at h
    contradiction
  | ok l =>
    rw [hr] at h
    obtain ⟨o, ho, rfl⟩ := List.mem_map.1 (mem_of_resolveLong hr)
    have hf : s.flagNames = ['-' :: '-' :: o.long] := by
      simp only [bind, Except.bind] at h
      split at h <;> cases h <;> rfl
    intro flag hm
    rw [hf, List.mem_singleton] at hm
    exact ⟨o, ho, by simp [OptionSpec.flags, hm]⟩

theorem flagNames_stepShorts (hw : ∀ o ∈ options, o.WellFormed) {cluster : Text} {s : Step}
    (h : stepShorts (shortList options) cluster = .ok s) :
    ∀ flag ∈ s.flagNames, ∃ o ∈ options, flag ∈ o.flags := by
  induction cluster generalizing s with
  | nil =>
    cases h
    simp [Step.flagNames]
  | cons c cs ih =>
    rw [stepShorts, shortTakesArgument?_shortList hw] at h
    cases hf : options.find? (·.short == [c]) with
    | none => simp [hf] at h
    | some o =>
      have ho : ∃ o ∈ options, ['-', c] ∈ o.flags := by
        have hs : o.short = [c] := by simpa using List.find?_some hf
        exact ⟨o, List.mem_of_find?_eq_some hf, by simp [OptionSpec.flags, hs]⟩
      rw [hf] at h
      cases hsw : o.isSwitch with
      | false =>
        simp only [Option.map_some, hsw, Bool.not_false] at h
        split at h
        . cases h
          simpa [Step.flagNames] using ho
        . cases h
          simpa [Step.flagNames] using ho
      | true =>
        simp only [Option.map_some, hsw, Bool.not_true] at h
        cases hr : stepShorts (shortList options) cs with
        | error e =>
          rw [hr] at h
          contradiction
        | ok s' =>
          rw [hr] at h
          have hs' := ih hr
          cases s' with
          | flags occurrences =>
            cases h
            simpa [Step.flagNames, ho] using hs'
          | pending occurrences flag error =>
            cases h
            simpa [Step.flagNames, ho] using hs'
          | positional =>
            cases h
            exact hs'
          | finish =>
            cases h
            exact hs'

theorem flagNames_step (hw : ∀ o ∈ options, o.WellFormed) {argument : Text} {s : Step}
    (h : (Interface.ofOptions options).step argument = .ok s) :
    ∀ flag ∈ s.flagNames, ∃ o ∈ options, flag ∈ o.flags := by
  rw [Interface.ofOptions_eq hw] at h
  unfold Interface.step at h
  split at h
  . cases h
    simp [Step.flagNames]
  . exact flagNames_stepLong h
  . cases h
    simp [Step.flagNames]
  . exact flagNames_stepShorts hw h
  . cases h
    simp [Step.flagNames]

theorem exists_of_map_eq_ok {ε α β : Type} {f : α → β} {x : Except ε α} {b : β}
    (h : x.map f = .ok b) : ∃ a, x = .ok a ∧ f a = b := by
  cases x with
  | error e => contradiction
  | ok a =>
    cases h
    exact ⟨a, rfl, rfl⟩

namespace Interface

variable {i : Interface} {argument : Text}

theorem scan_cons_of_error {e : Error} (h : i.step argument = .error e) (rest : List Text) :
    i.scan (argument :: rest) = .error e := by
  rw [scan, h]
  rfl

theorem scan_cons_of_finish (h : i.step argument = .ok .finish) (rest : List Text) :
    i.scan (argument :: rest) = .ok ⟨[], rest⟩ := by
  rw [scan, h]
  rfl

theorem scan_cons_of_flags {occurrences : List Occurrence}
    (h : i.step argument = .ok (.flags occurrences)) (rest : List Text) :
    i.scan (argument :: rest) = (i.scan rest).map (·.prepend occurrences) := by
  rw [scan, h]
  cases i.scan rest <;> rfl

theorem scan_singleton_of_pending {occurrences : List Occurrence} {flag : Text} {e : Error}
    (h : i.step argument = .ok (.pending occurrences flag e)) : i.scan [argument] = .error e := by
  rw [scan, h]
  rfl

theorem scan_cons_of_pending {occurrences : List Occurrence} {flag : Text} {e : Error}
    (h : i.step argument = .ok (.pending occurrences flag e)) (next : Text) (rest : List Text) :
    i.scan (argument :: next :: rest) =
      (i.scan rest).map (·.prepend (occurrences ++ [⟨flag, next⟩])) := by
  rw [scan, h]
  dsimp only [bind, Except.bind]
  cases i.scan rest <;> rfl

theorem scan_cons_of_positional (hi : i.optionsFirst = false)
    (h : i.step argument = .ok .positional) (rest : List Text) :
    i.scan (argument :: rest) =
      (i.scan rest).map fun s => { s with positionals := argument :: s.positionals } := by
  rw [scan, h]
  dsimp only [bind, Except.bind]
  rw [hi]
  cases i.scan rest <;> rfl

end Interface

theorem Interface.optionsFirst_ofOptions (hw : ∀ o ∈ options, o.WellFormed) :
    (Interface.ofOptions options).optionsFirst = false := by
  rw [Interface.ofOptions_eq hw]

theorem flags_scan (hw : ∀ o ∈ options, o.WellFormed) (argv : List Text) (s : Scanned)
    (h : (Interface.ofOptions options).scan argv = .ok s) :
    ∀ occ ∈ s.occurrences, ∃ o ∈ options, occ.flag ∈ o.flags := by
  match argv with
  | [] =>
    cases h
    simp
  | argument :: rest =>
    cases hs : (Interface.ofOptions options).step argument with
    | error e =>
      rw [Interface.scan_cons_of_error hs] at h
      contradiction
    | ok step =>
      have hf := flagNames_step hw hs
      cases step with
      | finish =>
        rw [Interface.scan_cons_of_finish hs] at h
        cases h
        simp
      | flags occurrences =>
        rw [Interface.scan_cons_of_flags hs] at h
        obtain ⟨s', hs', rfl⟩ := exists_of_map_eq_ok h
        have ih := flags_scan hw rest s' hs'
        intro occ hocc
        obtain hocc | hocc := List.mem_append.1 hocc
        . exact hf _ (List.mem_map_of_mem hocc)
        . exact ih occ hocc
      | pending occurrences flag e =>
        cases rest with
        | nil =>
          rw [Interface.scan_singleton_of_pending hs] at h
          contradiction
        | cons next rest =>
          rw [Interface.scan_cons_of_pending hs] at h
          obtain ⟨s', hs', rfl⟩ := exists_of_map_eq_ok h
          have ih := flags_scan hw rest s' hs'
          intro occ hocc
          obtain hocc | hocc := List.mem_append.1 hocc
          . apply hf
            have := List.mem_map_of_mem (f := Occurrence.flag) hocc
            simpa [Step.flagNames] using this
          . exact ih occ hocc
      | positional =>
        rw [Interface.scan_cons_of_positional (Interface.optionsFirst_ofOptions hw) hs] at h
        obtain ⟨s', hs', rfl⟩ := exists_of_map_eq_ok h
        exact flags_scan hw rest s' hs'
termination_by argv.length

end Getopt

end ScriptManual
