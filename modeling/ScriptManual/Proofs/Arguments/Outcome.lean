import Mathlib.Data.List.Forall2
import ScriptManual.Arguments.Parse
import ScriptManual.Proofs.Getopt.Interface

/-!
This module contains the meaning of an argument vector, read off the flags and positional arguments
that are in it. Putting the vector into its normal form and dispatching the tokens come to the same.
-/

namespace ScriptManual

namespace Manual.WellFormed

variable {m : Manual}

theorem find?_eq_some_iff (hm : m.WellFormed) {short : Text} {o : OptionSpec} :
    m.find? short = some o ↔ o ∈ m.options ∧ o.short = short :=
  OptionSpec.find?_eq_some_iff hm.nodup_shorts

theorem ne_hyphen_of_short (hm : m.WellFormed) {o : OptionSpec} (ho : o ∈ m.options) {c : Char}
    (h : o.short = [c]) : c ≠ '-' := by
  obtain ⟨s, hs, hw⟩ := (hm.options o ho).short_form
  rw [hs] at h
  cases h
  exact Header.ne_of_isWordChar hw (by decide)

end Manual.WellFormed

namespace Arguments

/--
Whether an option is the one that a flag names: the option with that short name, or the first one
with that long name.
-/
inductive Names (m : Manual) : Text → OptionSpec → Prop where
  | short {c : Char} {o : OptionSpec} (hmem : o ∈ m.options) (hshort : o.short = [c]) :
    Names m ['-', c] o
  | long {name : Text} {o : OptionSpec} (hfirst : m.options.find? (·.long == name) = some o) :
    Names m ('-' :: '-' :: name) o

structure Given where
  option : OptionSpec
  argument : Text

namespace Given

def isHelp (g : Given) : Bool := g.option.short == helpShort

def key (g : Given) : Text := Table.key g.option.short Field.value.name

def text (g : Given) : Text := if g.option.isSwitch then Table.switchOn else g.argument

end Given

def StandsFor (m : Manual) (occ : Getopt.Occurrence) (g : Given) : Prop :=
  Names m occ.flag g.option ∧ g.argument = occ.argument

/--
What the options come to that are given one after the other. The first request for help ends it, and
then the positional arguments do not count.
-/
def outcome (t : Table) (given : List Given) (positionals : List Text) : Parsed :=
  let asked := given.any Given.isHelp
  {
    table := (given.takeWhile fun g => !g.isHelp).foldl (fun t g => t.insert g.key g.text) t
    positionals := if asked then [] else positionals
    helpRequested := asked
  }

variable {m : Manual}

theorem lookup?_eq_some_iff (hm : m.WellFormed) {flag : Text} {o : OptionSpec} :
    lookup? m flag = some o ↔ Names m flag o := by
  constructor
  . intro h
    unfold lookup? at h
    split at h
    . exact .long h
    . rw [hm.find?_eq_some_iff] at h
      exact .short h.1 h.2
    . contradiction
  . rintro (⟨ho, hs⟩ | hf)
    . have hc := hm.ne_hyphen_of_short ho hs
      rw [lookup?]
      . exact hm.find?_eq_some_iff.2 ⟨ho, hs⟩
      . simpa using hc
    . exact hf

theorem takesArgument_of_lookup? {token : Text} {o : OptionSpec} (h : lookup? m token = some o) :
    takesArgument m token = !o.isSwitch := by
  rw [takesArgument, h, Option.any_some]

theorem Names.ne_endOfOptions (hm : m.WellFormed) {flag : Text} {o : OptionSpec}
    (h : Names m flag o) : flag ≠ endOfOptions := by
  rintro rfl
  obtain ⟨ho, hs⟩ | hf := h
  . exact hm.ne_hyphen_of_short ho hs rfl
  . have hl : o.long = [] := by simpa using List.find?_some hf
    exact (hm.options o (List.mem_of_find?_eq_some hf)).long_ne_nil hl

@[simp]
theorem outcome_nil (t : Table) (positionals : List Text) :
    outcome t [] positionals = ⟨t, positionals, false⟩ := rfl

theorem outcome_cons_of_isHelp {g : Given} (h : g.isHelp = true) (t : Table) (given : List Given)
    (positionals : List Text) : outcome t (g :: given) positionals = ⟨t, [], true⟩ := by
  simp [outcome, h]

theorem outcome_cons_of_not_isHelp {g : Given} (h : g.isHelp = false) (t : Table)
    (given : List Given) (positionals : List Text) :
    outcome t (g :: given) positionals = outcome (t.insert g.key g.text) given positionals := by
  simp [outcome, h]

theorem occurrenceTokens_of_standsFor (hm : m.WellFormed) {occ : Getopt.Occurrence} {g : Given}
    (h : StandsFor m occ g) :
    occurrenceTokens m occ = if g.option.isSwitch then [occ.flag] else [occ.flag, g.argument] := by
  obtain ⟨hn, ha⟩ := h
  have hl := (lookup?_eq_some_iff hm).2 hn
  rw [occurrenceTokens, takesArgument_of_lookup? hl, ha]
  cases g.option.isSwitch <;> rfl

theorem dispatch_occurrenceTokens (hm : m.WellFormed) {occ : Getopt.Occurrence} {g : Given}
    (h : StandsFor m occ g) (tokens : List Text) (t : Table) :
    dispatch m t (occurrenceTokens m occ ++ tokens) =
      if g.isHelp then .ok ⟨t, [], true⟩ else dispatch m (t.insert g.key g.text) tokens := by
  have hl := (lookup?_eq_some_iff hm).2 h.1
  have he := h.1.ne_endOfOptions hm
  rw [occurrenceTokens_of_standsFor hm h]
  cases hs : g.option.isSwitch with
  | true =>
    rw [if_pos rfl, List.singleton_append, dispatch, if_neg he, hl]
    simp [Given.isHelp, Given.key, Given.text, hs]
  | false =>
    -- The argument is taken before it is looked at, so it may be a flag or end the options.
    rw [if_neg (by simp), List.cons_append, List.singleton_append, dispatch, if_neg he, hl]
    simp [Given.isHelp, Given.key, Given.text, hs]

theorem dispatch_eq_outcome (hm : m.WellFormed) {occs : List Getopt.Occurrence}
    {given : List Given} (h : List.Forall₂ (StandsFor m) occs given) (positionals : List Text)
    (t : Table) :
    dispatch m t (occs.flatMap (occurrenceTokens m) ++ endOfOptions :: positionals) =
      .ok (outcome t given positionals) := by
  induction h generalizing t with
  | nil => simp [dispatch]
  | @cons occ g occs given h _ ih =>
    rw [List.flatMap_cons, List.append_assoc, dispatch_occurrenceTokens hm h]
    cases hg : g.isHelp with
    | true => rw [if_pos rfl, outcome_cons_of_isHelp hg]
    | false => rw [if_neg (by simp), ih, outcome_cons_of_not_isHelp hg]

def scan (m : Manual) (argv : List Text) : Except Getopt.Error Getopt.Scanned :=
  (Getopt.Interface.ofLists (Getopt.shortList m.options) (Getopt.longList m.options)).scan argv

theorem tokenize_of_scan_eq_error {e : Getopt.Error} {argv : List Text}
    (h : scan m argv = .error e) : tokenize m argv = .error e := by
  show (scan m argv >>= fun s => _) = _
  rw [h]
  rfl

theorem parse_of_scan_eq_error {e : Getopt.Error} {argv : List Text} (h : scan m argv = .error e) :
    parse m argv = .error (.refused e) := by
  rw [parse, tokenize_of_scan_eq_error h]
  rfl

theorem tokenize_of_scan_eq_ok {s : Getopt.Scanned} {argv : List Text} (h : scan m argv = .ok s) :
    tokenize m argv =
      .ok (s.occurrences.flatMap (occurrenceTokens m) ++ endOfOptions :: s.positionals) := by
  show (scan m argv >>= fun s => _) = _
  rw [h]
  rfl

theorem parse_eq_outcome (hm : m.WellFormed) {s : Getopt.Scanned} {argv : List Text}
    (h : scan m argv = .ok s) {given : List Given}
    (hg : List.Forall₂ (StandsFor m) s.occurrences given) :
    parse m argv = .ok (outcome (.ofManual m) given s.positionals) := by
  rw [parse, tokenize_of_scan_eq_ok h]
  exact dispatch_eq_outcome hm hg s.positionals (.ofManual m)

theorem exists_names (hm : m.WellFormed) {flag : Text} (h : ∃ o ∈ m.options, flag ∈ o.flags) :
    ∃ o, Names m flag o := by
  obtain ⟨o, ho, hf⟩ := h
  obtain rfl | rfl := OptionSpec.mem_flags.1 hf
  . obtain ⟨c, hc, -⟩ := (hm.options o ho).short_form
    rw [hc]
    exact ⟨o, .short ho hc⟩
  . -- Another option may have the same long name, and then the first one counts.
    have hl : (m.options.find? (·.long == o.long)).isSome := by
      rw [List.find?_isSome]
      exact ⟨o, ho, by simp⟩
    obtain ⟨o', hf⟩ := Option.isSome_iff_exists.1 hl
    exact ⟨o', .long hf⟩

theorem exists_given_of_scan (hm : m.WellFormed) {s : Getopt.Scanned} {argv : List Text}
    (h : scan m argv = .ok s) : ∃ given, List.Forall₂ (StandsFor m) s.occurrences given := by
  have hf := Getopt.flags_scan hm.options argv s h
  generalize s.occurrences = occs at hf
  induction occs with
  | nil => exact ⟨[], .nil⟩
  | cons occ occs ih =>
    obtain ⟨o, ho⟩ := exists_names hm (hf occ (by simp))
    obtain ⟨given, hg⟩ := ih fun occ' h' => hf occ' (by simp [h'])
    exact ⟨⟨o, occ.argument⟩ :: given, .cons ⟨ho, rfl⟩ hg⟩

theorem get?_foldl_insert_of_ne {given : List Given} {key : Text} (h : ∀ g ∈ given, g.key ≠ key)
    (t : Table) : (given.foldl (fun t g => t.insert g.key g.text) t).get? key = t.get? key := by
  induction given generalizing t with
  | nil => rfl
  | cons g given ih =>
    rw [List.foldl_cons, ih fun g' h' => h g' (by simp [h'])]
    exact t.get?_insert_of_ne g.text (Ne.symm (h g (by simp)))

theorem get?_foldl_insert_of_eq_append {given before after : List Given} {g : Given}
    (h : given = before ++ g :: after) (hg : ∀ g' ∈ after, g'.key ≠ g.key) (t : Table) :
    (given.foldl (fun t g => t.insert g.key g.text) t).get? g.key = some g.text := by
  rw [h, List.foldl_append, List.foldl_cons, get?_foldl_insert_of_ne hg, Table.get?_insert_self]

/--
Parsing the arguments of a script is refused exactly if its argument vector cannot be read, and for
the same reason. Otherwise the options that the flags name are set in order, up to the first request
for help: what is read for an option is what it was last given, and nothing else in the table changes.
-/
theorem parse_follows_scan {marker : Text} {lines : List Text} {x : Extraction}
    (hx : extract marker lines = .ok x) (argv : List Text) :
    (∀ e, parse x.manual argv = .error e ↔
      ∃ cause, scan x.manual argv = .error cause ∧ e = .refused cause) ∧
    ∀ s, scan x.manual argv = .ok s →
      ∃ given, List.Forall₂ (StandsFor x.manual) s.occurrences given ∧
        ∃ p, parse x.manual argv = .ok p ∧
          p.table = (given.takeWhile fun g => !g.isHelp).foldl
            (fun t g => t.insert g.key (if g.option.isSwitch then Table.switchOn else g.argument))
            (.ofManual x.manual) ∧
          (∀ before g after, (given.takeWhile fun g => !g.isHelp) = before ++ g :: after →
            (∀ g' ∈ after, g'.key ≠ g.key) →
            p.table.get? g.key = some (if g.option.isSwitch then Table.switchOn else g.argument)) ∧
          (∀ key, (∀ g ∈ given.takeWhile fun g => !g.isHelp, g.key ≠ key) →
            p.table.get? key = (Table.ofManual x.manual).get? key) ∧
          (p.helpRequested = true ↔ ∃ g ∈ given, g.option.short = ['h']) ∧
          p.positionals = if p.helpRequested then [] else s.positionals := by
  have hm := Extraction.wellFormed_manual hx
  have hok : ∀ s, scan x.manual argv = .ok s →
      ∃ given, List.Forall₂ (StandsFor x.manual) s.occurrences given ∧
        parse x.manual argv = .ok (outcome (.ofManual x.manual) given s.positionals) := by
    intro s hs
    obtain ⟨given, hg⟩ := exists_given_of_scan hm hs
    exact ⟨given, hg, parse_eq_outcome hm hs hg⟩
  constructor
  . intro e
    cases hs : scan x.manual argv with
    | error cause =>
      rw [parse_of_scan_eq_error hs]
      simp [eq_comm]
    | ok s =>
      obtain ⟨given, -, hp⟩ := hok s hs
      simp [hp]
  . intro s hs
    obtain ⟨given, hg, hp⟩ := hok s hs
    refine ⟨given, hg, _, hp, rfl, ?_, ?_, ?_, rfl⟩
    . intro before g after h hlast
      exact get?_foldl_insert_of_eq_append h hlast (.ofManual x.manual)
    . intro key hk
      exact get?_foldl_insert_of_ne hk (.ofManual x.manual)
    . simp [outcome, Given.isHelp, helpShort]

theorem parse_follows_scan_sample :
    extract ['#'] sampleScript = .ok sample ∧
    scan sample.manual ["--size=--".toList, "-vs".toList, "-v".toList, "f".toList] =
      .ok ⟨[⟨"--size".toList, "--".toList⟩, ⟨"-v".toList, []⟩, ⟨"-s".toList, "-v".toList⟩],
        ["f".toList]⟩ ∧
    ∃ p, parse sample.manual ["--size=--".toList, "-vs".toList, "-v".toList, "f".toList] = .ok p ∧
      p.table.entries = (Table.ofManual sample.manual).entries ++
        [("svalue".toList, "-v".toList), ("vvalue".toList, "true".toList)] ∧
      p.positionals = if p.helpRequested then [] else ["f".toList] := by
  have hs : scan sample.manual ["--size=--".toList, "-vs".toList, "-v".toList, "f".toList] =
      .ok ⟨[⟨"--size".toList, "--".toList⟩, ⟨"-v".toList, []⟩, ⟨"-s".toList, "-v".toList⟩],
        ["f".toList]⟩ := by
    decide +kernel
  obtain ⟨given, -, p, hp, -, -, -, -, hr⟩ := (parse_follows_scan extract_sampleScript _).2 _ hs
  have ht : (parse sample.manual ["--size=--".toList, "-vs".toList, "-v".toList,
      "f".toList]).toOption.map (·.table.entries) =
      some ((Table.ofManual sample.manual).entries ++
        [("svalue".toList, "-v".toList), ("vvalue".toList, "true".toList)]) := by
    decide +kernel
  rw [hp] at ht
  exact ⟨extract_sampleScript, hs, p, hp, Option.some.inj ht, hr⟩

end Arguments

end ScriptManual
