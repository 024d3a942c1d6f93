import ScriptManual.Proofs.Arguments.Contents
import ScriptManual.Proofs.Arguments.Outcome

/-!
This module contains that it does not matter to parsing in which order a manual declares its options.
The lists of names read the same argument vectors in every order, and tables hold the same texts.
-/

namespace ScriptManual

theorem Assoc.lookup_eq_of_perm {κ α : Type} [BEq κ] [LawfulBEq κ] {es es' : List (κ × α)}
    (hn : (es.map Prod.fst).Nodup) (hp : es'.Perm es) (key : κ) : es'.lookup key = es.lookup key := by
  have hn' : (es'.map Prod.fst).Nodup := (hp.map Prod.fst).nodup_iff.2 hn
  ext value
  rw [lookup_eq_some_iff_mem hn', lookup_eq_some_iff_mem hn, hp.mem_iff]

theorem OptionSpec.find?_eq_of_perm {name : OptionSpec → Text} {options options' : List OptionSpec}
    (hn : (options.map name).Nodup) (hp : options'.Perm options) (t : Text) :
    options'.find? (name · == t) = options.find? (name · == t) := by
  have hn' : (options'.map name).Nodup := (hp.map name).nodup_iff.2 hn
  ext o
  rw [find?_eq_some_iff hn', find?_eq_some_iff hn, hp.mem_iff]

namespace Table

variable {t t' : Table}

/--
Whether two tables hold the same text under every key.
-/
def Agrees (t t' : Table) : Prop :=
  ∀ key, t.get? key = t'.get? key

theorem Agrees.insert (h : t.Agrees t') (key text : Text) :
    (t.insert key text).Agrees (t'.insert key text) := by
  intro k
  rw [get?_insert, get?_insert, h k]

theorem Agrees.keys_eq (h : t.Agrees t') : t.keys = t'.keys := by
  have hp : (t.entries.map Prod.fst).Perm (t'.entries.map Prod.fst) := by
    rw [List.perm_ext_iff_of_nodup t.nodup t'.nodup]
    intro key
    rw [← isSome_get?_iff, ← isSome_get?_iff, h key]
  apply List.Perm.eq_of_pairwise _ t.pairwise_keys t'.pairwise_keys
  . exact (t.perm_keys.trans hp).trans t'.perm_keys.symm
  . intro a b _ _
    exact Text.le_antisymm

end Table

namespace Getopt

variable {options options' : List OptionSpec}

theorem resolveLong_eq_of_perm {longs longs' : List LongName} (hp : longs'.Perm longs)
    (name : Text) : resolveLong longs' name = resolveLong longs name := by
  unfold resolveLong
  dsimp only
  have hf := hp.filter fun l => name.isPrefixOf l.name
  generalize longs'.filter (fun l => name.isPrefixOf l.name) = candidates' at hf
  generalize longs.filter (fun l => name.isPrefixOf l.name) = candidates at hf
  have hc : ∀ l, candidates'.contains l = candidates.contains l := by
    intro l
    rw [Bool.eq_iff_iff, List.contains_iff_mem, List.contains_iff_mem, hf.mem_iff]
  rw [hc, hc]
  -- What is left looks at the candidates only if there is at most one.
  match candidates, hf with
  | [], hf => rw [hf.eq_nil]
  | [l], hf => rw [List.perm_singleton.1 hf]
  | _ :: _ :: _, hf =>
    match candidates', hf.length_eq with
    | _ :: _ :: _, _ => rfl

theorem stepLong_eq_of_perm {longs longs' : List LongName} (hp : longs'.Perm longs) (body : Text) :
    stepLong longs' body = stepLong longs body := by
  unfold stepLong
  simp only [resolveLong_eq_of_perm hp]

theorem stepShorts_congr {shorts shorts' : Text}
    (h : ∀ c, shortTakesArgument? c shorts' = shortTakesArgument? c shorts) (cluster : Text) :
    stepShorts shorts' cluster = stepShorts shorts cluster := by
  induction cluster with
  | nil => rfl
  | cons c cs ih => rw [stepShorts, stepShorts, h c, ih]

theorem Interface.scan_congr {i i' : Interface} (hs : ∀ argument, i'.step argument = i.step argument)
    (ho : i'.optionsFirst = i.optionsFirst) (argv : List Text) : i'.scan argv = i.scan argv := by
  match argv with
  | [] => rfl
  | argument :: rest =>
    rw [scan, scan, hs, ho, scan_congr hs ho rest]
    cases rest with
    | nil => rfl
    | cons next rest => simp only [scan_congr hs ho rest]
termination_by argv.length

theorem shortTakesArgument?_eq_of_perm (hw : ∀ o ∈ options, o.WellFormed)
    (hn : (options.map (·.short)).Nodup) (hp : options'.Perm options) (c : Char) :
    shortTakesArgument? c (shortList options') = shortTakesArgument? c (shortList options) := by
  have hw' : ∀ o ∈ options', o.WellFormed := fun o ho => hw o (hp.mem_iff.1 ho)
  rw [shortTakesArgument?_shortList hw', shortTakesArgument?_shortList hw,
    OptionSpec.find?_eq_of_perm hn hp]

theorem scan_eq_of_perm (hw : ∀ o ∈ options, o.WellFormed) (hn : (options.map (·.short)).Nodup)
    (hp : options'.Perm options) (argv : List Text) :
    (Interface.ofOptions options').scan argv = (Interface.ofOptions options).scan argv := by
  have hw' : ∀ o ∈ options', o.WellFormed := fun o ho => hw o (hp.mem_iff.1 ho)
  rw [Interface.ofOptions_eq hw', Interface.ofOptions_eq hw]
  apply Interface.scan_congr
  . intro argument
    unfold Interface.step
    split
    . rfl
    . exact stepLong_eq_of_perm (hp.map LongName.ofOption) _
    . rfl
    . exact stepShorts_congr (shortTakesArgument?_eq_of_perm hw hn hp) _
    . rfl
  . rfl

end Getopt

namespace Manual

variable {m m' : Manual}

def Reorders (m' m : Manual) : Prop :=
  m'.options.Perm m.options

theorem WellFormed.of_reorders (hm : m.WellFormed) (hp : m'.Reorders m) : m'.WellFormed where
  options := fun o ho => hm.options o (hp.mem_iff.1 ho)
  nodup_shorts := (hp.map (·.short)).nodup_iff.2 hm.nodup_shorts

theorem Reorders.ofManual_agrees (hp : m'.Reorders m) (hm : m.WellFormed) :
    (Table.ofManual m').Agrees (.ofManual m) := by
  intro key
  rw [(hm.of_reorders hp).get?_ofManual, hm.get?_ofManual]
  exact Assoc.lookup_eq_of_perm hm.nodup_keys (hp.flatMap_right OptionSpec.entries) key

end Manual

namespace Arguments

variable {m m' : Manual}

theorem Names.of_reorders (hp : m'.Reorders m) (hd : (m.options.map (·.long)).Nodup) {flag : Text}
    {o : OptionSpec} (h : Names m flag o) : Names m' flag o := by
  obtain ⟨ho, hs⟩ | hf := h
  . exact .short (hp.mem_iff.2 ho) hs
  . rw [← OptionSpec.find?_eq_of_perm hd hp] at hf
    exact .long hf

theorem agrees_outcome {t t' : Table} (h : t'.Agrees t) (given : List Given)
    (positionals : List Text) :
    (outcome t' given positionals).table.Agrees (outcome t given positionals).table := by
  unfold outcome
  dsimp only
  generalize given.takeWhile (fun g => !g.isHelp) = set
  induction set generalizing t t' with
  | nil => exact h
  | cons g gs ih => exact ih (h.insert g.key g.text)

/--
Parsing comes to the same in whatever order the options are declared: the same error, or tables with
the same keys and texts, the same positional arguments and the same answer to whether help is asked
for.
-/
theorem parse_of_perm {marker : Text} {lines : List Text} {x : Extraction}
    (hx : extract marker lines = .ok x) (hd : (x.options.map (·.long)).Nodup)
    {options : List OptionSpec} (hp : options.Perm x.options) (argv : List Text) :
    (∃ cause, parse x.manual argv = .error (.refused cause) ∧
      parse { x.manual with options } argv = .error (.refused cause)) ∨
    ∃ p p', parse x.manual argv = .ok p ∧ parse { x.manual with options } argv = .ok p' ∧
      (∀ key, p'.table.get? key = p.table.get? key) ∧ p'.table.keys = p.table.keys ∧
      p'.positionals = p.positionals ∧ p'.helpRequested = p.helpRequested := by
  have hm := Extraction.wellFormed_manual hx
  have hr : Manual.Reorders { x.manual with options } x.manual := hp
  have hscan : scan { x.manual with options } argv = scan x.manual argv :=
    Getopt.scan_eq_of_perm hm.options hm.nodup_shorts hp argv
  cases hs : scan x.manual argv with
  | error cause =>
    rw [hs] at hscan
    exact .inl ⟨cause, parse_of_scan_eq_error hs, parse_of_scan_eq_error hscan⟩
  | ok s =>
    rw [hs] at hscan
    obtain ⟨given, hg⟩ := exists_given_of_scan hm hs
    have hg' : List.Forall₂ (StandsFor { x.manual with options }) s.occurrences given :=
      hg.imp fun occ g h => ⟨h.1.of_reorders hr hd, h.2⟩
    have hp := parse_eq_outcome hm hs hg
    have hp' := parse_eq_outcome (hm.of_reorders hr) hscan hg'
    have ht := agrees_outcome (hr.ofManual_agrees hm) given s.positionals
    exact .inr ⟨_, _, hp, hp', ht, ht.keys_eq, rfl, rfl⟩

theorem parse_of_perm_sample :
    extract ['#'] sampleScript = .ok sample ∧
    (sample.options.map (·.long)).Nodup ∧
    sample.options.reverse.Perm sample.options ∧
    ∃ p p', parse sample.manual (["--size", "-v", "f", "-uv"].map String.toList) = .ok p ∧
      parse { sample.manual with options := sample.options.reverse }
        (["--size", "-v", "f", "-uv"].map String.toList) = .ok p' ∧
      p'.table.keys = p.table.keys ∧ p'.positionals = p.positionals := by
  have hd : (sample.options.map (·.long)).Nodup := by decide
  have hp : sample.options.reverse.Perm sample.options := List.reverse_perm _
  obtain ⟨cause, he, -⟩ | ⟨p, p', h, h', -, hk, hpos, -⟩ :=
    parse_of_perm extract_sampleScript hd hp (["--size", "-v", "f", "-uv"].map String.toList)
  . have hok : (parse sample.manual (["--size", "-v", "f", "-uv"].map String.toList)).isOk = true :=
      by decide +kernel
    rw [he] at hok
    contradiction
  . exact ⟨extract_sampleScript, hd, hp, p, p', h, h', hk, hpos⟩

end Arguments

end ScriptManual
