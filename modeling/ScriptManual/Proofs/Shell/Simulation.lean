import Mathlib.Data.List.Find
import ScriptManual.Proofs.Arguments.Outcome
import ScriptManual.Proofs.Shell.Printed
import ScriptManual.Shell.Script

/-!
This module contains the agreement between the loop of a generated script and the dispatch of its
arguments in process.
-/

namespace ScriptManual

namespace Shell

open Arguments

variable {m : Manual}

theorem find?_flags_of_names (hm : m.WellFormed) {flag : Text} {o : OptionSpec}
    (h : Names m flag o) : m.options.find? (·.flags.contains flag) = some o := by
  obtain ⟨ho, hs⟩ | hf := h
  . have hc := hm.ne_hyphen_of_short ho hs
    rw [← hm.find?_eq_some_iff.2 ⟨ho, hs⟩]
    apply List.find?_congr
    intro o' _
    rw [Bool.eq_iff_iff, List.contains_iff_mem, OptionSpec.shortFlag_mem_flags hc, beq_iff_eq]
  . rw [← hf]
    apply List.find?_congr
    intro o' ho'
    have hw := hm.options o' ho'
    rw [Bool.eq_iff_iff, List.contains_iff_mem, OptionSpec.longFlag_mem_flags hw, beq_iff_eq]

theorem endOfOptions_not_mem_flags (hm : m.WellFormed) {o : OptionSpec} (ho : o ∈ m.options) :
    endOfOptions ∉ o.flags := by
  intro h
  rw [endOfOptions, OptionSpec.longFlag_mem_flags (hm.options o ho)] at h
  exact (hm.options o ho).long_ne_nil h

namespace Loop

theorem commandsAt_of_names (hm : m.WellFormed) {flag : Text} {o : OptionSpec}
    (h : Names m flag o) : (ofManual m).commandsAt flag = commandsFor m.help o := by
  unfold commandsAt ofManual
  dsimp only
  rw [List.find?_append, List.find?_map]
  have hf : m.options.find? ((·.patterns.contains flag) ∘ armFor m.help) = some o :=
    find?_flags_of_names hm h
  rw [hf]
  rfl

theorem commandsAt_endOfOptions (hm : m.WellFormed) :
    (ofManual m).commandsAt endOfOptions = [.shift, .leave] := by
  unfold commandsAt ofManual
  dsimp only
  rw [List.find?_append, List.find?_map]
  have hf : m.options.find? ((·.patterns.contains endOfOptions) ∘ armFor m.help) = none := by
    rw [List.find?_eq_none]
    intro o ho
    have := endOfOptions_not_mem_flags hm ho
    simpa [armFor, OptionSpec.flags] using this
  rw [hf]
  rfl

theorem turn_cons (l : Loop) (t : Table) (argument : Text) (rest : List Text) (output : Text) :
    l.turn ⟨t, argument :: rest, output⟩ =
      (l.commandsAt argument).foldlM Command.run ⟨t, argument :: rest, output⟩ := rfl

theorem commandsFor_of_isHelp {g : Given} (h : g.isHelp = true) (help : Text) :
    commandsFor help g.option = [.print (helpDelimiter help) (printedHelp help), .exit 0] := by
  rw [commandsFor]
  exact if_pos (beq_iff_eq.1 h)

theorem commandsFor_of_not_isHelp {g : Given} (h : g.isHelp = false) (help : Text) :
    commandsFor help g.option =
      if g.option.isSwitch then [.assignOn g.key, .shift] else [.assignNext g.key, .shiftTwo] := by
  rw [commandsFor]
  exact if_neg (beq_eq_false_iff_ne.1 h)

theorem turn_occurrenceTokens (hm : m.WellFormed) {occ : Getopt.Occurrence} {g : Given}
    (h : StandsFor m occ g) (tokens : List Text) (t : Table) (output : Text) :
    (ofManual m).turn ⟨t, occurrenceTokens m occ ++ tokens, output⟩ =
      if g.isHelp then
        .error (.exited 0 t (output ++ printedHelp m.help))
      else
        .ok ⟨t.insert g.key g.text, tokens, output⟩ := by
  have hc := commandsAt_of_names hm h.1
  rw [occurrenceTokens_of_standsFor hm h]
  unfold Given.text
  cases hs : g.option.isSwitch with
  | true =>
    rw [if_pos rfl, List.singleton_append, turn_cons, hc]
    cases hg : g.isHelp with
    | true =>
      rw [commandsFor_of_isHelp hg]
      rfl
    | false =>
      rw [commandsFor_of_not_isHelp hg, hs]
      rfl
  | false =>
    -- Both the flag and its argument are there, so that two arguments can be dropped.
    rw [if_neg (by simp), List.cons_append, List.singleton_append, turn_cons, hc]
    cases hg : g.isHelp with
    | true =>
      rw [commandsFor_of_isHelp hg]
      rfl
    | false =>
      rw [commandsFor_of_not_isHelp hg, hs]
      rfl

theorem runs_iff (hm : m.WellFormed) {occs : List Getopt.Occurrence} {given : List Given}
    (h : List.Forall₂ (StandsFor m) occs given) (positionals : List Text) (t : Table) (e : Ending) :
    (ofManual m).Runs
        ⟨t, occs.flatMap (occurrenceTokens m) ++ endOfOptions :: positionals, []⟩ e
      ↔
    let p := outcome t given positionals
    e = if p.helpRequested then
        .exited 0 p.table (printedHelp m.help)
      else
        .left ⟨p.table, p.positionals, []⟩ := by
  induction h generalizing t with
  | nil =>
    have hturn : (ofManual m).turn ⟨t, endOfOptions :: positionals, []⟩ =
        .error (.left ⟨t, positionals, []⟩) := by
      unfold turn
      dsimp only
      rw [commandsAt_endOfOptions hm]
      rfl
    rw [List.flatMap_nil, List.nil_append, runs_iff_of_turn_eq_error hturn]
    rfl
  | @cons occ g occs given h _ ih =>
    have hturn := turn_occurrenceTokens hm h
      (occs.flatMap (occurrenceTokens m) ++ endOfOptions :: positionals) t []
    rw [List.flatMap_cons, List.append_assoc]
    cases hg : g.isHelp with
    | true =>
      rw [hg, if_pos rfl] at hturn
      rw [runs_iff_of_turn_eq_error hturn, outcome_cons_of_isHelp hg]
      simp
    | false =>
      rw [hg, if_neg (by simp)] at hturn
      rw [runs_iff_of_turn_eq_ok hturn, ih, outcome_cons_of_not_isHelp hg]

end Loop

theorem getLast?_statements (m : Manual) :
    (statements m).getLast? = some (.dispatch (.ofManual m)) := by
  rw [statements, List.getLast?_append]
  rfl

/--
The text at the end of a generated script, taken as the loop that it says, runs through the tokens of
an argument vector to the same table as parsing the vector does, and to the same arguments behind the
options. It prints the help text and ends the script with success exactly on a request for help. No
other way to end it is left.
-/
theorem written_loop_runs_iff {marker : Text} {lines : List Text} {x : Extraction}
    (hx : extract marker lines = .ok x) {argv tokens : List Text}
    (ht : tokenize x.manual argv = .ok tokens) :
    ∃ text l p, (statements x.manual).getLast?.map Statement.write = some text ∧
      Loop.read? text = some l ∧
      parse x.manual argv = .ok p ∧
      ∀ e, l.Runs ⟨.ofManual x.manual, tokens, []⟩ e ↔
        e = if p.helpRequested then
            .exited 0 p.table (Loop.printedHelp x.manual.help)
          else
            .left ⟨p.table, p.positionals, []⟩ := by
  have hm := Extraction.wellFormed_manual hx
  have htext : (statements x.manual).getLast?.map Statement.write =
      some (Loop.ofManual x.manual).write := by
    rw [getLast?_statements]
    rfl
  have hread := Loop.read?_write (Loop.readable_ofManual hm)
  cases hs : Arguments.scan x.manual argv with
  | error e =>
    rw [tokenize_of_scan_eq_error hs] at ht
    contradiction
  | ok s =>
    obtain ⟨given, hg⟩ := exists_given_of_scan hm hs
    have hp := parse_eq_outcome hm hs hg
    rw [tokenize_of_scan_eq_ok hs] at ht
    cases ht
    refine ⟨_, _, _, htext, hread, hp, ?_⟩
    intro e
    exact Loop.runs_iff hm hg s.positionals (.ofManual x.manual) e

theorem written_loop_runs_sample :
    extract ['#'] sampleScript = .ok sample ∧
    tokenize sample.manual (["-s--", "--verb", "--", "-h"].map String.toList) =
      .ok (["-s", "--", "--verbose", "--", "-h"].map String.toList) ∧
    ∃ text l, (statements sample.manual).getLast?.map Statement.write = some text ∧
      Loop.read? text = some l ∧
      l.Runs ⟨.ofManual sample.manual, ["-s", "--", "--verbose", "--", "-h"].map String.toList, []⟩
        (.left ⟨((Table.ofManual sample.manual).insert "svalue".toList "--".toList).insert
          "vvalue".toList "true".toList, ["-h".toList], []⟩) := by
  have ht : tokenize sample.manual (["-s--", "--verb", "--", "-h"].map String.toList) =
      .ok (["-s", "--", "--verbose", "--", "-h"].map String.toList) := by
    decide +kernel
  obtain ⟨text, l, p, htext, hread, hp, hr⟩ := written_loop_runs_iff extract_sampleScript ht
  have hparse : parse sample.manual (["-s--", "--verb", "--", "-h"].map String.toList) =
      .ok ⟨((Table.ofManual sample.manual).insert "svalue".toList "--".toList).insert
        "vvalue".toList "true".toList, ["-h".toList], false⟩ := by
    decide +kernel
  rw [hparse] at hp
  cases hp
  exact ⟨extract_sampleScript, ht, text, l, htext, hread, (hr _).2 rfl⟩

end Shell

end ScriptManual
