import ScriptManual.Proofs.Manual.Declared
import ScriptManual.Proofs.Shell.Read

/-!
This module contains that the loop of a generated script can be read back from its text. The one
place where this could fail is the help text, which a script may fill with anything.
-/

namespace ScriptManual

namespace Shell

namespace Loop

theorem exists_freshDelimiter_eq (lines : List Text) (candidate : Text) :
    ∃ n ≤ lines.length, freshDelimiter lines candidate = candidate ++ List.replicate n '_' ∧
      ∀ k < n, candidate ++ List.replicate k '_' ∈ lines := by
  induction lines, candidate using freshDelimiter.induct with
  | case1 lines candidate h hpos herase ih =>
    obtain ⟨n, hn, he, hlt⟩ := ih
    refine ⟨n + 1, by omega, ?_, ?_⟩
    . rw [freshDelimiter, dif_pos h, he, List.replicate_succ, List.append_assoc]
      rfl
    . intro k hk
      cases k with
      | zero => simpa using h
      | succ k =>
        have hm := List.mem_of_mem_erase (hlt k (by omega))
        rw [List.append_assoc] at hm
        rw [List.replicate_succ]
        exact hm
  | case2 lines candidate h =>
    refine ⟨0, Nat.zero_le _, ?_, by simp⟩
    rw [freshDelimiter, dif_neg h]
    simp

theorem freshDelimiter_not_mem (lines : List Text) (candidate : Text) :
    freshDelimiter lines candidate ∉ lines := by
  induction lines, candidate using freshDelimiter.induct with
  | case1 lines candidate h _ _ ih =>
    rw [freshDelimiter, dif_pos h]
    -- The line that is crossed out is shorter than every delimiter tried from here on.
    have hne : freshDelimiter (lines.erase candidate) (candidate ++ ['_']) ≠ candidate := by
      obtain ⟨n, -, hn, -⟩ := exists_freshDelimiter_eq (lines.erase candidate) (candidate ++ ['_'])
      intro he
      rw [hn] at he
      have := congrArg List.length he
      simp at this
    intro hm
    exact ih ((List.mem_erase_of_ne hne).2 hm)
  | case2 lines candidate h =>
    rw [freshDelimiter, dif_neg h]
    exact h

theorem isPlain_helpDelimiter (help : Text) : isPlain (helpDelimiter help) = true := by
  obtain ⟨n, -, hn, -⟩ := exists_freshDelimiter_eq (Text.split '\n' help) "__OPTDOC_HELP__".toList
  rw [helpDelimiter, hn]
  simp [isPlain, isPlainChar]

theorem exists_printedHelp_eq_unlines (help : Text) :
    ∃ lines, printedHelp help = Text.unlines lines ∧ ∀ l ∈ lines, l ∈ Text.split '\n' help := by
  unfold printedHelp
  split
  . next h =>
    rw [Bool.or_eq_true, List.isEmpty_iff, beq_iff_eq, List.getLast?_eq_some_iff] at h
    -- A line feed at the end ends the last line, and the empty piece behind it is no line.
    obtain rfl | ⟨t, rfl⟩ := h
    . exact ⟨[], rfl, by simp⟩
    . refine ⟨Text.split '\n' t, (Text.unlines_split t).symm, ?_⟩
      intro l hl
      rw [Text.split_append_cons]
      exact List.mem_append_left _ hl
  . exact ⟨Text.split '\n' help, (Text.unlines_split help).symm, fun l hl => hl⟩

theorem readable_print (help : Text) :
    (Command.print (helpDelimiter help) (printedHelp help)).Readable := by
  refine ⟨isPlain_helpDelimiter help, ?_⟩
  obtain ⟨lines, hp, hl⟩ := exists_printedHelp_eq_unlines help
  refine ⟨lines, hp, ?_, ?_⟩
  . intro l hm
    exact Text.not_mem_of_mem_split (hl l hm)
  . intro hm
    exact freshDelimiter_not_mem _ _ (hl _ hm)

theorem isPlainChar_of_isWordChar {c : Char} (h : Header.isWordChar c = true) :
    isPlainChar c = true := by
  unfold isPlainChar
  unfold Header.isWordChar at h
  simp_all

theorem isPlainChar_of_isLongChar {c : Char} (h : Header.isLongChar c = true) :
    isPlainChar c = true := by
  unfold isPlainChar
  unfold Header.isLongChar at h
  simp only [Bool.or_eq_true] at *
  tauto

theorem isPlain_key {o : OptionSpec} (ho : o.WellFormed) (f : Field) :
    isPlain (Table.key o.short f.name) = true := by
  obtain ⟨c, hc, hw⟩ := ho.short_form
  have hp := isPlainChar_of_isWordChar hw
  have hf : f.name.all isPlainChar = true := by cases f <;> decide
  rw [hc, Table.key, isPlain, List.all_append, hf]
  simp [hp]

theorem readable_commandsFor {o : OptionSpec} (ho : o.WellFormed) (help : Text) :
    ∀ c ∈ commandsFor help o, c.Readable := by
  have hk := isPlain_key ho .value
  unfold commandsFor
  dsimp only
  split
  . rw [List.forall_mem_cons, List.forall_mem_singleton]
    exact ⟨readable_print help, Or.inl rfl⟩
  . split
    . simp [Command.Readable, hk]
    . simp [Command.Readable, hk]

theorem readable_armFor {o : OptionSpec} (ho : o.WellFormed) (help : Text) :
    (armFor help o).Readable := by
  obtain ⟨c, hc, hw⟩ := ho.short_form
  constructor
  . simp [armFor]
  . have hp := isPlainChar_of_isWordChar hw
    have hl : ∀ d ∈ o.long, isPlainChar d = true := fun d hd =>
      isPlainChar_of_isLongChar (ho.long_isLongChar d hd)
    have hh : isPlainChar '-' = true := by decide
    simpa [armFor, isPlain, hc, hp, hh] using hl
  . exact readable_commandsFor ho help

theorem readable_ofManual {m : Manual} (hm : m.WellFormed) : (ofManual m).Readable := by
  constructor
  . intro a ha
    obtain ha | ha := List.mem_append.1 ha
    . obtain ⟨o, ho, rfl⟩ := List.mem_map.1 ha
      exact readable_armFor (hm.options o ho) m.help
    . rw [List.mem_singleton.1 ha]
      constructor
      . simp
      . decide
      . simp [Command.Readable]
  . simp [ofManual, Command.Readable]

end Loop

end Shell

end ScriptManual
