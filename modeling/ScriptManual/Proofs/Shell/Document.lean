import ScriptManual.Proofs.Shell.Printed

/-!
This module contains the here-document that a generated script prints its help text with: how its
delimiter is found, how a shell reads it, and that what is read is the help text.
-/

namespace ScriptManual

namespace Shell

/--
Read a here-document from the lines behind its start. It reaches up to the first line that is the
delimiter and nothing else. The result is the text in it and the lines behind it.
-/
def document? (delimiter : Text) (lines : List Text) : Option (Text × List Text) :=
  match lines.dropWhile (· != delimiter) with
  | [] => none
  | _ :: rest => some (Text.unlines (lines.takeWhile (· != delimiter)), rest)

theorem document?_append {delimiter : Text} {texts : List Text} (h : delimiter ∉ texts)
    (lines : List Text) :
    document? delimiter (texts ++ delimiter :: lines) = some (Text.unlines texts, lines) := by
  rw [document?, dropWhile_append_delimiter h, takeWhile_append_delimiter h]

namespace Loop

/--
How a delimiter is found: as long as the candidate is one of the lines, another underscore is put
behind it.
-/
inductive Lengthens (lines : List Text) : Text → Text → Prop where
  | stop {candidate : Text} (h : candidate ∉ lines) : Lengthens lines candidate candidate
  | again {candidate delimiter : Text} (h : candidate ∈ lines)
      (hr : Lengthens lines (candidate ++ ['_']) delimiter) : Lengthens lines candidate delimiter

variable {lines : List Text} {candidate delimiter delimiter' : Text}

theorem Lengthens.unique (h : Lengthens lines candidate delimiter)
    (h' : Lengthens lines candidate delimiter') : delimiter = delimiter' := by
  induction h with
  | stop hn =>
    cases h' with
    | stop => rfl
    | again hm => contradiction
  | again hm _ ih =>
    cases h' with
    | stop hn => contradiction
    | again _ hr => exact ih hr

theorem Lengthens.of_mem {n : Nat} (hm : ∀ k < n, candidate ++ List.replicate k '_' ∈ lines)
    (hn : candidate ++ List.replicate n '_' ∉ lines) :
    Lengthens lines candidate (candidate ++ List.replicate n '_') := by
  induction n generalizing candidate with
  | zero =>
    rw [List.replicate_zero, List.append_nil] at hn ⊢
    exact .stop hn
  | succ n ih =>
    have hc := hm 0 (by omega)
    rw [List.replicate_zero, List.append_nil] at hc
    rw [List.replicate_succ, ← List.singleton_append, ← List.append_assoc] at hn ⊢
    apply Lengthens.again hc
    apply ih _ hn
    intro k hk
    rw [List.append_assoc]
    exact hm (k + 1) (by omega)

theorem lengthens_iff : Lengthens lines candidate delimiter ↔
    delimiter = freshDelimiter lines candidate := by
  have hf : Lengthens lines candidate (freshDelimiter lines candidate) := by
    obtain ⟨n, -, he, hm⟩ := exists_freshDelimiter_eq lines candidate
    have hn := freshDelimiter_not_mem lines candidate
    rw [he] at hn ⊢
    exact .of_mem hm hn
  constructor
  . intro h
    exact h.unique hf
  . rintro rfl
    exact hf

theorem split_write_help {o : OptionSpec} (ho : o.short = Arguments.helpShort) (help : Text) :
    ∃ texts, printedHelp help = Text.unlines texts ∧ helpDelimiter help ∉ texts ∧
      Text.split '\n' (Text.join ['\n'] ((commandsFor help o).flatMap Command.write)) =
        (indent 3 ++ "cat <<'".toList ++ helpDelimiter help ++ ['\'']) ::
          (texts ++ [helpDelimiter help, indent 3 ++ "exit 0".toList]) := by
  obtain ⟨texts, hp, ht⟩ := exists_printedHelp_eq_unlines help
  refine ⟨texts, hp, fun hm => freshDelimiter_not_mem _ _ (ht _ hm), ?_⟩
  have hc : commandsFor help o =
      [.print (helpDelimiter help) (Text.unlines texts), .exit 0] := by
    rw [← hp]
    simp [commandsFor, ho]
  have he : (Command.exit 0).write.flatMap (Text.split '\n') = [indent 3 ++ "exit 0".toList] := rfl
  have hl : ∀ t ∈ texts, '\n' ∉ t := fun t hm => Text.not_mem_of_mem_split (ht t hm)
  rw [hc, Text.split_join '\n' (by simp [Command.write])]
  rw [List.flatMap_cons, List.flatMap_singleton, List.flatMap_append, he]
  rw [Item.split_print (isPlain_helpDelimiter help) hl]
  simp

/--
The delimiter of the help text is found after no more steps than the text has lines, with the fewest
underscores that make it none of them. What a shell reads from the commands for the help option, up to
the first line that is the delimiter, is then the help text, with a line feed behind it if its last
line has none, and the line behind the delimiter ends the script.
-/
theorem help_document_reads_back (help : Text) :
    (∃ n ≤ (Text.split '\n' help).length,
      helpDelimiter help = "__OPTDOC_HELP__".toList ++ List.replicate n '_' ∧
      helpDelimiter help ∉ Text.split '\n' help ∧
      ∀ k < n, "__OPTDOC_HELP__".toList ++ List.replicate k '_' ∈ Text.split '\n' help) ∧
    (∀ delimiter, Lengthens (Text.split '\n' help) "__OPTDOC_HELP__".toList delimiter ↔
      delimiter = helpDelimiter help) ∧
    ∀ o : OptionSpec, o.short = Arguments.helpShort → ∃ lines,
      Text.split '\n' (Text.join ['\n'] ((commandsFor help o).flatMap Command.write)) =
        (indent 3 ++ "cat <<'".toList ++ helpDelimiter help ++ ['\'']) :: lines ∧
      ∀ script, document? (helpDelimiter help) (lines ++ script) =
        some (if help = [] ∨ help.getLast? = some '\n' then help else help ++ ['\n'],
          (indent 3 ++ "exit 0".toList) :: script) := by
  refine ⟨?_, fun delimiter => lengthens_iff, ?_⟩
  . obtain ⟨n, hn, he, hm⟩ := exists_freshDelimiter_eq (Text.split '\n' help)
      "__OPTDOC_HELP__".toList
    exact ⟨n, hn, he, freshDelimiter_not_mem _ _, hm⟩
  . intro o ho
    obtain ⟨texts, hp, hn, hs⟩ := split_write_help ho help
    refine ⟨_, hs, fun script => ?_⟩
    have hprinted : printedHelp help =
        if help = [] ∨ help.getLast? = some '\n' then help else help ++ ['\n'] := by
      simp [printedHelp]
    rw [← hprinted, hp, List.append_assoc]
    exact document?_append hn _

def takenHelp : Text := "Say\n__OPTDOC_HELP__\n__OPTDOC_HELP___".toList

theorem help_document_reads_back_taken :
    "__OPTDOC_HELP____".toList = helpDelimiter takenHelp ∧
    ∃ lines,
      Text.split '\n' (Text.join ['\n']
        ((commandsFor takenHelp ⟨['h'], "help".toList, none, "Help".toList, none⟩).flatMap
          Command.write)) =
        (indent 3 ++ "cat <<'".toList ++ helpDelimiter takenHelp ++ ['\'']) :: lines ∧
      document? (helpDelimiter takenHelp) (lines ++ ["done".toList]) =
        some (takenHelp ++ ['\n'], [indent 3 ++ "exit 0".toList, "done".toList]) := by
  obtain ⟨-, hdelimiter, hdocument⟩ := help_document_reads_back takenHelp
  refine ⟨(hdelimiter _).1 (.again (by decide) (.again (by decide) (.stop (by decide)))), ?_⟩
  obtain ⟨lines, hl, hr⟩ := hdocument ⟨['h'], "help".toList, none, "Help".toList, none⟩ rfl
  refine ⟨lines, hl, ?_⟩
  rw [hr, if_neg (by decide)]

end Loop

end Shell

end ScriptManual
