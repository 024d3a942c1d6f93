import Mathlib.Data.List.Forall2
import ScriptManual.Document.Markdown
import ScriptManual.Proofs.Text.Replace
import ScriptManual.Proofs.Text.Split

/-!
This module contains how the option table of a Markdown document is read: every option is a line, and
the texts in it come back from the cells of that line.
-/

namespace ScriptManual

namespace Document

namespace Markdown

/--
Cut a line of a table at every pipe that has no backslash directly in front of it. The flag tells
whether there is one in front of the line.
-/
def cutCells : Bool → Text → List Text
  | _, [] => [[]]
  | escaped, c :: cs =>
    if c = '|' ∧ escaped = false then
      [] :: cutCells false cs
    else
      (cutCells (c == '\\') cs).modifyHead (c :: ·)

def unescapePipes : Text → Text
  | [] => []
  | c :: cs =>
    if c = '\\' ∧ cs.head? = some '|' then unescapePipes cs else c :: unescapePipes cs

def cellText? (cell : Text) : Option Text :=
  ((cell.dropPrefix? [' ']).bind (·.dropSuffix? [' '])).map unescapePipes

/--
A line of a table with the texts of an option in its five cells. A line break in them is written as
`<br>`.
-/
def IsRowOf (o : OptionSpec) (line : Text) : Prop :=
  ∃ cells, cutCells false line = [] :: cells ++ [[]] ∧
    cells.map cellText? =
      ['-' :: o.short, '-' :: '-' :: o.long, o.argument?.getD [], o.value?.getD [],
        o.description].map fun t => some (Text.replaceChar '\n' "<br>".toList t)

def escapePipes (t : Text) : Text :=
  Text.replaceChar '|' ['\\', '|'] t

theorem escapePipes_cons (c : Char) (cs : Text) :
    escapePipes (c :: cs) = (if c = '|' then ['\\', '|'] else [c]) ++ escapePipes cs :=
  Text.replaceChar_cons _ _ _ _

theorem cell_eq_escapePipes (t : Text) :
    cell t = escapePipes (Text.replaceChar '\n' "<br>".toList t) :=
  Text.replaceChar_comm (by decide) (by decide) (by decide) t

theorem not_mem_cell (t : Text) : '\n' ∉ cell t :=
  Text.not_mem_replaceChar (by decide) _

theorem head?_escapePipes (t : Text) : (escapePipes t).head? ≠ some '|' := by
  cases t with
  | nil => simp [escapePipes, Text.replaceChar]
  | cons c cs =>
    rw [escapePipes_cons]
    split
    . simp
    . next h => simpa using h

@[simp]
theorem unescapePipes_escapePipes (t : Text) : unescapePipes (escapePipes t) = t := by
  induction t with
  | nil => rfl
  | cons c cs ih =>
    rw [escapePipes_cons]
    split
    . next h => simp [unescapePipes, ih, h]
    -- A backslash of the text itself stays, because no escaped text starts with a pipe.
    . rw [List.singleton_append, unescapePipes, if_neg fun h => head?_escapePipes cs h.2, ih]

/--
A pipe in an escaped text ends no cell, whatever is in front of the text. The pipe behind it does, even
if the text ends with a backslash, because of the space between them.
-/
theorem cutCells_escapePipes (escaped : Bool) (t rest : Text) :
    cutCells escaped (escapePipes t ++ ' ' :: '|' :: rest) =
      (escapePipes t ++ [' ']) :: cutCells false rest := by
  induction t generalizing escaped with
  | nil => simp [escapePipes, Text.replaceChar, cutCells]
  | cons c cs ih =>
    rw [escapePipes_cons]
    split
    -- The backslash is new, so the flag is set at the pipe whatever it was in front of the two.
    . simp [cutCells, ih]
    . next h => simp [cutCells, ih, h]

theorem cellText?_escapePipes (t : Text) : cellText? (' ' :: escapePipes t ++ [' ']) = some t := by
  have hl : (' ' :: escapePipes t ++ [' ']).dropPrefix? [' '] = some (escapePipes t ++ [' ']) :=
    List.dropPrefix?_eq_some_iff.2 ⟨[' '], rfl, rfl⟩
  have hr : (escapePipes t ++ [' ']).dropSuffix? [' '] = some (escapePipes t) :=
    List.dropSuffix?_eq_some_iff.2 ⟨[' '], rfl, rfl⟩
  rw [cellText?, hl, Option.bind_some, hr, Option.map_some, unescapePipes_escapePipes]

theorem tableRow_eq_flatMap {cells : List Text} (h : cells ≠ []) :
    tableRow cells = '|' :: cells.flatMap fun t => ' ' :: (t ++ " |".toList) := by
  induction cells with
  | nil => contradiction
  | cons t ts ih =>
    cases ts with
    | nil => simp [tableRow]
    | cons u us =>
      calc tableRow (t :: u :: us)
          = '|' :: ' ' :: (t ++ ' ' :: tableRow (u :: us)) := by
            simp [tableRow, Text.join_cons_cons]
        _ = _ := by
            rw [ih (by simp)]
            simp

theorem cutCells_flatMap (texts : List Text) :
    cutCells false (texts.flatMap fun t => ' ' :: (escapePipes t ++ " |".toList)) =
      texts.map (fun t => ' ' :: escapePipes t ++ [' ']) ++ [[]] := by
  induction texts with
  | nil => rfl
  | cons t ts ih =>
    have hcell : ' ' :: (escapePipes t ++ " |".toList) ++
        ts.flatMap (fun t => ' ' :: (escapePipes t ++ " |".toList)) =
        ' ' :: (escapePipes t ++ ' ' :: '|' ::
          ts.flatMap fun t => ' ' :: (escapePipes t ++ " |".toList)) := by
      simp
    rw [List.flatMap_cons, hcell, cutCells, if_neg (by simp), cutCells_escapePipes, ih]
    rfl

theorem isRowOf_tableRow (o : OptionSpec) : IsRowOf o (tableRow ((row o).map cell)) := by
  have hcells : (row o).map cell =
      ((row o).map (Text.replaceChar '\n' "<br>".toList)).map escapePipes := by
    rw [List.map_map]
    exact List.map_congr_left fun t _ => cell_eq_escapePipes t
  refine ⟨((row o).map (Text.replaceChar '\n' "<br>".toList)).map
    fun t => ' ' :: escapePipes t ++ [' '], ?_, ?_⟩
  . rw [hcells, tableRow_eq_flatMap (by simp [row]), List.flatMap_map]
    rw [cutCells, if_pos (by simp), cutCells_flatMap]
    rfl
  . rw [List.map_map, List.map_map]
    exact List.map_congr_left fun t _ => cellText?_escapePipes _

theorem not_mem_tableRow {cells : List Text} (h : ∀ t ∈ cells, '\n' ∉ t) :
    '\n' ∉ tableRow cells := by
  rw [tableRow, List.mem_append, List.mem_append, not_or, not_or]
  exact ⟨⟨by decide, Text.not_mem_join (by decide) h⟩, by decide⟩

theorem optionTable_of_ne_nil {options : List OptionSpec} (h : options ≠ []) :
    optionTable options =
      ["## Options".toList, [], "| Short | Long | Argument | Default | Description |".toList,
          "|---|---|---|---|---|".toList] ++
        options.map (fun o => tableRow ((row o).map cell)) ++ [[]] := by
  have hcolumns : tableRow columns =
    "| Short | Long | Argument | Default | Description |".toList := by decide
  have hseparator : separator = "|---|---|---|---|---|".toList := by decide
  rw [optionTable, if_neg (by simpa using h), hcolumns, hseparator]

theorem not_mem_of_mem_optionTable {options : List OptionSpec} {line : Text}
    (h : line ∈ optionTable options) : '\n' ∉ line := by
  by_cases hn : options = []
  . subst hn
    contradiction
  . rw [optionTable_of_ne_nil hn, List.mem_append, List.mem_append, List.mem_map] at h
    obtain (h | ⟨o, -, rfl⟩) | h := h
    . exact (by decide : ∀ line ∈ ["## Options".toList, [],
        "| Short | Long | Argument | Default | Description |".toList,
        "|---|---|---|---|---|".toList], '\n' ∉ line) line h
    . apply not_mem_tableRow
      intro t ht
      obtain ⟨t, -, rfl⟩ := List.mem_map.1 ht
      exact not_mem_cell t
    . rw [List.mem_singleton.1 h]
      exact List.not_mem_nil

end Markdown

theorem split_markdown (m : Manual) (title : Text) :
    Text.split '\n' (markdown m title) =
      Text.split '\n' (markdown { m with options := [] } title) ++
        Markdown.optionTable m.options := by
  have hnone : markdown { m with options := [] } title =
      Text.join ['\n'] (("# ".toList ++ title) :: [] :: Markdown.proseBlock m ++ []) := rfl
  rw [hnone, List.append_nil, markdown, Text.split_join _ (by simp), Text.split_join _ (by simp),
    List.flatMap_append,
    Text.flatMap_split_of_not_mem fun _ hl => Markdown.not_mem_of_mem_optionTable hl]

/--
The option table of a Markdown document is behind what there would be without options. It is its
heading, a line with the names of its columns, a separator, and one line for every option, which is
read as that option.
-/
theorem markdown_rows {m : Manual} (h : m.options ≠ []) (title : Text) :
    ∃ rows, Text.split '\n' (markdown m title) =
        Text.split '\n' (markdown { m with options := [] } title) ++
          ["## Options".toList, [], "| Short | Long | Argument | Default | Description |".toList,
            "|---|---|---|---|---|".toList] ++ rows ++ [[]] ∧
      List.Forall₂ Markdown.IsRowOf m.options rows := by
  refine ⟨m.options.map fun o => Markdown.tableRow ((row o).map Markdown.cell), ?_, ?_⟩
  . rw [split_markdown, Markdown.optionTable_of_ne_nil h, List.append_assoc, List.append_assoc,
      List.append_assoc]
  . rw [List.forall₂_map_right_iff, List.forall₂_same]
    exact fun o _ => Markdown.isRowOf_tableRow o

def piped : Manual where
  help := "Joins.\n\nOptions:\n".toList
  options := [⟨['|'], "cut\\".toList, some "a|\\|b".toList, "\\\\|\n| - |\\".toList, some ['\\']⟩,
    ⟨['n'], "none".toList, none, [], none⟩]
  hasSection := true

theorem markdown_rows_piped :
    piped.options ≠ [] ∧
    Text.split '\n' (markdown piped "Join".toList) =
      ["# Join", "", "```text", "Joins.", "```", "", "## Options", "",
        "| Short | Long | Argument | Default | Description |", "|---|---|---|---|---|",
        "| -\\| | --cut\\ | a\\|\\\\|b | \\ | \\\\\\|<br>\\| - \\|\\ |",
        "| -n | --none |  |  |  |", ""].map String.toList ∧
    ∃ rows, Text.split '\n' (markdown piped "Join".toList) =
        Text.split '\n' (markdown { piped with options := [] } "Join".toList) ++
          ["## Options".toList, [], "| Short | Long | Argument | Default | Description |".toList,
            "|---|---|---|---|---|".toList] ++ rows ++ [[]] ∧
      List.Forall₂ Markdown.IsRowOf piped.options rows := by
  have h : piped.options ≠ [] := by decide
  exact ⟨h, by decide +kernel, markdown_rows h "Join".toList⟩

end Document

end ScriptManual
