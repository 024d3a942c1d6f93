import ScriptManual.Manual.Extract
import ScriptManual.Proofs.Document.Markdown

/-!
This module contains how the prose of a Markdown document is read: as a fenced block, which ends at
the first line that can end it. That is the line written for it unless the prose has such a line too.
-/

namespace ScriptManual

namespace Document

namespace Markdown

structure FenceLine where
  spaces : Nat
  width : Nat
  rest : Text

def FenceLine.ofLine (line : Text) : FenceLine :=
  let text := line.dropWhile (· == ' ')
  { spaces := (line.takeWhile (· == ' ')).length
    width := (text.takeWhile (· == '`')).length
    rest := text.dropWhile (· == '`') }

/--
The number of backticks in the fence that a line starts a block with, if it does. What is behind them
says what is in the block and has no backticks.
-/
def openingWidth? (line : Text) : Option Nat :=
  let l := FenceLine.ofLine line
  if l.spaces ≤ 3 && 3 ≤ l.width && !l.rest.contains '`' then some l.width else none

/--
Whether a line ends a block that was started with `width` backticks: it has at most three spaces, then
at least as many backticks, and then only spaces and tabs.
-/
def closesFence (width : Nat) (line : Text) : Bool :=
  let l := FenceLine.ofLine line
  l.spaces ≤ 3 && width ≤ l.width && l.rest.all fun c => c == ' ' || c == '\t'

/--
Cut the lines of a block, which was started with `width` backticks, off the lines behind it. A block
that is not ended goes on to the last line.
-/
def cutBlock (width : Nat) (lines : List Text) : List Text × List Text :=
  (lines.takeWhile fun l => !closesFence width l,
    (lines.dropWhile fun l => !closesFence width l).tail)

structure Fenced where
  above : List Text
  opening : Text
  inside : List Text
  behind : List Text
  deriving DecidableEq

def fenced? : List Text → Option Fenced
  | [] => none
  | line :: lines =>
    match openingWidth? line with
    | some width => some ⟨[], line, (cutBlock width lines).1, (cutBlock width lines).2⟩
    | none => (fenced? lines).map fun f => { f with above := line :: f.above }

theorem cutBlock_append {width : Nat} {inside : List Text}
    (hi : ∀ l ∈ inside, closesFence width l = false) {closing : Text}
    (hc : closesFence width closing = true) (behind : List Text) :
    cutBlock width (inside ++ closing :: behind) = (inside, behind) := by
  have hi' : ∀ l ∈ inside, (!closesFence width l) = true := by simpa using hi
  rw [cutBlock, List.takeWhile_append_of_pos hi', List.takeWhile_cons_of_neg (by simp [hc]),
    List.dropWhile_append_of_pos hi', List.dropWhile_cons_of_neg (by simp [hc]), List.append_nil,
    List.tail_cons]

theorem fenced?_cons_of_none {line : Text} (h : openingWidth? line = none) (lines : List Text) :
    fenced? (line :: lines) =
      (fenced? lines).map fun f => { f with above := line :: f.above } := by
  rw [fenced?, h]

theorem fenced?_cons_of_some {line : Text} {width : Nat} (h : openingWidth? line = some width)
    (lines : List Text) :
    fenced? (line :: lines) = some ⟨[], line, (cutBlock width lines).1, (cutBlock width lines).2⟩ := by
  rw [fenced?, h]

end Markdown

theorem split_markdown_of_prose {m : Manual} (hp : prose m ≠ []) {title : Text} (ht : '\n' ∉ title) :
    Text.split '\n' (markdown m title) =
      ("# ".toList ++ title) :: [] :: "```text".toList ::
        (Text.split '\n' (prose m) ++ "```".toList :: [] :: Markdown.optionTable m.options) := by
  have hblock : Markdown.proseBlock m = ["```text".toList, prose m, "```".toList, []] := by
    rw [Markdown.proseBlock]
    simp [hp]
  have htitle : '\n' ∉ "# ".toList ++ title := by simpa using ht
  have hopening : Text.split '\n' "```text".toList = ["```text".toList] := rfl
  have hclosing : Text.split '\n' "```".toList = ["```".toList] := rfl
  have hempty : Text.split '\n' [] = [[]] := rfl
  rw [markdown, Text.split_join _ (by simp), List.flatMap_append,
    Text.flatMap_split_of_not_mem fun _ hl => Markdown.not_mem_of_mem_optionTable hl, hblock]
  simp only [List.flatMap_cons, List.flatMap_nil, Text.split_of_not_mem htitle, hopening, hclosing,
    hempty, List.nil_append, List.append_nil, List.append_assoc, List.cons_append]

theorem fenced?_markdown {m : Manual} (hp : prose m ≠ []) {title : Text} (ht : '\n' ∉ title) :
    Markdown.fenced? (Text.split '\n' (markdown m title)) = some {
      above := ["# ".toList ++ title, []]
      opening := "```text".toList
      inside := (Markdown.cutBlock 3
        (Text.split '\n' (prose m) ++ "```".toList :: [] :: Markdown.optionTable m.options)).1
      behind := (Markdown.cutBlock 3
        (Text.split '\n' (prose m) ++ "```".toList :: [] :: Markdown.optionTable m.options)).2 } := by
  have htitle : Markdown.openingWidth? ("# ".toList ++ title) = none := rfl
  have hempty : Markdown.openingWidth? [] = none := rfl
  have hopening : Markdown.openingWidth? "```text".toList = some 3 := by decide
  rw [split_markdown_of_prose hp ht, Markdown.fenced?_cons_of_none htitle,
    Markdown.fenced?_cons_of_none hempty, Markdown.fenced?_cons_of_some hopening]
  rfl

/--
The prose of a document is read up to its first line that can end a block of three backticks. If there
is none, the block holds the lines of the prose, and the option table is behind it. Otherwise that line
ends the block, and the rest of the prose is behind it too.
-/
theorem prose_fenced_up_to_closing_line {m : Manual} (hp : prose m ≠ []) {title : Text}
    (ht : '\n' ∉ title) :
    ∃ inside behind,
      Markdown.fenced? (Text.split '\n' (markdown m title)) =
        some ⟨["# ".toList ++ title, []], "```text".toList, inside, behind⟩ ∧
      ((∀ l ∈ Text.split '\n' (prose m), Markdown.closesFence 3 l = false) →
        inside = Text.split '\n' (prose m) ∧ behind = [] :: Markdown.optionTable m.options) ∧
      ∀ above l below, Text.split '\n' (prose m) = above ++ l :: below →
        (∀ l' ∈ above, Markdown.closesFence 3 l' = false) → Markdown.closesFence 3 l = true →
        inside = above ∧
          behind = below ++ "```".toList :: [] :: Markdown.optionTable m.options := by
  have hclosing : Markdown.closesFence 3 "```".toList = true := by decide
  refine ⟨_, _, fenced?_markdown hp ht, ?_, ?_⟩
  . intro hn
    rw [Markdown.cutBlock_append hn hclosing]
    exact ⟨rfl, rfl⟩
  . intro above l below hl ha hc
    rw [hl, List.append_assoc, List.cons_append, Markdown.cutBlock_append ha hc]
    exact ⟨rfl, rfl⟩

def quoting : Manual where
  help := "Copies:\n``\n    ```\n```sh\n\nOptions:\n-a --all All\n".toList
  options := [⟨['a'], "all".toList, none, "All".toList, none⟩]
  hasSection := true

theorem prose_fenced_up_to_closing_line_quoting :
    prose quoting ≠ [] ∧ '\n' ∉ "copy".toList ∧
    Markdown.fenced? (Text.split '\n' (markdown quoting "copy".toList)) = some {
      above := ["# copy".toList, []]
      opening := "```text".toList
      inside := ["Copies:", "``", "    ```", "```sh"].map String.toList
      behind := ["", "## Options", "", "| Short | Long | Argument | Default | Description |",
        "|---|---|---|---|---|", "| -a | --all |  |  | All |", ""].map String.toList } := by
  have hp : prose quoting ≠ [] := by decide +kernel
  have ht : '\n' ∉ "copy".toList := by decide
  obtain ⟨_, _, h, hn, -⟩ := prose_fenced_up_to_closing_line hp ht
  obtain ⟨rfl, rfl⟩ := hn (by decide +kernel)
  refine ⟨hp, ht, h.trans ?_⟩
  decide +kernel

def fencedScript : List Text :=
  ["# Copies.", "# ```", "#", "# Options:", "# -a --all All"].map String.toList

def fencedManual : Extraction where
  helpLines := ["Copies.", "```", "", "Options:", "-a --all All"].map String.toList
  options := [⟨['a'], "all".toList, none, "All".toList, none⟩]

/--
A line of the prose can end its block. What was written to end it then starts another one, which has
the option table in it.
-/
theorem prose_ends_its_fence :
    extract ['#'] fencedScript = .ok fencedManual ∧
    Text.split '\n' (prose fencedManual.manual) = ["Copies.".toList, "```".toList] ∧
    ∃ behind,
      Markdown.fenced? (Text.split '\n' (markdown fencedManual.manual "copy".toList)) =
        some ⟨["# copy".toList, []], "```text".toList, ["Copies.".toList], behind⟩ ∧
      Markdown.fenced? behind =
        some ⟨[], "```".toList, [] :: Markdown.optionTable fencedManual.options, []⟩ := by
  refine ⟨by decide +kernel, by decide +kernel, _, rfl, ?_⟩
  decide +kernel

end Document

end ScriptManual
