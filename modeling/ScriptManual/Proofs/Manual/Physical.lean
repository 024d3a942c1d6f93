import ScriptManual.Cli.Run
import ScriptManual.Proofs.Manual.Noise
import ScriptManual.Proofs.Text.Lines

/-!
This module contains what becomes of the physical lines of a script, which end with line feeds. A
manual is extracted from lines that end with any line break, so that a physical line with another
line break in it is taken for several lines.
-/

namespace ScriptManual

/--
The lines of a file: what is between its line feeds, once its line ends are line feeds.
-/
def Text.physicalLines (text : Text) : List Text :=
  Text.split '\n' (Text.unifyNewlines text)

namespace Line

def parts (line : Text) : List Text :=
  Text.lines (line ++ ['\n'])

/--
Whether a physical line says the same as the lines that it is taken for. There is no line break in a
comment, and no line of code has a part that is a comment or blank.
-/
def IsWhole (marker line : Text) : Prop :=
  if isComment marker line then
    ∀ c ∈ line, Text.isLineBreak c = false
  else
    Text.isAllBlank line = false →
      ∀ part ∈ parts line, Text.isAllBlank part = false ∧ isComment marker part = false

instance (marker line : Text) : Decidable (IsWhole marker line) :=
  have : Decidable (∀ c ∈ line, Text.isLineBreak c = false) := List.decidableBAll _ line
  inferInstanceAs (Decidable (ite _ _ _))

end Line

/--
The lines down to the end of the leading comments, which is the first blank line behind a comment.
-/
def linesOfComments (marker : Text) (lines : List Text) : List Text :=
  lines.takeWhile (fun l => !Line.isComment marker l) ++
    (lines.dropWhile fun l => !Line.isComment marker l).takeWhile fun l => !Text.isAllBlank l

variable {marker : Text}

namespace Line

theorem parts_ne_nil (line : Text) : parts line ≠ [] :=
  Text.lines_ne_nil (by simp)

theorem mem_of_mem_parts {line part : Text} {c : Char} (h : part ∈ parts line) (hc : c ∈ part) :
    c ∈ line := by
  have hmem := Text.mem_of_mem_lines h hc
  have hbreak := Text.isLineBreak_of_mem_lines h c hc
  obtain hmem | rfl := by simpa using hmem
  . exact hmem
  . contradiction

theorem isAllBlank_of_mem_parts {line part : Text} (h : part ∈ parts line)
    (hb : Text.isAllBlank line = true) : Text.isAllBlank part = true := by
  unfold Text.isAllBlank at *
  rw [List.all_eq_true] at *
  exact fun c hc => hb c (mem_of_mem_parts h hc)

theorem parts_of_not_isLineBreak {line : Text} (h : ∀ c ∈ line, Text.isLineBreak c = false) :
    parts line = [line] :=
  Text.lines_append_lineFeed h []

theorem isComment_of_isAllBlank {line : Text} (h : Text.isAllBlank line = true) :
    isComment marker line = false := by
  simp [isComment, h]

end Line

theorem blockTexts_append_of_code {above : List Text}
    (h : ∀ l ∈ above, Text.isAllBlank l = false ∧ Line.isComment marker l = false)
    (lines : List Text) : blockTexts marker (above ++ lines) = blockTexts marker lines := by
  induction above with
  | nil => rfl
  | cons l above ih =>
    obtain ⟨hb, hc⟩ := h l (by simp)
    rw [← Line.isBlank_eq_isAllBlank] at hb
    rw [← Line.commentText?_eq_none_iff] at hc
    rw [List.cons_append, blockTexts_cons_of_not_isBlank hb, hc, ih fun l' hl => h l' (by simp [hl])]
    rfl

theorem blockTexts_flatMap_parts {lines : List Text}
    (h : ∀ l ∈ lines.takeWhile fun l => !Text.isAllBlank l, Line.IsWhole marker l) :
    blockTexts marker (lines.flatMap Line.parts) = blockTexts marker lines := by
  induction lines with
  | nil => rfl
  | cons line lines ih =>
    rw [List.flatMap_cons]
    cases hb : Text.isAllBlank line with
    | true =>
      obtain ⟨part, more, hp⟩ := List.exists_cons_of_ne_nil (Line.parts_ne_nil line)
      have hmem : part ∈ Line.parts line := by simp [hp]
      have hpart := Line.isAllBlank_of_mem_parts hmem hb
      rw [← Line.isBlank_eq_isAllBlank] at hb hpart
      rw [hp, List.cons_append, blockTexts_cons_of_isBlank hpart, blockTexts_cons_of_isBlank hb]
    | false =>
      rw [List.takeWhile_cons_of_pos (by simp [hb])] at h
      have hline := h line (by simp)
      have hlines := ih fun l hl => h l (by simp [hl])
      rw [Line.IsWhole] at hline
      split at hline
      . rw [Line.parts_of_not_isLineBreak hline]
        rw [← Line.isBlank_eq_isAllBlank] at hb
        rw [List.singleton_append, blockTexts_cons_of_not_isBlank hb,
          blockTexts_cons_of_not_isBlank hb, hlines]
      . next hc =>
        have hcode : ∀ l ∈ [line], Text.isAllBlank l = false ∧ Line.isComment marker l = false := by
          simpa [hb] using hc
        rw [blockTexts_append_of_code (hline hb), hlines]
        exact (blockTexts_append_of_code hcode lines).symm

theorem linesOfComments_cons_of_comment {line : Text} (h : Line.isComment marker line = true)
    (lines : List Text) :
    linesOfComments marker (line :: lines) = line :: lines.takeWhile fun l => !Text.isAllBlank l := by
  have hb : Text.isAllBlank line = false := by
    rw [Line.isComment, Bool.and_eq_true] at h
    simpa using h.1
  rw [linesOfComments, List.takeWhile_cons_of_neg (by simp [h]),
    List.dropWhile_cons_of_neg (by simp [h]), List.takeWhile_cons_of_pos (by simp [hb])]
  rfl

theorem linesOfComments_cons_of_not_comment {line : Text} (h : Line.isComment marker line = false)
    (lines : List Text) :
    linesOfComments marker (line :: lines) = line :: linesOfComments marker lines := by
  rw [linesOfComments, List.takeWhile_cons_of_pos (by simp [h]),
    List.dropWhile_cons_of_pos (by simp [h])]
  rfl

theorem helpTexts_flatMap_parts {lines : List Text}
    (h : ∀ l ∈ linesOfComments marker lines, Line.IsWhole marker l) :
    helpTexts marker (lines.flatMap Line.parts) = helpTexts marker lines := by
  induction lines with
  | nil => rfl
  | cons line lines ih =>
    rw [List.flatMap_cons]
    cases hc : Line.isComment marker line with
    | true =>
      rw [linesOfComments_cons_of_comment hc, List.forall_mem_cons, Line.IsWhole, if_pos hc] at h
      have ht : Line.commentText? marker line = some (Line.commentBody marker line) := by
        rw [Line.commentText?_eq_ite, if_pos hc]
      rw [Line.parts_of_not_isLineBreak h.1, List.singleton_append, helpTexts_cons_of_some ht,
        helpTexts_cons_of_some ht, blockTexts_flatMap_parts h.2]
    | false =>
      rw [linesOfComments_cons_of_not_comment hc, List.forall_mem_cons, Line.IsWhole,
        if_neg (by simp [hc])] at h
      -- Ahead of the first comment, what is no comment does not matter, blank or not.
      have hparts : ∀ part ∈ Line.parts line, Line.commentText? marker part = none := by
        intro part hp
        rw [Line.commentText?_eq_none_iff]
        cases hb : Text.isAllBlank line with
        | true => exact Line.isComment_of_isAllBlank (Line.isAllBlank_of_mem_parts hp hb)
        | false => exact (h.1 hb part hp).2
      rw [helpTexts_append_of_none hparts, ih h.2,
        helpTexts_cons_of_none (Line.commentText?_eq_none_iff.2 hc)]

theorem helpTexts_concat_nil (lines : List Text) :
    helpTexts marker (lines ++ [[]]) = helpTexts marker lines := by
  by_cases h : ∃ l ∈ lines, Line.isComment marker l = true
  . exact helpTexts_append_blank h rfl []
  . have hn : ∀ l ∈ lines, Line.commentText? marker l = none := by
      intro l hl
      rw [Line.commentText?_eq_none_iff, ← Bool.not_eq_true]
      exact fun hc => h ⟨l, hl, hc⟩
    calc helpTexts marker (lines ++ [[]])
        = helpTexts marker [[]] := helpTexts_append_of_none hn [[]]
      _ = helpTexts marker [] := helpTexts_cons_of_none rfl []
      _ = helpTexts marker (lines ++ []) := (helpTexts_append_of_none hn []).symm
      _ = helpTexts marker lines := by rw [List.append_nil]

theorem not_mem_physicalLines {text l : Text} (h : l ∈ Text.physicalLines text) :
    '\n' ∉ l ∧ '\r' ∉ l :=
  ⟨Text.not_mem_of_mem_split h,
    fun hm => Text.not_mem_unifyNewlines text (Text.mem_of_mem_split h hm)⟩

theorem helpTexts_lines (marker text : Text) :
    helpTexts marker (Text.lines (Text.unifyNewlines text)) =
      helpTexts marker ((Text.physicalLines text).flatMap Line.parts) := by
  have hl : Text.lines (Text.unifyNewlines text ++ ['\n']) =
      (Text.physicalLines text).flatMap Line.parts := by
    rw [← Text.unlines_split]
    exact Text.lines_unlines_eq_flatMap fun l hl => (not_mem_physicalLines hl).2
  rw [← hl]
  obtain h | h := Text.lines_concat_lineFeed (Text.not_mem_unifyNewlines text)
  . rw [h]
  . rw [h, helpTexts_concat_nil]

namespace Line

theorem content_of_not_mem {raw : Text} (hn : '\n' ∉ raw) (hr : '\r' ∉ raw) : content raw = raw := by
  obtain ⟨e, he, hp⟩ := Text.exists_eq_trimEnd_append isEnd raw
  cases e with
  | nil => simpa [content_eq_trimEnd] using he.symm
  | cons c cs =>
    exfalso
    have hc := hp c (by simp)
    have hm : c ∈ raw := by
      rw [he]
      simp
    rw [isEnd, Bool.or_eq_true, beq_iff_eq, beq_iff_eq] at hc
    obtain rfl | rfl := hc
    . exact hr hm
    . exact hn hm

theorem isLineBreak_of_commentText? (hm : Settings.isVisible marker = true) {raw text : Text}
    (hc : content raw = raw) (h : commentText? marker raw = some text)
    (ht : ∀ c ∈ text, Text.isLineBreak c = false) : ∀ c ∈ raw, Text.isLineBreak c = false := by
  have hmarker : ∀ c ∈ marker, Text.isLineBreak c = false := by
    intro c hmem
    rw [← Bool.not_eq_true]
    intro hb
    have hblank := (Settings.isVisible_ofText.1 hm).2 c hmem
    rw [Text.isBlank_of_isLineBreak hb] at hblank
    contradiction
  unfold commentText? at h
  split at h
  . contradiction
  . rw [hc, stripMarker?_eq_some_iff] at h
    obtain ⟨rfl, -⟩ | rfl := h
    . exact hmarker
    . intro c hmem
      obtain hmem | hmem := List.mem_append.1 hmem
      . exact hmarker c hmem
      . obtain rfl | hmem := List.mem_cons.1 hmem
        . rfl
        . exact ht c hmem

end Line

theorem helpTexts_eq_of_extract_eq {lines lines' : List Text}
    (h : extract marker lines = extract marker lines')
    (hd : ∀ short, extract marker lines' ≠ .error (.duplicateShort short)) :
    helpTexts marker lines = helpTexts marker lines' := by
  match h' : extract marker lines' with
  | .ok x =>
    rw [← helpLines_of_extract_eq_ok h', ← helpLines_of_extract_eq_ok (h.trans h')]
  | .error (.missingSection texts) =>
    rw [← helpLines_of_extract_eq_missingSection h',
      ← helpLines_of_extract_eq_missingSection (h.trans h')]
  | .error (.duplicateShort short) => exact absurd h' (hd short)

theorem isLineBreak_of_helpTexts_eq (hm : Settings.isVisible marker = true) {text : Text}
    (h : helpTexts marker (Text.lines (Text.unifyNewlines text)) =
      helpTexts marker (Text.physicalLines text)) {l : Text}
    (hl : l ∈ leadingComments marker (Text.physicalLines text)) :
    ∀ c ∈ l, Text.isLineBreak c = false := by
  have hmem : l ∈ Text.physicalLines text :=
    (List.dropWhile_sublist _).subset
      ((List.takeWhile_sublist _).subset (List.mem_of_mem_filter hl))
  obtain ⟨hn, hr⟩ := not_mem_physicalLines hmem
  have hbody : Line.commentText? marker l = some (Line.commentBody marker l) := by
    rw [Line.commentText?_eq_ite, if_pos (List.of_mem_filter hl)]
  apply Line.isLineBreak_of_commentText? hm (Line.content_of_not_mem hn hr) hbody
  apply isLineBreak_of_mem_helpTexts
  rw [h, helpTexts_eq_map_commentBody]
  exact List.mem_map_of_mem hl

theorem scriptLines_of_decode (script : Path) {bytes : List UInt8} {text : Text}
    (hd : Text.Utf8.decode bytes = .ok text) :
    Cli.scriptLines script (.ok bytes) = .ok (Text.lines (Text.unifyNewlines text)) := by
  unfold Cli.scriptLines
  change (Except.mapError _ (Text.Utf8.decode bytes) >>= _) = _
  rw [hd]
  rfl

/--
A script is read into lines that are not always its physical lines, and its manual is extracted from
those. It is the manual of the physical lines if down to the end of the leading comments they are no
others. It is not if there is another line break in one of these comments, because the help text is
cut there, and only the error for a short name that is declared twice has no help text in it.
-/
theorem extract_agrees_on_whole_lines (script : Path) {bytes : List UInt8} {text : Text}
    (hd : Text.Utf8.decode bytes = .ok text) (hm : Settings.isVisible marker = true) :
    ∃ lines, Cli.scriptLines script (.ok bytes) = .ok lines ∧
      ((∀ l ∈ linesOfComments marker (Text.physicalLines text), Line.IsWhole marker l) →
        extract marker lines = extract marker (Text.physicalLines text)) ∧
      ((∃ l ∈ leadingComments marker (Text.physicalLines text),
          ∃ c ∈ l, Text.isLineBreak c = true) →
        extract marker lines ≠ extract marker (Text.physicalLines text) ∨
          ∃ short, extract marker (Text.physicalLines text) = .error (.duplicateShort short)) := by
  refine ⟨_, scriptLines_of_decode script hd, ?_, ?_⟩
  . intro hw
    rw [extract_eq_ofTexts, extract_eq_ofTexts, helpTexts_lines, helpTexts_flatMap_parts hw]
  . rintro ⟨l, hl, c, hc, hbreak⟩
    by_contra hn
    rw [not_or, not_not, not_exists] at hn
    have hwhole := isLineBreak_of_helpTexts_eq hm (helpTexts_eq_of_extract_eq hn.1 hn.2) hl c hc
    rw [hbreak] at hwhole
    contradiction

def wholeText : Text :=
  "#!/bin/sh\r\n# Copies files.\n# Options:\nset -e\x0bcd /\n# -a --all All\n\x0c\n# -b --big Big\n".toList

theorem extract_agrees_on_whole_lines_whole :
    Text.Utf8.decode (Text.Utf8.encode wholeText) = .ok wholeText ∧
    Settings.isVisible (WideText.ofText ['#']) = true ∧
    (∀ l ∈ linesOfComments ['#'] (Text.physicalLines wholeText), Line.IsWhole ['#'] l) ∧
    ∃ lines, Cli.scriptLines ⟨.slash, [[.char 's']]⟩ (.ok (Text.Utf8.encode wholeText)) = .ok lines ∧
      extract ['#'] lines = extract ['#'] (Text.physicalLines wholeText) := by
  have hd : Text.Utf8.decode (Text.Utf8.encode wholeText) = .ok wholeText := by decide +kernel
  have hm : Settings.isVisible (WideText.ofText ['#']) = true := by decide
  have hw : ∀ l ∈ linesOfComments ['#'] (Text.physicalLines wholeText), Line.IsWhole ['#'] l := by
    decide +kernel
  obtain ⟨lines, hl, he, -⟩ := extract_agrees_on_whole_lines ⟨.slash, [[.char 's']]⟩ hd hm
  exact ⟨hd, hm, hw, lines, hl, he hw⟩

def brokenComments : Text :=
  "# Copies files.\n# Options:\n# -a --all All\x0bfiles\n# -b --big Big\x0c\n# -c --cut Cut\n".toList

/--
A line break in a comment drops the rest of the comment, and one at its end drops all comments behind.
-/
theorem line_breaks_cut_comments :
    ∃ lines, Cli.scriptLines ⟨.slash, [[.char 's']]⟩ (.ok (Text.Utf8.encode brokenComments)) = .ok lines ∧
      (extract ['#'] lines).map Extraction.options =
        .ok [⟨['a'], "all".toList, none, "All".toList, none⟩,
          ⟨['b'], "big".toList, none, "Big".toList, none⟩] ∧
      (extract ['#'] (Text.physicalLines brokenComments)).map Extraction.options =
        .ok [⟨['a'], "all".toList, none, "All\x0bfiles".toList, none⟩,
          ⟨['b'], "big".toList, none, "Big\x0c".toList, none⟩,
          ⟨['c'], "cut".toList, none, "Cut".toList, none⟩] := by
  have hd : Text.Utf8.decode (Text.Utf8.encode brokenComments) = .ok brokenComments := by
    decide +kernel
  refine ⟨_, scriptLines_of_decode _ hd, ?_, ?_⟩
  . decide +kernel
  . decide +kernel

end ScriptManual
