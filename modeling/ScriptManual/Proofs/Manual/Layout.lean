import ScriptManual.Proofs.Manual.Comment
import ScriptManual.Proofs.Manual.Declared
import ScriptManual.Proofs.Manual.Header

/-!
This module contains the writing of options as the lines that declare them. A script that is written
from options, with any blanks between their parts, declares these options and nothing else.
-/

namespace ScriptManual

def spaces (n : Nat) : Text := List.replicate n ' '

namespace OptionSpec

def firstLine (o : OptionSpec) : Text :=
  (Text.split '\n' o.description).headD []

def furtherLines (o : OptionSpec) : List Text :=
  (Text.split '\n' o.description).tail

/--
The options that can be written so that they are read back. What is written must not look like
something else that declares options.
-/
structure Printable (o : OptionSpec) : Prop extends o.WellFormed where
  carriageReturn_not_mem : '\r' ∉ o.description
  value_isEnd : ∀ v, o.value? = some v → ∀ c ∈ v, Line.isEnd c = false
  unambiguous : o.argument? = none → ¬ Header.StartsWithArgument o.firstLine
  furtherLines_prose : ∀ t ∈ o.furtherLines, ∀ n,
    Outline.headerOf? (spaces n ++ t) = none ∧ Line.defaultValue? (spaces n ++ t) = none

end OptionSpec

/--
How an option is laid out: the spaces in front of its lines, the blanks behind its parts, and the
place of the line with its initial value among the lines of its description.
-/
structure Layout where
  indent : Nat
  shortGap : Text
  longGap : Text
  argumentGap : Text
  valueIndent : Nat
  valueGap : Nat
  valueAt : Nat
  isGap_shortGap : Header.IsGap shortGap
  isGap_longGap : Header.IsGap longGap
  isGap_argumentGap : Header.IsGap argumentGap

namespace Layout

def front (l : Layout) (o : OptionSpec) : Text :=
  spaces l.indent ++ '-' :: o.short ++ l.shortGap ++ '-' :: '-' :: o.long ++ l.longGap
    ++ (match o.argument? with
      | some name => name ++ l.argumentGap
      | none => [])

def valueLine (l : Layout) (value : Text) : Text :=
  spaces l.valueIndent ++ "Default:".toList ++ spaces l.valueGap ++ value

/--
The lines below the one that declares the option. The description goes on in the column that it
starts in.
-/
def below (l : Layout) (o : OptionSpec) : List Text :=
  let further := o.furtherLines.map (spaces (l.front o).length ++ ·)
  further.take l.valueAt ++ o.value?.toList.map l.valueLine ++ further.drop l.valueAt

def write (l : Layout) (o : OptionSpec) : List Text :=
  (l.front o ++ o.firstLine) :: l.below o

end Layout

def sheet (prose : List Text) (options : List (OptionSpec × Layout)) : List Text :=
  prose ++ "Options:".toList :: options.flatMap fun e => e.2.write e.1

namespace Line

theorem content_append_of_ne_nil {t : Text} (hne : t ≠ []) (ht : ∀ c ∈ t, isEnd c = false)
    (s : Text) : content (s ++ t) = s ++ t := by
  rw [content_eq_trimEnd]
  have hl := List.getLast?_eq_some_getLast hne
  exact Text.trimEnd_append_of_getLast? s hl (ht _ (List.getLast_mem hne))

theorem content_spaces_append {t : Text} (ht : ∀ c ∈ t, isEnd c = false) (n : Nat) :
    content (spaces n ++ t) = spaces n ++ t := by
  have hs : ∀ c ∈ spaces n ++ t, isEnd c = false := by
    intro c hc
    obtain hc | hc := List.mem_append.1 hc
    . rw [List.eq_of_mem_replicate hc]
      rfl
    . exact ht c hc
  cases h : spaces n ++ t with
  | nil => rfl
  | cons c cs => exact content_append_of_ne_nil (by simp) (h ▸ hs) []

theorem isEnd_eq_false_iff {c : Char} : isEnd c = false ↔ c ≠ '\r' ∧ c ≠ '\n' := by
  simp [isEnd]

end Line

namespace OptionSpec

variable {o : OptionSpec}

theorem description_eq (o : OptionSpec) :
    o.description = o.firstLine ++ o.furtherLines.flatMap ('\n' :: ·) := by
  unfold firstLine furtherLines
  cases h : Text.split '\n' o.description with
  | nil => exact absurd h (Text.split_ne_nil '\n' o.description)
  | cons t ts =>
    rw [← Text.join_split '\n' o.description, h, Text.join_cons]
    rfl

theorem firstLine_mem (o : OptionSpec) : o.firstLine ∈ Text.split '\n' o.description := by
  unfold firstLine
  cases h : Text.split '\n' o.description with
  | nil => exact absurd h (Text.split_ne_nil '\n' o.description)
  | cons t ts => simp

theorem WellFormed.firstLine_form (h : o.WellFormed) :
    ∃ c cs, o.firstLine = c :: cs ∧ Text.isAsciiBlank c = false ∧ '\n' ∉ cs := by
  obtain ⟨c, cs, hd, hc⟩ := h.description_form
  have he := o.description_eq
  have hn := Text.not_mem_of_mem_split o.firstLine_mem
  cases hf : o.firstLine with
  | nil =>
    -- Then the description would start with a line feed, which is blank.
    cases hs : o.furtherLines with
    | nil => simp [hd, hf, hs] at he
    | cons t ts =>
      simp only [hd, hf, hs, List.nil_append, List.flatMap_cons, List.cons_append,
        List.cons.injEq] at he
      rw [he.1] at hc
      contradiction
  | cons d ds =>
    rw [hd, hf, List.cons_append, List.cons.injEq] at he
    rw [hf, List.mem_cons, not_or] at hn
    exact ⟨d, ds, rfl, he.1 ▸ hc, hn.2⟩

theorem Printable.isEnd_of_mem_split (h : o.Printable) {t : Text}
    (ht : t ∈ Text.split '\n' o.description) : ∀ c ∈ t, Line.isEnd c = false := by
  intro c hc
  have hn := Text.not_mem_of_mem_split ht
  rw [Line.isEnd_eq_false_iff]
  constructor
  . rintro rfl
    exact h.carriageReturn_not_mem (Text.mem_of_mem_split ht hc)
  . rintro rfl
    exact hn hc

end OptionSpec

namespace Layout

open Header (Parts)

variable {o : OptionSpec} {short : Char}

def parts (l : Layout) (o : OptionSpec) (short : Char) : Parts where
  indent := spaces l.indent
  short := short
  shortGap := l.shortGap
  long := o.long
  longGap := l.longGap
  argument? := o.argument?.map fun name => (name, l.argumentGap)
  description := o.firstLine

theorem front_parts (l : Layout) (hs : o.short = [short]) :
    (l.parts o short).front = l.front o := by
  unfold front Parts.front Parts.argumentText parts
  cases o.argument? <;> simp [hs]

theorem valid_parts (l : Layout) (ho : o.Printable) (hc : Header.isWordChar short = true) :
    (l.parts o short).Valid where
  indent := by
    intro c h
    rw [List.eq_of_mem_replicate h]
    rfl
  short := hc
  shortGap := l.isGap_shortGap
  long_ne_nil := ho.long_ne_nil
  long := ho.long_isLongChar
  longGap := l.isGap_longGap
  argument := by
    intro name gap h
    obtain ⟨name, hn, he⟩ := Option.map_eq_some_iff.1 h
    cases he
    exact ⟨ho.argument_form name hn, l.isGap_argumentGap⟩
  description := ho.firstLine_form
  unambiguous := by
    intro h
    exact ho.unambiguous (Option.map_eq_none_iff.1 h)

theorem headerOf?_valueLine (l : Layout) (value : Text) :
    Outline.headerOf? (l.valueLine value) = none := by
  unfold valueLine
  rw [List.append_assoc, List.append_assoc]
  apply Header.match?_eq_none (c := 'D')
  . intro c hc
    rw [List.eq_of_mem_replicate hc]
    rfl
  . rfl
  . decide

theorem defaultValue?_valueLine (l : Layout) {value : Text}
    (hv : ∃ c cs, value = c :: cs ∧ Text.isBlank c = false) (hn : '\n' ∉ value) :
    Line.defaultValue? (l.valueLine value) = some value := by
  obtain ⟨c, cs, rfl, hc⟩ := hv
  have hs : ∀ n, ∀ d ∈ spaces n, Text.isBlank d = true := by
    intro n d hd
    rw [List.eq_of_mem_replicate hd]
    rfl
  have hp : "Default:".toList.isPrefixOf? ("Default:".toList ++ (spaces l.valueGap ++ c :: cs)) =
      some (spaces l.valueGap ++ c :: cs) := by
    rw [List.isPrefixOf?_eq_some_iff_append_eq]
  have hd : ("Default:".toList ++ (spaces l.valueGap ++ c :: cs)).dropWhile Text.isBlank =
      "Default:".toList ++ (spaces l.valueGap ++ c :: cs) := rfl
  unfold Line.defaultValue? valueLine
  rw [List.append_assoc, List.append_assoc, List.dropWhile_append_of_pos (hs l.valueIndent)]
  rw [hd, hp]
  dsimp only
  rw [List.dropWhile_append_of_pos (hs l.valueGap), List.dropWhile_cons_of_neg (by simp [hc])]
  rw [if_neg]
  simpa using hn

theorem defaultValue?_of_value? (l : Layout) (ho : o.Printable) {v : Text}
    (hv : o.value? = some v) : Line.defaultValue? (l.valueLine v) = some v := by
  apply l.defaultValue?_valueLine (ho.value_form v hv)
  intro hn
  exact (Line.isEnd_eq_false_iff.1 (ho.value_isEnd v hv _ hn)).2 rfl

theorem forall_mem_below {P : Text → Prop} (l : Layout)
    (hf : ∀ t ∈ o.furtherLines, P (spaces (l.front o).length ++ t))
    (hv : ∀ v, o.value? = some v → P (l.valueLine v)) : ∀ t ∈ l.below o, P t := by
  have hfurther : ∀ t ∈ o.furtherLines.map (spaces (l.front o).length ++ ·), P t := by
    intro t ht
    obtain ⟨line, hl, rfl⟩ := List.mem_map.1 ht
    exact hf line hl
  intro t ht
  unfold below at ht
  simp only [List.mem_append] at ht
  obtain (ht | ht) | ht := ht
  . exact hfurther t (List.mem_of_mem_take ht)
  . obtain ⟨v, hm, rfl⟩ := List.mem_map.1 ht
    exact hv v (Option.mem_toList.1 hm)
  . exact hfurther t (List.mem_of_mem_drop ht)

theorem headerOf?_of_mem_below (l : Layout) (ho : o.Printable) :
    ∀ t ∈ l.below o, Outline.headerOf? t = none := by
  refine l.forall_mem_below (P := fun t => Outline.headerOf? t = none) ?_ ?_
  . intro t ht
    exact (ho.furtherLines_prose t ht _).1
  . intro v _
    exact l.headerOf?_valueLine v

theorem addedLine?_spaces_append {t : Text} {n : Nat}
    (h : Outline.headerOf? (spaces n ++ t) = none ∧ Line.defaultValue? (spaces n ++ t) = none) :
    Outline.addedLine? n (spaces n ++ t) = some t := by
  have hl : (spaces n).length = n := List.length_replicate
  unfold Outline.addedLine?
  rw [if_pos, List.drop_left' hl]
  refine ⟨by rw [h.1]; rfl, by rw [h.2]; rfl, ?_⟩
  rw [List.take_left' hl]
  rfl

theorem addedLine?_valueLine (l : Layout) (ho : o.Printable) {v : Text} (hv : o.value? = some v)
    (n : Nat) : Outline.addedLine? n (l.valueLine v) = none := by
  unfold Outline.addedLine?
  rw [l.defaultValue?_of_value? ho hv, if_neg]
  rintro ⟨-, h, -⟩
  contradiction

theorem filterMap_addedLine?_below (l : Layout) (ho : o.Printable) :
    (l.below o).filterMap (Outline.addedLine? (l.front o).length) = o.furtherLines := by
  generalize hn : (l.front o).length = n
  have hfurther : ∀ t ∈ o.furtherLines, Outline.addedLine? n (spaces n ++ t) = some t := by
    intro t ht
    exact addedLine?_spaces_append (ho.furtherLines_prose t ht n)
  have hvalue : (o.value?.toList.map l.valueLine).filterMap (Outline.addedLine? n) = [] := by
    rw [List.filterMap_eq_nil_iff]
    intro t ht
    obtain ⟨v, hv, rfl⟩ := List.mem_map.1 ht
    exact l.addedLine?_valueLine ho (Option.mem_toList.1 hv) n
  unfold below
  rw [hn]
  dsimp only
  rw [List.filterMap_append, List.filterMap_append, hvalue, ← List.map_take, ← List.map_drop]
  rw [filterMap_map_of_forall fun t ht => hfurther t (List.mem_of_mem_take ht)]
  rw [filterMap_map_of_forall fun t ht => hfurther t (List.mem_of_mem_drop ht)]
  rw [List.append_nil, List.take_append_drop]

theorem filterMap_initialValue?_below (l : Layout) (ho : o.Printable) :
    (l.below o).filterMap Outline.initialValue? = o.value?.toList := by
  have hfurther : ∀ t ∈ o.furtherLines.map (spaces (l.front o).length ++ ·),
      Outline.initialValue? t = none := by
    intro t ht
    obtain ⟨line, hl, rfl⟩ := List.mem_map.1 ht
    have hp := ho.furtherLines_prose line hl (l.front o).length
    rw [Outline.initialValue?, hp.1, hp.2]
    rfl
  have hvalue : ∀ v ∈ o.value?.toList, Outline.initialValue? (l.valueLine v) = some v := by
    intro v hv
    rw [Outline.initialValue?, l.headerOf?_valueLine,
      l.defaultValue?_of_value? ho (Option.mem_toList.1 hv)]
    rfl
  unfold below
  dsimp only
  rw [List.filterMap_append, List.filterMap_append, filterMap_map_of_forall hvalue]
  rw [List.filterMap_eq_nil_iff.2 fun t ht => hfurther t (List.mem_of_mem_take ht)]
  rw [List.filterMap_eq_nil_iff.2 fun t ht => hfurther t (List.mem_of_mem_drop ht)]
  rw [List.nil_append, List.append_nil]

theorem exists_header (l : Layout) (ho : o.Printable) :
    ∃ h, Outline.headerOf? (l.front o ++ o.firstLine) = some h ∧
      Outline.option (h, l.below o) = o := by
  obtain ⟨short, hs, hc⟩ := ho.short_form
  have hh := Header.match?_text (l.valid_parts ho hc)
  rw [Header.Parts.text, l.front_parts hs] at hh
  have hcolumn : (l.parts o short).header.column = (l.front o).length := by
    rw [← l.front_parts hs]
    rfl
  have hargument : (l.parts o short).header.argument? = o.argument? := by
    unfold Header.Parts.header parts
    cases o.argument? <;> rfl
  have hvalue : o.value?.toList.getLast? = o.value? := by
    cases o.value? <;> rfl
  refine ⟨_, hh, ?_⟩
  show OptionSpec.mk [short] o.long _ (o.firstLine ++ _) _ = o
  rw [hcolumn, l.filterMap_addedLine?_below ho, l.filterMap_initialValue?_below ho]
  rw [hargument, hvalue, ← o.description_eq, ← hs]

theorem content_of_mem_write (l : Layout) (ho : o.Printable) :
    ∀ t ∈ l.write o, Line.content t = t := by
  intro t ht
  obtain rfl | ht := List.mem_cons.1 ht
  . obtain ⟨c, cs, hf, -⟩ := ho.firstLine_form
    apply Line.content_append_of_ne_nil
    . simp [hf]
    . exact ho.isEnd_of_mem_split o.firstLine_mem
  . refine l.forall_mem_below (P := fun t => Line.content t = t) ?_ ?_ t ht
    . intro t ht
      apply Line.content_spaces_append
      exact ho.isEnd_of_mem_split (List.mem_of_mem_tail ht)
    . intro v hv
      obtain ⟨c, cs, rfl, -⟩ := ho.value_form v hv
      exact Line.content_append_of_ne_nil (by simp) (ho.value_isEnd _ hv) _

end Layout

namespace Outline

theorem section?_append {prose : List Text} (h : ∀ t ∈ prose, Line.isSectionStart t = false)
    {start : Text} (hs : Line.isSectionStart start = true) (texts : List Text) :
    Outline.section? (prose ++ start :: texts) = some texts := by
  induction prose with
  | nil => rw [List.nil_append, section?, if_pos hs]
  | cons t ts ih =>
    rw [List.cons_append, section?, if_neg (by simp [h t])]
    exact ih fun u hu => h u (by simp [hu])

theorem firstRepeatedAfter?_of_nodup {seen shorts : List Char} (h : (seen ++ shorts).Nodup) :
    firstRepeatedAfter? seen shorts = none := by
  induction shorts generalizing seen with
  | nil => rfl
  | cons c cs ih =>
    have hc : c ∉ seen := by
      intro hm
      exact (List.nodup_append.1 h).2.2 c hm c (by simp) rfl
    rw [firstRepeatedAfter?_cons, if_neg hc]
    apply ih
    simpa using h

theorem blocks_append {below : List Text} (h : ∀ t ∈ below, headerOf? t = none)
    (texts : List Text) : blocks (below ++ texts) = blocks texts := by
  induction below with
  | nil => rfl
  | cons t ts ih =>
    rw [List.cons_append, blocks, h t (by simp)]
    exact ih fun u hu => h u (by simp [hu])

theorem leading_append {below : List Text} (h : ∀ t ∈ below, headerOf? t = none)
    (texts : List Text) : leading (below ++ texts) = below ++ leading texts := by
  unfold leading
  rw [List.takeWhile_append_of_pos]
  intro t ht
  simp [h t ht]

theorem leading_cons_of_some {text : Text} {h : Header} (hh : headerOf? text = some h)
    (texts : List Text) : leading (text :: texts) = [] := by
  unfold leading
  rw [List.takeWhile_cons_of_neg]
  simp [hh]

theorem map_option_blocks_flatMap {α : Type} {items : List α} {line : α → Text}
    {below : α → List Text} {spec : α → OptionSpec}
    (hl : ∀ a ∈ items, ∃ h, headerOf? (line a) = some h ∧ option (h, below a) = spec a)
    (hb : ∀ a ∈ items, ∀ t ∈ below a, headerOf? t = none) :
    (blocks (items.flatMap fun a => line a :: below a)).map option = items.map spec := by
  induction items with
  | nil => rfl
  | cons a as ih =>
    obtain ⟨h, hh, ho⟩ := hl a (by simp)
    have hba := hb a (by simp)
    have hnext : leading (as.flatMap fun a => line a :: below a) = [] := by
      cases as with
      | nil => rfl
      | cons a' as =>
        obtain ⟨h', hh', -⟩ := hl a' (by simp)
        exact leading_cons_of_some hh' _
    rw [List.flatMap_cons, List.cons_append, blocks, hh]
    dsimp only
    rw [List.map_cons, leading_append hba, hnext, List.append_nil, ho, blocks_append hba]
    rw [ih (fun b hm => hl b (by simp [hm])) fun b hm => hb b (by simp [hm])]
    rfl

end Outline

theorem content_of_mem_sheet {prose : List Text}
    (hp : ∀ t ∈ prose, ∀ c ∈ t, Line.isEnd c = false) {options : List (OptionSpec × Layout)}
    (ho : ∀ e ∈ options, e.1.Printable) : ∀ t ∈ sheet prose options, Line.content t = t := by
  intro t ht
  unfold sheet at ht
  obtain ht | ht := List.mem_append.1 ht
  . exact Line.content_spaces_append (hp t ht) 0
  . obtain rfl | ht := List.mem_cons.1 ht
    . rfl
    . obtain ⟨e, he, ht⟩ := List.mem_flatMap.1 ht
      exact e.2.content_of_mem_write (ho e he) t ht

/--
A script that is written from options declares these options: every part of them is read back as it
was, in the order that they were written in, whatever the blanks between the parts. Its help text is
everything that was written.
-/
theorem extract_sheet {marker : Text} (hm : Settings.isVisible marker = true) {prose : List Text}
    (hp : ∀ t ∈ prose, Line.isSectionStart t = false ∧ ∀ c ∈ t, Line.isEnd c = false)
    {options : List (OptionSpec × Layout)} (ho : ∀ e ∈ options, e.1.Printable)
    (hn : (options.map fun e => e.1.short).Nodup) :
    extract marker ((sheet prose options).map (Line.ofText marker)) =
      .ok ⟨sheet prose options, options.map Prod.fst⟩ := by
  have hc := content_of_mem_sheet (fun t ht => (hp t ht).2) ho
  have hsection : Outline.section? (sheet prose options) =
      some (options.flatMap fun e => e.2.write e.1) :=
    Outline.section?_append (fun t ht => (hp t ht).1) rfl _
  have hblocks : (Outline.blocks (options.flatMap fun e => e.2.write e.1)).map Outline.option =
      options.map Prod.fst := by
    apply Outline.map_option_blocks_flatMap
    . intro e he
      exact e.2.exists_header (ho e he)
    . intro e he
      exact e.2.headerOf?_of_mem_below (ho e he)
  have hshorts : Outline.firstRepeated?
      ((Outline.headers (options.flatMap fun e => e.2.write e.1)).map Header.short) = none := by
    rw [← Outline.firstRepeatedAfter?_nil_left]
    apply Outline.firstRepeatedAfter?_of_nodup
    have hs := Outline.map_short_option (Outline.blocks (options.flatMap fun e => e.2.write e.1))
    rw [hblocks, Outline.map_fst_blocks, List.map_map] at hs
    apply List.Nodup.of_map fun c => [c]
    rw [List.nil_append, List.map_map]
    exact hs ▸ hn
  rw [extract_eq_ofTexts, helpTexts_ofText hm hc, Outline.ofTexts, hsection]
  dsimp only
  rw [hshorts, hblocks]

theorem Line.defaultValue?_spaces_append (n : Nat) (t : Text) :
    defaultValue? (spaces n ++ t) = defaultValue? t := by
  unfold defaultValue?
  rw [List.dropWhile_append_of_pos]
  intro c hc
  rw [List.eq_of_mem_replicate hc]
  rfl

def copyOption : OptionSpec :=
  ⟨['o'], "out".toList, some "file".toList, "Where to write,\n  or '-'.".toList, some "a b".toList⟩

def quietOption : OptionSpec :=
  ⟨['q'], "quiet".toList, none, "Say less.".toList, none⟩

theorem printable_copyOption : copyOption.Printable where
  short_form := ⟨'o', rfl, rfl⟩
  long_ne_nil := by decide
  long_isLongChar := List.all_eq_true.1 rfl
  argument_form := by
    rintro a ⟨⟩
    exact ⟨'f', "ile".toList, rfl, rfl, List.all_eq_true.1 rfl⟩
  description_form := ⟨'W', _, rfl, rfl⟩
  value_form := by
    rintro v ⟨⟩
    exact ⟨'a', _, rfl, rfl⟩
  carriageReturn_not_mem := by decide
  value_isEnd := by
    rintro v ⟨⟩
    simp [Line.isEnd]
  unambiguous := by
    intro h
    contradiction
  furtherLines_prose := by
    intro t ht n
    have hf : copyOption.furtherLines = ["  or '-'.".toList] := by decide
    rw [hf, List.mem_singleton] at ht
    subst ht
    refine ⟨?_, Line.defaultValue?_spaces_append n _⟩
    show Header.pattern.match? (spaces n ++ ("  ".toList ++ 'o' :: "r '-'.".toList)) = none
    rw [← List.append_assoc]
    apply Header.match?_eq_none (c := 'o')
    . intro c hc
      obtain hc | hc := List.mem_append.1 hc
      . rw [List.eq_of_mem_replicate hc]
        rfl
      . exact List.all_eq_true.1 (rfl : "  ".toList.all Text.isAsciiBlank = true) c hc
    . rfl
    . decide

theorem printable_quietOption : quietOption.Printable where
  short_form := ⟨'q', rfl, rfl⟩
  long_ne_nil := by decide
  long_isLongChar := List.all_eq_true.1 rfl
  argument_form := by
    rintro a ⟨⟩
  description_form := ⟨'S', _, rfl, rfl⟩
  value_form := by
    rintro v ⟨⟩
  carriageReturn_not_mem := by decide
  value_isEnd := by
    rintro v ⟨⟩
  unambiguous := by
    -- The first word starts with a capital.
    rintro - ⟨name, gap, c, rest, he, ⟨d, ds, rfl, hd, -⟩, -⟩
    have hf : quietOption.firstLine.head? = some 'S' := by decide
    rw [he] at hf
    cases hf
    contradiction
  furtherLines_prose := by
    intro t ht
    have hf : quietOption.furtherLines = [] := by decide
    rw [hf] at ht
    contradiction

theorem isGap_tabs : Header.IsGap ['\t', '\t'] := ⟨by decide, List.all_eq_true.1 rfl⟩

theorem isGap_space : Header.IsGap [' '] := ⟨by decide, List.all_eq_true.1 rfl⟩

def wideLayout : Layout :=
  ⟨2, [' '], ['\t', '\t'], [' '], 9, 1, 0, isGap_space, isGap_tabs, isGap_space⟩

def narrowLayout : Layout :=
  ⟨0, [' '], [' '], [' '], 0, 0, 0, isGap_space, isGap_space, isGap_space⟩

def copySheet : List (OptionSpec × Layout) :=
  [(copyOption, wideLayout), (quietOption, narrowLayout)]

def copyTexts : List Text :=
  ["Copies files.", "", "Options:", "  -o --out\t\tfile Where to write,", "         Default: a b",
    "                   or '-'.", "-q --quiet Say less."].map String.toList

theorem extract_copyTexts :
    Settings.isVisible (";;".toList : Text) = true ∧
    (∀ e ∈ copySheet, e.1.Printable) ∧ (copySheet.map fun e => e.1.short).Nodup ∧
    extract ";;".toList (copyTexts.map (Line.ofText ";;".toList)) =
      .ok ⟨copyTexts, [copyOption, quietOption]⟩ := by
  have hm : Settings.isVisible (";;".toList : Text) = true := by decide
  have hp : ∀ t ∈ ["Copies files.".toList, []],
      Line.isSectionStart t = false ∧ ∀ c ∈ t, Line.isEnd c = false := by
    rw [List.forall_mem_cons, List.forall_mem_singleton]
    refine ⟨⟨rfl, ?_⟩, rfl, ?_⟩
    . simp [Line.isEnd]
    . simp
  have ho : ∀ e ∈ copySheet, e.1.Printable := by
    simp [copySheet, printable_copyOption, printable_quietOption]
  have hn : (copySheet.map fun e => e.1.short).Nodup := by decide
  have hs : sheet ["Copies files.".toList, []] copySheet = copyTexts := by decide +kernel
  have hx := extract_sheet hm hp ho hn
  rw [hs] at hx
  exact ⟨hm, ho, hn, hx⟩

end ScriptManual
