import Mathlib.Data.List.TakeWhile
import ScriptManual.Proofs.Manual.Comment
import ScriptManual.Proofs.Manual.Header

/-!
This module contains a reader of header lines that goes over a line once, without ever going back. It
reads the lines that the pattern of headers matches, and no others, into the same parts.
-/

namespace ScriptManual

namespace Text

def run? (p : Char → Bool) (t : Text) : Option (Text × Text) :=
  if (t.takeWhile p).isEmpty then none else some (t.takeWhile p, t.dropWhile p)

theorem run?_eq_some_iff {p : Char → Bool} {t front rest : Text} :
    run? p t = some (front, rest) ↔
      t = front ++ rest ∧ front ≠ [] ∧ (∀ c ∈ front, p c = true) ∧
        ∀ c ∈ rest.head?, p c = false := by
  unfold run?
  constructor
  . intro h
    split at h
    . contradiction
    . next hne =>
      cases h
      refine ⟨List.takeWhile_append_dropWhile.symm, by simpa using hne, ?_, ?_⟩
      . intro c hc
        exact List.mem_takeWhile_imp hc
      . intro c hc
        have := List.head?_dropWhile_not p t
        rw [Option.mem_def.1 hc] at this
        simpa using this
  . rintro ⟨rfl, hne, hf, hr⟩
    rw [List.takeWhile_append_of_pos hf, List.dropWhile_append_of_pos hf]
    have hrest : rest.takeWhile p = [] ∧ rest.dropWhile p = rest := by
      cases rest with
      | nil => exact ⟨rfl, rfl⟩
      | cons c cs => simp [hr c rfl]
    rw [hrest.1, hrest.2, List.append_nil, if_neg]
    simpa using hne

end Text

namespace Header

/--
Cut the name of an argument off the text that it starts, if anything is left behind the name and the
blanks.
-/
def leadingArgument? (rest : Text) : Option (Text × Text) := do
  let (name, behind) ← Text.run? isWordChar rest
  let (_, description) ← Text.run? Text.isAsciiBlank behind
  if name.head?.any Char.isLower && !description.isEmpty then some (name, description) else none

def divide (rest : Text) : Option Text × Text :=
  match leadingArgument? rest with
  | some (name, description) => (some name, description)
  | none => (none, rest)

/--
Read a header without going back: every run takes all the characters that it can.
-/
def scan? (text : Text) : Option Header := do
  let behind ← ['-'].isPrefixOf? (text.dropWhile Text.isAsciiBlank)
  let short ← behind.head?
  let (_, behind) ← Text.run? Text.isAsciiBlank behind.tail
  let behind ← ['-', '-'].isPrefixOf? behind
  let (long, behind) ← Text.run? isLongChar behind
  let (_, rest) ← Text.run? Text.isAsciiBlank behind
  let (argument?, description) := divide rest
  if isWordChar short && !description.isEmpty && !description.contains '\n' then
    some ⟨text.length - description.length, short, long, argument?, description⟩
  else
    none

inductive Divides : Text → (argument? : Option Text) → (description : Text) → Prop where
  | argument {name gap : Text} {c : Char} (hn : IsArgumentName name) (hg : IsGap gap)
      (hc : Text.isAsciiBlank c = false) (cs : Text) :
    Divides (name ++ (gap ++ c :: cs)) (some name) (c :: cs)
  | description {rest : Text} (h : ¬ StartsWithArgument rest) : Divides rest none rest

theorem IsArgumentName.isWordChar {name : Text} (h : IsArgumentName name) :
    ∀ c ∈ name, isWordChar c = true := by
  obtain ⟨c, cs, rfl, hc, hcs⟩ := h
  have hw : Header.isWordChar c = true := by
    simp [Header.isWordChar, isAlphanum_of_isLower hc]
  intro d hd
  obtain rfl | hd := List.mem_cons.1 hd
  . exact hw
  . exact hcs d hd

theorem leadingArgument?_eq_some_iff {rest name description : Text} :
    leadingArgument? rest = some (name, description) ↔
      ∃ gap c cs, rest = name ++ (gap ++ c :: cs) ∧ description = c :: cs ∧ IsArgumentName name
        ∧ IsGap gap ∧ Text.isAsciiBlank c = false := by
  simp only [leadingArgument?, Option.bind_eq_bind, Option.bind_eq_some_iff, Prod.exists,
    Text.run?_eq_some_iff]
  constructor
  . rintro ⟨name', behind, ⟨rfl, hne, hw, -⟩, gap, description', ⟨rfl, hg, hb, hh⟩, h⟩
    split at h
    . next hc =>
      cases h
      simp only [Bool.and_eq_true, Bool.not_eq_true', List.isEmpty_eq_false_iff] at hc
      obtain ⟨hlower, hd⟩ := hc
      obtain ⟨c, cs, rfl⟩ := List.exists_cons_of_ne_nil hd
      obtain ⟨d, ds, rfl⟩ := List.exists_cons_of_ne_nil hne
      refine ⟨gap, c, cs, rfl, rfl, ⟨d, ds, rfl, by simpa using hlower, ?_⟩, ⟨hg, hb⟩, hh c rfl⟩
      intro e he
      exact hw e (List.mem_cons_of_mem d he)
    . contradiction
  . rintro ⟨gap, c, cs, rfl, rfl, hn, hg, hc⟩
    have hw := hn.isWordChar
    obtain ⟨d, ds, rfl, hd, -⟩ := hn
    refine ⟨_, _, ⟨rfl, by simp, hw, hg.of_head? fun e => isWordChar_of_isAsciiBlank⟩, gap, _,
      ⟨rfl, hg.ne_nil, hg.isAsciiBlank, by simpa using hc⟩, ?_⟩
    simp [hd]

theorem leadingArgument?_eq_none {rest : Text} (h : ¬ StartsWithArgument rest) :
    leadingArgument? rest = none := by
  rw [Option.eq_none_iff_forall_ne_some]
  rintro ⟨name, description⟩ hl
  obtain ⟨gap, c, cs, rfl, -, hn, hg, hc⟩ := leadingArgument?_eq_some_iff.1 hl
  exact h ⟨name, gap, c, cs, (List.append_assoc name gap (c :: cs)).symm, hn, hg, hc⟩

theorem divide_eq_iff {rest description : Text} {argument? : Option Text} :
    divide rest = (argument?, description) ↔ Divides rest argument? description := by
  unfold divide
  constructor
  . intro h
    by_cases hs : StartsWithArgument rest
    . obtain ⟨name, gap, c, cs, rfl, hn, hg, hc⟩ := hs
      rw [List.append_assoc] at h ⊢
      rw [leadingArgument?_eq_some_iff.2 ⟨gap, c, cs, rfl, rfl, hn, hg, hc⟩] at h
      cases h
      exact .argument hn hg hc cs
    . rw [leadingArgument?_eq_none hs] at h
      cases h
      exact .description hs
  . intro h
    cases h with
    | @argument name gap c hn hg hc cs =>
      rw [leadingArgument?_eq_some_iff.2 ⟨gap, c, cs, rfl, rfl, hn, hg, hc⟩]
    | description hs => rw [leadingArgument?_eq_none hs]

/--
The form of a header line from left to right. The line feeds that it may have are blanks in front of
the description.
-/
structure Form (h : Header) (indent gap gap' rest text : Text) : Prop where
  text_eq : text = indent ++ '-' :: h.short :: (gap ++ '-' :: '-' :: (h.long ++ (gap' ++ rest)))
  isAsciiBlank_indent : ∀ c ∈ indent, Text.isAsciiBlank c = true
  isWordChar_short : isWordChar h.short = true
  isGap_gap : IsGap gap
  long_ne_nil : h.long ≠ []
  isLongChar_long : ∀ c ∈ h.long, isLongChar c = true
  isGap_gap' : IsGap gap'
  rest_form : ∃ c cs, rest = c :: cs ∧ Text.isAsciiBlank c = false
  divides : Divides rest h.argument? h.description
  not_mem_description : '\n' ∉ h.description
  drop_column : text.drop h.column = h.description

theorem Divides.ne_nil_iff {rest description : Text} {argument? : Option Text}
    (h : Divides rest argument? description) : description ≠ [] ↔ rest ≠ [] := by
  cases h with
  | argument => simp
  | description => rfl

theorem Divides.isSuffix {rest description : Text} {argument? : Option Text}
    (h : Divides rest argument? description) : description <:+ rest := by
  cases h with
  | @argument name gap c hn hg hc cs => exact ⟨name ++ gap, List.append_assoc name gap (c :: cs)⟩
  | description => exact List.suffix_refl rest

theorem Form.description_ne_nil {h : Header} {indent gap gap' rest text : Text}
    (hf : Form h indent gap gap' rest text) : h.description ≠ [] := by
  obtain ⟨c, cs, hr, -⟩ := hf.rest_form
  rw [hf.divides.ne_nil_iff, hr]
  exact List.cons_ne_nil c cs

theorem Form.column_eq {h : Header} {indent gap gap' rest text : Text}
    (hf : Form h indent gap gap' rest text) : h.column = text.length - h.description.length := by
  have hl := congrArg List.length hf.drop_column
  have hpos := List.length_pos_iff.2 hf.description_ne_nil
  rw [List.length_drop] at hl
  omega

theorem exists_form_of_scan? {text : Text} {h : Header} (h' : scan? text = some h) :
    ∃ indent gap gap' rest, Form h indent gap gap' rest text := by
  simp only [scan?, Option.bind_eq_bind, Option.bind_eq_some_iff, Prod.exists,
    Text.run?_eq_some_iff, List.isPrefixOf?_eq_some_iff_append_eq] at h'
  obtain ⟨t₁, hi, short, hs, gap, t₂, ⟨ht, hg, hgb, -⟩, t₃, rfl, long, t₄, ⟨rfl, hl, hlc, -⟩, gap',
    rest, ⟨rfl, hg', hgb', hr⟩, h'⟩ := h'
  obtain ⟨t₁', rfl⟩ := List.head?_eq_some_iff.1 hs
  rw [List.tail_cons] at ht
  subst ht
  obtain ⟨⟨argument?, description⟩, hd⟩ : ∃ d, divide rest = d := ⟨_, rfl⟩
  rw [hd] at h'
  dsimp only at h'
  split at h'
  . next hc =>
    cases h'
    rw [divide_eq_iff] at hd
    simp only [Bool.and_eq_true, Bool.not_eq_true', List.isEmpty_eq_false_iff] at hc
    obtain ⟨⟨hw, hne⟩, hn⟩ := hc
    obtain ⟨c, cs, rfl⟩ := List.exists_cons_of_ne_nil (hd.ne_nil_iff.1 hne)
    have htext : text = text.takeWhile Text.isAsciiBlank ++ '-' :: short ::
        (gap ++ '-' :: '-' :: (long ++ (gap' ++ c :: cs))) := by
      calc text
          = text.takeWhile Text.isAsciiBlank ++ text.dropWhile Text.isAsciiBlank :=
            List.takeWhile_append_dropWhile.symm
        _ = _ := by
            rw [← hi]
            rfl
    have hsuffix : c :: cs <:+ text := by
      rw [htext]
      exact ⟨text.takeWhile Text.isAsciiBlank ++ '-' :: short ::
        (gap ++ '-' :: '-' :: (long ++ gap')), by simp⟩
    refine ⟨text.takeWhile Text.isAsciiBlank, gap, gap', c :: cs, htext, ?_, hw, ⟨hg, hgb⟩, hl,
      hlc, ⟨hg', hgb'⟩, ⟨c, cs, rfl, hr c rfl⟩, hd, ?_, ?_⟩
    . intro d hd
      exact List.mem_takeWhile_imp hd
    . simpa using hn
    . exact (List.suffix_iff_eq_drop.1 (hd.isSuffix.trans hsuffix)).symm
  . contradiction

theorem Form.scan? {h : Header} {indent gap gap' rest text : Text}
    (hf : Form h indent gap gap' rest text) : scan? text = some h := by
  have hdrop : text.dropWhile Text.isAsciiBlank =
      '-' :: h.short :: (gap ++ '-' :: '-' :: (h.long ++ (gap' ++ rest))) := by
    rw [hf.text_eq, List.dropWhile_append_of_pos hf.isAsciiBlank_indent]
    rw [List.dropWhile_cons_of_neg (by decide)]
  -- Every run ends where the next part starts.
  have hgap : ∀ c ∈ ('-' :: '-' :: (h.long ++ (gap' ++ rest))).head?,
      Text.isAsciiBlank c = false := by
    rintro c ⟨⟩
    rfl
  have hlong : ∀ c ∈ (gap' ++ rest).head?, isLongChar c = false :=
    hf.isGap_gap'.of_head? fun c => isLongChar_of_isAsciiBlank
  have hrest : ∀ c ∈ rest.head?, Text.isAsciiBlank c = false := by
    obtain ⟨d, ds, rfl, hd⟩ := hf.rest_form
    rintro c ⟨⟩
    exact hd
  simp only [Header.scan?, Option.bind_eq_bind, Option.bind_eq_some_iff, Prod.exists,
    Text.run?_eq_some_iff, List.isPrefixOf?_eq_some_iff_append_eq]
  refine ⟨_, hdrop.symm, h.short, rfl, gap, _,
    ⟨rfl, hf.isGap_gap.ne_nil, hf.isGap_gap.isAsciiBlank, hgap⟩, _, rfl, h.long, _,
    ⟨rfl, hf.long_ne_nil, hf.isLongChar_long, hlong⟩, gap', rest,
    ⟨rfl, hf.isGap_gap'.ne_nil, hf.isGap_gap'.isAsciiBlank, hrest⟩, ?_⟩
  rw [divide_eq_iff.2 hf.divides]
  simp [hf.isWordChar_short, hf.not_mem_description, hf.description_ne_nil, ← hf.column_eq]

theorem scan?_eq_some_iff {text : Text} {h : Header} :
    scan? text = some h ↔ ∃ indent gap gap' rest, Form h indent gap gap' rest text := by
  constructor
  . exact exists_form_of_scan?
  . rintro ⟨indent, gap, gap', rest, hf⟩
    exact hf.scan?

namespace Parts

theorem Valid.divides {p : Parts} (h : p.Valid) :
    Divides (p.argumentText ++ p.description) (p.argument?.map Prod.fst) p.description := by
  obtain ⟨c, cs, hd, hc, -⟩ := h.description
  unfold argumentText
  cases ha : p.argument? with
  | none => exact .description (h.unambiguous ha)
  | some a =>
    obtain ⟨hn, hg⟩ := h.argument a.1 a.2 ha
    rw [hd]
    dsimp only
    rw [List.append_assoc]
    exact .argument hn hg hc cs

theorem Valid.form {p : Parts} (h : p.Valid) :
    Form p.header p.indent p.shortGap p.longGap (p.argumentText ++ p.description) p.text where
  text_eq := by simp [text, front, header]
  isAsciiBlank_indent := h.indent
  isWordChar_short := h.short
  isGap_gap := h.shortGap
  long_ne_nil := h.long_ne_nil
  isLongChar_long := h.long
  isGap_gap' := h.longGap
  rest_form := by
    obtain ⟨c, cs, hd, -, -⟩ := h.description
    have hne : p.argumentText ++ p.description ≠ [] := by simp [hd]
    obtain ⟨e, es, he⟩ := List.exists_cons_of_ne_nil hne
    exact ⟨e, es, he, h.isAsciiBlank_head? e (by simp [he])⟩
  divides := h.divides
  not_mem_description := by
    obtain ⟨c, cs, hd, hc, hn⟩ := h.description
    have hne : '\n' ≠ c := by
      rintro rfl
      contradiction
    simp [header, hd, hne, hn]
  drop_column := by simp [text, header]

end Parts

theorem Form.exists_parts {h : Header} {indent gap gap' rest text : Text}
    (hf : Form h indent gap gap' rest text) : ∃ p : Parts, p.Valid ∧ p.text = text ∧ p.header = h := by
  have hcolumn := hf.column_eq
  obtain ⟨rfl, hindent, hshort, hgap, hlong, hlongc, hgap', ⟨c, cs, hr, hc⟩, hd, hn, -⟩ := hf
  obtain ⟨column, short, long, argument?, description⟩ := h
  dsimp only at *
  subst hcolumn
  cases hd with
  | @argument name blanks c hname hblanks hc cs =>
    refine ⟨⟨indent, short, gap, long, gap', some (name, blanks), c :: cs⟩, ?_, ?_, ?_⟩
    . refine ⟨hindent, hshort, hgap, hlong, hlongc, hgap', ?_, ⟨c, cs, rfl, hc, ?_⟩, by simp⟩
      . rintro _ _ ⟨⟩
        exact ⟨hname, hblanks⟩
      . exact fun h => hn (List.mem_cons_of_mem c h)
    . simp [Parts.text, Parts.front, Parts.argumentText]
    . simp [Parts.header, Parts.front, Parts.argumentText]
      omega
  | description hs =>
    subst hr
    refine ⟨⟨indent, short, gap, long, gap', none, c :: cs⟩, ?_, ?_, ?_⟩
    . refine ⟨hindent, hshort, hgap, hlong, hlongc, hgap', by simp, ⟨c, cs, rfl, hc, ?_⟩, fun _ => hs⟩
      exact fun h => hn (List.mem_cons_of_mem c h)
    . simp [Parts.text, Parts.front, Parts.argumentText]
    . simp [Parts.header, Parts.front, Parts.argumentText]
      omega

theorem match?_eq_scan? (text : Text) : pattern.match? text = scan? text := by
  ext h
  rw [scan?_eq_some_iff]
  constructor
  . intro hm
    obtain ⟨p, hp, rfl, rfl⟩ := exists_parts_of_match? hm
    exact ⟨_, _, _, _, hp.form⟩
  . rintro ⟨indent, gap, gap', rest, hf⟩
    obtain ⟨p, hp, rfl, rfl⟩ := hf.exists_parts
    exact match?_text hp

end Header

theorem Line.roleOf_options_eq_header_iff {column? : Option Int} {text : Text} {h : Header} :
    roleOf (.options column?) text = .header h ↔ Header.pattern.match? text = some h := by
  unfold roleOf
  dsimp only
  split
  . next h' hm => simp [hm]
  . next hm =>
    rw [hm]
    split
    . simp
    . split <;> simp

namespace Header

theorem isBlank_eq_false_of_scan? {marker raw text : Text} {h : Header}
    (ht : Line.stripMarker? marker (Line.content raw) = some text) (hs : scan? text = some h) :
    Line.isBlank raw = false := by
  obtain ⟨indent, gap, gap', rest, hf⟩ := scan?_eq_some_iff.1 hs
  have hm : '-' ∈ Line.content raw := by
    have hmem : '-' ∈ text := by simp [hf.text_eq]
    obtain ⟨-, rfl⟩ | hc := Line.stripMarker?_eq_some_iff.1 ht
    . contradiction
    . simp [hc, hmem]
  rw [Line.isBlank, Text.isAllBlank, List.all_eq_false]
  exact ⟨'-', hm, by decide⟩

/--
With the section of the options started, a line is taken for a header exactly if the reader that never
goes back reads one from its text, and that is exactly if the text has the form of one. The form says
what the parts of the header are: the first word behind the long name is an argument exactly if it is
the name of one and is followed by blanks and something else, and the description is all the rest.
-/
theorem classify_reads_header {marker raw text : Text}
    (ht : Line.stripMarker? marker (Line.content raw) = some text) (column? : Option Int)
    (h : Header) :
    (∀ t, Line.classify marker (.options column?) raw = .comment t (.header h) ↔
      t = text ∧ scan? text = some h) ∧
    (scan? text = some h ↔ ∃ indent gap gap' rest, Form h indent gap gap' rest text) := by
  refine ⟨?_, scan?_eq_some_iff⟩
  intro t
  cases hb : Line.isBlank raw with
  | true =>
    rw [Line.classify_of_isBlank hb]
    constructor
    . intro hc
      contradiction
    . rintro ⟨-, hs⟩
      rw [isBlank_eq_false_of_scan? ht hs] at hb
      contradiction
  | false =>
    have hc : Line.commentText? marker raw = some text := by
      rw [Line.commentText?, hb]
      exact ht
    rw [Line.classify_of_commentText?_eq_some hc, Line.comment.injEq, ← match?_eq_scan?]
    rw [Line.roleOf_options_eq_header_iff, eq_comm]

theorem classify_reads_header_tabbed :
    Line.stripMarker? ['#'] (Line.content "#  -s\t--size n\t \u00a0Size ".toList) =
      some " -s\t--size n\t \u00a0Size ".toList ∧
    Line.classify ['#'] (.options none) "#  -s\t--size n\t \u00a0Size ".toList =
      .comment " -s\t--size n\t \u00a0Size ".toList (.header
        ⟨14, 's', "size".toList, some ['n'], "\u00a0Size ".toList⟩) := by
  have ht : Line.stripMarker? ['#'] (Line.content "#  -s\t--size n\t \u00a0Size ".toList) =
      some " -s\t--size n\t \u00a0Size ".toList := by
    decide +kernel
  have hs : scan? " -s\t--size n\t \u00a0Size ".toList =
      some ⟨14, 's', "size".toList, some ['n'], "\u00a0Size ".toList⟩ := by
    decide +kernel
  exact ⟨ht, ((classify_reads_header ht none _).1 _).2 ⟨rfl, hs⟩⟩

end Header

end ScriptManual
