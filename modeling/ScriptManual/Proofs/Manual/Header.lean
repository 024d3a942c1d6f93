import ScriptManual.Manual.Line
import ScriptManual.Proofs.Text.Pattern

/-!
This module contains the parts that a header line is made of. A line that is written from them is read
back into the same parts, whatever its description says.
-/

namespace ScriptManual

namespace Header

theorem isAsciiBlank_of_isAlphanum {c : Char} (h : c.isAlphanum = true) :
    Text.isAsciiBlank c = false := by
  have hs : c ≠ ' ' := by
    rintro rfl
    contradiction
  have hn : 48 ≤ c.toNat := by
    change (decide (c.val ≥ 'A'.val ∧ c.val ≤ 'Z'.val) || (c.val ≥ 'a'.val && c.val ≤ 'z'.val)
      || (c.val ≥ '0'.val && c.val ≤ '9'.val)) = true at h
    simp only [Bool.or_eq_true, Bool.and_eq_true, decide_eq_true_eq, ge_iff_le,
      UInt32.le_iff_toNat_le] at h
    unfold Char.toNat
    rcases h with (h | h) | h
    . exact Nat.le_trans (by decide) h.1
    . exact Nat.le_trans (by decide) h.1
    . exact h.1
  simp [Text.isAsciiBlank, hs]
  omega

theorem isAlphanum_of_isLower {c : Char} (h : c.isLower = true) : c.isAlphanum = true := by
  show (c.isUpper || c.isLower || c.isDigit) = true
  simp [h]

theorem isAsciiBlank_of_isLower {c : Char} (h : c.isLower = true) :
    Text.isAsciiBlank c = false :=
  isAsciiBlank_of_isAlphanum (isAlphanum_of_isLower h)

theorem isWordChar_of_isAsciiBlank {c : Char} (h : Text.isAsciiBlank c = true) :
    isWordChar c = false := by
  rw [Bool.eq_false_iff]
  intro hw
  rw [isWordChar, Bool.or_eq_true, beq_iff_eq] at hw
  obtain hw | rfl := hw
  . rw [isAsciiBlank_of_isAlphanum hw] at h
    contradiction
  . contradiction

theorem isLongChar_of_isAsciiBlank {c : Char} (h : Text.isAsciiBlank c = true) :
    isLongChar c = false := by
  rw [Bool.eq_false_iff]
  intro hl
  rw [isLongChar, Bool.or_eq_true, beq_iff_eq] at hl
  obtain hl | rfl := hl
  . rw [isAsciiBlank_of_isAlphanum hl] at h
    contradiction
  . contradiction

structure IsGap (gap : Text) : Prop where
  ne_nil : gap ≠ []
  isAsciiBlank : ∀ c ∈ gap, Text.isAsciiBlank c = true

theorem IsGap.of_head? {gap rest : Text} (h : IsGap gap) {p : Char → Bool}
    (hp : ∀ c, Text.isAsciiBlank c = true → p c = false) :
    ∀ c ∈ (gap ++ rest).head?, p c = false := by
  obtain ⟨d, ds, rfl⟩ := List.exists_cons_of_ne_nil h.ne_nil
  rintro c ⟨⟩
  exact hp d (h.isAsciiBlank d (by simp))

def IsArgumentName (name : Text) : Prop :=
  ∃ c cs, name = c :: cs ∧ c.isLower = true ∧ ∀ d ∈ cs, isWordChar d = true

/--
Whether the first word of a description would be taken for an argument's name, with the rest as the
description.
-/
def StartsWithArgument (description : Text) : Prop :=
  ∃ name gap c rest, description = name ++ gap ++ c :: rest ∧ IsArgumentName name ∧ IsGap gap
    ∧ Text.isAsciiBlank c = false

structure Parts where
  indent : Text
  short : Char
  shortGap : Text
  long : Text
  longGap : Text
  argument? : Option (Text × Text)
  description : Text

namespace Parts

def argumentText (p : Parts) : Text :=
  match p.argument? with
  | some (name, gap) => name ++ gap
  | none => []

def front (p : Parts) : Text :=
  p.indent ++ '-' :: p.short :: (p.shortGap ++ '-' :: '-' :: (p.long ++ (p.longGap ++ p.argumentText)))

theorem length_front (p : Parts) :
    p.front.length = p.indent.length + 2 + p.shortGap.length + 2 + p.long.length
      + p.longGap.length + p.argumentText.length := by
  simp only [front, List.length_append, List.length_cons]
  omega

def text (p : Parts) : Text := p.front ++ p.description

def header (p : Parts) : Header where
  column := p.front.length
  short := p.short
  long := p.long
  argument? := p.argument?.map Prod.fst
  description := p.description

structure Valid (p : Parts) : Prop where
  indent : ∀ c ∈ p.indent, Text.isAsciiBlank c = true
  short : isWordChar p.short = true
  shortGap : IsGap p.shortGap
  long_ne_nil : p.long ≠ []
  long : ∀ c ∈ p.long, isLongChar c = true
  longGap : IsGap p.longGap
  argument : ∀ name gap, p.argument? = some (name, gap) → IsArgumentName name ∧ IsGap gap
  description : ∃ c cs, p.description = c :: cs ∧ Text.isAsciiBlank c = false ∧ '\n' ∉ cs
  unambiguous : p.argument? = none → ¬ StartsWithArgument p.description

end Parts

theorem head?_ways_argumentPattern {name gap : Text} (hn : IsArgumentName name) (hg : IsGap gap)
    {description : Text} (hd : ∀ c ∈ description.head?, Text.isAsciiBlank c = false) :
    (argumentPattern.ways (name ++ (gap ++ description))).head? =
      some ((⟨name ++ (gap ++ description), name.length⟩, ⟨gap ++ description, gap.length⟩),
        description) := by
  obtain ⟨c, cs, rfl, hc, hcs⟩ := hn
  have hw : ∀ d ∈ (gap ++ description).head?, isWordChar d = false :=
    hg.of_head? fun d => isWordChar_of_isAsciiBlank
  unfold argumentPattern
  refine Pattern.head?_ways_bind (Pattern.head?_ways_runFrom hc hcs hw) ?_
  exact Pattern.head?_ways_bind (Pattern.head?_ways_run1 hg.ne_nil hg.isAsciiBlank hd) rfl

theorem exists_of_mem_ways_argumentPattern {t rest : Text} {pieces : Pattern.Piece × Pattern.Piece}
    (h : (pieces, rest) ∈ argumentPattern.ways t) :
    ∃ name gap, t = name ++ (gap ++ rest) ∧ IsArgumentName name ∧ IsGap gap
      ∧ pieces = (⟨t, name.length⟩, ⟨gap ++ rest, gap.length⟩) := by
  rw [argumentPattern] at h
  simp only [Pattern.mem_ways_bind] at h
  obtain ⟨name, mid, hn, gap, rest', hg, hp⟩ := h
  rw [Pattern.mem_ways_runFrom] at hn
  rw [Pattern.mem_ways_run1] at hg
  simp only [Pattern.ways_pure, List.mem_singleton, Prod.mk.injEq] at hp
  obtain ⟨rfl, rfl⟩ := hp
  obtain ⟨c, cs, rfl, rfl, hc, hcs⟩ := hn
  obtain ⟨gap, rfl, rfl, hne, hb⟩ := hg
  exact ⟨c :: cs, gap, rfl, ⟨c, cs, rfl, hc, hcs⟩, ⟨hne, hb⟩, rfl⟩

theorem Parts.Valid.isAsciiBlank_head? {p : Parts} (h : p.Valid) :
    ∀ c ∈ (p.argumentText ++ p.description).head?, Text.isAsciiBlank c = false := by
  obtain ⟨c, cs, hd, hc, -⟩ := h.description
  unfold argumentText
  cases ha : p.argument? with
  | none =>
    rintro d hm
    rw [hd] at hm
    cases hm
    exact hc
  | some a =>
    obtain ⟨name, gap⟩ := a
    obtain ⟨⟨d, ds, rfl, hl, -⟩, -⟩ := h.argument name gap ha
    rintro e ⟨⟩
    exact isAsciiBlank_of_isLower hl

theorem match?_text {p : Parts} (h : p.Valid) : pattern.match? p.text = some p.header := by
  obtain ⟨c, cs, hd, hc, hn⟩ := h.description
  have hc' : (!Text.isAsciiBlank c) = true := by simp [hc]
  have ht : p.text = p.indent ++ ('-' :: p.short :: (p.shortGap ++ ('-' :: '-' :: (p.long ++
      (p.longGap ++ (p.argumentText ++ p.description)))))) := by
    simp [Parts.text, Parts.front]
  suffices h' : (pattern.ways p.text).head? = some (p.header, []) from Pattern.match?_of_head? h'
  rw [ht]
  unfold pattern
  refine Pattern.head?_ways_bind (Pattern.head?_ways_run h.indent (by simp; decide)) ?_
  refine Pattern.head?_ways_bind (Pattern.head?_ways_literal ['-'] _) ?_
  refine Pattern.head?_ways_bind (Pattern.head?_ways_char h.short _) ?_
  refine Pattern.head?_ways_bind (Pattern.head?_ways_run1 h.shortGap.ne_nil
    h.shortGap.isAsciiBlank (by simp; decide)) ?_
  refine Pattern.head?_ways_bind (Pattern.head?_ways_literal ['-', '-'] _) ?_
  refine Pattern.head?_ways_bind (Pattern.head?_ways_run1 h.long_ne_nil h.long
    (h.longGap.of_head? fun c => isLongChar_of_isAsciiBlank)) ?_
  refine Pattern.head?_ways_bind (Pattern.head?_ways_run1 h.longGap.ne_nil
    h.longGap.isAsciiBlank h.isAsciiBlank_head?) ?_
  cases ha : p.argument? with
  | some a =>
    obtain ⟨name, gap⟩ := a
    obtain ⟨hname, hgap⟩ := h.argument name gap ha
    have hblank : ∀ e ∈ p.description.head?, Text.isAsciiBlank e = false := by
      rw [hd]
      rintro e ⟨⟩
      exact hc
    have htext : p.argumentText = name ++ gap := by rw [Parts.argumentText, ha]
    rw [htext, List.append_assoc]
    refine Pattern.head?_ways_bind
      (Pattern.head?_ways_optional (head?_ways_argumentPattern hname hgap hblank)) ?_
    rw [hd]
    refine Pattern.head?_ways_bind (Pattern.head?_ways_char hc' cs) ?_
    refine Pattern.head?_ways_bind (Pattern.head?_ways_restOfLine hn) ?_
    simp [Parts.header, Parts.length_front, htext, ha, hd]
  | none =>
    have htext : p.argumentText = [] := by rw [Parts.argumentText, ha]
    rw [htext, List.nil_append, Pattern.ways_optional_bind_of_nil, hd]
    . refine Pattern.head?_ways_bind (Pattern.head?_ways_char hc' cs) ?_
      refine Pattern.head?_ways_bind (Pattern.head?_ways_restOfLine hn) ?_
      simp [Parts.header, Parts.length_front, htext, ha, hd]
    . -- A way on after a word and blanks would make that word an argument.
      intro a mid hm
      obtain ⟨name, gap, hdesc, hname, hgap, -⟩ := exists_of_mem_ways_argumentPattern hm
      rw [Pattern.ways_bind]
      cases mid with
      | nil => rfl
      | cons e es =>
        rw [Pattern.ways_char_cons, if_neg]
        . rfl
        . intro he
          apply h.unambiguous ha
          exact ⟨name, gap, e, es, by rw [hdesc, List.append_assoc], hname, hgap, by simpa using he⟩

/--
Whether parts have the form that the pattern asks for. An argument may be missing where the
description starts with one.
-/
structure Parts.Formed (p : Parts) : Prop where
  indent : ∀ c ∈ p.indent, Text.isAsciiBlank c = true
  short : isWordChar p.short = true
  shortGap : IsGap p.shortGap
  long_ne_nil : p.long ≠ []
  long : ∀ c ∈ p.long, isLongChar c = true
  longGap : IsGap p.longGap
  argument : ∀ name gap, p.argument? = some (name, gap) → IsArgumentName name ∧ IsGap gap
  description : ∃ c cs, p.description = c :: cs ∧ Text.isAsciiBlank c = false ∧ '\n' ∉ cs

theorem Parts.Formed.valid {p : Parts} (h : p.Formed)
    (hu : p.argument? = none → ¬ StartsWithArgument p.description) : p.Valid :=
  ⟨h.indent, h.short, h.shortGap, h.long_ne_nil, h.long, h.longGap, h.argument, h.description, hu⟩

theorem exists_formed_of_mem_ways {text rest : Text} {h : Header}
    (hw : (h, rest) ∈ pattern.ways text) : ∃ p : Parts, p.Formed ∧ p.text = text ∧ p.header = h := by
  unfold pattern at hw
  simp only [Pattern.mem_ways_bind, Pattern.mem_ways_run, Pattern.mem_ways_literal,
    Pattern.mem_ways_char, Pattern.mem_ways_run1, Pattern.mem_ways_optional,
    Pattern.mem_ways_restOfLine, Pattern.ways_pure, List.mem_singleton, Prod.mk.injEq] at hw
  obtain ⟨_, t₁, ⟨indent, h₁, hp₁, hindent⟩, _, t₂, h₂, short, t₃, ⟨h₃, hshort⟩, _, t₄,
    ⟨gap, h₄, hp₄, hgap, hgapb⟩, _, t₅, h₅, _, t₆, ⟨long, h₆, hp₆, hlong, hlongc⟩, _, t₇,
    ⟨gap', h₇, hp₇, hgap', hgapb'⟩, argument?, t₈, hargument, first, t₉, ⟨h₉, hfirst⟩, line, _,
    ⟨hl, hr, hline⟩, hh, hr'⟩ := hw
  subst h₁ hp₁ h₂ h₃ h₄ hp₄ h₅ h₆ hp₆ h₇ hp₇ h₉ hl hr hh hr'
  have hdescription : ∃ c cs, first :: line = c :: cs ∧ Text.isAsciiBlank c = false ∧ '\n' ∉ cs :=
    ⟨first, line, rfl, by simpa using hfirst, hline⟩
  have hformed (argument? : Option (Text × Text))
      (ha : ∀ name blanks, argument? = some (name, blanks) → IsArgumentName name ∧ IsGap blanks) :
      (Parts.mk indent short gap long gap' argument? (first :: line)).Formed :=
    ⟨hindent, hshort, ⟨hgap, hgapb⟩, hlong, hlongc, ⟨hgap', hgapb'⟩, ha, hdescription⟩
  obtain ⟨pieces, rfl, hways⟩ | ⟨rfl, rfl⟩ := hargument
  . obtain ⟨name, blanks, rfl, hname, hblanks, rfl⟩ := exists_of_mem_ways_argumentPattern hways
    refine ⟨_, hformed (some (name, blanks)) ?_, ?_, ?_⟩
    . rintro _ _ ⟨⟩
      exact ⟨hname, hblanks⟩
    . simp [Parts.text, Parts.front, Parts.argumentText]
    . simp [Parts.header, Parts.length_front, Parts.argumentText]
  . refine ⟨_, hformed none (by simp), ?_, ?_⟩
    . simp [Parts.text, Parts.front, Parts.argumentText]
    . simp [Parts.header, Parts.length_front, Parts.argumentText]

theorem Parts.Formed.exists_argument {p : Parts} (h : p.Formed) (ha : p.argument? = none)
    (hs : StartsWithArgument p.description) :
    ∃ q : Parts, q.Valid ∧ q.text = p.text ∧ q.argument? ≠ none := by
  obtain ⟨name, gap, c, cs, hd, hname, hgap, hc⟩ := hs
  have hn : '\n' ∉ cs := by
    obtain ⟨e, es, he, -, hes⟩ := h.description
    obtain ⟨d, ds, rfl, -, -⟩ := hname
    rw [hd] at he
    cases he
    simp_all
  refine ⟨{ p with argument? := some (name, gap), description := c :: cs }, ?_, ?_, by simp⟩
  . refine ⟨h.indent, h.short, h.shortGap, h.long_ne_nil, h.long, h.longGap, ?_,
      ⟨c, cs, rfl, hc, hn⟩, by simp⟩
    rintro _ _ ⟨⟩
    exact ⟨hname, hgap⟩
  . simp [Parts.text, Parts.front, Parts.argumentText, ha, hd]

theorem exists_parts_of_match? {text : Text} {h : Header} (hm : pattern.match? text = some h) :
    ∃ p : Parts, p.Valid ∧ p.text = text ∧ p.header = h := by
  obtain ⟨rest, hw⟩ := Pattern.exists_mem_ways_of_match? hm
  obtain ⟨p, hp, rfl, rfl⟩ := exists_formed_of_mem_ways hw
  refine ⟨p, hp.valid ?_, rfl, rfl⟩
  intro ha hs
  -- The way that has the argument is preferred, so this one is not the match.
  obtain ⟨q, hq, ht, hne⟩ := hp.exists_argument ha hs
  have hmatch := match?_text hq
  rw [ht, hm] at hmatch
  have hargument : p.argument?.map Prod.fst = q.argument?.map Prod.fst :=
    congrArg Header.argument? (Option.some.inj hmatch)
  rw [ha, Option.map_none, eq_comm, Option.map_eq_none_iff] at hargument
  exact hne hargument

theorem match?_eq_none {indent : Text} (hi : ∀ c ∈ indent, Text.isAsciiBlank c = true) {c : Char}
    (hc : Text.isAsciiBlank c = false) (hne : c ≠ '-') (rest : Text) :
    pattern.match? (indent ++ c :: rest) = none := by
  cases hm : pattern.match? (indent ++ c :: rest) with
  | none => rfl
  | some h =>
    obtain ⟨rest', hw⟩ := Pattern.exists_mem_ways_of_match? hm
    unfold pattern at hw
    simp only [Pattern.mem_ways_bind] at hw
    obtain ⟨_, mid, hrun, _, mid', hlit, -⟩ := hw
    obtain ⟨indent', ht, -, hi'⟩ := Pattern.mem_ways_run.1 hrun
    rw [Pattern.mem_ways_literal] at hlit
    -- Both sides have their first character that is not blank at the same place.
    have hd := congrArg (List.dropWhile Text.isAsciiBlank) ht
    rw [List.dropWhile_append_of_pos hi, List.dropWhile_append_of_pos hi', hlit] at hd
    rw [List.dropWhile_cons_of_neg (by simp [hc]), List.singleton_append] at hd
    rw [List.dropWhile_cons_of_neg (by decide), List.cons.injEq] at hd
    exact absurd hd.1 hne

end Header

end ScriptManual
