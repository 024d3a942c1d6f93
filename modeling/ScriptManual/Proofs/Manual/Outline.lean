import ScriptManual.Proofs.Manual.Leading

/-!
This module contains the outline of a script's comments: what they declare, read off the whole list
of their texts at once. Extracting a manual line by line comes to the same.
-/

namespace ScriptManual

namespace Line

theorem classify_of_isBlank {raw : Text} (h : isBlank raw = true) (marker : Text) (scope : Scope) :
    classify marker scope raw = .blank := by
  unfold isBlank content at h
  simp [classify, h]

theorem classify_of_commentText?_eq_none {marker raw : Text} (hb : isBlank raw = false)
    (h : commentText? marker raw = none) (scope : Scope) : classify marker scope raw = .code := by
  unfold commentText? at h
  rw [hb] at h
  unfold isBlank content at hb
  unfold content at h
  simp only [Bool.false_eq_true, if_false] at h
  simp [classify, hb, h]

theorem classify_of_commentText?_eq_some {marker raw text : Text}
    (h : commentText? marker raw = some text) (scope : Scope) :
    classify marker scope raw = .comment text (roleOf scope text) := by
  unfold commentText? isBlank content at h
  split at h
  . contradiction
  . next hb =>
    simp only [classify, hb, h]
    rfl

theorem isBlank_of_commentText? {marker raw text : Text} (h : commentText? marker raw = some text) :
    isBlank raw = false := by
  unfold commentText? at h
  split at h
  . simp at h
  . next hb => simpa using hb

end Line

namespace Outline

def headerOf? (text : Text) : Option Header :=
  Header.pattern.match? text

def section? : List Text → Option (List Text)
  | [] => none
  | text :: texts => if Line.isSectionStart text then some texts else section? texts

def headers (texts : List Text) : List Header :=
  texts.filterMap headerOf?

def leading (texts : List Text) : List Text :=
  texts.takeWhile fun t => (headerOf? t).isNone

def blocks : List Text → List (Header × List Text)
  | [] => []
  | text :: texts =>
    match headerOf? text with
    | none => blocks texts
    | some h => (h, leading texts) :: blocks texts

def addedLine? (column : Nat) (text : Text) : Option Text :=
  if (headerOf? text).isNone ∧ (Line.defaultValue? text).isNone
      ∧ text.take column = List.replicate column ' ' then
    some (text.drop column)
  else
    none

def initialValue? (text : Text) : Option Text :=
  if (headerOf? text).isNone then Line.defaultValue? text else none

def option : Header × List Text → OptionSpec
  | (h, below) =>
    {
      short := [h.short]
      long := h.long
      argument? := h.argument?
      description := h.description ++ (below.filterMap (addedLine? h.column)).flatMap ('\n' :: ·)
      value? := (below.filterMap initialValue?).getLast?
    }

def firstRepeated? (shorts : List Char) : Option Char :=
  (shorts.zipIdx.find? fun (c, i) => c ∈ shorts.take i).map Prod.fst

def ofTexts (texts : List Text) : Except ExtractError Extraction :=
  match section? texts with
  | none => .error (.missingSection texts)
  | some rest =>
    match firstRepeated? ((headers rest).map Header.short) with
    | some short => .error (.duplicateShort short)
    | none => .ok ⟨texts, (blocks rest).map option⟩

@[simp]
theorem headers_nil : headers [] = [] := rfl

theorem headers_cons_of_none {text : Text} (h : headerOf? text = none) (texts : List Text) :
    headers (text :: texts) = headers texts :=
  List.filterMap_cons_none h

theorem headers_cons_of_some {text : Text} {h : Header} (hh : headerOf? text = some h)
    (texts : List Text) : headers (text :: texts) = h :: headers texts :=
  List.filterMap_cons_some hh

theorem map_fst_blocks (texts : List Text) : (blocks texts).map Prod.fst = headers texts := by
  induction texts with
  | nil => rfl
  | cons text texts ih =>
    cases hh : headerOf? text with
    | none => rw [headers_cons_of_none hh, ← ih, blocks, hh]
    | some h =>
      rw [headers_cons_of_some hh, ← ih, blocks, hh]
      rfl

theorem blocks_getElem?_of_some {text : Text} {h : Header} (hh : headerOf? text = some h)
    (above below : List Text) :
    (blocks (above ++ text :: below))[(headers above).length]? = some (h, leading below) := by
  induction above with
  | nil =>
    rw [List.nil_append, blocks, hh]
    rfl
  | cons t ts ih =>
    rw [List.cons_append, blocks]
    cases ht : headerOf? t with
    | none =>
      rw [headers_cons_of_none ht]
      exact ih
    | some h' =>
      rw [headers_cons_of_some ht, List.length_cons]
      exact ih

theorem addedLine?_eq_continuation? {text : Text} (hh : headerOf? text = none)
    (hd : Line.defaultValue? text = none) (column : Nat) :
    addedLine? column text = Line.continuation? column text := by
  have hc : Line.continuation? column text = Line.afterSpaces? column text := rfl
  unfold addedLine?
  rw [hc, hh, hd]
  simp only [Option.isNone_none, true_and]
  split
  . next h =>
    symm
    rw [Line.afterSpaces?_eq_some_iff, ← h, List.take_append_drop]
  . next h =>
    cases ha : Line.afterSpaces? column text with
    | none => rfl
    | some rest =>
      rw [Line.afterSpaces?_eq_some_iff] at ha
      exfalso
      apply h
      rw [ha, List.take_left' (by simp)]

def firstRepeatedAfter? (seen shorts : List Char) : Option Char :=
  ((shorts.zipIdx seen.length).find? fun (c, i) => c ∈ (seen ++ shorts).take i).map Prod.fst

theorem firstRepeatedAfter?_nil_left (shorts : List Char) :
    firstRepeatedAfter? [] shorts = firstRepeated? shorts := rfl

theorem firstRepeatedAfter?_nil (seen : List Char) : firstRepeatedAfter? seen [] = none := rfl

theorem firstRepeatedAfter?_cons (seen shorts : List Char) (c : Char) :
    firstRepeatedAfter? seen (c :: shorts) =
      if c ∈ seen then some c else firstRepeatedAfter? (seen ++ [c]) shorts := by
  unfold firstRepeatedAfter?
  rw [List.zipIdx_cons, List.find?_cons]
  simp only [List.take_left, List.append_assoc, List.singleton_append, List.length_append,
    List.length_singleton]
  by_cases hc : c ∈ seen
  . simp [hc]
  . simp [hc]

theorem nodup_of_firstRepeatedAfter? {seen shorts : List Char} (hs : seen.Nodup)
    (h : firstRepeatedAfter? seen shorts = none) : (seen ++ shorts).Nodup := by
  induction shorts generalizing seen with
  | nil => simpa using hs
  | cons c cs ih =>
    rw [firstRepeatedAfter?_cons] at h
    split at h
    . contradiction
    . next hc =>
      have hn : (seen ++ [c]).Nodup := by
        rw [List.nodup_append]
        refine ⟨hs, by simp, ?_⟩
        rintro a ha b hb rfl
        simp only [List.mem_singleton] at hb
        exact hc (hb ▸ ha)
      simpa using ih hn h

end Outline

namespace Entry

def extend (below : List Text) (e : Entry) : Entry :=
  { e with
    spec.description := e.spec.description
      ++ (below.filterMap (Outline.addedLine? e.column)).flatMap ('\n' :: ·)
    spec.value? := (below.filterMap Outline.initialValue?).getLast?.or e.spec.value? }

@[simp]
theorem extend_nil (e : Entry) : e.extend [] = e := by
  simp [extend]

@[simp]
theorem short_extend (below : List Text) (e : Entry) :
    (e.extend below).spec.short = e.spec.short := rfl

theorem extend_extend (above below : List Text) (e : Entry) :
    (e.extend above).extend below = e.extend (above ++ below) := by
  simp [extend, List.getLast?_append, Option.or_assoc]

theorem spec_extend_ofHeader (h : Header) (below : List Text) :
    ((ofHeader h).extend below).spec = Outline.option (h, below) := by
  simp [extend, ofHeader, Outline.option]

end Entry

namespace Reading

def readAll (r : Reading) : List Text → Except ExtractError Extraction
  | [] => r.finish
  | text :: texts => do (← r.addComment text (Line.roleOf r.scope text)).readAll texts

theorem helpLines_of_addComment {r r' : Reading} {text : Text} {role : Role}
    (h : r.addComment text role = .ok r') : r'.helpLines = text :: r.helpLines := by
  cases role with
  | header _ =>
    simp only [addComment] at h
    split at h
    . contradiction
    . cases h
      rfl
  | _ =>
    cases h
    rfl

theorem addComment_of_header (help : List Text) (entries : List Entry) {text : Text} {h : Header}
    (hh : Outline.headerOf? text = some h) :
    (⟨help, some entries⟩ : Reading).addComment text
        (Line.roleOf (⟨help, some entries⟩ : Reading).scope text)
      =
    if entries.any fun e => e.spec.short == [h.short] then
      .error (.duplicateShort h.short)
    else
      .ok ⟨text :: help, some (.ofHeader h :: entries)⟩ := by
  unfold Outline.headerOf? at hh
  simp [scope, Line.roleOf, hh, addComment]

theorem addComment_of_not_header (help : List Text) (entries : List Entry) {text : Text}
    (hh : Outline.headerOf? text = none) :
    (⟨help, some entries⟩ : Reading).addComment text
        (Line.roleOf (⟨help, some entries⟩ : Reading).scope text)
      =
    .ok ⟨text :: help, some (entries.modifyHead (Entry.extend [text]))⟩ := by
  have hp : Header.pattern.match? text = none := hh
  -- Only the option declared last changes. In front of the first header there is none.
  cases hd : Line.defaultValue? text with
  | some value =>
    have hr : Line.roleOf (⟨help, some entries⟩ : Reading).scope text = .default value := by
      simp [scope, Line.roleOf, hp, hd]
    rw [hr]
    cases entries with
    | nil => rfl
    | cons e es =>
      simp [addComment, modifyLast, Entry.setValue, Entry.extend, Outline.addedLine?,
        Outline.initialValue?, hh, hd]
  | none =>
    cases entries with
    | nil => simp [scope, Line.roleOf, hp, hd, addComment]
    | cons e es =>
      have ha := Outline.addedLine?_eq_continuation? hh hd e.column
      cases hc : Line.continuation? e.column text with
      | none =>
        simp [scope, Line.roleOf, hp, hd, hc, addComment, Entry.extend, Outline.initialValue?, hh,
          ha]
      | some rest =>
        simp [scope, Line.roleOf, hp, hd, hc, addComment, modifyLast, Entry.addLine, Entry.extend,
          Outline.initialValue?, hh, ha]

theorem readAll_section (help : List Text) (entries : List Entry) (shorts : List Char)
    (hs : entries.reverse.map (·.spec.short) = shorts.map fun c => [c]) (texts : List Text) :
    (⟨help, some entries⟩ : Reading).readAll texts =
      match Outline.firstRepeatedAfter? shorts ((Outline.headers texts).map Header.short) with
      | some short => .error (.duplicateShort short)
      | none =>
        .ok ⟨help.reverse ++ texts,
          ((entries.modifyHead (Entry.extend (Outline.leading texts))).map Entry.spec).reverse
            ++ (Outline.blocks texts).map Outline.option⟩ := by
  -- The texts in front of the next header still belong to the last of the options declared so far.
  induction texts generalizing help entries shorts with
  | nil =>
    have he : entries.modifyHead (Entry.extend (Outline.leading [])) = entries := by
      cases entries <;> simp [Outline.leading]
    simp [readAll, finish, Outline.blocks, Outline.firstRepeatedAfter?_nil, he]
  | cons text texts ih =>
    rw [readAll]
    cases hh : Outline.headerOf? text with
    | some h =>
      have hmem : (entries.any fun e => e.spec.short == [h.short]) = decide (h.short ∈ shorts) := by
        have hm : [h.short] ∈ entries.reverse.map (·.spec.short) ↔ h.short ∈ shorts := by
          rw [hs]
          simp
        rw [Bool.eq_iff_iff, decide_eq_true_iff, ← hm]
        simp
      rw [addComment_of_header help entries hh, hmem]
      rw [Outline.headers_cons_of_some hh, List.map_cons, Outline.firstRepeatedAfter?_cons]
      by_cases hc : h.short ∈ shorts
      . simp only [hc, decide_true, if_true]
        rfl
      . have hs' : (Entry.ofHeader h :: entries).reverse.map (·.spec.short)
            = (shorts ++ [h.short]).map fun c => [c] := by
          simp [hs, Entry.ofHeader]
        have hl : Outline.leading (text :: texts) = [] := by
          simp [Outline.leading, hh]
        have he : entries.modifyHead (Entry.extend []) = entries := by
          cases entries <;> simp
        simp only [hc, decide_false, Bool.false_eq_true, if_false, hl, he]
        refine Eq.trans (ih (text :: help) _ _ hs') ?_
        simp [Entry.spec_extend_ofHeader, Outline.blocks, hh]
    | none =>
      rw [addComment_of_not_header help entries hh]
      have hs' : (entries.modifyHead (Entry.extend [text])).reverse.map (·.spec.short)
          = shorts.map fun c => [c] := by
        rw [← hs]
        cases entries <;> simp
      have hl : Outline.leading (text :: texts) = text :: Outline.leading texts := by
        simp [Outline.leading, hh]
      have he : (entries.modifyHead (Entry.extend [text])).modifyHead
            (Entry.extend (Outline.leading texts))
          = entries.modifyHead (Entry.extend (Outline.leading (text :: texts))) := by
        cases entries <;> simp [Entry.extend_extend, hl]
      refine Eq.trans (ih (text :: help) _ _ hs') ?_
      simp [Outline.headers_cons_of_none hh, Outline.blocks, hh, he]

theorem readAll_prose (help texts : List Text) :
    (⟨help, none⟩ : Reading).readAll texts =
      match Outline.section? texts with
      | none => .error (.missingSection (help.reverse ++ texts))
      | some rest =>
        match Outline.firstRepeated? ((Outline.headers rest).map Header.short) with
        | some short => .error (.duplicateShort short)
        | none => .ok ⟨help.reverse ++ texts, (Outline.blocks rest).map Outline.option⟩ := by
  induction texts generalizing help with
  | nil => simp [readAll, finish, Outline.section?]
  | cons text texts ih =>
    rw [readAll]
    cases hs : Line.isSectionStart text with
    | true =>
      have ha : (⟨help, none⟩ : Reading).addComment text
          (Line.roleOf (⟨help, none⟩ : Reading).scope text) = .ok ⟨text :: help, some []⟩ := by
        simp [scope, Line.roleOf, hs, addComment]
      rw [ha]
      refine Eq.trans (readAll_section (text :: help) [] [] rfl texts) ?_
      simp [Outline.section?, hs, Outline.firstRepeatedAfter?_nil_left]
    | false =>
      have ha : (⟨help, none⟩ : Reading).addComment text
          (Line.roleOf (⟨help, none⟩ : Reading).scope text) = .ok ⟨text :: help, none⟩ := by
        simp [scope, Line.roleOf, hs, addComment]
      rw [ha]
      refine Eq.trans (ih (text :: help)) ?_
      simp [Outline.section?, hs]

end Reading

namespace extract

theorem go_eq_readAll (marker : Text) (r : Reading) (hr : r.helpLines ≠ []) (lines : List Text) :
    go marker r lines =
      r.readAll ((lines.takeWhile fun l => !Line.isBlank l).filterMap (Line.commentText? marker)) := by
  induction lines generalizing r with
  | nil => rfl
  | cons line lines ih =>
    unfold go
    cases hb : Line.isBlank line with
    | true => simp [Line.classify_of_isBlank hb, hr, hb, Reading.readAll]
    | false =>
      rw [List.takeWhile_cons_of_pos (by simp [hb])]
      cases ht : Line.commentText? marker line with
      | none =>
        rw [Line.classify_of_commentText?_eq_none hb ht, List.filterMap_cons_none ht]
        exact ih r hr
      | some text =>
        rw [Line.classify_of_commentText?_eq_some ht, List.filterMap_cons_some ht, Reading.readAll]
        dsimp only
        cases ha : r.addComment text (Line.roleOf r.scope text) with
        | error e => rfl
        | ok r' =>
          apply ih
          simp [Reading.helpLines_of_addComment ha]

theorem go_eq_readAll_helpTexts (marker : Text) (r : Reading) (hr : r.helpLines = [])
    (lines : List Text) : go marker r lines = r.readAll (helpTexts marker lines) := by
  unfold helpTexts
  induction lines with
  | nil => rfl
  | cons line lines ih =>
    rw [go]
    cases ht : Line.commentText? marker line with
    | none =>
      -- A line in front of the first comment says nothing, blank or not.
      rw [List.dropWhile_cons_of_pos (by simp [ht]), ← ih]
      cases hb : Line.isBlank line with
      | true => simp [Line.classify_of_isBlank hb, hr]
      | false => simp [Line.classify_of_commentText?_eq_none hb ht]
    | some text =>
      have hb := Line.isBlank_of_commentText? ht
      rw [List.dropWhile_cons_of_neg (by simp [ht]), List.takeWhile_cons_of_pos (by simp [hb])]
      rw [Line.classify_of_commentText?_eq_some ht, List.filterMap_cons_some ht, Reading.readAll]
      dsimp only
      cases ha : r.addComment text (Line.roleOf r.scope text) with
      | error e => rfl
      | ok r' =>
        apply go_eq_readAll
        simp [Reading.helpLines_of_addComment ha]

end extract

theorem extract_eq_ofTexts (marker : Text) (lines : List Text) :
    extract marker lines = Outline.ofTexts (helpTexts marker lines) := by
  unfold extract
  rw [extract.go_eq_readAll_helpTexts marker .empty rfl]
  unfold Reading.empty Outline.ofTexts
  rw [Reading.readAll_prose]
  rfl

/--
What a script comes to is read off the texts of its comments without going through them: whether
there is a section of options, whether a short name is there twice, and otherwise, for every header
and the texts up to the next one, the option that they declare.
-/
theorem extract_reads_outline (marker : Text) (lines : List Text) :
    let texts := (leadingComments marker lines).map (Line.commentBody marker)
    match Outline.section? texts with
    | none => extract marker lines = .error (.missingSection texts)
    | some rest =>
      match Outline.firstRepeated? ((Outline.headers rest).map Header.short) with
      | some short => extract marker lines = .error (.duplicateShort short)
      | none =>
        ∃ x, extract marker lines = .ok x ∧
          x.manual.help = Text.unlines texts ∧
          x.manual.options.length = (Outline.headers rest).length ∧
          ∀ above text below h, rest = above ++ text :: below → Outline.headerOf? text = some h →
            x.manual.options[(Outline.headers above).length]? = some
              {
                short := [h.short]
                long := h.long
                argument? := h.argument?
                description := h.description
                  ++ ((Outline.leading below).filterMap (Outline.addedLine? h.column)).flatMap
                    ('\n' :: ·)
                value? := ((Outline.leading below).filterMap Outline.initialValue?).getLast?
              } := by
  intro texts
  rw [extract_eq_ofTexts, helpTexts_eq_map_commentBody]
  change match Outline.section? texts with
    | none => Outline.ofTexts texts = _
    | some rest => _
  unfold Outline.ofTexts
  cases Outline.section? texts with
  | none => rfl
  | some rest =>
    dsimp only
    cases Outline.firstRepeated? ((Outline.headers rest).map Header.short) with
    | some short => rfl
    | none =>
      refine ⟨_, rfl, rfl, ?_, ?_⟩
      . show ((Outline.blocks rest).map Outline.option).length = _
        rw [← Outline.map_fst_blocks, List.length_map, List.length_map]
      . rintro above text below h rfl hh
        show ((Outline.blocks (above ++ text :: below)).map Outline.option)[_]? = _
        rw [List.getElem?_map, Outline.blocks_getElem?_of_some hh]
        rfl

end ScriptManual
