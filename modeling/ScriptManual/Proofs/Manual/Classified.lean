import ScriptManual.Proofs.Manual.Outline

/-!
This module contains what the lines of a script are classified as while its manual is extracted, each
by what is known in front of it, and where among them the section of the options starts.
-/

namespace ScriptManual

namespace Line

def text? : Line → Option Text
  | .comment text _ => some text
  | _ => none

def startsSection : Line → Bool
  | .comment _ .sectionStart => true
  | _ => false

def IsProse (l : Line) : Prop :=
  ∀ text role, l = .comment text role → role = .prose ∧ isSectionStart text = false

theorem isProse_blank : IsProse .blank := by
  simp [IsProse]

theorem isProse_code : IsProse .code := by
  simp [IsProse]

theorem isProse_comment {text : Text} (h : isSectionStart text = false) :
    IsProse (.comment text .prose) := by
  rintro _ _ ⟨⟩
  exact ⟨rfl, h⟩

theorem IsProse.startsSection {l : Line} (h : l.IsProse) : l.startsSection = false := by
  cases l with
  | comment text role =>
    obtain ⟨rfl, -⟩ := h text role rfl
    rfl
  | _ => rfl

theorem IsProse.isSectionStart {l : Line} (h : l.IsProse) {text : Text} (ht : l.text? = some text) :
    isSectionStart text = false := by
  cases l with
  | comment text' role =>
    cases ht
    exact (h _ role rfl).2
  | _ => contradiction

end Line

/--
What lines are classified as one after the other, up to the end of the manual or to a comment that is
an error.
-/
def classified (marker : Text) (r : Reading) : List Text → List Line
  | [] => []
  | line :: lines =>
    match Line.classify marker r.scope line with
    | .blank => .blank :: if r.helpLines.isEmpty then classified marker r lines else []
    | .code => .code :: classified marker r lines
    | .comment text role =>
      .comment text role ::
        match r.addComment text role with
        | .error _ => []
        | .ok r => classified marker r lines

namespace Reading

def addLines (r : Reading) : List Line → Except ExtractError Extraction
  | [] => r.finish
  | .comment text role :: ls => do (← r.addComment text role).addLines ls
  | _ :: ls => r.addLines ls

theorem helpLines_of_addLines {r : Reading} {ls : List Line} {x : Extraction}
    (h : r.addLines ls = .ok x) : x.helpLines = r.helpLines.reverse ++ ls.filterMap Line.text? := by
  induction ls generalizing r with
  | nil =>
    unfold addLines finish at h
    split at h
    . contradiction
    . cases h
      simp
  | cons l ls ih =>
    cases l with
    | comment text role =>
      rw [addLines] at h
      cases ha : r.addComment text role with
      | error e =>
        rw [ha] at h
        contradiction
      | ok r' =>
        rw [ha] at h
        rw [ih h, helpLines_of_addComment ha]
        simp [Line.text?]
    | blank => exact ih h
    | code => exact ih h

theorem addLines_of_forall_isProse {r : Reading} (hr : r.entries? = none) {ls : List Line}
    (h : ∀ l ∈ ls, l.IsProse) :
    r.addLines ls = .error (.missingSection (r.helpLines.reverse ++ ls.filterMap Line.text?)) := by
  induction ls generalizing r with
  | nil => simp [addLines, finish, hr]
  | cons l ls ih =>
    have hls : ∀ l ∈ ls, l.IsProse := fun l' hl => h l' (by simp [hl])
    cases l with
    | comment text role =>
      obtain ⟨rfl, -⟩ := h _ (by simp) text role rfl
      have ha : r.addComment text .prose = .ok { r with helpLines := text :: r.helpLines } := rfl
      have hadded := ih (r := { r with helpLines := text :: r.helpLines }) hr hls
      rw [addLines, ha]
      refine Eq.trans hadded ?_
      simp [Line.text?]
    | blank => exact ih hr hls
    | code => exact ih hr hls

end Reading

theorem extract.go_eq_addLines (marker : Text) (r : Reading) (lines : List Text) :
    go marker r lines = r.addLines (classified marker r lines) := by
  induction lines generalizing r with
  | nil => rfl
  | cons line lines ih =>
    rw [go, classified]
    cases Line.classify marker r.scope line with
    | blank =>
      dsimp only
      split
      . exact ih r
      . rfl
    | code => exact ih r
    | comment text role =>
      dsimp only
      rw [Reading.addLines]
      cases r.addComment text role with
      | error e => rfl
      | ok r' => exact ih r'

theorem classify_of_prose (marker line : Text) :
    (Line.classify marker .prose line).IsProse ∨
      ∃ start, Line.classify marker .prose line = .comment start .sectionStart ∧
        Line.isSectionStart start = true := by
  unfold Line.classify
  dsimp only
  split
  . exact .inl Line.isProse_blank
  . split
    . exact .inl Line.isProse_code
    . next text _ =>
      unfold Line.roleOf
      cases hs : Line.isSectionStart text with
      | false => exact .inl (Line.isProse_comment hs)
      | true => exact .inr ⟨text, rfl, hs⟩

/--
As long as the section of the options has not started, lines are classified by their texts alone, and
the first text that can start it does.
-/
theorem classified_of_prose (marker : Text) {r : Reading} (hr : r.entries? = none)
    (lines : List Text) :
    ∃ above rest, classified marker r lines = above ++ rest ∧ (∀ l ∈ above, l.IsProse) ∧
      (rest = [] ∨ ∃ start below, rest = .comment start .sectionStart :: below ∧
        Line.isSectionStart start = true) := by
  induction lines generalizing r with
  | nil => exact ⟨[], [], rfl, by simp, .inl rfl⟩
  | cons line lines ih =>
    have hscope : r.scope = .prose := by
      rw [Reading.scope, hr]
    rw [classified, hscope]
    have hclass := classify_of_prose marker line
    cases hl : Line.classify marker .prose line with
    | blank =>
      dsimp only
      -- A blank line is skipped at the top and ends the manual below.
      split
      . obtain ⟨above, rest, he, ha, hrest⟩ := ih hr
        exact ⟨.blank :: above, rest, by rw [he]; rfl, by simpa [Line.isProse_blank] using ha, hrest⟩
      . exact ⟨[.blank], [], rfl, by simp [Line.isProse_blank], .inl rfl⟩
    | code =>
      obtain ⟨above, rest, he, ha, hrest⟩ := ih hr
      exact ⟨.code :: above, rest, by simp [he], by simpa [Line.isProse_code] using ha, hrest⟩
    | comment text role =>
      rw [hl] at hclass
      obtain hp | ⟨start, hstart, hs⟩ := hclass
      . obtain ⟨rfl, ht⟩ := hp text role rfl
        obtain ⟨above, rest, he, ha, hrest⟩ :=
          ih (r := { r with helpLines := text :: r.helpLines }) hr
        refine ⟨.comment text .prose :: above, rest, ?_, ?_, hrest⟩
        . rw [List.cons_append, ← he]
          rfl
        . simpa [Line.isProse_comment ht] using ha
      . cases hstart
        exact ⟨[], _, rfl, by simp, .inr ⟨text, _, rfl, hs⟩⟩

/--
A script has a manual only if one of its lines is classified as the start of the section. The help
text has the texts of the lines in front of it, then its own and then the others.
-/
theorem exists_classified_of_extract {marker : Text} {lines : List Text} {x : Extraction}
    (hx : extract marker lines = .ok x) :
    ∃ above start below,
      classified marker .empty lines = above ++ .comment start .sectionStart :: below ∧
      (∀ l ∈ above, l.IsProse) ∧ Line.isSectionStart start = true ∧
      x.helpLines = above.filterMap Line.text? ++ start :: below.filterMap Line.text? := by
  unfold extract at hx
  rw [extract.go_eq_addLines] at hx
  have hlines := Reading.helpLines_of_addLines hx
  obtain ⟨above, rest, he, ha, hrest⟩ := classified_of_prose marker (r := .empty) rfl lines
  rw [he] at hx hlines
  obtain rfl | ⟨start, below, rfl, hs⟩ := hrest
  . rw [List.append_nil, Reading.addLines_of_forall_isProse rfl ha] at hx
    contradiction
  . refine ⟨above, start, below, he, ha, hs, ?_⟩
    rw [hlines, List.filterMap_append]
    rfl

end ScriptManual
