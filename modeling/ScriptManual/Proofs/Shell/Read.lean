import Mathlib.Data.List.Basic
import Mathlib.Data.List.TakeWhile
import ScriptManual.Proofs.Shell.Run
import ScriptManual.Proofs.Text.Split

/-!
This module contains the way back from the text of a loop to its commands, by the rules of the shell
for the words and lines that such a text is made of. It undoes writing.
-/

namespace ScriptManual

namespace Shell

def isPlainChar (c : Char) : Bool :=
  c.isAlphanum || c == '_' || c == '-'

def isPlain (t : Text) : Bool :=
  !t.isEmpty && t.all isPlainChar

inductive Item where
  | loopStart
  | caseStart
  | arm (patterns : List Text)
  | otherwise
  | command (c : Command)
  | armEnd
  | caseEnd
  | loopEnd

namespace Item

def keywords : List (Text × Item) :=
  [("while [ $# -gt 0 ]; do".toList, loopStart), ("case \"$1\" in".toList, caseStart),
    ("*)".toList, otherwise), ("shift".toList, command .shift),
    ("shift 2".toList, command .shiftTwo), ("break".toList, command .leave),
    ("exit 0".toList, command (.exit 0)), ("exit 1".toList, command (.exit 1)),
    (";;".toList, armEnd), ("esac".toList, caseEnd), ("done".toList, loopEnd)]

def assignmentOf? (key value : Text) : Option Command :=
  if value = Table.switchOn then some (.assignOn key)
  else if value = "\"$2\"".toList then some (.assignNext key)
  else none

def assignment? (words : Text) : Option Command :=
  match (tableName ++ ['[']).isPrefixOf? words with
  | none => none
  | some rest =>
    match Text.cut ']' rest with
    | (key, some ('=' :: value)) => if isPlain key then assignmentOf? key value else none
    | _ => none

def patterns? (words : Text) : Option (List Text) :=
  match words.reverse with
  | ')' :: rest =>
    let patterns := Text.split '|' rest.reverse
    if patterns.all isPlain then some patterns else none
  | _ => none

def ofWords? (words : Text) : Option Item :=
  match keywords.lookup words with
  | some item => some item
  | none =>
    match assignment? words with
    | some c => some (.command c)
    | none => (patterns? words).map .arm

def delimiter? (words : Text) : Option Text :=
  match "cat <<'".toList.isPrefixOf? words with
  | none => none
  | some rest =>
    match rest.reverse with
    | '\'' :: delimiter => if isPlain delimiter.reverse then some delimiter.reverse else none
    | _ => none

def wordsOf (line : Text) : Text :=
  line.dropWhile (· == ' ')

def readAll? : List Text → Option (List Item)
  | [] => some []
  | line :: lines =>
    match delimiter? (wordsOf line) with
    | none =>
      match ofWords? (wordsOf line) with
      | none => none
      | some item => (readAll? lines).map (item :: ·)
    | some delimiter =>
      match _h : lines.dropWhile (· != delimiter) with
      | [] => none
      | _ :: rest =>
        let text := Text.unlines (lines.takeWhile (· != delimiter))
        (readAll? rest).map (.command (.print delimiter text) :: ·)
termination_by lines => lines.length
decreasing_by
  . simp
  . have := List.length_dropWhile_le (· != delimiter) lines
    rw [_h] at this
    simp at this ⊢
    omega

def command? : Item → Option Command
  | .command c => some c
  | _ => none

def arms? : List Item → Option Loop
  | .arm patterns :: items =>
    match _h : items.dropWhile (·.command?.isSome) with
    | .armEnd :: rest =>
      let commands := (items.takeWhile (·.command?.isSome)).filterMap command?
      (arms? rest).map fun l => { l with arms := ⟨patterns, commands⟩ :: l.arms }
    | _ => none
  | .otherwise :: items =>
    match items.dropWhile (·.command?.isSome) with
    | [.armEnd, .caseEnd, .loopEnd] =>
      some ⟨[], (items.takeWhile (·.command?.isSome)).filterMap command?⟩
    | _ => none
  | _ => none
termination_by items => items.length
decreasing_by
  have := List.length_dropWhile_le (·.command?.isSome) items
  rw [_h] at this
  simp at this ⊢
  omega

end Item

def Loop.read? (text : Text) : Option Loop :=
  match Item.readAll? (Text.split '\n' text) with
  | some (.loopStart :: .caseStart :: items) => Item.arms? items
  | _ => none

/--
The commands that can be read back. A text to print must not hold its own delimiter.
-/
def Command.Readable : Command → Prop
  | .assignOn key => isPlain key = true
  | .assignNext key => isPlain key = true
  | .print delimiter text =>
    isPlain delimiter = true ∧
      ∃ lines, text = Text.unlines lines ∧ (∀ l ∈ lines, '\n' ∉ l) ∧ delimiter ∉ lines
  | .exit status => status = 0 ∨ status = 1
  | _ => True

structure Arm.Readable (a : Arm) : Prop where
  patterns_ne_nil : a.patterns ≠ []
  patterns : ∀ p ∈ a.patterns, isPlain p = true ∧ p.head? = some '-'
  commands : ∀ c ∈ a.commands, c.Readable

structure Loop.Readable (l : Loop) : Prop where
  arms : ∀ a ∈ l.arms, a.Readable
  otherwise : ∀ c ∈ l.otherwise, c.Readable

theorem not_mem_of_isPlain {t : Text} {c : Char} (ht : isPlain t = true)
    (hc : isPlainChar c = false) : c ∉ t := by
  intro hm
  simp only [isPlain, Bool.and_eq_true, List.all_eq_true] at ht
  rw [ht.2 c hm] at hc
  contradiction

theorem isPrefixOf?_eq_none_of_head? {s t : Text} {c d : Char} (hs : s.head? = some c)
    (ht : t.head? = some d) (h : c ≠ d) : s.isPrefixOf? t = none := by
  cases hp : s.isPrefixOf? t with
  | none => rfl
  | some rest =>
    rw [List.isPrefixOf?_eq_some_iff_append_eq] at hp
    rw [← hp, List.head?_append, hs] at ht
    cases ht
    contradiction

theorem takeWhile_append_delimiter {delimiter : Text} {texts : List Text} (h : delimiter ∉ texts)
    (lines : List Text) :
    (texts ++ delimiter :: lines).takeWhile (· != delimiter) = texts := by
  rw [List.takeWhile_append_of_pos, List.takeWhile_cons_of_neg (by simp), List.append_nil]
  intro t ht
  rw [bne_iff_ne]
  exact ne_of_mem_of_not_mem ht h

theorem dropWhile_append_delimiter {delimiter : Text} {texts : List Text} (h : delimiter ∉ texts)
    (lines : List Text) :
    (texts ++ delimiter :: lines).dropWhile (· != delimiter) = delimiter :: lines := by
  rw [List.dropWhile_append_of_pos, List.dropWhile_cons_of_neg (by simp)]
  intro t ht
  rw [bne_iff_ne]
  exact ne_of_mem_of_not_mem ht h

namespace Item

theorem wordsOf_indent (levels : Nat) {words : Text} (h : words.head? ≠ some ' ') :
    wordsOf (indent levels ++ words) = words := by
  unfold wordsOf indent
  rw [List.dropWhile_append_of_pos (by simp)]
  cases words with
  | nil => rfl
  | cons c cs =>
    rw [List.dropWhile_cons_of_neg]
    simpa using h

theorem lookup_keywords_eq_none {words : Text} {c : Char} (hw : words.head? = some c)
    (h : ∀ k ∈ keywords.map Prod.fst, k.head? ≠ some c) : keywords.lookup words = none := by
  rw [List.lookup_eq_none_iff]
  rintro ⟨k, item⟩ hk
  have hne := h k (List.mem_map_of_mem hk)
  rw [bne_iff_ne]
  rintro rfl
  exact hne hw

theorem delimiter?_eq_none {words : Text} {c : Char} (hw : words.head? = some c) (hc : c ≠ 'c') :
    delimiter? words = none := by
  unfold delimiter?
  rw [isPrefixOf?_eq_none_of_head? rfl hw (Ne.symm hc)]

theorem ofWords?_assignment {key value : Text} {c : Command} (hk : isPlain key = true)
    (hc : assignmentOf? key value = some c) :
    ofWords? (assignment key value) = some (.command c) := by
  have hp : (tableName ++ ['[']).isPrefixOf? (assignment key value) =
      some (key ++ ']' :: '=' :: value) := by
    rw [List.isPrefixOf?_eq_some_iff_append_eq]
    simp [assignment]
  have hl : keywords.lookup (assignment key value) = none :=
    lookup_keywords_eq_none (c := 'O') rfl (by decide)
  have ha : assignment? (assignment key value) = some c := by
    unfold assignment?
    rw [hp]
    dsimp only
    rw [Text.cut_append_cons (not_mem_of_isPlain hk (by decide))]
    show (if isPlain key then assignmentOf? key value else none) = some c
    rw [if_pos hk, hc]
  unfold ofWords?
  rw [hl, ha]

theorem head?_patterns {patterns : List Text} (hne : patterns ≠ [])
    (h : ∀ p ∈ patterns, isPlain p = true ∧ p.head? = some '-') :
    (Text.join ['|'] patterns ++ [')']).head? = some '-' := by
  cases patterns with
  | nil => contradiction
  | cons p ps =>
    have hp := (h p (by simp)).2
    cases ps with
    | nil => simp [hp]
    | cons q qs => simp [Text.join_cons_cons, hp]

theorem ofWords?_patterns {patterns : List Text} (hne : patterns ≠ [])
    (h : ∀ p ∈ patterns, isPlain p = true ∧ p.head? = some '-') :
    ofWords? (Text.join ['|'] patterns ++ [')']) = some (.arm patterns) := by
  have hh := head?_patterns hne h
  have hl := lookup_keywords_eq_none hh (by decide)
  have ha : assignment? (Text.join ['|'] patterns ++ [')']) = none := by
    unfold assignment?
    rw [isPrefixOf?_eq_none_of_head? rfl hh (by decide)]
  have hp : patterns? (Text.join ['|'] patterns ++ [')']) = some patterns := by
    unfold patterns?
    rw [List.reverse_append, List.reverse_singleton, List.singleton_append]
    show (if (Text.split '|' (Text.join ['|'] patterns).reverse.reverse).all isPlain then
      some (Text.split '|' (Text.join ['|'] patterns).reverse.reverse) else none) = some patterns
    rw [List.reverse_reverse, Text.split_join '|' hne, Text.flatMap_split_of_not_mem]
    . rw [if_pos]
      rw [List.all_eq_true]
      intro p hp
      exact (h p hp).1
    . intro p hp
      exact not_mem_of_isPlain (h p hp).1 (by decide)
  unfold ofWords?
  rw [hl, ha, hp]
  rfl

theorem readAll?_indent (levels : Nat) {words : Text} {item : Item}
    (hs : words.head? ≠ some ' ') (hd : delimiter? words = none)
    (hi : ofWords? words = some item) (lines : List Text) :
    readAll? ((indent levels ++ words) :: lines) = (readAll? lines).map (item :: ·) := by
  rw [readAll?, wordsOf_indent levels hs, hd]
  dsimp only
  rw [hi]

theorem readAll?_assignment {key value : Text} {c : Command} (hk : isPlain key = true)
    (hc : assignmentOf? key value = some c) (lines : List Text) :
    readAll? ((indent 3 ++ assignment key value) :: lines) =
      (readAll? lines).map (.command c :: ·) := by
  have hh : (assignment key value).head? = some 'O' := rfl
  apply readAll?_indent 3
  . rw [hh]
    decide
  . exact delimiter?_eq_none hh (by decide)
  . exact ofWords?_assignment hk hc

theorem delimiter?_eq_some {delimiter : Text} (h : isPlain delimiter = true) :
    delimiter? ("cat <<'".toList ++ delimiter ++ ['\'']) = some delimiter := by
  have hp : "cat <<'".toList.isPrefixOf? ("cat <<'".toList ++ delimiter ++ ['\'']) =
      some (delimiter ++ ['\'']) := by
    rw [List.isPrefixOf?_eq_some_iff_append_eq, List.append_assoc]
  unfold delimiter?
  rw [hp]
  dsimp only
  rw [List.reverse_append, List.reverse_singleton, List.singleton_append]
  show (if isPlain delimiter.reverse.reverse then some delimiter.reverse.reverse else none) = _
  rw [List.reverse_reverse, if_pos h]

theorem readAll?_print {delimiter : Text} (hd : isPlain delimiter = true) {texts : List Text}
    (hn : delimiter ∉ texts) (lines : List Text) :
    readAll? ((indent 3 ++ ("cat <<'".toList ++ delimiter ++ ['\''])) :: texts
        ++ delimiter :: lines)
      =
    (readAll? lines).map (.command (.print delimiter (Text.unlines texts)) :: ·) := by
  -- The text to print ends at its delimiter and not before.
  have hdrop := dropWhile_append_delimiter hn lines
  have htake := takeWhile_append_delimiter hn lines
  have hs : ("cat <<'".toList ++ delimiter ++ ['\'']).head? = some 'c' := rfl
  have hw : ("cat <<'".toList ++ delimiter ++ ['\'']).head? ≠ some ' ' := by
    rw [hs]
    decide
  rw [List.cons_append, readAll?, wordsOf_indent 3 hw, delimiter?_eq_some hd]
  dsimp only
  split
  . next h =>
    rw [hdrop] at h
    contradiction
  . next h =>
    rw [hdrop] at h
    cases h
    rw [htake]

theorem split_assignment {key value : Text} (hk : isPlain key = true) (hv : '\n' ∉ value) :
    [indent 3 ++ assignment key value].flatMap (Text.split '\n') =
      [indent 3 ++ assignment key value] := by
  apply Text.flatMap_split_of_not_mem
  intro t ht
  have hn : '\n' ∉ key := not_mem_of_isPlain hk (by decide)
  have ho : '\n' ∉ tableName := by decide
  rw [List.mem_singleton] at ht
  simp [ht, indent, assignment, hn, ho, hv]

theorem split_print {delimiter : Text} (hd : isPlain delimiter = true) {texts : List Text}
    (ht : ∀ t ∈ texts, '\n' ∉ t) :
    (Command.print delimiter (Text.unlines texts)).write.flatMap (Text.split '\n') =
      (indent 3 ++ ("cat <<'".toList ++ delimiter ++ ['\''])) :: texts ++ [delimiter] := by
  have hn : '\n' ∉ delimiter := not_mem_of_isPlain hd (by decide)
  have hf : '\n' ∉ indent 3 ++ "cat <<'".toList ++ delimiter ++ ['\''] := by
    have hc : '\n' ∉ "cat <<'".toList := by decide
    simp [indent, hn]
  have hu : Text.split '\n' (Text.unlines texts ++ delimiter) = texts ++ [delimiter] := by
    rw [Text.split_unlines_append ht, Text.split_of_not_mem hn]
  rw [Command.write, List.flatMap_cons, List.flatMap_cons, List.flatMap_nil, List.append_nil]
  rw [Text.split_of_not_mem hf, hu]
  simp

theorem readAll?_command {c : Command} (hc : c.Readable) (lines : List Text) :
    readAll? (c.write.flatMap (Text.split '\n') ++ lines) =
      (readAll? lines).map (.command c :: ·) := by
  cases c with
  | assignOn key =>
    rw [Command.write, split_assignment hc (by decide)]
    exact readAll?_assignment hc rfl lines
  | assignNext key =>
    rw [Command.write, split_assignment hc (by decide)]
    exact readAll?_assignment hc rfl lines
  | shift => exact readAll?_indent 3 (by decide) rfl rfl lines
  | shiftTwo => exact readAll?_indent 3 (by decide) rfl rfl lines
  | leave => exact readAll?_indent 3 (by decide) rfl rfl lines
  | print delimiter text =>
    obtain ⟨hd, texts, rfl, ht, hn⟩ := hc
    rw [split_print hd ht, List.append_assoc]
    exact readAll?_print hd hn lines
  | exit status =>
    obtain rfl | rfl := hc
    . exact readAll?_indent 3 (by decide) rfl rfl lines
    . exact readAll?_indent 3 (by decide) rfl rfl lines

theorem readAll?_flatMap {α : Type} {as : List α} {write : α → List Text} {items : α → List Item}
    (h : ∀ a ∈ as, ∀ lines, readAll? ((write a).flatMap (Text.split '\n') ++ lines) =
      (readAll? lines).map (items a ++ ·))
    (lines : List Text) :
    readAll? ((as.flatMap write).flatMap (Text.split '\n') ++ lines) =
      (readAll? lines).map (as.flatMap items ++ ·) := by
  induction as with
  | nil => simp
  | cons a as ih =>
    rw [List.flatMap_cons, List.flatMap_append, List.append_assoc, h a (by simp)]
    rw [ih fun a' ha' => h a' (by simp [ha']), Option.map_map, List.flatMap_cons]
    simp [Function.comp_def]

theorem readAll?_commands {commands : List Command} (h : ∀ c ∈ commands, c.Readable)
    (lines : List Text) :
    readAll? ((commands.flatMap Command.write).flatMap (Text.split '\n') ++ lines) =
      (readAll? lines).map (commands.map .command ++ ·) := by
  have hwrite : ∀ c ∈ commands, ∀ lines, readAll? (c.write.flatMap (Text.split '\n') ++ lines) =
      (readAll? lines).map ([.command c] ++ ·) := by
    intro c hc
    exact readAll?_command (h c hc)
  rw [readAll?_flatMap hwrite, List.map_eq_flatMap]

theorem readAll?_armLines {a : Arm} {item : Item}
    (hi : ofWords? (Text.join ['|'] a.patterns ++ [')']) = some item) {c : Char}
    (hh : (Text.join ['|'] a.patterns ++ [')']).head? = some c) (hc : c ≠ 'c') (hs : c ≠ ' ')
    (hn : '\n' ∉ Text.join ['|'] a.patterns) (ha : ∀ c ∈ a.commands, c.Readable)
    (lines : List Text) :
    readAll? (a.write.flatMap (Text.split '\n') ++ lines) =
      (readAll? lines).map (item :: a.commands.map .command ++ [.armEnd] ++ ·) := by
  have hl : '\n' ∉ indent 2 ++ Text.join ['|'] a.patterns ++ [')'] := by
    simp [indent, hn]
  have hw : (Text.join ['|'] a.patterns ++ [')']).head? ≠ some ' ' := by
    rw [hh]
    simpa using hs
  have he : [indent 3 ++ ";;".toList].flatMap (Text.split '\n') = [indent 3 ++ ";;".toList] := rfl
  rw [Arm.write, List.flatMap_append, he, List.flatMap_cons, Text.split_of_not_mem hl]
  simp only [List.append_assoc, List.cons_append, List.nil_append]
  rw [readAll?_indent 2 hw (delimiter?_eq_none hh hc) hi]
  rw [readAll?_commands ha, readAll?_indent 3 (by decide) rfl rfl]
  rw [Option.map_map, Option.map_map]
  rfl

def ofArm (a : Arm) : List Item :=
  .arm a.patterns :: a.commands.map .command ++ [.armEnd]

theorem readAll?_arm {a : Arm} (ha : a.Readable) (lines : List Text) :
    readAll? (a.write.flatMap (Text.split '\n') ++ lines) =
      (readAll? lines).map (ofArm a ++ ·) := by
  have hi := ofWords?_patterns ha.patterns_ne_nil ha.patterns
  have hh := head?_patterns ha.patterns_ne_nil ha.patterns
  apply readAll?_armLines hi hh (by decide) (by decide) _ ha.commands
  apply Text.not_mem_join (by decide)
  intro p hp
  exact not_mem_of_isPlain (ha.patterns p hp).1 (by decide)

theorem readAll?_otherwise {commands : List Command} (h : ∀ c ∈ commands, c.Readable)
    (lines : List Text) :
    readAll? ((Arm.write ⟨[['*']], commands⟩).flatMap (Text.split '\n') ++ lines) =
      (readAll? lines).map (.otherwise :: commands.map .command ++ [.armEnd] ++ ·) := by
  have hn : '\n' ∉ Text.join ['|'] [['*']] := by
    decide
  exact readAll?_armLines (c := '*') rfl rfl (by decide) (by decide) hn h lines

theorem dropWhile_commands (commands : List Command) (items : List Item) :
    (commands.map command ++ armEnd :: items).dropWhile (·.command?.isSome) = armEnd :: items := by
  rw [List.dropWhile_append_of_pos]
  . rfl
  . intro item hi
    obtain ⟨c, -, rfl⟩ := List.mem_map.1 hi
    rfl

theorem takeWhile_commands (commands : List Command) (items : List Item) :
    ((commands.map command ++ armEnd :: items).takeWhile (·.command?.isSome)).filterMap command? =
      commands := by
  rw [List.takeWhile_append_of_pos]
  . have ht : (armEnd :: items).takeWhile (·.command?.isSome) = [] := rfl
    rw [ht, List.append_nil, List.filterMap_map]
    exact List.filterMap_some
  . intro item hi
    obtain ⟨c, -, rfl⟩ := List.mem_map.1 hi
    rfl

theorem arms?_arm (a : Arm) (items : List Item) :
    arms? (ofArm a ++ items) = (arms? items).map fun l => { l with arms := a :: l.arms } := by
  have ho : ofArm a ++ items = arm a.patterns :: (a.commands.map command ++ armEnd :: items) := by
    simp [ofArm]
  rw [ho, arms?]
  split
  . next h =>
    rw [dropWhile_commands] at h
    cases h
    rw [takeWhile_commands]
  . next h => exact absurd (dropWhile_commands a.commands items) (h items)

theorem arms?_otherwise (commands : List Command) :
    arms? (otherwise :: (commands.map command ++ [armEnd, caseEnd, loopEnd])) =
      some ⟨[], commands⟩ := by
  rw [arms?, dropWhile_commands, takeWhile_commands]

theorem arms?_arms (arms : List Arm) (items : List Item) :
    arms? (arms.flatMap ofArm ++ items) =
      (arms? items).map fun l => { l with arms := arms ++ l.arms } := by
  induction arms with
  | nil => simp
  | cons a as ih =>
    rw [List.flatMap_cons, List.append_assoc, arms?_arm, ih, Option.map_map]
    rfl

end Item

namespace Loop

theorem readAll?_start (lines : List Text) :
    Item.readAll? ("while [ $# -gt 0 ]; do".toList :: (indent 1 ++ "case \"$1\" in".toList) :: lines)
      =
    (Item.readAll? lines).map fun items => .loopStart :: .caseStart :: items := by
  rw [← List.nil_append "while [ $# -gt 0 ]; do".toList]
  rw [← show indent 0 = [] from rfl, Item.readAll?_indent 0 (by decide) rfl rfl]
  rw [Item.readAll?_indent 1 (by decide) rfl rfl, Option.map_map]
  rfl

theorem readAll?_end :
    Item.readAll? [indent 1 ++ "esac".toList, "done".toList] = some [.caseEnd, .loopEnd] := by
  rw [Item.readAll?_indent 1 (by decide) rfl rfl, ← List.nil_append "done".toList]
  rw [← show indent 0 = [] from rfl, Item.readAll?_indent 0 (by decide) rfl rfl, Item.readAll?]
  rfl

theorem readAll?_write {l : Loop} (hl : l.Readable) :
    Item.readAll? (Text.split '\n' l.write) =
      some (.loopStart :: .caseStart :: (l.arms.flatMap Item.ofArm
        ++ .otherwise :: (l.otherwise.map .command ++ [.armEnd, .caseEnd, .loopEnd]))) := by
  have hstart : ["while [ $# -gt 0 ]; do".toList, indent 1 ++ "case \"$1\" in".toList].flatMap
      (Text.split '\n') = ["while [ $# -gt 0 ]; do".toList, indent 1 ++ "case \"$1\" in".toList] :=
    rfl
  have hend : [indent 1 ++ "esac".toList, "done".toList].flatMap (Text.split '\n') =
      [indent 1 ++ "esac".toList, "done".toList] := rfl
  unfold write
  rw [Text.split_join '\n' (by simp)]
  simp only [List.flatMap_append]
  rw [hstart, hend, List.append_assoc, List.append_assoc]
  simp only [List.cons_append, List.nil_append]
  rw [readAll?_start, Item.readAll?_flatMap fun a ha => Item.readAll?_arm (hl.arms a ha)]
  rw [Item.readAll?_otherwise hl.otherwise, readAll?_end]
  simp

theorem read?_write {l : Loop} (hl : l.Readable) : read? l.write = some l := by
  unfold read?
  rw [readAll?_write hl]
  dsimp only
  rw [Item.arms?_arms, Item.arms?_otherwise]
  simp

end Loop

end Shell

end ScriptManual
