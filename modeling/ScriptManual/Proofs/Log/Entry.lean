import Mathlib.Data.List.Forall2
import ScriptManual.Log.Entry
import ScriptManual.Proofs.Text.Split
import ScriptManual.Proofs.Text.Wide

/-!
This module contains how a log file is read: its empty lines are those between entries, and the entry
of a record has one line for every value of the record that is not null, whatever is in the values.
-/

namespace ScriptManual

namespace Log

/--
Write the entries of records one after the other, each at a time of its own and with a line feed
behind it.
-/
def writeEntries : (first : Bool) → List (Clock × Record) → Except Json.Limit WideText
  | _, [] => .ok []
  | first, (clock, r) :: records => do
    let entry ← r.entry clock first
    let rest ← writeEntries false records
    return entry ++ .char '\n' :: rest

/--
Cut a file into its lines. A line feed at the very end does not start another line.
-/
def fileLines (file : WideText) : List WideText :=
  let lines := file.splitOn (.char '\n')
  if lines.getLast? = some [] then lines.dropLast else lines

/--
Cut a file at its empty lines. There is nothing to cut in a file without lines.
-/
def fileGroups (file : WideText) : List (List WideText) :=
  let lines := fileLines file
  if lines.isEmpty then [] else lines.splitOn []

def eventKey : WideText := WideText.ofText "event".toList

def Record.known (clock : Clock) (r : Record) : List (WideText × Json) :=
  [(WideText.ofText "ts_utc".toList, .text clock.utc),
    (WideText.ofText "level".toList, .text r.level.name),
    (WideText.ofText "logger".toList, .text r.logger)]

/--
The members of the message of a record. Only a JSON object has any, and only if the message starts
and ends with its braces.
-/
def Record.payload? (r : Record) : Option (List (WideText × Json)) :=
  match Json.ofText r.message with
  | .ok (.obj members) =>
    if ['\x7b'] <+: r.message ∧ ['\x7d'] <:+ r.message then some members else none
  | _ => none

/--
The value that a record has for a key. What its message says goes before what is known of every
record. A message without members is a value itself.
-/
def Record.value? (clock : Clock) (r : Record) (key : WideText) : Option Json :=
  match r.payload? with
  | some members => (members.reverse.lookup key).or ((r.known clock).lookup key)
  | none =>
    (r.known clock ++ [(eventKey, Json.text r.logger),
      (WideText.ofText "message".toList, Json.text r.message)]).lookup key

/--
The name of the event that a record is about. It is the logger if the message does not say.
-/
def Record.eventName (clock : Clock) (r : Record) : WideText :=
  match r.value? clock eventKey with
  | some value => (Value.ofJson value).display
  | none => r.logger

/--
Whether lines are the entry of an event with some values: a heading, and a line for every key but that
of the event whose value is not null. The keys that the event puts first come first, and the others
follow in the order of their code points.
-/
structure IsEntry (event : WideText) (value? : WideText → Option Json) (keys : List WideText)
    (lines : List WideText) : Prop where
  lines_eq : lines = (WideText.ofText "=== ".toList ++ event ++ WideText.ofText " ===".toList) ::
    keys.map fun key => key ++ WideText.ofText ": ".toList ++
      WideText.replaceChar '\n' ['\\', 'n'] (Value.ofJson ((value? key).getD .null)).display
  nodup : keys.Nodup
  mem_iff : ∀ key, key ∈ keys ↔ key ≠ eventKey ∧ ∃ value, value? key = some value ∧ value ≠ .null
  order : ∃ others, keys = ((keyOrder event).map WideText.ofText).filter (· ∈ keys) ++ others ∧
    others.Pairwise fun k k' =>
      List.Lex (· < ·) (k.map CodePoint.number) (k'.map CodePoint.number)

def Record.HasEntry (clock : Clock) (r : Record) (lines : List WideText) : Prop :=
  ∃ keys, IsEntry (r.eventName clock) (r.value? clock) keys lines

/--
What is assumed of a record: a message in braces is read within the limits or is no JSON, and no line
feed is in the names, which are the logger, the event and the keys of the message.
-/
structure Record.IsPlain (r : Record) : Prop where
  logger : '\n' ∉ r.logger
  read : ['\x7b'] <+: r.message → ¬ Json.ofText r.message matches .error (.limit _)
  keys : ∀ members ∈ r.payload?, ∀ m ∈ members, .char '\n' ∉ m.1
  event : ∀ members ∈ r.payload?, ∀ m ∈ members, m.1 = eventKey →
    .char '\n' ∉ (Value.ofJson m.2).display

instance (r : Record) : Decidable r.IsPlain :=
  decidable_of_iff (_ ∧ _ ∧ _ ∧ _)
    ⟨fun ⟨logger, read, keys, event⟩ => ⟨logger, read, keys, event⟩,
      fun ⟨logger, read, keys, event⟩ => ⟨logger, read, keys, event⟩⟩

section

variable {members : List (WideText × Value)}

def isPresent (members : List (WideText × Value)) (key : WideText) : Bool :=
  (members.lookup key).any fun value => !value.isNull

theorem isPresent_iff {key : WideText} :
    isPresent members key = true ↔
      ∃ value, members.lookup key = some value ∧ value.isNull = false := by
  simp [isPresent, Option.any_eq_true]

theorem nodup_keyOrder (event : WideText) : ((keyOrder event).map WideText.ofText).Nodup := by
  have hall : ∀ order ∈ ["ts", "level"] :: keyOrders.map Prod.snd,
      ((order.map String.toList).map WideText.ofText).Nodup := by
    decide
  unfold keyOrder
  apply hall
  generalize hf : keyOrders.find? _ = found?
  cases found? with
  | none => simp
  | some found =>
    have hm := List.mem_of_find?_eq_some hf
    exact List.mem_cons_of_mem _ (List.mem_map_of_mem hm)

theorem mem_lineKeys {event key : WideText} :
    key ∈ lineKeys event members ↔ isPresent members key = true := by
  rw [lineKeys, List.mem_append, List.mem_filter, List.mem_mergeSort, List.mem_filter]
  change _ ∧ isPresent members key = true ∨ _ ∧ (_ && isPresent members key) = true ↔ _
  constructor
  . rintro (⟨-, h⟩ | ⟨-, h⟩)
    . exact h
    . exact ((Bool.and_eq_true _ _).mp h).2
  . intro h
    by_cases hp : key ∈ (keyOrder event).map WideText.ofText
    . exact .inl ⟨hp, h⟩
    . obtain ⟨value, hv, -⟩ := isPresent_iff.1 h
      exact .inr ⟨Assoc.mem_keys_iff.2 ⟨value, hv⟩, by simp [h, hp]⟩

theorem nodup_lineKeys (h : (members.map Prod.fst).Nodup) (event : WideText) :
    (lineKeys event members).Nodup := by
  rw [lineKeys, List.nodup_append]
  refine ⟨(nodup_keyOrder event).filter _, ?_, ?_⟩
  . exact (List.mergeSort_perm _ _).nodup_iff.2 (h.filter _)
  . rintro key hp _ ho rfl
    rw [List.mem_mergeSort, List.mem_filter] at ho
    have hn := ((Bool.and_eq_true _ _).mp ho.2).1
    simp [(List.mem_filter.1 hp).1] at hn

theorem lineKeys_order (h : (members.map Prod.fst).Nodup) (event : WideText) :
    ∃ others, lineKeys event members =
      ((keyOrder event).map WideText.ofText).filter (· ∈ lineKeys event members) ++ others ∧
      others.Pairwise fun k k' =>
      List.Lex (· < ·) (k.map CodePoint.number) (k'.map CodePoint.number) := by
  refine ⟨_, congrArg (· ++ _) ?_, ?_⟩
  . apply List.filter_congr
    intro key _
    simp only [mem_lineKeys, Bool.decide_eq_true]
    rfl
  . have hn := (List.nodup_append.1 (nodup_lineKeys h event)).2.1
    exact (WideText.pairwise_mergeSort _).imp₂ (fun _ _ => WideText.lex_of_le) hn

end

namespace Value

theorem ofJsonMembers_eq_map (members : List (WideText × Json)) :
    ofJsonMembers members = members.map fun (key, value) => (key, ofJson value) := by
  induction members with
  | nil => rfl
  | cons m members ih => rw [ofJsonMembers, ih, List.map_cons]

theorem lookup_map_ofJson (members : List (WideText × Json)) (key : WideText) :
    (members.map fun (key, value) => (key, ofJson value)).lookup key =
      (members.lookup key).map ofJson := by
  induction members with
  | nil => rfl
  | cons m members ih =>
    obtain ⟨k, value⟩ := m
    rw [List.map_cons, List.lookup_cons, List.lookup_cons, ih]
    cases key == k <;> rfl

theorem isNull_ofJson {value : Json} : (ofJson value).isNull = false ↔ value ≠ .null := by
  cases value <;> simp [ofJson, isNull]

end Value

section

variable {r : Record}

theorem isBraced_iff {message : Text} :
    (message.head? == some '\x7b' && message.getLast? == some '\x7d') = true ↔
      ['\x7b'] <+: message ∧ ['\x7d'] <:+ message := by
  rw [Bool.and_eq_true, beq_iff_eq, beq_iff_eq, List.singleton_prefix_iff_head?_eq_some,
    List.singleton_suffix_iff_getLast?_eq_some]

theorem Record.messageMembers?_eq (h : r.IsPlain) :
    messageMembers? r.message = .ok (r.payload?.map Value.ofJsonMembers) := by
  unfold messageMembers? Record.payload?
  by_cases hb : ['\x7b'] <+: r.message ∧ ['\x7d'] <:+ r.message
  . rw [if_pos (isBraced_iff.2 hb)]
    cases hj : Json.ofText r.message with
    | ok json =>
      cases json with
      | obj members => simp [hb]
      | _ => rfl
    | error fault =>
      cases fault with
      | limit l => exact absurd (by rw [hj]) (h.read hb.1)
      | _ => rfl
  . rw [if_neg (mt isBraced_iff.1 hb)]
    split
    . rw [if_neg hb]
      rfl
    . rfl

theorem Record.members_eq_foldl (h : r.IsPlain) (clock : Clock)
    {payload : List (WideText × Json)} (hp : r.payload? = some payload) :
    r.members clock = .ok ((Value.ofJsonMembers payload).foldl
      (fun base (key, value) => Assoc.set key value base)
      ((r.known clock).map fun (key, value) => (key, Value.ofJson value))) := by
  rw [Record.members, Record.messageMembers?_eq h, hp]
  rfl

theorem Record.members_eq_append (h : r.IsPlain) (clock : Clock) (hp : r.payload? = none) :
    r.members clock = .ok ((r.known clock ++ [(eventKey, Json.text r.logger),
      (WideText.ofText "message".toList, Json.text r.message)]).map
        fun (key, value) => (key, Value.ofJson value)) := by
  rw [Record.members, Record.messageMembers?_eq h, hp]
  rfl

theorem Record.exists_members (h : r.IsPlain) (clock : Clock) :
    ∃ members, r.members clock = .ok members ∧ (members.map Prod.fst).Nodup ∧
      ∀ key, members.lookup key = (r.value? clock key).map Value.ofJson := by
  cases hp : r.payload? with
  | some payload =>
    refine ⟨_, Record.members_eq_foldl h clock hp, Assoc.nodup_keys_foldl_set ?_, ?_⟩
    . simp only [Record.known, List.map_cons, List.map_nil]
      decide
    . intro key
      rw [Assoc.lookup_foldl_set, Record.value?, hp, Value.ofJsonMembers_eq_map, ← List.map_reverse,
        Value.lookup_map_ofJson, Value.lookup_map_ofJson, ← Option.map_or]
  | none =>
    refine ⟨_, Record.members_eq_append h clock hp, ?_, ?_⟩
    . simp only [Record.known, List.map_cons, List.map_nil, List.map_append]
      decide
    . intro key
      rw [Value.lookup_map_ofJson, Record.value?, hp]

def withoutEvent (members : List (WideText × Value)) : List (WideText × Value) :=
  members.filter fun (key, _) => key != eventKey

def entryLines (event : WideText) (members : List (WideText × Value)) : List WideText :=
  let rest := withoutEvent members
  (WideText.ofText "=== ".toList ++ event ++ WideText.ofText " ===".toList) ::
    (lineKeys event rest).map fun key => writeLine key ((rest.lookup key).getD .null)

theorem Record.entry_eq_of_members {clock : Clock} {members : List (WideText × Value)}
    (hm : r.members clock = .ok members)
    (hl : members.lookup eventKey = (r.value? clock eventKey).map Value.ofJson) (first : Bool) :
    r.entry clock first = .ok
      (if first then [CodePoint.char '\n'].intercalate (entryLines (r.eventName clock) members)
        else .char '\n' ::
          [CodePoint.char '\n'].intercalate (entryLines (r.eventName clock) members)) := by
  rw [Record.entry, hm]
  change Except.ok _ = Except.ok _
  dsimp only
  rw [show members.lookup (WideText.ofText "event".toList) = _ from hl, Record.eventName]
  cases r.value? clock eventKey <;> rfl

theorem Record.entry_eq (h : r.IsPlain) (clock : Clock) :
    ∃ keys lines, IsEntry (r.eventName clock) (r.value? clock) keys lines ∧
      ∀ first, r.entry clock first = .ok
        (if first then [CodePoint.char '\n'].intercalate lines
          else .char '\n' :: [CodePoint.char '\n'].intercalate lines) := by
  obtain ⟨members, hm, hn, hl⟩ := Record.exists_members h clock
  have hrest : ((withoutEvent members).map Prod.fst).Nodup :=
    hn.sublist (List.filter_sublist.map _)
  have hmem : ∀ key, key ∈ lineKeys (r.eventName clock) (withoutEvent members) ↔
      key ≠ eventKey ∧ ∃ value, r.value? clock key = some value ∧ value ≠ .null := by
    intro key
    rw [mem_lineKeys, isPresent_iff, withoutEvent, Assoc.lookup_filter_ne, hl]
    by_cases hk : key = eventKey
    . simp [hk]
    . simp [hk, Value.isNull_ofJson]
  refine ⟨_, entryLines (r.eventName clock) members, ⟨?_, nodup_lineKeys hrest _, hmem,
    lineKeys_order hrest _⟩, Record.entry_eq_of_members hm (hl eventKey)⟩
  rw [entryLines, List.cons_inj_right]
  apply List.map_congr_left
  intro key hk
  obtain ⟨hne, value, hv, -⟩ := (hmem key).1 hk
  rw [withoutEvent, Assoc.lookup_filter_ne, hl, if_neg (by simp [hne]), hv]
  rfl

theorem mem_of_lookup_eq_some {β : Type} {entries : List (WideText × β)} {key : WideText}
    {value : β} (h : entries.lookup key = some value) : (key, value) ∈ entries := by
  obtain ⟨front, back, rfl, -⟩ := List.lookup_eq_some_iff.1 h
  simp

theorem Record.not_mem_key_known {clock : Clock} {key : WideText} {value : Json}
    (h : (r.known clock).lookup key = some value) : .char '\n' ∉ key := by
  have hk := List.mem_map_of_mem (f := Prod.fst) (mem_of_lookup_eq_some h)
  have hall : ∀ k ∈ ["ts_utc", "level", "logger"].map fun k => WideText.ofText k.toList,
      .char '\n' ∉ k := by
    decide
  exact hall key hk

theorem Record.IsPlain.not_mem_key (h : r.IsPlain) {clock : Clock} {key : WideText} {value : Json}
    (hv : r.value? clock key = some value) : .char '\n' ∉ key := by
  rw [Record.value?] at hv
  cases hp : r.payload? with
  | some members =>
    rw [hp, Option.or_eq_some_iff] at hv
    obtain hv | ⟨-, hv⟩ := hv
    . exact h.keys members hp _ (List.mem_reverse.1 (mem_of_lookup_eq_some hv))
    . exact Record.not_mem_key_known hv
  | none =>
    rw [hp, List.lookup_append, Option.or_eq_some_iff] at hv
    obtain hv | ⟨-, hv⟩ := hv
    . exact Record.not_mem_key_known hv
    . have hk := List.mem_map_of_mem (f := Prod.fst) (mem_of_lookup_eq_some hv)
      have hall : ∀ k ∈ ["event", "message"].map fun k => WideText.ofText k.toList,
          .char '\n' ∉ k := by
        decide
      exact hall key hk

theorem Record.IsPlain.not_mem_eventName (h : r.IsPlain) (clock : Clock) :
    .char '\n' ∉ r.eventName clock := by
  have hlogger : CodePoint.char '\n' ∉ (r.logger : WideText) := WideText.not_mem_ofText h.logger
  rw [Record.eventName, Record.value?]
  cases hp : r.payload? with
  | none => exact hlogger
  | some members =>
    have hknown : (r.known clock).lookup eventKey = none := rfl
    simp only [hknown, Option.or_none]
    cases hv : members.reverse.lookup eventKey with
    | none => exact hlogger
    | some value => exact h.event members hp _ (List.mem_reverse.1 (mem_of_lookup_eq_some hv)) rfl

end

/--
Whether lines can be told from what is before and behind them by the empty lines between.
-/
structure IsBlock (lines : List WideText) : Prop where
  ne_nil : lines ≠ []
  nil_not_mem : [] ∉ lines
  not_mem : ∀ line ∈ lines, .char '\n' ∉ line

theorem IsEntry.isBlock {event : WideText} {value? : WideText → Option Json}
    {keys lines : List WideText} (h : IsEntry event value? keys lines)
    (he : .char '\n' ∉ event) (hk : ∀ key value, value? key = some value → .char '\n' ∉ key) :
    IsBlock lines := by
  rw [h.lines_eq]
  refine ⟨by simp, by simp, ?_⟩
  intro line hl
  obtain rfl | hl := List.mem_cons.1 hl
  . simp [he]
  . obtain ⟨key, hkey, rfl⟩ := List.mem_map.1 hl
    obtain ⟨-, value, hv, -⟩ := (h.mem_iff key).1 hkey
    have hvalue := WideText.not_mem_replaceChar (c := '\n') (r := ['\\', 'n']) (by decide)
      (Value.ofJson ((value? key).getD .null)).display
    simp [hk key value hv, hvalue]

theorem fileLines_flatMap {lines : List WideText} (h : ∀ line ∈ lines, .char '\n' ∉ line) :
    fileLines (lines.flatMap (· ++ [.char '\n'])) = lines := by
  have hsplit : (lines.flatMap (· ++ [.char '\n'])).splitOn (.char '\n') = lines ++ [[]] := by
    rw [← intercalate_concat_nil]
    apply List.splitOn_intercalate _ _ (by simp)
    simpa [or_imp, forall_and] using h
  rw [fileLines, hsplit]
  simp

theorem fileGroups_flatMap {groups : List (List WideText)} (h : ∀ group ∈ groups, IsBlock group) :
    fileGroups (([[]].intercalate groups).flatMap (· ++ [.char '\n'])) = groups := by
  cases groups with
  | nil => rfl
  | cons group groups =>
    rw [fileGroups, fileLines_flatMap]
    . rw [List.splitOn_intercalate _ (fun g hg => (h g hg).nil_not_mem) (by simp)]
      simp [intercalate_cons_eq_append_flatMap, (h group (by simp)).ne_nil]
    . intro line hl
      rw [intercalate_cons_eq_append_flatMap, List.mem_append, List.mem_flatMap] at hl
      obtain hl | ⟨g, hg, hl⟩ := hl
      . exact (h group (by simp)).not_mem line hl
      . obtain rfl | hl := List.mem_cons.1 hl
        . simp
        . exact (h g (by simp [hg])).not_mem line hl

theorem writeEntries_of_isPlain {records : List (Clock × Record)}
    (h : ∀ e ∈ records, e.2.IsPlain) :
    ∃ groups, List.Forall₂ (fun e lines => e.2.HasEntry e.1 lines) records groups ∧
      (∀ group ∈ groups, IsBlock group) ∧
      writeEntries true records =
        .ok (([[]].intercalate groups).flatMap (· ++ [.char '\n'])) ∧
      writeEntries false records =
        .ok ((groups.flatMap ([] :: ·)).flatMap (· ++ [.char '\n'])) := by
  induction records with
  | nil => exact ⟨[], .nil, by simp, rfl, rfl⟩
  | cons e records ih =>
    obtain ⟨clock, r⟩ := e
    obtain ⟨groups, hgroups, hblocks, -, hrest⟩ := ih fun e he => h e (by simp [he])
    have hr : r.IsPlain := h (clock, r) (by simp)
    obtain ⟨keys, lines, hl, hentry⟩ := Record.entry_eq hr clock
    have hb := hl.isBlock (hr.not_mem_eventName clock) fun _ _ => hr.not_mem_key
    have hlines := intercalate_append_singleton (.char '\n') hb.ne_nil
    refine ⟨lines :: groups, .cons ⟨keys, hl⟩ hgroups, ?_, ?_, ?_⟩
    . exact List.forall_mem_cons.2 ⟨hb, hblocks⟩
    . rw [writeEntries, hentry, hrest, intercalate_cons_eq_append_flatMap, List.flatMap_append,
        ← hlines, List.append_assoc]
      rfl
    . rw [writeEntries, hentry, hrest, List.flatMap_cons, List.cons_append, List.flatMap_cons,
        List.flatMap_append, ← hlines, List.append_assoc, List.append_assoc]
      rfl

/--
A log file is read back entry by entry, with one entry for every record in the order of the records.
-/
theorem entries_read_back (records : List (Clock × Record))
    (h : ∀ e ∈ records, e.2.IsPlain) :
    ∃ file, writeEntries true records = .ok file ∧
      List.Forall₂ (fun e lines => e.2.HasEntry e.1 lines) records (fileGroups file) := by
  obtain ⟨groups, hgroups, hblocks, hfile, -⟩ := writeEntries_of_isPlain h
  refine ⟨_, hfile, ?_⟩
  rw [fileGroups_flatMap hblocks]
  exact hgroups

def forgingRecords : List (Clock × Record) :=
  let clock : Clock := ⟨"2024-01-01T01:00:00+01:00".toList, "2024-01-01T00:00:00Z".toList⟩
  [(clock, ⟨Level.info, programLogger, "done\n\n=== app_stop ===\nlevel: ERROR".toList⟩),
    (clock, ⟨Level.info, programLogger,
      "\x7b\"event\":\"app_stop\",\"a\":1,\"level\":null,\"reason\":\"z\\n\\n=== b ===\"\x7d".toList⟩)]

def forgingLines : List (List WideText) :=
  [["=== optdoc ===", "level: INFO", "logger: optdoc",
      "message: done\\n\\n=== app_stop ===\\nlevel: ERROR", "ts_utc: 2024-01-01T00:00:00Z"],
    ["=== app_stop ===", "reason: z\\n\\n=== b ===", "a: 1", "logger: optdoc",
      "ts_utc: 2024-01-01T00:00:00Z"]].map (List.map fun line => WideText.ofText line.toList)

theorem entries_read_back_forging :
    (∀ e ∈ forgingRecords, e.2.IsPlain) ∧
      ∃ file, writeEntries true forgingRecords = .ok file ∧
        List.Forall₂ (fun e lines => e.2.HasEntry e.1 lines) forgingRecords (fileGroups file) ∧
        fileGroups file = forgingLines := by
  have h : ∀ e ∈ forgingRecords, e.2.IsPlain := by
    decide +kernel
  have hlines : (writeEntries true forgingRecords).toOption.map fileGroups = some forgingLines := by
    simp only [forgingRecords, writeEntries, Record.entry, lineKeys,
      WideText.mergeSort_eq_insertionSort]
    decide +kernel
  obtain ⟨file, hfile, hgroups⟩ := entries_read_back forgingRecords h
  rw [hfile] at hlines
  exact ⟨h, file, hfile, hgroups, Option.some.inj hlines⟩

end Log

end ScriptManual
