import ScriptManual.Proofs.Arguments.Outcome

/-!
This module contains the turns in which the tokens are dispatched, one by one, and the places in the
token vector that each of them reads. Nothing is asked of the options here: their names may be empty,
longer than a character or shared, and a flag may be the token that ends the options.
-/

namespace ScriptManual

namespace Arguments

structure Position where
  table : Table
  place : Nat

inductive Turn where
  | again (p : Position)
  | last (result : Except Error Parsed)

/--
The places in the token vector that a turn reads, and what it comes to. The place behind a flag is
read without a look at whether there is one.
-/
def turn (m : Manual) (tokens : List Text) (p : Position) : List Nat × Turn :=
  match tokens[p.place]? with
  | none => ([], .last (.ok ⟨p.table, [], false⟩))
  | some token =>
    if token = endOfOptions then
      ([p.place], .last (.ok ⟨p.table, tokens.drop (p.place + 1), false⟩))
    else
      match lookup? m token with
      | none => ([p.place], .last (.error (.unexpectedToken token)))
      | some o =>
        let key := Table.key o.short Field.value.name
        if o.short = helpShort then
          ([p.place], .last (.ok ⟨p.table, [], true⟩))
        else if o.isSwitch then
          ([p.place], .again ⟨p.table.insert key Table.switchOn, p.place + 1⟩)
        else
          ([p.place, p.place + 1],
            match tokens[p.place + 1]? with
            | none => .last (.error (.missingArgument token))
            | some argument => .again ⟨p.table.insert key argument, p.place + 2⟩)

inductive Runs (m : Manual) (tokens : List Text) :
    Position → List (List Nat) → Except Error Parsed → Prop where
  | stop {p : Position} {places : List Nat} {result : Except Error Parsed}
    (h : turn m tokens p = (places, .last result)) : Runs m tokens p [places] result
  | again {p p' : Position} {places : List Nat} {reads : List (List Nat)}
    {result : Except Error Parsed} (h : turn m tokens p = (places, .again p'))
    (hr : Runs m tokens p' reads result) : Runs m tokens p (places :: reads) result

variable {m : Manual} {tokens : List Text} {p : Position} {reads reads' : List (List Nat)}
variable {r r' : Except Error Parsed}

theorem drop_of_getElem? {α : Type} {xs : List α} {i : Nat} {x : α} (h : xs[i]? = some x) :
    xs.drop i = x :: xs.drop (i + 1) := by
  obtain ⟨hi, rfl⟩ := List.getElem?_eq_some_iff.1 h
  exact List.drop_eq_getElem_cons hi

def Turn.outcome (m : Manual) (tokens : List Text) : Turn → Except Error Parsed
  | .again p => dispatch m p.table (tokens.drop p.place)
  | .last result => result

theorem dispatch_drop (m : Manual) (tokens : List Text) (p : Position) :
    dispatch m p.table (tokens.drop p.place) = (turn m tokens p).2.outcome m tokens := by
  unfold turn
  split
  . next h =>
    rw [List.drop_eq_nil_of_le (List.getElem?_eq_none_iff.1 h)]
    rfl
  . next token h =>
    rw [drop_of_getElem? h, dispatch]
    split
    . rfl
    . cases lookup? m token with
      | none => rfl
      | some o =>
        dsimp only
        split
        . rfl
        . split
          . rfl
          . cases ha : tokens[p.place + 1]? with
            | none =>
              rw [List.drop_eq_nil_of_le (List.getElem?_eq_none_iff.1 ha)]
              rfl
            | some argument =>
              rw [drop_of_getElem? ha]
              rfl

theorem Runs.dispatch_eq (h : Runs m tokens p reads r) :
    dispatch m p.table (tokens.drop p.place) = r := by
  induction h with
  | stop h =>
    rw [dispatch_drop, h]
    rfl
  | again h _ ih =>
    rw [dispatch_drop, h]
    exact ih

theorem Runs.reads_unique (h : Runs m tokens p reads r) (h' : Runs m tokens p reads' r') :
    reads = reads' := by
  induction h generalizing reads' with
  | stop h =>
    cases h' with
    | stop h' =>
      rw [h] at h'
      cases h'
      rfl
    | again h' _ =>
      rw [h] at h'
      cases h'
  | again h _ ih =>
    cases h' with
    | stop h' =>
      rw [h] at h'
      cases h'
    | again h' hr' =>
      rw [h] at h'
      cases h'
      rw [ih hr']

/--
The outcomes of dispatch: positional arguments that stand behind the token that ends the options, a
request for help, or a token that no option has.
-/
inductive Orderly (tokens : List Text) : Except Error Parsed → Prop where
  | parsed {table : Table} {positionals : List Text} (h : endOfOptions :: positionals <:+ tokens) :
    Orderly tokens (.ok ⟨table, positionals, false⟩)
  | help (table : Table) : Orderly tokens (.ok ⟨table, [], true⟩)
  | unexpected {token : Text} (h : token ∈ tokens) :
    Orderly tokens (.error (.unexpectedToken token))

/--
Whether a run ends in order, reads nothing behind the token vector and takes at most one turn for each
token from `place` on.
-/
structure IsSafe (tokens : List Text) (place : Nat) (reads : List (List Nat))
    (r : Except Error Parsed) : Prop where
  length_le : place + reads.length ≤ tokens.length
  lt_length : ∀ places ∈ reads, ∀ i ∈ places, i < tokens.length
  orderly : Orderly tokens r

theorem IsSafe.stop {place : Nat} (h : place < tokens.length) (hr : Orderly tokens r) :
    IsSafe tokens place [[place]] r where
  length_le := h
  lt_length := by simpa using h
  orderly := hr

theorem IsSafe.again {place place' : Nat} {places : List Nat} (h : IsSafe tokens place' reads r)
    (hlt : place < place') (hp : ∀ i ∈ places, i < tokens.length) :
    IsSafe tokens place (places :: reads) r where
  length_le := by
    have := h.length_le
    rw [List.length_cons]
    omega
  lt_length := by
    rw [List.forall_mem_cons]
    exact ⟨hp, h.lt_length⟩
  orderly := h.orderly

theorem occurrenceTokens_eq (m : Manual) (occ : Getopt.Occurrence) :
    occurrenceTokens m occ = occ.flag :: if takesArgument m occ.flag then [occ.argument] else [] := by
  unfold occurrenceTokens
  split <;> rfl

theorem turn_endOfOptions (h : tokens[p.place]? = some endOfOptions) :
    turn m tokens p = ([p.place], .last (.ok ⟨p.table, tokens.drop (p.place + 1), false⟩)) := by
  rw [turn, h]
  rfl

theorem orderly_endOfOptions {i : Nat} (h : tokens[i]? = some endOfOptions) (t : Table) :
    Orderly tokens (.ok ⟨t, tokens.drop (i + 1), false⟩) := by
  apply Orderly.parsed
  rw [← drop_of_getElem? h]
  exact List.drop_suffix i tokens

theorem turn_cases {token : Text} (h : tokens[p.place]? = some token)
    (ha : takesArgument m token = true → p.place + 1 < tokens.length) :
    (∃ r, turn m tokens p = ([p.place], .last r) ∧ Orderly tokens r) ∨
    ∃ places t, (∀ i ∈ places, i < tokens.length) ∧
      turn m tokens p =
        (places, .again ⟨t, p.place + if takesArgument m token then 2 else 1⟩) := by
  have hlt := (List.getElem?_eq_some_iff.1 h).1
  by_cases he : token = endOfOptions
  . subst he
    exact .inl ⟨_, turn_endOfOptions h, orderly_endOfOptions h p.table⟩
  . unfold turn
    rw [h]
    dsimp only
    rw [if_neg he]
    cases hl : lookup? m token with
    | none => exact .inl ⟨_, rfl, .unexpected (List.mem_of_getElem? h)⟩
    | some o =>
      have ht := takesArgument_of_lookup? hl
      dsimp only
      split
      . exact .inl ⟨_, rfl, .help p.table⟩
      . split
        . next hs =>
          rw [hs] at ht
          rw [ht]
          exact .inr ⟨[p.place], _, by simpa using hlt, rfl⟩
        . next hs =>
          rw [Bool.not_eq_true] at hs
          rw [hs] at ht
          have hnext := ha ht
          rw [List.getElem?_eq_getElem hnext, ht]
          exact .inr ⟨[p.place, p.place + 1], _, by simpa using ⟨hlt, hnext⟩, rfl⟩

theorem exists_runs (m : Manual) (occs : List Getopt.Occurrence) (positionals : List Text)
    (before : List Text) (t : Table)
    (htokens : tokens = before ++ (occs.flatMap (occurrenceTokens m) ++ endOfOptions :: positionals)) :
    ∃ reads r, Runs m tokens ⟨t, before.length⟩ reads r ∧ IsSafe tokens before.length reads r := by
  induction occs generalizing before t with
  | nil =>
    have h : tokens[before.length]? = some endOfOptions := by
      rw [htokens]
      simp
    exact ⟨_, _, .stop (turn_endOfOptions h),
      .stop (List.getElem?_eq_some_iff.1 h).1 (orderly_endOfOptions h t)⟩
  | cons occ occs ih =>
    rw [List.flatMap_cons, List.append_assoc] at htokens
    have h : tokens[before.length]? = some occ.flag := by
      rw [htokens, occurrenceTokens_eq]
      simp
    have ha : takesArgument m occ.flag = true → before.length + 1 < tokens.length := by
      intro ha
      rw [htokens, occurrenceTokens_eq, ha]
      simp
    obtain ⟨r, hturn, hr⟩ | ⟨places, t', hp, hturn⟩ :=
      turn_cases (p := ⟨t, before.length⟩) h ha
    . exact ⟨_, r, .stop hturn, .stop (List.getElem?_eq_some_iff.1 h).1 hr⟩
    . have hlength : before.length + (if takesArgument m occ.flag then 2 else 1) =
          (before ++ occurrenceTokens m occ).length := by
        rw [List.length_append, occurrenceTokens_eq]
        split <;> rfl
      rw [hlength] at hturn
      obtain ⟨reads, r, hruns, hsafe⟩ := ih (before ++ occurrenceTokens m occ) t' (by simp [htokens])
      refine ⟨_, r, .again hturn hruns, hsafe.again ?_ hp⟩
      rw [← hlength]
      split <;> omega

/--
Dispatch never reads behind the token vector and takes at most one turn for each token, whatever the
options are. It ends with positional arguments that stand behind the token that ends the options,
with a request for help, or with the error that a token has no option. Nothing else comes out of
parsing but the errors of an argument vector that cannot be read.
-/
theorem dispatch_stays_in_tokens (m : Manual) (argv : List Text) :
    (∃ cause, tokenize m argv = .error cause ∧ parse m argv = .error (.refused cause)) ∨
    ∃ tokens reads, tokenize m argv = .ok tokens ∧
      (∀ reads' r, Runs m tokens ⟨.ofManual m, 0⟩ reads' r ↔ reads' = reads ∧ r = parse m argv) ∧
      reads.length ≤ tokens.length ∧
      (∀ places ∈ reads, ∀ i ∈ places, i < tokens.length) ∧
      Orderly tokens (parse m argv) := by
  cases hs : scan m argv with
  | error cause => exact .inl ⟨cause, tokenize_of_scan_eq_error hs, parse_of_scan_eq_error hs⟩
  | ok s =>
    have htokens := tokenize_of_scan_eq_ok hs
    obtain ⟨reads, r, hruns, hsafe⟩ :=
      exists_runs m s.occurrences s.positionals [] (.ofManual m) rfl
    have hparse : parse m argv = r := by
      rw [parse, htokens]
      exact hruns.dispatch_eq
    subst hparse
    refine .inr ⟨_, reads, htokens, ?_, by simpa using hsafe.length_le, hsafe.lt_length, hsafe.orderly⟩
    intro reads' r
    constructor
    . intro h
      exact ⟨h.reads_unique hruns, h.dispatch_eq.symm.trans hruns.dispatch_eq⟩
    . rintro ⟨rfl, rfl⟩
      exact hruns

end Arguments

end ScriptManual
