import ScriptManual.Arguments.Operation
import ScriptManual.Proofs.Arguments.Keys

/-!
This module contains that a table behaves as a single map from keys to texts, through any list of
operations. What an operation replies follows from the text that every key was last set to before it.
-/

namespace ScriptManual

theorem Text.lt_of_le_of_ne {s t : Text} (h : le s t = true) (hne : s ≠ t) : s < t := by
  induction s generalizing t with
  | nil =>
    cases t with
    | nil => contradiction
    | cons b bs => exact List.nil_lt_cons b bs
  | cons a as ih =>
    cases t with
    | nil => simp [le] at h
    | cons b bs =>
      rw [List.cons_lt_cons_iff]
      by_cases hab : a = b
      . subst hab
        rw [le, if_pos rfl] at h
        exact .inr ⟨rfl, ih h fun he => hne (he ▸ rfl)⟩
      . rw [le, if_neg hab, decide_eq_true_eq] at h
        exact .inl h

namespace Table

theorem nodup_keys (t : Table) : t.keys.Nodup :=
  t.perm_keys.nodup_iff.2 t.nodup

theorem pairwise_lt_keys (t : Table) : t.keys.Pairwise (· < ·) := by
  apply (t.pairwise_keys.and t.nodup_keys).imp
  intro k k' ⟨hle, hne⟩
  exact Text.lt_of_le_of_ne hle hne

/--
The key that an operation sets, together with the text that it sets it to.
-/
def Operation.assignment? : Operation → Option (Text × Text)
  | .set short field (t :: ts) => some (short ++ field, Text.join [' '] (t :: ts))
  | .query (short :: field :: t :: ts) => some (short ++ field, Text.join [' '] (t :: ts))
  | _ => none

/--
The text that a key has after some operations: the one that it was set to last, whatever it was put
together from, or else the one that it had before them all.
-/
def latest (t : Table) (ops : List Operation) (k : Text) : Option Text :=
  ((ops.filterMap Operation.assignment?).reverse.lookup k).or (t.get? k)

/--
Whether a list has the keys that have a text, and has them in the order of their characters.
-/
structure Lists (memory : Text → Option Text) (ks : List Text) : Prop where
  increasing : ks.Pairwise (· < ·)
  mem_iff : ∀ k, k ∈ ks ↔ (memory k).isSome = true

/--
What operations reply if `memory` has the text of every key.
-/
inductive Operation.Replies (memory : Text → Option Text) : Operation → Reply → Prop where
  | keys {ks : List Text} (h : Lists memory ks) : Replies memory .keys (.texts ks)
  | value {short text : Text} (h : memory (short ++ "value".toList) = some text) :
    Replies memory (.value short) (.text text)
  | valueOfSwitch {short : Text} (h : memory (short ++ "value".toList) = none)
    (ha : memory (short ++ "argument".toList) = none) :
    Replies memory (.value short) (.text "false".toList)
  | noValue {short : Text} (h : memory (short ++ "value".toList) = none)
    (ha : memory (short ++ "argument".toList) ≠ none) : Replies memory (.value short) .nothing
  | get (short field : Text) :
    Replies memory (.get short field) (.text ((memory (short ++ field)).getD []))
  | set (short field t : Text) (ts : List Text) : Replies memory (.set short field (t :: ts)) .nothing
  | setToNothing (short field : Text) : Replies memory (.set short field []) .noValues
  | queryKeys {ks : List Text} (h : Replies memory .keys (.texts ks)) :
    Replies memory (.query []) (.text (Text.join [' '] ks))
  | queryValue {short : Text} {reply : Reply} (h : Replies memory (.value short) reply) :
    Replies memory (.query [short]) reply
  | queryGet {short field : Text} {reply : Reply} (h : Replies memory (.get short field) reply) :
    Replies memory (.query [short, field]) reply
  | querySet (short field t : Text) (ts : List Text) :
    Replies memory (.query (short :: field :: t :: ts)) .nothing

theorem lists_keys (t : Table) : Lists t.get? t.keys where
  increasing := t.pairwise_lt_keys
  mem_iff := fun _ => mem_keys_iff

theorem Lists.nodup {memory : Text → Option Text} {ks : List Text} (h : Lists memory ks) :
    ks.Nodup := by
  apply h.increasing.imp
  rintro k k' hlt rfl
  exact List.lt_irrefl k hlt

theorem Lists.unique {memory : Text → Option Text} {ks ks' : List Text} (h : Lists memory ks)
    (h' : Lists memory ks') : ks = ks' := by
  have hp : ks.Perm ks' := by
    rw [List.perm_ext_iff_of_nodup h.nodup h'.nodup]
    intro k
    rw [h.mem_iff, h'.mem_iff]
  apply hp.eq_of_pairwise _ h.increasing h'.increasing
  intro a b _ _ hab hba
  exact absurd hab (List.lt_asymm hba)

theorem value?_eq (t : Table) (short : Text) :
    t.value? short =
      match t.get? (short ++ "value".toList) with
      | some text => some text
      | none => if (t.get? (short ++ "argument".toList)).isNone then some switchOff else none := rfl

theorem replies_value_iff (t : Table) {short : Text} {r : Reply} :
    (Operation.value short).Replies t.get? r ↔ r = .ofText? (t.value? short) := by
  rw [value?_eq]
  constructor
  . intro h
    cases h with
    | value h =>
      rw [h]
      rfl
    | valueOfSwitch h ha =>
      rw [h, ha]
      rfl
    | noValue h ha =>
      obtain ⟨argument, ha⟩ := Option.ne_none_iff_exists'.1 ha
      rw [h, ha]
      rfl
  . rintro rfl
    split
    . next h => exact .value h
    . next h =>
      split
      . next ha => exact .valueOfSwitch h (Option.isNone_iff_eq_none.1 ha)
      . next ha => exact .noValue h fun he => ha (Option.isNone_iff_eq_none.2 he)

theorem replies_keys_iff (t : Table) {r : Reply} :
    Operation.keys.Replies t.get? r ↔ r = .texts t.keys := by
  constructor
  . rintro ⟨h⟩
    rw [h.unique t.lists_keys]
  . rintro rfl
    exact .keys t.lists_keys

theorem replies_get_iff (t : Table) {short field : Text} {r : Reply} :
    (Operation.get short field).Replies t.get? r ↔ r = .text (t.get short field) := by
  constructor
  . rintro ⟨⟩
    rfl
  . rintro rfl
    exact .get short field

theorem replies_set_iff (t : Table) {short field : Text} {values : List Text} {r : Reply} :
    (Operation.set short field values).Replies t.get? r ↔
      r = (t.apply (.set short field values)).1 := by
  cases values with
  | nil =>
    constructor
    . rintro ⟨⟩
      rfl
    . rintro rfl
      exact .setToNothing short field
  | cons v vs =>
    constructor
    . rintro ⟨⟩
      rfl
    . rintro rfl
      exact .set short field v vs

theorem replies_query_iff (t : Table) {arguments : List Text} {r : Reply} :
    (Operation.query arguments).Replies t.get? r ↔ r = (t.apply (.query arguments)).1 := by
  match arguments with
  | [] =>
    constructor
    . intro h
      cases h with
      | queryKeys h =>
        cases t.replies_keys_iff.1 h
        rfl
    . rintro rfl
      exact .queryKeys (t.replies_keys_iff.2 rfl)
  | [short] =>
    constructor
    . intro h
      cases h with
      | queryValue h => exact t.replies_value_iff.1 h
    . intro h
      exact .queryValue (t.replies_value_iff.2 h)
  | [short, field] =>
    constructor
    . intro h
      cases h with
      | queryGet h => exact t.replies_get_iff.1 h
    . intro h
      exact .queryGet (t.replies_get_iff.2 h)
  | short :: field :: v :: vs =>
    constructor
    . rintro ⟨⟩
      rfl
    . rintro rfl
      exact .querySet short field v vs

theorem replies_apply_iff (t : Table) (op : Operation) {r : Reply} :
    op.Replies t.get? r ↔ r = (t.apply op).1 := by
  cases op with
  | keys => exact t.replies_keys_iff
  | value short => exact t.replies_value_iff
  | get short field => exact t.replies_get_iff
  | set short field values => exact t.replies_set_iff
  | query arguments => exact t.replies_query_iff

theorem snd_apply (t : Table) (op : Operation) :
    (t.apply op).2 =
      match op.assignment? with
      | some (k, text) => t.insert k text
      | none => t := by
  match op with
  | .keys | .value _ | .get _ _ | .set _ _ [] | .set _ _ (_ :: _) => rfl
  | .query [] | .query [_] | .query [_, _] | .query (_ :: _ :: _ :: _) => rfl

def afterAll (t : Table) (ops : List Operation) : Table :=
  ops.foldl (fun t op => (t.apply op).2) t

theorem latest_cons (t : Table) (op : Operation) (ops : List Operation) (k : Text) :
    t.latest (op :: ops) k = (t.apply op).2.latest ops k := by
  unfold latest
  rw [snd_apply, List.filterMap_cons]
  cases op.assignment? with
  | none => rfl
  | some e =>
    obtain ⟨key, text⟩ := e
    dsimp only
    rw [List.reverse_cons, List.lookup_append, Option.or_assoc, get?_insert]
    congr 1
    split
    . next hk => rw [hk, List.lookup_cons_self, Option.some_or]
    . next hk =>
      rw [List.lookup_cons, beq_eq_false_iff_ne.2 hk]
      rfl

theorem get?_afterAll (t : Table) (ops : List Operation) : (t.afterAll ops).get? = t.latest ops := by
  funext k
  induction ops generalizing t with
  | nil => simp [afterAll, latest]
  | cons op ops ih =>
    rw [latest_cons]
    exact ih (t.apply op).2

theorem afterAll_concat (t : Table) (ops : List Operation) (op : Operation) :
    t.afterAll (ops ++ [op]) = ((t.afterAll ops).apply op).2 := by
  rw [afterAll, List.foldl_append]
  rfl

theorem isSome_latest_iff {t : Table} {ops : List Operation} {k : Text} :
    (t.latest ops k).isSome = true ↔
      k ∈ t.keys ∨ ∃ op ∈ ops, ∃ text, op.assignment? = some (k, text) := by
  rw [latest, Option.isSome_or, Bool.or_eq_true, ← mem_keys_iff, or_comm, List.lookup_isSome_iff]
  apply or_congr_right
  constructor
  . rintro ⟨⟨key, text⟩, he, hk⟩
    obtain rfl := beq_iff_eq.1 hk
    rw [List.mem_reverse, List.mem_filterMap] at he
    obtain ⟨op, ho, ha⟩ := he
    exact ⟨op, ho, text, ha⟩
  . rintro ⟨op, ho, text, ha⟩
    refine ⟨(k, text), ?_, beq_self_eq_true k⟩
    rw [List.mem_reverse, List.mem_filterMap]
    exact ⟨op, ho, ha⟩

theorem getElem?_run (t : Table) (done : List Operation) (op : Operation) (rest : List Operation) :
    (t.run (done ++ op :: rest))[done.length]? = some ((t.afterAll done).apply op) := by
  induction done generalizing t with
  | nil => rfl
  | cons first done ih => exact ih (t.apply first).2

def stages (t : Table) (ops : List Operation) : List Table :=
  t :: (t.run ops).map Prod.snd

theorem getElem?_stages (t : Table) (done rest : List Operation) :
    (t.stages (done ++ rest))[done.length]? = some (t.afterAll done) := by
  induction done generalizing t with
  | nil => rfl
  | cons first done ih => exact ih (t.apply first).2

/--
A table is a single map through all operations. The reply of an operation is the one that goes with
the texts that the keys were last set to before it. Only an operation that has a text to set changes
the table, and only under its key. The keys are listed in their order, and are those that the table
started with and those that were set since.
-/
theorem run_keeps_latest (t : Table) (done : List Operation) (op : Operation) (rest : List Operation) :
    ∃ before reply after,
      (t.stages (done ++ op :: rest))[done.length]? = some before ∧
      (t.run (done ++ op :: rest))[done.length]? = some (reply, after) ∧
      before.get? = t.latest done ∧
      (∀ r, op.Replies (t.latest done) r ↔ r = reply) ∧
      (op.assignment? = none → after = before) ∧
      (∀ key text, op.assignment? = some (key, text) →
        ∀ k, after.get? k = if k = key then some text else before.get? k) ∧
      after.keys.Pairwise (· < ·) ∧
      ∀ k, k ∈ after.keys ↔
        k ∈ t.keys ∨ ∃ op' ∈ done ++ [op], ∃ text, op'.assignment? = some (k, text) := by
  have hget := t.get?_afterAll done
  refine ⟨t.afterAll done, ((t.afterAll done).apply op).1, ((t.afterAll done).apply op).2,
    t.getElem?_stages done (op :: rest), t.getElem?_run done op rest, hget, ?_, ?_, ?_,
    pairwise_lt_keys _, ?_⟩
  . intro r
    rw [← hget]
    exact replies_apply_iff _ op
  . intro ha
    rw [snd_apply, ha]
  . intro key text ha k
    rw [snd_apply, ha]
    exact get?_insert _ key text k
  . intro k
    rw [mem_keys_iff, ← afterAll_concat, get?_afterAll, isSome_latest_iff]

example :
    (empty.run [.set ['a'] "bvalue".toList [['x']], .value ['a', 'b']]).map Prod.fst =
      [.nothing, .text ['x']] := by
  decide

end Table

end ScriptManual
