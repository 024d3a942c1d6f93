import ScriptManual.Arguments.Table

/-!
This module contains the operations on an option table as values, together with what they reply. A
table goes through a list of operations step by step.
-/

namespace ScriptManual

namespace Table

inductive Operation where
  | keys
  | value (short : Text)
  | get (short field : Text)
  | set (short field : Text) (values : List Text)
  | query (arguments : List Text)
  deriving Repr, DecidableEq

inductive Reply where
  | nothing
  | text (t : Text)
  | texts (ts : List Text)
  | noValues
  deriving Repr, DecidableEq

def Reply.ofText? : Option Text → Reply
  | some t => .text t
  | none => .nothing

def Reply.refusal? : Reply → Option Text
  | .noValues => some "set() needs at least one value.".toList
  | _ => none

def apply (t : Table) : Operation → Reply × Table
  | .keys => (.texts t.keys, t)
  | .value short => (.ofText? (t.value? short), t)
  | .get short field => (.text (t.get short field), t)
  | .set short field values =>
    match t.set? short field values with
    | some t' => (.nothing, t')
    | none => (.noValues, t)
  | .query arguments =>
    let (printed?, t') := t.query arguments
    (.ofText? printed?, t')

def run (t : Table) : List Operation → List (Reply × Table)
  | [] => []
  | op :: ops =>
    let step := t.apply op
    step :: step.2.run ops

end Table

end ScriptManual
