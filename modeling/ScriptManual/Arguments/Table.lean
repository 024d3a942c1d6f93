import ScriptManual.Assoc.Basic
import ScriptManual.Manual.Basic

/-!
This module contains the option table of a running script. The table has one key per option and
field, which is the short name followed by the name of the field.
-/

namespace ScriptManual

/--
A table of texts, in the order in which the keys were first set. Every key is in it once.
-/
structure Table where
  entries : List (Text × Text)
  nodup : (entries.map Prod.fst).Nodup := by simp
  deriving Repr, DecidableEq

namespace Table

def key (short : Text) (field : Text) : Text := short ++ field

def switchOn : Text := "true".toList

def switchOff : Text := "false".toList

def empty : Table := { entries := [] }

def get? (t : Table) (key : Text) : Option Text :=
  t.entries.lookup key

def insert (t : Table) (key text : Text) : Table :=
  ⟨Assoc.set key text t.entries, Assoc.nodup_keys_set key text t.nodup⟩

def ofList (entries : List (Text × Text)) : Table :=
  entries.foldl (fun t (key, text) => t.insert key text) empty

def ofManual (m : Manual) : Table :=
  ofList <| m.options.flatMap fun o => o.populated.map fun (f, text) => (key o.short f.name, text)

def keys (t : Table) : List Text :=
  (t.entries.map Prod.fst).mergeSort Text.le

def value? (t : Table) (short : Text) : Option Text :=
  match t.get? (key short Field.value.name) with
  | some text => some text
  | none => if (t.get? (key short Field.argument.name)).isNone then some switchOff else none

def get (t : Table) (short field : Text) : Text :=
  (t.get? (key short field)).getD []

def set? (t : Table) (short field : Text) (values : List Text) : Option Table :=
  if values.isEmpty then none else some (t.insert (key short field) (Text.join [' '] values))

/--
What the accessor of a running script does with its arguments: it lists the keys, looks up a value or
a field, or sets a field. The result is what it prints, if it prints anything.
-/
def query (t : Table) : List Text → Option Text × Table
  | [] => (some (Text.join [' '] t.keys), t)
  | [short] => (t.value? short, t)
  | [short, field] => (some (t.get short field), t)
  | short :: field :: values => (none, t.insert (key short field) (Text.join [' '] values))

@[simp]
theorem get?_insert_self (t : Table) (key text : Text) : (t.insert key text).get? key = some text :=
  Assoc.lookup_set_self key text t.entries

theorem get?_insert_of_ne (t : Table) {key k : Text} (text : Text) (h : k ≠ key) :
    (t.insert key text).get? k = t.get? k :=
  Assoc.lookup_set_of_ne text t.entries h

@[simp]
theorem get?_empty (key : Text) : empty.get? key = none := rfl

end Table

end ScriptManual
