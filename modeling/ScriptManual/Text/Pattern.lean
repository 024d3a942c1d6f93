import ScriptManual.Text.Basic

/-!
This module contains patterns that backtrack. A pattern lists every way to read the beginning of a
text, in order of preference, so a later part of a pattern that fails falls back on the next way of
an earlier part. The match is the first way that is left at the end.
-/

namespace ScriptManual

/--
All ways to read the beginning of a text as an `α`, the preferred way first, each with the text
left to read.
-/
def Pattern (α : Type) := Text → List (α × Text)

structure Pattern.Piece where
  source : Text
  length : Nat

def Pattern.Piece.text (p : Pattern.Piece) : Text := p.source.take p.length

namespace Pattern

variable {α β : Type}

def ways (p : Pattern α) (t : Text) : List (α × Text) := p t

instance : Monad Pattern where
  pure a := fun t => [(a, t)]
  bind p f := fun t => (p.ways t).flatMap fun (a, rest) => (f a).ways rest

def char (p : Char → Bool) : Pattern Char := fun
  | [] => []
  | c :: cs => if p c then [(c, cs)] else []

def literal (word : Text) : Pattern Unit := fun t =>
  match word.isPrefixOf? t with
  | some rest => [((), rest)]
  | none => []

def rests (p : Char → Bool) : Text → List Text
  | [] => [[]]
  | c :: cs => (c :: cs) :: if p c then rests p cs else []

def run (p : Char → Bool) : Pattern Piece := fun t =>
  ((rests p t).zipIdx.map fun (rest, n) => (⟨t, n⟩, rest)).reverse

def runFrom (first p : Char → Bool) : Pattern Piece := fun
  | [] => []
  | c :: cs =>
    if first c then ((rests p cs).zipIdx.map fun (rest, n) => (⟨c :: cs, n + 1⟩, rest)).reverse else []

def run1 (p : Char → Bool) : Pattern Piece :=
  runFrom p p

def optional (p : Pattern α) : Pattern (Option α) := fun t =>
  (p.ways t).map (fun (a, rest) => (some a, rest)) ++ [(none, t)]

def restOfLine : Pattern Text := fun t =>
  if '\n' ∈ t then [] else [(t, [])]

def match? (p : Pattern α) (t : Text) : Option α :=
  (p.ways t).head?.map Prod.fst

@[simp]
theorem ways_pure (a : α) (t : Text) : (pure a : Pattern α).ways t = [(a, t)] := rfl

@[simp]
theorem ways_bind (p : Pattern α) (f : α → Pattern β) (t : Text) :
    (p >>= f).ways t = (p.ways t).flatMap fun (a, rest) => (f a).ways rest := rfl

@[simp]
theorem ways_char_nil (p : Char → Bool) : (char p).ways [] = [] := rfl

@[simp]
theorem ways_char_cons (p : Char → Bool) (c : Char) (cs : Text) :
    (char p).ways (c :: cs) = if p c then [(c, cs)] else [] := rfl

end Pattern

end ScriptManual
