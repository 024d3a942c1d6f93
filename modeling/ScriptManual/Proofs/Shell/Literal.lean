import Mathlib.Data.List.Basic
import ScriptManual.Shell.Literal

/-!
This module contains how a shell reads an ANSI-C string, and that it reads back what has been written
as a literal.
-/

namespace ScriptManual

namespace Shell

namespace Literal

def letters : List (Char × Char) :=
  [('\\', '\\'), ('\'', '\''), ('"', '"'), ('?', '?'), ('a', '\x07'), ('b', '\x08'), ('e', '\x1b'),
    ('E', '\x1b'), ('f', '\x0c'), ('n', '\n'), ('r', '\r'), ('t', '\t'), ('v', '\x0b')]

def digits (base most : Nat) (t : Text) : Text :=
  (t.take most).takeWhile fun c => (Text.hexDigit? c).any (· < base)

def digitsValue (base : Nat) (t : Text) : Nat :=
  t.foldl (fun n c => base * n + (Text.hexDigit? c).getD 0) 0

/--
The text that a number is read as. Zero ends a string, and numbers without a character are not read.
-/
def character? (n : Nat) : Option Text :=
  if n ≠ 0 ∧ n.isValidChar then some [Char.ofNat n] else none

/--
The text that a byte is read as. The bytes from 128 on are only parts of characters.
-/
def byte? (n : Nat) : Option Text :=
  if n < 128 then character? n else none

def control (c : Char) : Char :=
  if c = '?' then '\x7f' else Char.ofNat (c.toUpper.toNat % 32)

/--
What a backslash is read as together with the text behind it, and how many characters of that text
belong to it. A backslash that none of the rules is about stands for itself.
-/
def escaped? (t : Text) : Option (Text × Nat) :=
  match t with
  | [] => some (['\\'], 0)
  | c :: cs =>
    match letters.lookup c with
    | some d => some ([d], 1)
    | none =>
      let octal := digits 8 3 t
      let byte := digits 16 2 cs
      let short := digits 16 4 cs
      let long := digits 16 8 cs
      if octal ≠ [] then (byte? (digitsValue 8 octal % 256)).map (·, octal.length)
      else if c = 'x' ∧ byte ≠ [] then (byte? (digitsValue 16 byte)).map (·, 1 + byte.length)
      else if c = 'u' ∧ short ≠ [] then
        (character? (digitsValue 16 short)).map (·, 1 + short.length)
      else if c = 'U' ∧ long ≠ [] then (character? (digitsValue 16 long)).map (·, 1 + long.length)
      else if c = 'c' then
        -- The character that is typed with the control key held. Only here does a backslash that
        -- is meant itself take a second one behind it.
        match cs with
        | [] => some (['\\', 'c'], 1)
        | '\\' :: '\\' :: _ => some ([control '\\'], 3)
        | d :: _ => some ([control d], 2)
      else some (['\\', c], 1)

def decode? : Text → Option Text
  | [] => some []
  | c :: cs =>
    if c = '\\' then
      match escaped? cs with
      | none => none
      | some (t, n) => (decode? (cs.drop n)).map (t ++ ·)
    else
      (decode? cs).map (c :: ·)
termination_by t => t.length
decreasing_by
  . simp only [List.length_cons, List.length_drop]
    omega
  . simp

/--
Cut a text at the apostrophe that closes a string. A backslash takes the character behind it along,
whatever that is.
-/
def close? : Text → Option (Text × Text)
  | [] => none
  | '\\' :: c :: cs => (close? cs).map fun (s, rest) => ('\\' :: c :: s, rest)
  | c :: cs => if c = '\'' then some ([], cs) else (close? cs).map fun (s, rest) => (c :: s, rest)

def read? (t : Text) : Option (Text × Text) :=
  match t with
  | '$' :: '\'' :: cs =>
    match close? cs with
    | none => none
    | some (s, rest) => (decode? s).map (·, rest)
  | _ => none

def readWhole? (t : Text) : Option Text :=
  match read? t with
  | some (s, []) => some s
  | _ => none

def sequence? : Char → Option Char
  | '\\' => some '\\'
  | 'n' => some '\n'
  | '\'' => some '\''
  | _ => none

def scan? : Text → Option (Text × Text)
  | [] => none
  | ['\\'] => none
  | '\\' :: c :: cs =>
    match sequence? c with
    | none => none
    | some d => (scan? cs).map fun (t, rest) => (d :: t, rest)
  | c :: cs =>
    if c = '\'' then some ([], cs) else (scan? cs).map fun (t, rest) => (c :: t, rest)

def readStrict? : Text → Option (Text × Text)
  | '$' :: '\'' :: cs => scan? cs
  | _ => none

theorem scan?_cons {c : Char} (hb : c ≠ '\\') (hq : c ≠ '\'') (cs : Text) :
    scan? (c :: cs) = (scan? cs).map fun (t, rest) => (c :: t, rest) := by
  simp [scan?, hb, hq]

theorem scan?_sequence {c d : Char} (h : sequence? c = some d) (cs : Text) :
    scan? ('\\' :: c :: cs) = (scan? cs).map fun (t, rest) => (d :: t, rest) := by
  simp [scan?, h]

theorem lookup_letters_of_sequence? {c d : Char} (h : sequence? c = some d) :
    letters.lookup c = some d := by
  unfold sequence? at h
  split at h <;> cases h <;> rfl

theorem exists_of_scan? {t s rest : Text} (h : scan? t = some (s, rest)) :
    ∃ raw, close? t = some (raw, rest) ∧ decode? raw = some s := by
  induction t using scan?.induct generalizing s with
  | case1 => contradiction
  | case2 => contradiction
  | case3 c cs hc =>
    rw [scan?, hc] at h
    contradiction
  | case4 c cs d hc ih =>
    rw [scan?_sequence hc] at h
    obtain ⟨⟨s', rest'⟩, hs, he⟩ := Option.map_eq_some_iff.1 h
    cases he
    obtain ⟨raw, hclose, hdecode⟩ := ih hs
    refine ⟨'\\' :: c :: raw, ?_, ?_⟩
    . rw [close?, hclose]
      rfl
    . have hd := lookup_letters_of_sequence? hc
      simp [decode?, escaped?, hd, hdecode]
  | case5 cs =>
    cases h
    exact ⟨[], rfl, by simp [decode?]⟩
  | case6 c cs hnil hcons hq ih =>
    have hb : c ≠ '\\' := by
      rintro rfl
      cases cs with
      | nil => exact hnil rfl rfl
      | cons d ds => exact hcons d ds rfl rfl
    rw [scan?_cons hb hq] at h
    obtain ⟨⟨s', rest'⟩, hs, he⟩ := Option.map_eq_some_iff.1 h
    cases he
    obtain ⟨raw, hclose, hdecode⟩ := ih hs
    refine ⟨c :: raw, ?_, ?_⟩
    . simp [close?, hq, hclose]
    . simp [decode?, hb, hdecode]

theorem read?_of_readStrict? {t : Text} {p : Text × Text} (h : readStrict? t = some p) :
    read? t = some p := by
  unfold readStrict? at h
  split at h
  . next cs =>
    obtain ⟨s, rest⟩ := p
    obtain ⟨raw, hclose, hdecode⟩ := exists_of_scan? h
    rw [read?, hclose]
    dsimp only
    rw [hdecode]
    rfl
  . contradiction

theorem escapeChar_cases (c : Char) :
    (escapeChar c = [c] ∧ c ≠ '\\' ∧ c ≠ '\'' ∧ c ≠ '\n') ∨
      ∃ d, escapeChar c = ['\\', d] ∧ sequence? d = some c ∧ d ≠ '\n' := by
  unfold escapeChar
  split
  . next h => exact .inr ⟨'\\', rfl, by rw [h]; rfl, by decide⟩
  . next hb =>
    split
    . next h => exact .inr ⟨'n', rfl, by rw [h]; rfl, by decide⟩
    . next hn =>
      split
      . next h => exact .inr ⟨'\'', rfl, by rw [h]; rfl, by decide⟩
      . next hq => exact .inl ⟨rfl, hb, hq, hn⟩

theorem scan?_escapeChar (c : Char) (t : Text) :
    scan? (escapeChar c ++ t) = (scan? t).map fun (s, rest) => (c :: s, rest) := by
  obtain ⟨he, hb, hq, -⟩ | ⟨d, he, hd, -⟩ := escapeChar_cases c
  . rw [he]
    exact scan?_cons hb hq t
  . rw [he]
    exact scan?_sequence hd t

theorem scan?_escape (t rest : Text) : scan? (escape t ++ '\'' :: rest) = some (t, rest) := by
  induction t with
  | nil => rfl
  | cons c cs ih =>
    rw [escape_cons, List.append_assoc, scan?_escapeChar, ih]
    rfl

theorem readStrict?_write (t rest : Text) : readStrict? (write t ++ rest) = some (t, rest) := by
  have hw : write t ++ rest = '$' :: '\'' :: (escape t ++ '\'' :: rest) := by
    simp [write]
  rw [hw, readStrict?, scan?_escape]

theorem read?_write (t rest : Text) : read? (write t ++ rest) = some (t, rest) :=
  read?_of_readStrict? (readStrict?_write t rest)

example : readWhole? "$'it\\'s\\x41\\101\\u00e9\\\\n\\n'".toList = some "it'sAAé\\n\n".toList := by
  decide +kernel

theorem escape_eq_replaceChar (t : Text) :
    escape t =
      Text.replaceChar '\'' ['\\', '\'']
        (Text.replaceChar '\n' ['\\', 'n'] (Text.replaceChar '\\' ['\\', '\\'] t)) := by
  unfold escape Text.replaceChar
  rw [List.flatMap_assoc, List.flatMap_assoc]
  apply List.flatMap_congr
  intro c _
  unfold escapeChar
  -- No replacement finds anything in what the ones before it have put in.
  by_cases hb : c = '\\'
  . subst hb
    rfl
  . by_cases hn : c = '\n'
    . subst hn
      rfl
    . by_cases hq : c = '\''
      . subst hq
        rfl
      . simp [hb, hn, hq]

theorem not_mem_escape (t : Text) : '\n' ∉ escape t := by
  rw [escape, List.mem_flatMap]
  rintro ⟨c, -, hc⟩
  obtain ⟨he, -, -, hn⟩ | ⟨d, he, -, hd⟩ := escapeChar_cases c
  . rw [he, List.mem_singleton] at hc
    exact hn hc.symm
  . simp [he, Ne.symm hd] at hc

/--
A literal is read back exactly, and what is behind it is left over. It stands on one line. Replacing
the backslashes, then the line feeds and then the apostrophes of the whole text comes to escaping
every character for itself, so a text can be escaped in pieces.
-/
theorem write_delimits_itself (t rest : Text) :
    readStrict? (write t ++ rest) = some (t, rest) ∧
    '\n' ∉ escape t ∧
    Text.replaceChar '\'' ['\\', '\'']
      (Text.replaceChar '\n' ['\\', 'n'] (Text.replaceChar '\\' ['\\', '\\'] t)) = escape t ∧
    ∀ u, escape (t ++ u) = escape t ++ escape u :=
  ⟨readStrict?_write t rest, not_mem_escape t, (escape_eq_replaceChar t).symm, escape_append t⟩

end Literal

end Shell

end ScriptManual
