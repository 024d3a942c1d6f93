import Mathlib.Data.List.Basic
import ScriptManual.Document.Html

/-!
This module contains how markup is read: first as tags and characters, then as elements with their
contents. What has been written from elements is read back as the same ones.
-/

namespace ScriptManual

namespace Document

namespace Html

inductive Token where
  | tag (body : Text)
  | char (c : Char)
  deriving Repr, DecidableEq

namespace Token

def tag? : Token → Option Text
  | .tag body => some body
  | .char _ => none

def write : Token → Text
  | .tag body => '<' :: body ++ ['>']
  | .char c => escapeChar c

def isClean : Token → Bool
  | .tag body => !body.contains '<' && !body.contains '>'
  | .char _ => true

end Token

def entities : List (Text × Char) :=
  [("amp".toList, '&'), ("lt".toList, '<'), ("gt".toList, '>'), ("quot".toList, '"'),
    ("#x27".toList, '\'')]

inductive Place where
  | text
  | tag (body : Text)
  | entity (name : Text)

/--
Read markup. Every `<` starts a tag and every `&` one of the entities, whatever is behind them. It is
an error if the tag or the entity does not end.
-/
def tokens? : Place → Text → Option (List Token)
  | .text, [] => some []
  | .text, c :: cs =>
    if c = '<' then tokens? (.tag []) cs
    else if c = '&' then tokens? (.entity []) cs
    else (tokens? .text cs).map (.char c :: ·)
  | .tag _, [] => none
  | .tag body, c :: cs =>
    if c = '>' then (tokens? .text cs).map (.tag body :: ·)
    else if c = '<' then none
    else tokens? (.tag (body ++ [c])) cs
  | .entity _, [] => none
  | .entity name, c :: cs =>
    if c = ';' then
      match entities.lookup name with
      | none => none
      | some d => (tokens? .text cs).map (.char d :: ·)
    else if c = '<' then none
    else tokens? (.entity (name ++ [c])) cs

theorem tokens?_tag {body : Text} (h : Token.isClean (.tag body) = true) (start rest : Text) :
    tokens? (.tag start) (body ++ '>' :: rest) =
      (tokens? .text rest).map (.tag (start ++ body) :: ·) := by
  induction body generalizing start with
  | nil => simp [tokens?]
  | cons c cs ih =>
    simp only [Token.isClean, List.contains_cons, Bool.not_or, Bool.and_eq_true] at h ih
    have hl : c ≠ '<' := by
      rintro rfl
      simp at h
    have hr : c ≠ '>' := by
      rintro rfl
      simp at h
    rw [List.cons_append, tokens?, if_neg hr, if_neg hl, ih ⟨h.1.2, h.2.2⟩]
    simp

theorem tokens?_entity {name : Text} (hl : '<' ∉ name) (hs : ';' ∉ name) {start : Text} {c : Char}
    (hc : entities.lookup (start ++ name) = some c) (rest : Text) :
    tokens? (.entity start) (name ++ ';' :: rest) = (tokens? .text rest).map (.char c :: ·) := by
  induction name generalizing start with
  | nil =>
    rw [List.append_nil] at hc
    simp [tokens?, hc]
  | cons d ds ih =>
    rw [List.mem_cons, not_or] at hl hs
    rw [List.cons_append, tokens?, if_neg (Ne.symm hs.1), if_neg (Ne.symm hl.1)]
    apply ih hl.2 hs.2
    rw [List.append_assoc]
    exact hc

theorem escapeChar_cases (c : Char) :
    (escapeChar c = [c] ∧ c ≠ '<' ∧ c ≠ '&') ∨
      ∃ name, escapeChar c = '&' :: name ++ [';'] ∧ entities.lookup name = some c ∧
        '<' ∉ name ∧ ';' ∉ name := by
  unfold escapeChar
  split
  . next h => exact .inr ⟨"amp".toList, rfl, by rw [h]; rfl, by decide, by decide⟩
  . next ha =>
    split
    . next h => exact .inr ⟨"lt".toList, rfl, by rw [h]; rfl, by decide, by decide⟩
    . next hl =>
      split
      . next h => exact .inr ⟨"gt".toList, rfl, by rw [h]; rfl, by decide, by decide⟩
      . split
        . next h => exact .inr ⟨"quot".toList, rfl, by rw [h]; rfl, by decide, by decide⟩
        . split
          . next h => exact .inr ⟨"#x27".toList, rfl, by rw [h]; rfl, by decide, by decide⟩
          . exact .inl ⟨rfl, hl, ha⟩

theorem tokens?_escapeChar (c : Char) (rest : Text) :
    tokens? .text (escapeChar c ++ rest) = (tokens? .text rest).map (.char c :: ·) := by
  obtain ⟨he, hl, ha⟩ | ⟨name, he, hc, hl, hs⟩ := escapeChar_cases c
  . rw [he, List.singleton_append, tokens?, if_neg hl, if_neg ha]
  . have hname : entities.lookup ([] ++ name) = some c := hc
    rw [he, List.append_assoc, List.cons_append, tokens?, if_neg (by decide), if_pos rfl]
    exact tokens?_entity hl hs hname rest

theorem tokens?_write {ts : List Token} (h : ∀ t ∈ ts, t.isClean = true) (rest : Text) :
    tokens? .text (ts.flatMap Token.write ++ rest) = (tokens? .text rest).map (ts ++ ·) := by
  induction ts with
  | nil => simp
  | cons t ts ih =>
    have hts := ih fun t' ht => h t' (by simp [ht])
    rw [List.flatMap_cons, List.append_assoc]
    cases t with
    | tag body =>
      have hb : Token.write (.tag body) ++ (ts.flatMap Token.write ++ rest) =
          '<' :: (body ++ '>' :: (ts.flatMap Token.write ++ rest)) := by
        simp [Token.write]
      rw [hb, tokens?, if_pos rfl, tokens?_tag (h _ (by simp)), hts, Option.map_map]
      rfl
    | char c =>
      rw [Token.write, tokens?_escapeChar, hts, Option.map_map]
      rfl

def Place.started : Place → Nat
  | .text => 0
  | .tag _ => 1
  | .entity _ => 0

theorem count_eq_length_tags {p : Place} {t : Text} {ts : List Token} (h : tokens? p t = some ts) :
    t.count '<' + p.started = (ts.filterMap Token.tag?).length := by
  fun_induction tokens? p t generalizing ts with
  | case1 =>
    cases h
    rfl
  | case2 cs ih =>
    rw [List.count_cons_self]
    exact ih h
  | case3 cs _ ih =>
    rw [List.count_cons_of_ne (by decide)]
    exact ih h
  | case4 c cs hl _ ih =>
    obtain ⟨ts, hts, rfl⟩ := Option.map_eq_some_iff.1 h
    rw [List.count_cons_of_ne hl, List.filterMap_cons_none rfl]
    exact ih hts
  | case6 body cs ih =>
    obtain ⟨ts, hts, rfl⟩ := Option.map_eq_some_iff.1 h
    rw [List.count_cons_of_ne (by decide)]
    exact congrArg Nat.succ (ih hts)
  | case8 body c cs _ hl ih =>
    rw [List.count_cons_of_ne hl]
    exact ih h
  | case11 name cs d _ ih =>
    obtain ⟨ts, hts, rfl⟩ := Option.map_eq_some_iff.1 h
    rw [List.count_cons_of_ne (by decide), List.filterMap_cons_none rfl]
    exact ih hts
  | case13 name c cs _ hl ih =>
    rw [List.count_cons_of_ne hl]
    exact ih h
  | _ => contradiction

inductive Node where
  | char (c : Char)
  | single (tag : Text)
  | element (tag : Text) (content : List Node)

def tagName (tag : Text) : Text :=
  tag.takeWhile (· != ' ')

def isSingle (tag : Text) : Bool :=
  tag.head? == some '!' || ["meta".toList, "br".toList].contains (tagName tag)

/--
Read the pieces of a page. The tags that are still open are given with what is in front of them, the
newest first.
-/
def nodes? : List (Text × List Node) → List Node → List Token → Option (List Node)
  | [], content, [] => some content.reverse
  | _ :: _, _, [] => none
  | opened, content, .char c :: ts => nodes? opened (.char c :: content) ts
  | opened, content, .tag tag :: ts =>
    if isSingle tag then
      nodes? opened (.single tag :: content) ts
    else if tag.head? = some '/' then
      match opened with
      | [] => none
      | (start, front) :: opened =>
        if tag = '/' :: tagName start then
          nodes? opened (.element start content.reverse :: front) ts
        else
          none
    else
      nodes? ((tag, content) :: opened) [] ts

mutual

def Node.tokens : Node → List Token
  | .char c => [.char c]
  | .single tag => [.tag tag]
  | .element tag content => .tag tag :: tokensAll content ++ [.tag ('/' :: tagName tag)]

def tokensAll : List Node → List Token
  | [] => []
  | n :: ns => n.tokens ++ tokensAll ns

end

mutual

def Node.wellFormed : Node → Bool
  | .char _ => true
  | .single tag => (Token.tag tag).isClean && isSingle tag
  | .element tag content =>
    (Token.tag tag).isClean && !isSingle tag && tag.head? != some '/' && wellFormedAll content

def wellFormedAll : List Node → Bool
  | [] => true
  | n :: ns => n.wellFormed && wellFormedAll ns

end

mutual

def Node.named (name : Text) : Node → List (List Node)
  | .char _ => []
  | .single _ => []
  | .element tag content =>
    (if tagName tag = name then [content] else []) ++ namedAll name content

def namedAll (name : Text) : List Node → List (List Node)
  | [] => []
  | n :: ns => n.named name ++ namedAll name ns

end

theorem isSingle_endTag (name : Text) : isSingle ('/' :: name) = false := by
  have h : tagName ('/' :: name) = '/' :: tagName name := rfl
  simp [isSingle, h]

section

variable (opened : List (Text × List Node)) (content : List Node) (ts : List Token)

theorem nodes?_char (c : Char) :
    nodes? opened content (.char c :: ts) = nodes? opened (.char c :: content) ts := by
  cases opened <;> rfl

theorem nodes?_single {tag : Text} (h : isSingle tag = true) :
    nodes? opened content (.tag tag :: ts) = nodes? opened (.single tag :: content) ts := by
  cases opened <;> simp [nodes?, h]

theorem nodes?_start {tag : Text} (hs : isSingle tag = false) (he : tag.head? ≠ some '/') :
    nodes? opened content (.tag tag :: ts) = nodes? ((tag, content) :: opened) [] ts := by
  cases opened <;> simp [nodes?, hs, he]

theorem nodes?_end (tag : Text) (front : List Node) :
    nodes? ((tag, front) :: opened) content (.tag ('/' :: tagName tag) :: ts) =
      nodes? opened (.element tag content.reverse :: front) ts := by
  simp [nodes?, isSingle_endTag]

end

mutual

theorem nodes?_tokens (n : Node) (h : n.wellFormed = true) (opened : List (Text × List Node))
    (content : List Node) (ts : List Token) :
    nodes? opened content (n.tokens ++ ts) = nodes? opened (n :: content) ts := by
  cases n with
  | char c => exact nodes?_char opened content ts c
  | single tag =>
    rw [Node.wellFormed, Bool.and_eq_true] at h
    exact nodes?_single opened content ts h.2
  | element tag inner =>
    simp only [Node.wellFormed, Bool.and_eq_true, Bool.not_eq_true', bne_iff_ne] at h
    obtain ⟨⟨⟨-, hs⟩, he⟩, hi⟩ := h
    -- The content is read with the tag as the newest open one, and its end tag then closes it.
    rw [Node.tokens, List.append_assoc, List.cons_append, nodes?_start _ _ _ hs he]
    rw [nodes?_tokensAll inner hi, List.singleton_append, nodes?_end]
    simp

theorem nodes?_tokensAll (ns : List Node) (h : wellFormedAll ns = true)
    (opened : List (Text × List Node)) (content : List Node) (ts : List Token) :
    nodes? opened content (tokensAll ns ++ ts) = nodes? opened (ns.reverse ++ content) ts := by
  cases ns with
  | nil => rfl
  | cons n ns =>
    rw [wellFormedAll, Bool.and_eq_true] at h
    rw [tokensAll, List.append_assoc, nodes?_tokens n h.1, nodes?_tokensAll ns h.2]
    simp

end

theorem isClean_endTag {tag : Text} (h : (Token.tag tag).isClean = true) :
    (Token.tag ('/' :: tagName tag)).isClean = true := by
  have hs : ∀ c ∈ tagName tag, c ∈ tag := fun c hc => (List.takeWhile_sublist _).subset hc
  simp only [Token.isClean, Bool.and_eq_true, Bool.not_eq_true', List.contains_eq_mem,
    decide_eq_false_iff_not] at *
  constructor
  . simpa using fun hc => h.1 (hs _ hc)
  . simpa using fun hc => h.2 (hs _ hc)

mutual

theorem isClean_of_mem_tokens (n : Node) (h : n.wellFormed = true) :
    ∀ t ∈ n.tokens, t.isClean = true := by
  cases n with
  | char c => simp [Node.tokens, Token.isClean]
  | single tag =>
    rw [Node.wellFormed, Bool.and_eq_true] at h
    simpa [Node.tokens] using h.1
  | element tag content =>
    simp only [Node.wellFormed, Bool.and_eq_true] at h
    obtain ⟨⟨⟨ht, -⟩, -⟩, hc⟩ := h
    simpa [Node.tokens, or_imp, forall_and, ht, isClean_endTag ht] using
      isClean_of_mem_tokensAll content hc

theorem isClean_of_mem_tokensAll (ns : List Node) (h : wellFormedAll ns = true) :
    ∀ t ∈ tokensAll ns, t.isClean = true := by
  cases ns with
  | nil => simp [tokensAll]
  | cons n ns =>
    rw [wellFormedAll, Bool.and_eq_true] at h
    simpa [tokensAll, or_imp, forall_and] using
      ⟨isClean_of_mem_tokens n h.1, isClean_of_mem_tokensAll ns h.2⟩

end

def writeAll (ns : List Node) : Text :=
  (tokensAll ns).flatMap Token.write

theorem read_writeAll {ns : List Node} (h : wellFormedAll ns = true) :
    tokens? .text (writeAll ns) = some (tokensAll ns) ∧ nodes? [] [] (tokensAll ns) = some ns := by
  constructor
  . have hr := tokens?_write (isClean_of_mem_tokensAll ns h) []
    rw [List.append_nil] at hr
    simp [writeAll, hr, tokens?]
  . have hr := nodes?_tokensAll ns h [] [] []
    rw [List.append_nil] at hr
    simp [hr, nodes?]

theorem tokensAll_eq_flatMap (ns : List Node) : tokensAll ns = ns.flatMap Node.tokens := by
  induction ns with
  | nil => rfl
  | cons n ns ih => rw [tokensAll, ih, List.flatMap_cons]

theorem wellFormedAll_eq_all (ns : List Node) : wellFormedAll ns = ns.all Node.wellFormed := by
  induction ns with
  | nil => rfl
  | cons n ns ih => rw [wellFormedAll, ih, List.all_cons]

theorem namedAll_eq_flatMap (name : Text) (ns : List Node) :
    namedAll name ns = ns.flatMap (Node.named name) := by
  induction ns with
  | nil => rfl
  | cons n ns ih => rw [namedAll, ih, List.flatMap_cons]

end Html

end Document

end ScriptManual
