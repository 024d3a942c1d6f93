import ScriptManual.Proofs.Document.Markup
import ScriptManual.Proofs.Text.Replace
import ScriptManual.Proofs.Text.Split

/-!
This module contains the page that an HTML document is written from: its elements, with the texts of
the manual as characters in them.
-/

namespace ScriptManual

namespace Document

namespace Html

def chars (t : Text) : List Node :=
  t.map Node.char

def ruled (ns : List Node) : List Node :=
  ns.flatMap fun n => [n, .char '\n']

def block (tag : Text) (ns : List Node) : Node :=
  .element tag (.char '\n' :: ruled ns)

def leaf (name t : Text) : Node :=
  .element name (chars t)

def cellContent (t : Text) : List Node :=
  t.map fun c => if c = '\n' then .single "br".toList else .char c

def rowNode (cellName : Text) (contents : List (List Node)) : Node :=
  .element "tr".toList (contents.map (.element cellName))

def proseNodes (m : Manual) : List Node :=
  if (prose m).isEmpty then [] else [leaf "pre".toList (prose m)]

def tableNodes (options : List OptionSpec) : List Node :=
  if options.isEmpty then
    []
  else
    [leaf "h2".toList "Options".toList,
      block "table".toList (rowNode "th".toList (columns.map chars) ::
        options.map fun o => rowNode "td".toList ((row o).map cellContent))]

def page (m : Manual) (title : Text) : List Node :=
  ruled [.single "!DOCTYPE html".toList,
    block "html lang=\"en\"".toList [
      block "head".toList [.single "meta charset=\"utf-8\"".toList, leaf "title".toList title],
      block "body".toList (leaf "h1".toList title :: proseNodes m ++ tableNodes m.options)]]

@[simp]
theorem writeAll_append (ms ns : List Node) : writeAll (ms ++ ns) = writeAll ms ++ writeAll ns := by
  simp [writeAll, tokensAll_eq_flatMap]

theorem writeAll_cons (n : Node) (ns : List Node) :
    writeAll (n :: ns) = writeAll [n] ++ writeAll ns := by
  rw [← writeAll_append]
  rfl

theorem writeAll_char (c : Char) : writeAll [.char c] = escapeChar c := by
  simp [writeAll, tokensAll, Node.tokens, Token.write]

theorem writeAll_single (tag : Text) : writeAll [.single tag] = '<' :: tag ++ ['>'] := by
  simp [writeAll, tokensAll, Node.tokens, Token.write]

theorem writeAll_element (tag : Text) (content : List Node) :
    writeAll [.element tag content] =
      '<' :: tag ++ '>' :: writeAll content ++ '<' :: '/' :: tagName tag ++ ['>'] := by
  simp [writeAll, tokensAll, Node.tokens, Token.write]

@[simp]
theorem writeAll_chars (t : Text) : writeAll (chars t) = escape t := by
  induction t with
  | nil => rfl
  | cons c cs ih =>
    rw [chars, List.map_cons, writeAll_cons, writeAll_char]
    exact congrArg _ ih

theorem not_mem_escapeChar {c : Char} (h : c ≠ '\n') : '\n' ∉ escapeChar c := by
  unfold escapeChar
  split_ifs <;> simp [Ne.symm h]

theorem cell_cons (c : Char) (cs : Text) :
    cell (c :: cs) = (if c = '\n' then "<br>".toList else escapeChar c) ++ cell cs := by
  have hc : cell (c :: cs) = Text.replaceChar '\n' "<br>".toList (escapeChar c) ++ cell cs := by
    simp [cell, escape]
  rw [hc]
  split
  . next h =>
    subst h
    rfl
  . next h => rw [Text.replaceChar_of_not_mem (not_mem_escapeChar h)]

@[simp]
theorem writeAll_cellContent (t : Text) : writeAll (cellContent t) = cell t := by
  induction t with
  | nil => rfl
  | cons c cs ih =>
    rw [cell_cons, ← ih, cellContent, List.map_cons, writeAll_cons]
    split
    . rfl
    . rw [writeAll_char]
      rfl

theorem writeAll_ruled (ns : List Node) :
    writeAll (ruled ns) = Text.unlines (ns.map fun n => writeAll [n]) := by
  induction ns with
  | nil => rfl
  | cons n ns ih =>
    rw [ruled, List.flatMap_cons, writeAll_append, writeAll_cons, writeAll_char, List.map_cons,
      Text.unlines_cons, ← ih, List.append_assoc]
    rfl

theorem writeAll_block (tag : Text) (ns : List Node) :
    writeAll [block tag ns] =
      '<' :: tag ++ '>' :: '\n' :: Text.unlines (ns.map fun n => writeAll [n])
        ++ '<' :: '/' :: tagName tag ++ ['>'] := by
  rw [block, writeAll_element, writeAll_cons, writeAll_ruled, writeAll_char]
  rfl

theorem writeAll_element_of_tagName {name : Text} (h : tagName name = name) (content : List Node) :
    writeAll [.element name content] = element name (writeAll content) := by
  rw [writeAll_element, h, element]

theorem writeAll_leaf {name : Text} (h : tagName name = name) (t : Text) :
    writeAll [leaf name t] = element name (escape t) := by
  rw [leaf, writeAll_element_of_tagName h, writeAll_chars]

theorem writeAll_rowNode {name : Text} (h : tagName name = name) (contents : List (List Node)) :
    writeAll [rowNode name contents] = tableRow name (contents.map writeAll) := by
  have hc : writeAll (contents.map (.element name)) =
      (contents.map writeAll).flatMap (element name) := by
    induction contents with
    | nil => rfl
    | cons content contents ih =>
      rw [List.map_cons, writeAll_cons, writeAll_element_of_tagName h, ih]
      rfl
  rw [rowNode, writeAll_element_of_tagName rfl, hc, tableRow]

theorem map_writeAll_proseNodes (m : Manual) :
    (proseNodes m).map (fun n => writeAll [n]) = proseBlock m := by
  unfold proseNodes proseBlock
  dsimp only
  split
  . rfl
  . rw [List.map_singleton, writeAll_leaf rfl]

theorem writeAll_optionRow (o : OptionSpec) :
    writeAll [rowNode "td".toList ((row o).map cellContent)] =
      tableRow "td".toList ((row o).map cell) := by
  rw [writeAll_rowNode rfl, List.map_map]
  congr 1
  apply List.map_congr_left
  intro t _
  exact writeAll_cellContent t

theorem writeAll_columnRow :
    writeAll [rowNode "th".toList (columns.map chars)] = tableRow "th".toList columns := by
  have hc : (columns.map chars).map writeAll = columns := by
    rw [List.map_map]
    calc columns.map (writeAll ∘ chars)
        = columns.map escape := List.map_congr_left fun t _ => writeAll_chars t
      _ = columns := by decide
  rw [writeAll_rowNode rfl, hc]

theorem unlines_tableNodes (options : List OptionSpec) :
    Text.unlines ((tableNodes options).map fun n => writeAll [n]) =
      Text.unlines (optionTable options) := by
  have hrows : ((fun n => writeAll [n]) ∘ fun o => rowNode "td".toList ((row o).map cellContent)) =
      fun o => tableRow "td".toList ((row o).map cell) := funext writeAll_optionRow
  have htable : tagName "table".toList = "table".toList := rfl
  unfold tableNodes optionTable
  split
  . rfl
  . rw [List.map_cons, List.map_singleton, writeAll_leaf rfl, writeAll_block, List.map_cons]
    rw [writeAll_columnRow, List.map_map, hrows, htable]
    simp [element, escape, escapeChar]

end Html

theorem html_eq_unlines (m : Manual) (title : Text) :
    html m title =
      Text.unlines (Html.head title ++ Html.proseBlock m ++ Html.optionTable m.options ++
        ["</body>".toList, "</html>".toList]) := by
  rw [← Text.join_concat_nil, List.append_assoc]
  rfl

theorem html_eq_writeAll (m : Manual) (title : Text) :
    html m title = Html.writeAll (Html.page m title) := by
  have hhead : Html.tagName "head".toList = "head".toList := rfl
  have hbody : Html.tagName "body".toList = "body".toList := rfl
  have hhtml : Html.tagName "html lang=\"en\"".toList = "html".toList := rfl
  have htitle : Html.writeAll [Html.leaf "title".toList title] = _ := Html.writeAll_leaf rfl title
  have hheading : Html.writeAll [Html.leaf "h1".toList title] = _ := Html.writeAll_leaf rfl title
  rw [html_eq_unlines, Html.page, Html.writeAll_ruled]
  simp only [List.map_cons, List.map_nil, List.map_append, Text.unlines_append, Text.unlines_cons,
    Text.unlines_nil, Html.writeAll_block, Html.writeAll_single, htitle, hheading,
    Html.map_writeAll_proseNodes, Html.unlines_tableNodes, hhead, hbody, hhtml]
  simp [Html.head]

namespace Html

theorem wellFormed_element {tag : Text} (h : (Node.element tag []).wellFormed = true)
    {content : List Node} (hc : ∀ n ∈ content, n.wellFormed = true) :
    (Node.element tag content).wellFormed = true := by
  rw [Node.wellFormed, wellFormedAll, Bool.and_true] at h
  rw [Node.wellFormed, h, Bool.true_and, wellFormedAll_eq_all, List.all_eq_true]
  exact hc

theorem wellFormed_leaf {name : Text} (h : (Node.element name []).wellFormed = true) (t : Text) :
    (leaf name t).wellFormed = true := by
  apply wellFormed_element h
  simp [chars, Node.wellFormed]

theorem wellFormed_of_mem_ruled {ns : List Node} (h : ∀ n ∈ ns, n.wellFormed = true) :
    ∀ n ∈ ruled ns, n.wellFormed = true := by
  intro n hn
  obtain ⟨n', hm, hn⟩ := List.mem_flatMap.1 hn
  obtain rfl | hn := List.mem_cons.1 hn
  . exact h n hm
  . rw [List.mem_singleton.1 hn]
    rfl

theorem wellFormed_block {tag : Text} (h : (Node.element tag []).wellFormed = true)
    {ns : List Node} (hn : ∀ n ∈ ns, n.wellFormed = true) : (block tag ns).wellFormed = true := by
  apply wellFormed_element h
  simpa [Node.wellFormed] using wellFormed_of_mem_ruled hn

theorem wellFormed_rowNode {name : Text} (h : (Node.element name []).wellFormed = true)
    {contents : List (List Node)} (hc : ∀ ns ∈ contents, ∀ n ∈ ns, n.wellFormed = true) :
    (rowNode name contents).wellFormed = true := by
  apply wellFormed_element rfl
  intro n hn
  obtain ⟨ns, hns, rfl⟩ := List.mem_map.1 hn
  exact wellFormed_element h (hc ns hns)

theorem wellFormed_of_mem_cellContent {t : Text} : ∀ n ∈ cellContent t, n.wellFormed = true := by
  intro n hn
  obtain ⟨c, -, rfl⟩ := List.mem_map.1 hn
  split <;> rfl

theorem wellFormed_of_mem_tableNodes {options : List OptionSpec} :
    ∀ n ∈ tableNodes options, n.wellFormed = true := by
  unfold tableNodes
  split
  . simp
  . simp only [List.mem_cons, List.not_mem_nil, or_false, forall_eq_or_imp, forall_eq]
    refine ⟨wellFormed_leaf rfl _, wellFormed_block rfl ?_⟩
    simp only [List.mem_cons, List.mem_map, forall_eq_or_imp, forall_exists_index, and_imp,
      forall_apply_eq_imp_iff₂]
    constructor
    . apply wellFormed_rowNode rfl
      simp [chars, Node.wellFormed]
    . intro o _
      apply wellFormed_rowNode rfl
      intro ns hns
      obtain ⟨t, -, rfl⟩ := List.mem_map.1 hns
      exact wellFormed_of_mem_cellContent

theorem wellFormed_of_mem_proseNodes {m : Manual} : ∀ n ∈ proseNodes m, n.wellFormed = true := by
  unfold proseNodes
  split
  . simp
  . simpa using wellFormed_leaf rfl _

theorem wellFormedAll_page (m : Manual) (title : Text) : wellFormedAll (page m title) = true := by
  have htitle : (leaf "title".toList title).wellFormed = true := wellFormed_leaf rfl title
  have hheading : (leaf "h1".toList title).wellFormed = true := wellFormed_leaf rfl title
  have hhead : (block "head".toList [.single "meta charset=\"utf-8\"".toList,
      leaf "title".toList title]).wellFormed = true := by
    apply wellFormed_block rfl
    simp only [List.mem_cons, List.not_mem_nil, or_false, forall_eq_or_imp, forall_eq]
    exact ⟨rfl, htitle⟩
  have hbody : (block "body".toList (leaf "h1".toList title :: proseNodes m
      ++ tableNodes m.options)).wellFormed = true := by
    apply wellFormed_block rfl
    simp only [List.cons_append, List.mem_cons, List.mem_append, or_imp, forall_and, forall_eq]
    exact ⟨hheading, wellFormed_of_mem_proseNodes, wellFormed_of_mem_tableNodes⟩
  rw [wellFormedAll_eq_all, List.all_eq_true]
  apply wellFormed_of_mem_ruled
  simp only [List.mem_cons, List.not_mem_nil, or_false, forall_eq_or_imp, forall_eq]
  refine ⟨rfl, wellFormed_block rfl ?_⟩
  simp only [List.mem_cons, List.not_mem_nil, or_false, forall_eq_or_imp, forall_eq]
  exact ⟨hhead, hbody⟩

end Html

end Document

end ScriptManual
