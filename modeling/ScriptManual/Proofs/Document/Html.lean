import ScriptManual.Proofs.Document.Page

/-!
This module contains what an HTML document is read as: a page whose tags are the renderer's own, with
the texts of the manual as the contents of its elements.
-/

namespace ScriptManual

namespace Document

namespace Html

def tags (ts : List Token) : List Text :=
  ts.filterMap Token.tag?

def rowTags (cellName : Text) (breaks : List Nat) : List Text :=
  "tr".toList ::
    breaks.flatMap (fun k => cellName :: List.replicate k "br".toList ++ ['/' :: cellName])
      ++ ["/tr".toList]

def outline (hasProse : Bool) (breaks : List (List Nat)) : List Text :=
  ["!DOCTYPE html", "html lang=\"en\"", "head", "meta charset=\"utf-8\"", "title", "/title",
      "/head", "body", "h1", "/h1"].map String.toList
    ++ (if hasProse then ["pre".toList, "/pre".toList] else [])
    ++ (if breaks.isEmpty then
          []
        else
          ["h2".toList, "/h2".toList, "table".toList]
            ++ rowTags "th".toList (columns.map fun _ => 0) ++ breaks.flatMap (rowTags "td".toList)
            ++ ["/table".toList])
    ++ ["/body".toList, "/html".toList]

theorem tags_tokensAll (ns : List Node) :
    tags (tokensAll ns) = ns.flatMap fun n => tags n.tokens := by
  rw [tags, tokensAll_eq_flatMap, List.filterMap_flatMap]
  rfl

theorem tags_element (tag : Text) (content : List Node) :
    tags (Node.element tag content).tokens =
      tag :: tags (tokensAll content) ++ ['/' :: tagName tag] := by
  simp [tags, Node.tokens, Token.tag?]

theorem tags_chars (t : Text) : tags (tokensAll (chars t)) = [] := by
  rw [tags_tokensAll, chars, List.flatMap_map]
  exact List.flatMap_eq_nil_iff.2 fun _ _ => rfl

theorem tags_leaf (name t : Text) :
    tags (leaf name t).tokens = [name, '/' :: tagName name] := by
  rw [leaf, tags_element, tags_chars]
  rfl

theorem tags_ruled (ns : List Node) :
    tags (tokensAll (ruled ns)) = ns.flatMap fun n => tags n.tokens := by
  rw [tags_tokensAll, ruled, List.flatMap_assoc]
  apply List.flatMap_congr
  intro n _
  simp [tags, Node.tokens, Token.tag?]

theorem tags_block (tag : Text) (ns : List Node) :
    tags (block tag ns).tokens =
      tag :: ns.flatMap (fun n => tags n.tokens) ++ ['/' :: tagName tag] := by
  rw [block, tags_element, ← tags_ruled]
  rfl

theorem tags_cellContent (t : Text) :
    tags (tokensAll (cellContent t)) = List.replicate (t.count '\n') "br".toList := by
  induction t with
  | nil => rfl
  | cons c cs ih =>
    have hcons : tags (tokensAll (cellContent (c :: cs))) =
        tags (if c = '\n' then Node.single "br".toList else .char c).tokens ++
          tags (tokensAll (cellContent cs)) := by
      simp [tags_tokensAll, cellContent]
    rw [hcons, ih]
    split
    . next h =>
      rw [h, List.count_cons_self, List.replicate_succ]
      rfl
    . next h =>
      rw [List.count_cons_of_ne h]
      rfl

theorem tags_rowNode {name : Text} (h : tagName name = name) {contents : List (List Node)}
    {breaks : List Nat}
    (hc : contents.map (fun ns => tags (tokensAll ns)) =
      breaks.map fun k => List.replicate k "br".toList) :
    tags (rowNode name contents).tokens = rowTags name breaks := by
  have hcells : contents.flatMap (fun ns => tags (Node.element name ns).tokens) =
      breaks.flatMap fun k => name :: List.replicate k "br".toList ++ ['/' :: name] := by
    calc contents.flatMap (fun ns => tags (Node.element name ns).tokens)
        = (contents.map fun ns => tags (tokensAll ns)).flatMap
            fun ts => name :: ts ++ ['/' :: name] := by
          rw [List.flatMap_map]
          apply List.flatMap_congr
          intro ns _
          rw [tags_element, h]
      _ = _ := by rw [hc, List.flatMap_map]
  rw [rowNode, tags_element, tags_tokensAll, List.flatMap_map, hcells]
  rfl

theorem tags_tableNodes (options : List OptionSpec) :
    (tableNodes options).flatMap (fun n => tags n.tokens) =
      if options.isEmpty then
        []
      else
        ["h2".toList, "/h2".toList, "table".toList] ++ rowTags "th".toList (columns.map fun _ => 0)
          ++ (options.map fun o => (row o).map (·.count '\n')).flatMap (rowTags "td".toList)
          ++ ["/table".toList] := by
  have hcolumns : tags (rowNode "th".toList (columns.map chars)).tokens =
      rowTags "th".toList (columns.map fun _ => 0) := by
    apply tags_rowNode rfl
    rw [List.map_map, List.map_map]
    exact List.map_congr_left fun t _ => tags_chars t
  have hrow : ∀ o : OptionSpec, tags (rowNode "td".toList ((row o).map cellContent)).tokens =
      rowTags "td".toList ((row o).map (·.count '\n')) := by
    intro o
    apply tags_rowNode rfl
    rw [List.map_map, List.map_map]
    exact List.map_congr_left fun t _ => tags_cellContent t
  unfold tableNodes
  split
  . rfl
  . rw [List.flatMap_cons, List.flatMap_singleton, tags_leaf, tags_block, List.flatMap_cons]
    rw [hcolumns, List.flatMap_map, List.flatMap_map, List.flatMap_congr fun o _ => hrow o]
    simp [tagName]

theorem tags_page (m : Manual) (title : Text) :
    tags (tokensAll (page m title)) =
      outline (!(prose m).isEmpty) (m.options.map fun o => (row o).map (·.count '\n')) := by
  have hprose : (proseNodes m).flatMap (fun n => tags n.tokens) =
      if !(prose m).isEmpty then ["pre".toList, "/pre".toList] else [] := by
    unfold proseNodes
    cases (prose m).isEmpty
    . exact (List.flatMap_singleton _ _).trans (tags_leaf _ _)
    . rfl
  rw [page, tags_ruled]
  simp only [List.flatMap_cons, List.flatMap_nil, List.flatMap_append, List.cons_append, tags_block,
    tags_leaf, tags_tableNodes, hprose, outline, List.isEmpty_map]
  simp [tags, Node.tokens, Token.tag?, tagName]

theorem namedAll_chars (name t : Text) : namedAll name (chars t) = [] := by
  rw [namedAll_eq_flatMap, chars, List.flatMap_map]
  exact List.flatMap_eq_nil_iff.2 fun _ _ => rfl

theorem named_leaf (name' name t : Text) :
    (leaf name t).named name' = if tagName name = name' then [chars t] else [] := by
  rw [leaf, Node.named, namedAll_chars, List.append_nil]

theorem namedAll_ruled (name : Text) (ns : List Node) :
    namedAll name (ruled ns) = namedAll name ns := by
  rw [namedAll_eq_flatMap, namedAll_eq_flatMap, ruled, List.flatMap_assoc]
  apply List.flatMap_congr
  intro n _
  simp [Node.named]

theorem named_block {name tag : Text} (h : tagName tag ≠ name) (ns : List Node) :
    (block tag ns).named name = namedAll name ns := by
  rw [block, Node.named, if_neg h, List.nil_append]
  exact namedAll_ruled name ns

theorem namedAll_append (name : Text) (ms ns : List Node) :
    namedAll name (ms ++ ns) = namedAll name ms ++ namedAll name ns := by
  simp [namedAll_eq_flatMap]

theorem namedAll_page {name : Text}
    (h : name ∉ ["html".toList, "head".toList, "body".toList]) (m : Manual) (title : Text) :
    namedAll name (page m title) =
      (leaf "title".toList title).named name ++ (leaf "h1".toList title).named name ++
        namedAll name (proseNodes m) ++ namedAll name (tableNodes m.options) := by
  simp only [List.mem_cons, List.not_mem_nil, or_false, not_or] at h
  have hhtml : tagName "html lang=\"en\"".toList ≠ name := Ne.symm h.1
  have hhead : tagName "head".toList ≠ name := Ne.symm h.2.1
  have hbody : tagName "body".toList ≠ name := Ne.symm h.2.2
  rw [page, namedAll_ruled]
  simp only [namedAll, named_block hhtml, named_block hhead, named_block hbody, Node.named,
    namedAll_append, List.nil_append, List.append_nil, List.cons_append, List.append_assoc]

theorem namedAll_proseNodes (name : Text) (m : Manual) :
    namedAll name (proseNodes m) =
      if (prose m).isEmpty then [] else (leaf "pre".toList (prose m)).named name := by
  unfold proseNodes
  split
  . rfl
  . exact List.append_nil _

theorem namedAll_cellContent (name t : Text) : namedAll name (cellContent t) = [] := by
  rw [namedAll_eq_flatMap]
  apply List.flatMap_eq_nil_iff.2
  intro n hn
  obtain ⟨c, -, rfl⟩ := List.mem_map.1 hn
  split <;> rfl

theorem named_rowNode {name cellName : Text} {contents : List (List Node)}
    (hc : ∀ ns ∈ contents, namedAll name ns = []) (hn : tagName cellName ≠ name) :
    (rowNode cellName contents).named name =
      if "tr".toList = name then [contents.map (.element cellName)] else [] := by
  have hcells : namedAll name (contents.map (.element cellName)) = [] := by
    rw [namedAll_eq_flatMap, List.flatMap_map]
    apply List.flatMap_eq_nil_iff.2
    intro ns hns
    rw [Node.named, if_neg hn, hc ns hns, List.nil_append]
  rw [rowNode, Node.named, hcells, List.append_nil]
  rfl

theorem namedAll_tableNodes {name : Text} (h : name ∉ ["h2".toList, "table".toList])
    (options : List OptionSpec) :
    namedAll name (tableNodes options) =
      if options.isEmpty then
        []
      else
        (rowNode "th".toList (columns.map chars)).named name ++
          options.flatMap fun o => (rowNode "td".toList ((row o).map cellContent)).named name := by
  simp only [List.mem_cons, List.not_mem_nil, or_false, not_or] at h
  have hheading : tagName "h2".toList ≠ name := Ne.symm h.1
  have htable : tagName "table".toList ≠ name := Ne.symm h.2
  unfold tableNodes
  split
  . rfl
  . simp only [namedAll, named_leaf, if_neg hheading, named_block htable, List.nil_append,
      List.append_nil]
    rw [namedAll_eq_flatMap, List.flatMap_map]

theorem namedAll_columns (name : Text) : ∀ ns ∈ columns.map chars, namedAll name ns = [] := by
  intro ns hns
  obtain ⟨t, -, rfl⟩ := List.mem_map.1 hns
  exact namedAll_chars name t

theorem namedAll_cells (name : Text) (o : OptionSpec) :
    ∀ ns ∈ (row o).map cellContent, namedAll name ns = [] := by
  intro ns hns
  obtain ⟨t, -, rfl⟩ := List.mem_map.1 hns
  exact namedAll_cellContent name t

theorem namedAll_tableNodes_of_notMem {name : Text}
    (h : name ∉ ["h2".toList, "table".toList, "tr".toList, "th".toList, "td".toList])
    (options : List OptionSpec) : namedAll name (tableNodes options) = [] := by
  simp only [List.mem_cons, List.not_mem_nil, or_false, not_or] at h
  obtain ⟨hheading, htable, htr, hth, htd⟩ := h
  have hth : tagName "th".toList ≠ name := Ne.symm hth
  have htd : tagName "td".toList ≠ name := Ne.symm htd
  have hrow : ∀ o, (rowNode "td".toList ((row o).map cellContent)).named name = [] := by
    intro o
    rw [named_rowNode (namedAll_cells name o) htd, if_neg (Ne.symm htr)]
  have hname : name ∉ ["h2".toList, "table".toList] := by
    rw [List.mem_cons, List.mem_singleton, not_or]
    exact ⟨hheading, htable⟩
  rw [namedAll_tableNodes hname, named_rowNode (namedAll_columns name) hth, if_neg (Ne.symm htr),
    List.flatMap_eq_nil_iff.2 fun o _ => hrow o]
  exact ite_self _

theorem namedAll_tr_tableNodes (options : List OptionSpec) :
    namedAll "tr".toList (tableNodes options) =
      if options.isEmpty then
        []
      else
        (columns.map chars).map (.element "th".toList) ::
          options.map fun o => ((row o).map cellContent).map (.element "td".toList) := by
  have hrow : ∀ o, (rowNode "td".toList ((row o).map cellContent)).named "tr".toList =
      [((row o).map cellContent).map (.element "td".toList)] :=
    fun o => named_rowNode (namedAll_cells _ o) (by decide)
  rw [namedAll_tableNodes (by decide), named_rowNode (namedAll_columns _) (by decide), if_pos rfl,
    List.flatMap_congr fun o _ => hrow o, ← List.map_eq_flatMap]
  rfl

def text? : List Node → Option Text
  | [] => some []
  | .char c :: ns => (text? ns).map (c :: ·)
  | _ => none

/--
The text of a cell. A `br` in it is a line break.
-/
def cellText? : List Node → Option Text
  | [] => some []
  | .char c :: ns => (cellText? ns).map (c :: ·)
  | .single tag :: ns => if tag = "br".toList then (cellText? ns).map ('\n' :: ·) else none
  | .element _ _ :: _ => none

def cell? : Node → Option Text
  | .element tag content => if tag = "td".toList then cellText? content else none
  | _ => none

theorem text?_chars (t : Text) : text? (chars t) = some t := by
  induction t with
  | nil => rfl
  | cons c cs ih =>
    rw [chars] at ih ⊢
    rw [List.map_cons, text?, ih, Option.map_some]

theorem cellText?_cellContent (t : Text) : cellText? (cellContent t) = some t := by
  induction t with
  | nil => rfl
  | cons c cs ih =>
    rw [cellContent] at ih ⊢
    rw [List.map_cons]
    split
    . next h => rw [cellText?, if_pos rfl, ih, h, Option.map_some]
    . rw [cellText?, ih, Option.map_some]

theorem namedAll_title_page (m : Manual) (title : Text) :
    namedAll "title".toList (page m title) = [chars title] := by
  rw [namedAll_page (by decide), namedAll_tableNodes_of_notMem (by decide), namedAll_proseNodes]
  simp [named_leaf, tagName]

theorem namedAll_h1_page (m : Manual) (title : Text) :
    namedAll "h1".toList (page m title) = [chars title] := by
  rw [namedAll_page (by decide), namedAll_tableNodes_of_notMem (by decide), namedAll_proseNodes]
  simp [named_leaf, tagName]

theorem namedAll_pre_page (m : Manual) (title : Text) :
    namedAll "pre".toList (page m title) = if prose m = [] then [] else [chars (prose m)] := by
  rw [namedAll_page (by decide), namedAll_tableNodes_of_notMem (by decide), namedAll_proseNodes]
  simp [named_leaf, tagName]

theorem tail_namedAll_tr_page (m : Manual) (title : Text) :
    (namedAll "tr".toList (page m title)).tail =
      m.options.map fun o => ((row o).map cellContent).map (.element "td".toList) := by
  rw [namedAll_page (by decide), namedAll_tr_tableNodes, namedAll_proseNodes]
  cases m.options <;> simp [named_leaf, tagName]

theorem map_cell?_row (o : OptionSpec) :
    (((row o).map cellContent).map (Node.element "td".toList)).map cell? = (row o).map some := by
  rw [List.map_map, List.map_map]
  exact List.map_congr_left fun t _ => cellText?_cellContent t

end Html

/--
No text of a manual is read as markup and none is lost. The tags of the page are the ones of its
outline, and the texts are the contents of its elements.
-/
theorem html_carries_texts (m : Manual) (title : Text) :
    ∃ tokens page, Html.tokens? .text (html m title) = some tokens ∧
      Html.nodes? [] [] tokens = some page ∧
      (html m title).count '<' = (Html.tags tokens).length ∧
      Html.tags tokens =
        Html.outline (!(prose m).isEmpty) (m.options.map fun o => (row o).map (·.count '\n')) ∧
      (Html.namedAll "title".toList page).map Html.text? = [some title] ∧
      (Html.namedAll "h1".toList page).map Html.text? = [some title] ∧
      (Html.namedAll "pre".toList page).map Html.text? =
        (if prose m = [] then [] else [some (prose m)]) ∧
      (Html.namedAll "tr".toList page).tail.map (·.map Html.cell?) =
        m.options.map fun o => [some ('-' :: o.short), some ('-' :: '-' :: o.long),
          some (o.argument?.getD []), some (o.value?.getD []), some o.description] := by
  obtain ⟨htokens, hnodes⟩ := Html.read_writeAll (Html.wellFormedAll_page m title)
  rw [← html_eq_writeAll] at htokens
  have hcount := Html.count_eq_length_tags htokens
  rw [Html.Place.started, Nat.add_zero] at hcount
  refine ⟨_, _, htokens, hnodes, hcount, Html.tags_page m title, ?_, ?_, ?_, ?_⟩
  . rw [Html.namedAll_title_page, List.map_singleton, Html.text?_chars]
  . rw [Html.namedAll_h1_page, List.map_singleton, Html.text?_chars]
  . rw [Html.namedAll_pre_page, apply_ite (List.map Html.text?), List.map_singleton,
      Html.text?_chars]
    rfl
  . rw [Html.tail_namedAll_tr_page, List.map_map]
    exact List.map_congr_left fun o _ => Html.map_cell?_row o

end Document

end ScriptManual
