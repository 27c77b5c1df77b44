import FlowAtlas.Proofs.Dot.Spelling

/-!
# Reading back directed graphs

The text of a directed graph is read back as the graph: its title as its name and its label, the
node defaults, and one statement for each node and each edge, in order. The identifiers are read as
they are spelled.

## Main definitions

* `Digraph.Readable`: all identifiers are closed, and the names of attributes are words.
* `Digraph.reading`: what is read of a graph.

## Main results

* `Digraph.tokens?_source`: the tokens of the text of a graph.
* `Digraph.read?_source`: a graph is read back.
-/

namespace FlowAtlas.Dot

/-! ### What is read -/

/-- The names of attributes are words, and the ends of their values are read as such. -/
def Attributes.Readable (attributes : Attributes) : Prop :=
  ∀ a ∈ attributes, (isName a.1.toList ∧ isKeyword a.1.toList = false) ∧ Closed a.2.toList

/-- Attributes as they are read. -/
def Attributes.reading (attributes : Attributes) : Attributes :=
  attributes.map fun a => (a.1, spelling a.2)

namespace Item

/-- All parts of a node or an edge can be read. -/
def Readable : Item → Prop
  | .node id attributes => Closed id.toList ∧ attributes.Readable
  | .edge tail head attributes => Closed tail.toList ∧ Closed head.toList ∧ attributes.Readable

/-- A node or an edge as it is read. -/
def reading : Item → Statement
  | .node id attributes => .node (spelling id) attributes.reading
  | .edge tail head attributes => .edge (spelling tail) (spelling head) attributes.reading

end Item

namespace Digraph

/-- All parts of a graph can be read. -/
structure Readable (d : Digraph) : Prop where
  title : Closed d.title.toList
  items : ∀ item ∈ d.items, item.Readable

/-- A graph as it is read. -/
def reading (d : Digraph) : Reading where
  name? := if d.title.isEmpty then none else some (spelling d.title)
  statements := .defaults [("shape", "record")] :: .setting "label" (spelling d.title) ::
    d.items.map Item.reading

end Digraph

/-! ### Tokens -/

/-- The tokens of an attribute. -/
def attributeTokens (a : String × String) : List Token :=
  [.id a.1, .equals, .id (spelling a.2)]

/-- The tokens of a list of attributes. -/
def listTokens : Attributes → List Token
  | [] => []
  | attributes => .openList :: attributes.flatMap attributeTokens ++ [.closeList]

/-- The tokens of a node or an edge. -/
def Item.tokens : Item → List Token
  | .node id attributes => .id (spelling id) :: listTokens attributes
  | .edge tail head attributes =>
    .id (spelling tail) :: .arrow :: .id (spelling head) :: listTokens attributes

/-- The tokens of a graph. -/
def Digraph.tokens (d : Digraph) : List Token :=
  .keyword "digraph" :: (if d.title.isEmpty then [] else [.id (spelling d.title)]) ++
    [.openGraph, .keyword "node", .openList, .id "shape", .equals, .id "record", .closeList,
      .id "label", .equals, .id (spelling d.title)] ++
    d.items.flatMap Item.tokens ++ [.closeGraph]

variable {attributes : Attributes} {a : String × String} {c : Char} {s : String}

theorem toList_quote (s : String) : (quote s).toList = quoteChars s.toList :=
  String.toList_ofList

theorem run?_quote (h : Closed s.toList) (hc : isDelimiter c) :
    run? .between ((quote s).toList ++ [c]) =
      some (.between, .id (spelling s) :: delimiterTokens c) := by
  rw [toList_quote]
  exact run?_quoteChars h hc

theorem run?_attribute (h : (isName a.1.toList ∧ isKeyword a.1.toList = false) ∧ Closed a.2.toList)
    (hc : isDelimiter c) : run? .between ((a.1 ++ "=" ++ quote a.2).toList ++ [c]) =
      some (.between, attributeTokens a ++ delimiterTokens c) := by
  have hequals : "=".toList = ['='] := rfl
  have hname := run?_bare (c := '=') (by rw [h.1.1, Bool.true_or]) h.1.2 rfl rfl
  rw [String.ofList_toList] at hname
  rw [String.toList_append, String.toList_append, hequals, List.append_assoc]
  have hread := run?_append hname (run?_quote h.2 hc)
  exact hread

theorem run?_attributes (h : Attributes.Readable (a :: attributes)) :
    run? .between ([' '].intercalate ((a :: attributes).map fun a =>
      (a.1 ++ "=" ++ quote a.2).toList) ++ [']']) =
      some (.between, (a :: attributes).flatMap attributeTokens ++ [.closeList]) := by
  induction attributes generalizing a with
  | nil =>
    have hread := run?_attribute (c := ']') (h a List.mem_cons_self) rfl
    rw [List.map_singleton, List.intercalate_singleton, List.flatMap_singleton]
    exact hread
  | cons b attributes ih =>
    have hread := run?_append (run?_attribute (c := ' ') (h a List.mem_cons_self) rfl)
      (ih fun x hx => h x (List.mem_cons_of_mem a hx))
    rw [List.map_cons, List.map_cons, List.intercalate_cons_cons, List.append_assoc]
    exact hread

/-- The rest of a line is read: the list of attributes, after the identifier before it. -/
theorem run?_attributeList (hs : Closed s.toList) (h : Attributes.Readable attributes) :
    run? .between ((quote s).toList ++ ((attributeList attributes).toList ++ ['\n'])) =
      some (.between, .id (spelling s) :: listTokens attributes) := by
  cases attributes with
  | nil => exact run?_quote hs rfl
  | cons a attributes =>
    have hlist : (attributeList (a :: attributes)).toList ++ ['\n'] = [' '] ++ (['['] ++
        (([' '].intercalate ((a :: attributes).map fun a => (a.1 ++ "=" ++ quote a.2).toList) ++
          [']']) ++ ['\n'])) := by
      have hopen : " [".toList = [' ', '['] := rfl
      have hclose : "]".toList = [']'] := rfl
      have hblank : " ".toList = [' '] := rfl
      rw [attributeList, String.toList_append, String.toList_append, String.toList_intercalate,
        List.map_map, hopen, hclose, hblank]
      · simp only [List.append_assoc, List.cons_append, List.nil_append]
        rfl
      · exact List.cons_ne_nil a attributes
    rw [hlist, ← List.append_assoc]
    have hread := run?_append (run?_quote hs (rfl : isDelimiter ' '))
      (run?_append (run?_singleton (rfl : Mode.between.step? '[' = some (.between, [.openList])))
        (run?_append (run?_attributes h)
          (run?_singleton (rfl : Mode.between.step? '\n' = some (.between, [])))))
    simpa [listTokens, delimiterTokens] using hread

/-- The line of a node or an edge is read. -/
theorem run?_line {item : Item} (h : item.Readable) :
    run? .between item.line.toList = some (.between, item.tokens) := by
  have hline : "\n".toList = ['\n'] := rfl
  have htab : run? .between "\t".toList = some (.between, []) := rfl
  cases item with
  | node id attributes =>
    rw [Item.line, String.toList_append, String.toList_append, String.toList_append, hline,
      List.append_assoc, List.append_assoc]
    exact run?_append htab (run?_attributeList h.1 h.2)
  | edge tail head attributes =>
    have harrow : " -> ".toList = [' '] ++ "-> ".toList := rfl
    have hread := run?_append (run?_quote h.1 (rfl : isDelimiter ' '))
      (run?_append (rfl : run? .between "-> ".toList = some (.between, [.arrow]))
        (run?_attributeList h.2.1 h.2.2))
    rw [Item.line, String.toList_append, String.toList_append, String.toList_append,
      String.toList_append, String.toList_append, hline, harrow]
    simp only [List.append_assoc] at hread ⊢
    exact run?_append htab hread

theorem Digraph.run?_opening {d : Digraph} (h : Closed d.title.toList) :
    run? .between d.opening.toList = some (.between, .keyword "digraph" ::
      (if d.title.isEmpty then [] else [.id (spelling d.title)]) ++ [.openGraph]) := by
  have hkeyword : run? .between "digraph ".toList = some (.between, [.keyword "digraph"]) := rfl
  have hopen : run? .between "\x7b\n".toList = some (.between, [.openGraph]) := rfl
  have hbrace : " \x7b\n".toList = [' '] ++ "\x7b\n".toList := rfl
  rw [opening]
  split_ifs with htitle
  · rfl
  · have hread := run?_append hkeyword (run?_append (run?_quote h (rfl : isDelimiter ' ')) hopen)
    rw [String.toList_append, String.toList_append, hbrace, List.append_assoc, ← List.append_assoc
      (quote d.title).toList]
    exact hread

theorem Digraph.run?_bodyLines {d : Digraph} (h : d.Readable) :
    run? .between (String.join d.bodyLines).toList = some (.between,
      [.id "label", .equals, .id (spelling d.title)] ++ d.items.flatMap Item.tokens) := by
  have hname : run? .between "\tlabel=".toList = some (.between, [.id "label", .equals]) := rfl
  have hline : "\n".toList = ['\n'] := rfl
  have hlabel : run? .between ("\tlabel=" ++ quote d.title ++ "\n").toList =
      some (.between, [.id "label", .equals, .id (spelling d.title)]) := by
    have hread := run?_append hname (run?_quote h.title (rfl : isDelimiter '\n'))
    rw [String.toList_append, String.toList_append, hline, List.append_assoc]
    exact hread
  rw [String.toList_join, bodyLines, List.flatMap_cons, List.flatMap_map]
  exact run?_append hlabel (run?_flatMap fun item hitem => run?_line (h.items item hitem))

/-- The text of a graph is cut into its tokens. -/
theorem Digraph.tokens?_source {d : Digraph} (h : d.Readable) :
    tokens? d.source.toList = some d.tokens := by
  have hdefaults : run? .between "\tnode [shape=record]\n".toList = some (.between,
      [.keyword "node", .openList, .id "shape", .equals, .id "record", .closeList]) := rfl
  have hclose : run? .between "\x7d\n".toList = some (.between, [.closeGraph]) := rfl
  have hread := run?_append (run?_append (run?_append (run?_opening h.title) hdefaults)
    (run?_bodyLines h)) hclose
  rw [tokens?, source, String.toList_append, String.toList_append, String.toList_append, hread]
  simp only [tokens, List.append_assoc, List.cons_append, List.nil_append]

/-! ### Statements -/

variable {st : Statement} {rest : List Token}

/-- The tokens begin a statement or end the graph. -/
def Fresh : List Token → Prop
  | .id _ :: _ | [.closeGraph] => True
  | _ => False

theorem extend_nil (st : Statement) : st.extend [] = st := by
  cases st <;> simp [Statement.extend]

theorem extend_extend (st : Statement) (more more' : Attributes) :
    (st.extend more).extend more' = st.extend (more ++ more') := by
  cases st <;> simp [Statement.extend]

theorem statements?_attributes (st : Statement) (attributes : Attributes) (rest : List Token) :
    statements? (some st) (attributes.flatMap attributeTokens ++ .closeList :: rest) =
      (statements? none rest).map (st.extend (Attributes.reading attributes) :: ·) := by
  induction attributes generalizing st with
  | nil =>
    rw [Attributes.reading, List.map_nil, extend_nil]
    rfl
  | cons a attributes ih =>
    have hput : st.extend (Attributes.reading (a :: attributes)) =
        (st.extend [(a.1, spelling a.2)]).extend (Attributes.reading attributes) :=
      (extend_extend st [(a.1, spelling a.2)] (Attributes.reading attributes)).symm
    rw [List.flatMap_cons, List.append_assoc, hput, ← ih]
    rfl

/-- The tokens of a node or an edge are read as it, if they are not those of a longer
statement. -/
theorem statements?_item (item : Item) (h : Fresh rest) : statements? none (item.tokens ++ rest) =
    (statements? none rest).map (item.reading :: ·) := by
  have hlist : ∀ (a : String × String) attributes, listTokens (a :: attributes) ++ rest =
      .openList :: ((a :: attributes).flatMap attributeTokens ++ .closeList :: rest) := by
    intro a attributes
    rw [listTokens, List.cons_append, List.cons_append, List.append_assoc]
    · rfl
    · exact List.cons_ne_nil a attributes
  cases item with
  | node id attributes =>
    cases attributes with
    | nil =>
      rw [Fresh.eq_def] at h
      split at h
      · rfl
      · rfl
      · exact h.elim
    | cons a attributes =>
      rw [Item.tokens, List.cons_append, hlist]
      exact statements?_attributes (.node (spelling id) []) (a :: attributes) rest
  | edge tail head attributes =>
    cases attributes with
    | nil =>
      rw [Fresh.eq_def] at h
      split at h
      · rfl
      · rfl
      · exact h.elim
    | cons a attributes =>
      rw [Item.tokens, List.cons_append, List.cons_append, List.cons_append, hlist]
      exact statements?_attributes (.edge (spelling tail) (spelling head) []) (a :: attributes) rest

/-- The tokens of nodes and edges are read one after another up to the end of the graph. -/
theorem statements?_items (items : List Item) :
    statements? none (items.flatMap Item.tokens ++ [.closeGraph]) =
      some (items.map Item.reading) := by
  have hfresh : ∀ items : List Item, Fresh (items.flatMap Item.tokens ++ [.closeGraph]) := by
    intro items
    cases items with
    | nil => trivial
    | cons item items => cases item <;> trivial
  induction items with
  | nil => rfl
  | cons item items ih =>
    rw [List.flatMap_cons, List.append_assoc, statements?_item item (hfresh items), ih]
    rfl

/-- The tokens between the braces are read: the node defaults and the label come first. -/
theorem Digraph.statements?_body (d : Digraph) :
    statements? none (.keyword "node" :: .openList :: .id "shape" :: .equals :: .id "record" ::
      .closeList :: .id "label" :: .equals :: .id (spelling d.title) ::
        (d.items.flatMap Item.tokens ++ [.closeGraph])) = some d.reading.statements := by
  have hfirst : ∀ tokens, statements? none (.keyword "node" :: .openList :: .id "shape" ::
      .equals :: .id "record" :: .closeList :: .id "label" :: .equals ::
        .id (spelling d.title) :: tokens) =
      ((statements? none tokens).map (.setting "label" (spelling d.title) :: ·)).map
        (.defaults [("shape", "record")] :: ·) := fun _ => rfl
  rw [hfirst, statements?_items]
  rfl

/-- **A graph is read back.** -/
theorem Digraph.read?_source {d : Digraph} (h : d.Readable) : read? d.source = some d.reading := by
  have hbody := d.statements?_body
  rw [read?, tokens?_source h, Option.bind_eq_bind, Option.bind_some, tokens]
  rw [reading] at hbody ⊢
  split_ifs with htitle <;>
    simp only [List.cons_append, List.nil_append, hbody, Option.map_some]

/-- A quote gets a backslash, and an arrow between quotes is no arrow. -/
example : read? (Digraph.source ⟨"", [.node "1" [("tooltip", "\"];2->1")]]⟩) =
    some ⟨none, [.defaults [("shape", "record")], .setting "label" "",
      .node "1" [("tooltip", "\\\"];2->1")]]⟩ := by
  decide +kernel

end FlowAtlas.Dot
