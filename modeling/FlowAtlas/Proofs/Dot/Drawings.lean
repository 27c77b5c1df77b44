import FlowAtlas.Dot.Dominators
import FlowAtlas.Proofs.Dot.Texts
import FlowAtlas.Proofs.Graph.Valid

/-!
# Reading back drawings

Whatever texts a graph, its statements and its title hold, its drawings are read back as what was
drawn: one graph with the escaped title as its name and its label, the node defaults, and for each
block in order its node with exactly its attributes and its edges. Only the label of an edge may be
spelled otherwise, with a backslash before a quote.

## Main definitions

* `drawingReading`: what is read of a drawing.
* `FlowEdge.ReadAs`: what is read of an edge.
* `Graph.ReadBack`: the drawings of a graph are read back as what was drawn.

## Main results

* `Graph.drawings_read`: the drawings of a valid graph are read back.
-/

namespace FlowAtlas

open Dot

/-- What is read of a drawing with a title, apart from its nodes and edges. -/
def drawingReading (title : String) (body : List Statement) : Reading where
  name? := if title = "" then none else some (escape title)
  statements := .defaults [("shape", "record")] :: .setting "label" (escape title) :: body

/-- An edge is read with its ends and its attributes; in their values quotes may be spelled with a
backslash. -/
def FlowEdge.ReadAs (e : FlowEdge) (st : Statement) : Prop :=
  ∃ attributes, st = .edge (toString e.tail) e.head.text attributes ∧
    List.Forall₂ (fun a b => b.1 = a.1 ∧ plainQuotes b.2.toList = plainQuotes a.2.toList)
      e.attributes attributes

variable {g : Graph} {i : Int} {title : String} {includeCode : Bool}
  {succs : List Int} {s : Stmt} {e : FlowEdge}

/-! ### Pieces of drawings -/

theorem escape_eq_empty_iff : escape title = "" ↔ title = "" := by
  have hnil : ∀ cs, escapeChars cs = [] ↔ cs = [] := by
    intro cs
    rw [escapeChars, List.flatMap_eq_nil_iff, List.eq_nil_iff_forall_not_mem]
    refine forall_congr' fun c => imp_congr_right fun _ => ?_
    rw [escapeChar]
    split <;> simp
  have hempty : "".toList = [] := rfl
  rw [← String.toList_inj, ← @String.toList_inj title "", escape, String.toList_ofList, hempty]
  exact hnil title.toList

theorem read?_drawing {items : List Item} (h : ∀ item ∈ items, item.Readable) :
    read? (Digraph.source ⟨escape title, items⟩) =
      some (drawingReading title (items.map Item.reading)) := by
  have hreadable : Digraph.Readable ⟨escape title, items⟩ := ⟨(escaped_escape title).closed, h⟩
  have htitle : (escape title).isEmpty ↔ title = "" := String.isEmpty_iff.trans escape_eq_empty_iff
  rw [Digraph.read?_source hreadable, Digraph.reading, drawingReading,
    spelling_eq (escaped_escape title)]
  simp only [htitle]

theorem readable_item_of_mem_edgesOf (he : e ∈ edgesOf i succs s) : e.item.Readable := by
  obtain ⟨-, m, -, hhead, -⟩ := exists_head_of_mem_edgesOf he
  exact ⟨(escaped_int e.tail).closed, (escaped_text_of_integer? hhead).closed,
    readable_attributes he⟩

/-- The edges of a block are read as such. -/
theorem readAs_of_mem_edgesOf (he : e ∈ edgesOf i succs s) : e.ReadAs e.item.reading := by
  obtain ⟨-, m, -, hhead, -⟩ := exists_head_of_mem_edgesOf he
  refine ⟨e.attributes.reading, ?_, ?_⟩
  · rw [FlowEdge.item, Item.reading, spelling_eq (escaped_int e.tail),
      spelling_eq (escaped_text_of_integer? hhead)]
  · rw [Attributes.reading, List.forall₂_map_right_iff]
    exact List.forall₂_same.mpr fun a _ => ⟨rfl, by
      rw [spelling, String.toList_ofList, plainQuotes_spellingChars]⟩

namespace Graph

/-! ### Flow graphs -/

/-- The edges of a block as they are read. -/
def edgeStatements (g : Graph) (i : Int) : List Statement :=
  ((g.edges? i).getD []).map fun e => e.item.reading

namespace Fitting

variable (h : g.Fitting)
include h

theorem edgeStatements_read (hi : i ∈ g.blockNumbers) : ∃ edges, g.edges? i = some edges ∧
    List.Forall₂ FlowEdge.ReadAs edges (g.edgeStatements i) := by
  obtain ⟨b, hb⟩ := mem_blockNumbers_iff.mp hi
  obtain ⟨s, -, hedges⟩ := h.exists_edges? hb
  refine ⟨_, hedges, ?_⟩
  rw [edgeStatements, hedges, Option.getD_some, List.forall₂_map_right_iff]
  exact List.forall₂_same.mpr fun e he => readAs_of_mem_edgesOf he

/-- The node and the edges of a block are read back, the node with exactly its attributes. -/
theorem exists_items (hi : i ∈ g.blockNumbers) (includeCode : Bool) : ∃ attributes items,
    (∃ tag, g.tag? i = some tag ∧ g.nodeAttributes? i tag includeCode = some attributes) ∧
    g.blockItems? includeCode i = some items ∧ (∀ item ∈ items, item.Readable) ∧
    items.map Item.reading = .node (toString i) attributes :: g.edgeStatements i := by
  obtain ⟨b, hb⟩ := mem_blockNumbers_iff.mp hi
  obtain ⟨tag, attributes, edges, htag, hattributes, hedges, hitems⟩ :=
    h.exists_blockItems? hb includeCode
  obtain ⟨s, -, hedges'⟩ := h.exists_edges? hb
  obtain rfl := Option.some.inj (hedges.symm.trans hedges')
  obtain ⟨hreadable, hreading⟩ := reading_nodeAttributes? hattributes
  refine ⟨attributes, _, ⟨tag, htag, hattributes⟩, hitems, ?_, ?_⟩
  · refine List.forall_mem_cons.mpr ⟨⟨(escaped_int i).closed, hreadable⟩, fun item hitem => ?_⟩
    obtain ⟨e, he, rfl⟩ := List.mem_map.mp hitem
    exact readable_item_of_mem_edgesOf he
  · rw [List.map_cons, Item.reading, spelling_eq (escaped_int i), hreading, List.map_map,
      edgeStatements, hedges]
    rfl

/-- The drawing of a valid graph is read back. -/
theorem flow_read (title : String) (includeCode : Bool) :
    ∃ (d : Digraph) (attributes : Int → Attributes), g.flowDigraph? title includeCode = some d ∧
    (∀ i ∈ g.blockNumbers, ∃ tag, g.tag? i = some tag ∧
      g.nodeAttributes? i tag includeCode = some (attributes i)) ∧
    read? d.source = some (drawingReading title
      (g.blockNumbers.flatMap fun i =>
        .node (toString i) (attributes i) :: g.edgeStatements i)) := by
  choose! attributes items hattributes hitems hreadable hreading using
    fun i hi => h.exists_items (i := i) hi includeCode
  have hread : ∀ item ∈ g.blockNumbers.flatMap items, item.Readable := by
    intro item hitem
    obtain ⟨i, hi, hitem⟩ := List.mem_flatMap.mp hitem
    exact hreadable i hi item hitem
  refine ⟨_, attributes, flowDigraph?_eq hitems, hattributes, ?_⟩
  rw [read?_drawing hread, List.map_flatMap, List.flatMap_congr hreading]

end Fitting

/-! ### Trees -/

/-- The node and the edges of a block as they are read. -/
def treeStatements (attributes : ℕ → Attributes) (x : DomNode × ℕ) : List Statement :=
  .node (toString x.2) (attributes x.2) ::
    x.1.children.map fun c => .edge (toString x.2) (toString c) []

variable {t : DomTree} {attributes : ℕ → Attributes} {x : DomNode × ℕ}

theorem treePart_read
    (h : g.nodeAttributes? x.2 (toString x.2) includeCode = some (attributes x.2)) :
    (∀ item ∈ treePart attributes x, item.Readable) ∧
      (treePart attributes x).map Item.reading = treeStatements attributes x := by
  obtain ⟨hreadable, hreading⟩ := reading_nodeAttributes? h
  have hnumber : Escaped (toString x.2).toList := escaped_int x.2
  constructor
  · refine List.forall_mem_cons.mpr ⟨⟨hnumber.closed, hreadable⟩, fun item hitem => ?_⟩
    obtain ⟨c, -, rfl⟩ := List.mem_map.mp hitem
    exact ⟨hnumber.closed, (escaped_int c).closed, fun a ha => absurd ha List.not_mem_nil⟩
  · rw [treePart, List.map_cons, Item.reading, spelling_eq hnumber, hreading, List.map_map]
    refine congrArg _ (List.map_congr_left fun c _ => ?_)
    rw [Function.comp_apply, Item.reading, spelling_eq hnumber, spelling_eq (escaped_int c)]
    rfl

/-- The drawing of a tree over a valid graph is read back. -/
theorem Fitting.tree_read (h : g.Fitting) (hlength : t.nodes.length = g.blocks.length)
    (title : String) (includeCode : Bool) :
    ∃ (d : Digraph) (attributes : ℕ → Attributes), g.treeDigraph t title includeCode = .ok d ∧
    (∀ i : ℕ, 1 ≤ i → i ≤ g.blocks.length →
      g.nodeAttributes? i (toString i) includeCode = some (attributes i)) ∧
    read? d.source =
      some (drawingReading title ((t.nodes.zipIdx 1).flatMap (treeStatements attributes))) := by
  obtain ⟨attributes, hattributes, hdigraph⟩ := h.exists_treeDigraph hlength title includeCode
  have hpart : ∀ x ∈ t.nodes.zipIdx 1, (∀ item ∈ treePart attributes x, item.Readable) ∧
      (treePart attributes x).map Item.reading = treeStatements attributes x := fun x hx =>
    treePart_read (hattributes x.2 (inside_of_mem_zipIdx hx).1
      (hlength ▸ (inside_of_mem_zipIdx hx).2))
  have hread : ∀ item ∈ (t.nodes.zipIdx 1).flatMap (treePart attributes), item.Readable := by
    intro item hitem
    obtain ⟨x, hx, hitem⟩ := List.mem_flatMap.mp hitem
    exact (hpart x hx).1 item hitem
  refine ⟨_, attributes, hdigraph, hattributes, ?_⟩
  rw [read?_drawing hread, List.map_flatMap, List.flatMap_congr fun x hx => (hpart x hx).2]

/-! ### Both drawings -/

/-- The drawings of a graph are read back as what was drawn. -/
structure ReadBack (g : Graph) (title : String) : Prop where
  /-- The drawing of the graph shows each block with its attributes and its edges. The edges are
  read alike with and without the statements. -/
  flow : ∃ edges : Int → List Statement,
    (∀ i ∈ g.blockNumbers, ∃ es, g.edges? i = some es ∧
      List.Forall₂ FlowEdge.ReadAs es (edges i)) ∧
    ∀ includeCode, ∃ (d : Digraph) (attributes : Int → Attributes),
      g.flowDigraph? title includeCode = some d ∧
      (∀ i ∈ g.blockNumbers, ∃ tag, g.tag? i = some tag ∧
        g.nodeAttributes? i tag includeCode = some (attributes i)) ∧
      read? d.source = some (drawingReading title
        (g.blockNumbers.flatMap fun i => .node (toString i) (attributes i) :: edges i))
  /-- The drawing of a tree shows each block with its attributes and an edge to each child. -/
  tree : ∀ t : DomTree, t.nodes.length = g.blocks.length → ∀ includeCode,
    ∃ (d : Digraph) (attributes : ℕ → Attributes), g.treeDigraph t title includeCode = .ok d ∧
      (∀ i : ℕ, 1 ≤ i → i ≤ g.blocks.length →
        g.nodeAttributes? i (toString i) includeCode = some (attributes i)) ∧
      read? d.source = some (drawingReading title ((t.nodes.zipIdx 1).flatMap fun (node, i) =>
        .node (toString i) (attributes i) ::
          node.children.map fun c => .edge (toString i) (toString c) []))

/-- **The drawings of a valid graph are read back**, whatever texts its statements and its title
hold. -/
theorem drawings_read (g : Graph) (title : String) (h : g.validate = .ok ()) :
    g.ReadBack title where
  flow := ⟨g.edgeStatements, fun _ => (Fitting.of_validate h).edgeStatements_read,
    (Fitting.of_validate h).flow_read title⟩
  tree _ hlength := (Fitting.of_validate h).tree_read hlength title

/-- A graph whose texts hold quotes, backslashes and brackets. -/
def awkward : Graph :=
  linked ⟨[⟨⟨1, 1⟩, [2, 3], []⟩, ⟨⟨2, 2⟩, [3], []⟩, ⟨⟨3, 3⟩, [], []⟩],
    [.detach (.str "\\\"]; 9 -> 9") (.int 3), .reattach (.str "<\\") (.int 3), .ret (.str "\"")]⟩

theorem awkward_drawings_read :
    awkward.validate = .ok () ∧ awkward.ReadBack "<b> \"node\" \\" :=
  ⟨rfl, drawings_read awkward _ rfl⟩

end Graph

end FlowAtlas
