import FlowAtlas.Proofs.DomTree.Hanging
import FlowAtlas.Proofs.Graph.Valid
import FlowAtlas.View

/-!
# Sound views

The listing and the drawings of a view rely on three things: the graph is valid, the labels of the
statements that begin or end a task are numbers, and the tree is proper and has a node for each
block. Such a view can be shown in every form.

## Main definitions

* `Stmt.Labelled`: the label of a task statement is a number.
* `View.Sound`: what the listing and the drawings of a view rely on.
* `View.Showable`: a view can be shown in every form.

## Main results

* `Graph.Fitting.inside_of_mem_flow`, `Graph.Fitting.inside_of_mem_tree`: edges connect blocks.
* `View.Sound.showable`: a sound view can be shown.
-/

namespace FlowAtlas

open Relation

/-- The label of a statement that begins or ends a task is a number. -/
def Stmt.Labelled (s : Stmt) : Prop :=
  ∀ region label, s = .detach region label ∨ s = .reattach region label → ∃ n, label = .int n

variable {g : Graph} {v : View} {t : DomTree} {includeCode : Bool}
  {title tail head : String} {attributes : Dot.Attributes}

/-! ### Drawings -/

namespace Graph.Fitting

variable (h : g.Fitting)
include h

/-- The edges of a valid graph connect blocks, if the labels of its statements are numbers. -/
theorem inside_of_mem_flow (hlabelled : ∀ s ∈ g.code, s.Labelled) {d : Dot.Digraph}
    (hd : g.flowDigraph? title includeCode = some d) (he : .edge tail head attributes ∈ d.items) :
    ∃ i j : Int, tail = toString i ∧ head = toString j ∧
      (1 ≤ i ∧ i ≤ g.blocks.length) ∧ 1 ≤ j ∧ j ≤ g.blocks.length := by
  obtain ⟨items, hitems, hdigraph⟩ := h.exists_flowDigraph? title includeCode
  obtain rfl := Option.some.inj (hd.symm.trans hdigraph)
  obtain ⟨i, hi, he⟩ := List.mem_flatMap.mp he
  obtain ⟨b, hb⟩ := mem_blockNumbers_iff.mp hi
  obtain ⟨tag, attributes', edges, -, -, hedges, hblock⟩ := h.exists_blockItems? hb includeCode
  rw [Option.some.inj ((hitems i hi).symm.trans hblock)] at he
  obtain ⟨s, hs, hedges'⟩ := h.exists_edges? hb
  obtain rfl := Option.some.inj (hedges.symm.trans hedges')
  rcases List.mem_cons.mp he with he | he
  · cases he
  obtain ⟨e, he, heq⟩ := List.mem_map.mp he
  obtain ⟨htail, m, hm, hhead, hform⟩ := exists_head_of_mem_edgesOf he
  have hint : e.head = .int m := by
    rcases hform with hform | ⟨region, hform⟩
    · exact hform
    · obtain ⟨n, hn⟩ := hlabelled s (mem_of_counted? hs) region e.head hform
      rw [hn] at hhead ⊢
      rw [Option.some.inj hhead]
  rw [FlowEdge.item, htail, hint] at heq
  cases heq
  exact ⟨i, m, rfl, rfl, counted?_isSome_iff.mp (hb ▸ rfl), (h b (mem_of_counted? hb)).inside m hm⟩

/-- The edges of a proper tree connect blocks. -/
theorem inside_of_mem_tree (hproper : t.Proper) (hlength : t.nodes.length = g.blocks.length)
    {d : Dot.Digraph} (hd : g.treeDigraph t title includeCode = .ok d)
    (he : .edge tail head attributes ∈ d.items) : ∃ i j : Int, tail = toString i ∧
      head = toString j ∧ (1 ≤ i ∧ i ≤ g.blocks.length) ∧ 1 ≤ j ∧ j ≤ g.blocks.length := by
  obtain ⟨attributes', -, hdigraph⟩ := h.exists_treeDigraph hlength title includeCode
  obtain rfl := Except.ok.inj (hd.symm.trans hdigraph)
  obtain ⟨⟨node, k⟩, hx, he⟩ := List.mem_flatMap.mp he
  rcases List.mem_cons.mp he with he | he
  · cases he
  obtain ⟨c, hc, heq⟩ := List.mem_map.mp he
  cases heq
  have hnode := mem_zipIdx_one_iff.mp hx
  have hinside := hproper.inside c (List.mem_flatten.mpr
    ⟨_, List.mem_map_of_mem (mem_of_counted? hnode), hc⟩)
  rw [← hlength]
  exact ⟨k, c, rfl, rfl, counted?_isSome_iff.mp (hnode ▸ rfl), hinside⟩

end Graph.Fitting

namespace View

/-- What the listing and the drawings of a view rely on. -/
structure Sound (v : View) (t : DomTree) : Prop where
  fitting : v.graph.Fitting
  labelled : ∀ s ∈ v.graph.code, s.Labelled
  tree_eq : v.tree = some t
  proper : t.Proper
  length_nodes : t.nodes.length = v.graph.blocks.length

/-- A view can be shown in every form. The statements that are looked up for this have numbers that
count from the front, going down the tree from block one never comes back, and the edges of the
drawings connect blocks. -/
structure Showable (v : View) : Prop where
  listing : ∃ text, v.listing = .ok text
  source : ∀ kind, ∃ text, (v.drawing kind).source = .ok text
  description : ∀ kind, ∃ text, (v.drawing kind).description = .ok text
  stmtsOf : ∀ i b, counted? v.graph.blocks i = some b → ∃ stmts, v.graph.stmtsOf? i = some stmts ∧
    stmts.map Prod.fst = b.stmts.toList ∧ ∀ p ∈ stmts, counted? v.graph.code p.1 = some p.2
  terminator : ∀ i b, counted? v.graph.blocks i = some b →
    ∃ s, v.graph.terminator? i = some s ∧ counted? v.graph.code b.stmts.last = some s
  tree : ∃ t, v.tree = some t ∧ t.nodes.length = v.graph.blocks.length ∧
    ∀ b, ReflTransGen t.IsChild 1 b → ¬ TransGen t.IsChild b b
  edges : ∀ kind d, (v.drawing kind).digraph = .ok d → ∀ tail head attributes,
    .edge tail head attributes ∈ d.items → ∃ i j : Int, tail = toString i ∧ head = toString j ∧
      (1 ≤ i ∧ i ≤ v.graph.blocks.length) ∧ 1 ≤ j ∧ j ≤ v.graph.blocks.length

namespace Sound

variable (h : v.Sound t)
include h

theorem requireTree_eq : v.requireTree = .ok t := by
  rw [requireTree, h.tree_eq]

/-- The drawings of a sound view are there. -/
theorem exists_digraph (kind : DrawingKind) : ∃ d, (v.drawing kind).digraph = .ok d := by
  cases kind with
  | flow includeCode =>
    obtain ⟨items, -, hdigraph⟩ := h.fitting.exists_flowDigraph?
      ("CFG of " ++ v.name.text ++ " on " ++ v.signature.text) includeCode
    exact ⟨_, found_eq_ok_iff.mpr hdigraph⟩
  | dominators includeCode =>
    obtain ⟨attributes, -, hdigraph⟩ := h.fitting.exists_treeDigraph h.length_nodes v.treeSummary
      includeCode
    exact ⟨_, bind_eq_ok_iff.mpr ⟨t, h.requireTree_eq, hdigraph⟩⟩

theorem exists_description (kind : DrawingKind) :
    ∃ text, (v.drawing kind).description = .ok text := by
  cases kind with
  | flow includeCode => exact ⟨_, rfl⟩
  | dominators includeCode =>
    obtain ⟨text, htext⟩ := h.proper.exists_drawing
    exact ⟨_, bind_eq_ok_iff.mpr ⟨t, h.requireTree_eq, bind_eq_ok_iff.mpr ⟨text, htext, rfl⟩⟩⟩

theorem inside_of_mem {kind : DrawingKind} {d : Dot.Digraph}
    (hd : (v.drawing kind).digraph = .ok d) (he : .edge tail head attributes ∈ d.items) :
    ∃ i j : Int, tail = toString i ∧ head = toString j ∧
      (1 ≤ i ∧ i ≤ v.graph.blocks.length) ∧ 1 ≤ j ∧ j ≤ v.graph.blocks.length := by
  cases kind with
  | flow includeCode =>
    exact h.fitting.inside_of_mem_flow h.labelled (found_eq_ok_iff.mp hd) he
  | dominators includeCode =>
    obtain ⟨t', ht', hd⟩ := bind_eq_ok_iff.mp hd
    obtain rfl := Except.ok.inj (h.requireTree_eq.symm.trans ht')
    exact h.fitting.inside_of_mem_tree h.proper h.length_nodes hd he

/-- **A sound view can be shown.** -/
theorem showable : v.Showable where
  listing := by
    obtain ⟨text, htext⟩ := h.fitting.exists_listing?
    exact ⟨_, by rw [View.listing, htext]; rfl⟩
  source kind := by
    obtain ⟨d, hd⟩ := h.exists_digraph kind
    exact ⟨_, map_eq_ok_iff.mpr ⟨d, hd, rfl⟩⟩
  description := h.exists_description
  stmtsOf _ _ hb := h.fitting.exists_stmtsOf? hb
  terminator _ _ hb := h.fitting.exists_terminator? hb
  tree := ⟨t, h.tree_eq, h.length_nodes, fun _ => h.proper.not_transGen⟩
  edges _ _ hd _ _ _ he := h.inside_of_mem hd he

end Sound

end View

end FlowAtlas
