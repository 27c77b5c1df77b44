import FlowAtlas.Proofs.Document.Trees
import FlowAtlas.Proofs.DomTree.Outline
import FlowAtlas.Proofs.Dot.Drawings
import FlowAtlas.Proofs.View.Provided

/-!
# The two drawings of a dominator tree

The plain text of a dominator tree goes down from block one, and its drawing in the DOT language
goes through the blocks by their numbers. Both show the same pairs of parents and children, since a
tree that is provided lists every child once, and only below blocks that hang below block one.

## Main definitions

* `Dot.Reading.edges`: the pairs of blocks that a text in the DOT language connects.
* `View.SameTree`: the plain text and the drawings show the same tree.

## Main results

* `View.Provided.rooted`: in the tree of a view that is provided all children hang below block one.
* `DomTree.Rooted.heads_eq`: every block has the same children in both drawings.
* `View.sameTree_of_provided`: the drawings of a view that is provided show the same tree.
-/

namespace FlowAtlas

open Relation DomTree

/-! ### Trees that are provided -/

namespace Document

variable {t : DomTree} {j : Json} {v : View}

/-- In the tree of a loaded view all children hang below block one. -/
theorem rooted_of_view (h : view j = .ok v) (ht : v.tree = some t) : t.Rooted := by
  obtain ⟨members, code, blocks, stmts, blocks', t', name, signature, -, -, -, -, -, hvalid, ht',
    -, -, rfl⟩ := view_eq_ok_iff.mp h
  obtain rfl := Option.some.inj ht
  split at ht'
  · exact rooted_of_tree ht'
  · exact Dominance.rooted_of_tree? (Graph.Fitting.of_validate hvalid).succs_inside
      (found_eq_ok_iff.mp ht')

end Document

/-- In the tree of the view of a function all children hang below block one. -/
theorem Presentation.rooted_of_view {p : Presentation} {v : View} {t : DomTree} (h : p.view = .ok v)
    (ht : v.tree = some t) : t.Rooted := by
  obtain ⟨t', hsound⟩ := Presentation.view_sound h
  obtain ⟨g, -, h⟩ := bind_eq_ok_iff.mp h
  obtain ⟨t'', htree, h⟩ := bind_eq_ok_iff.mp h
  cases h
  obtain rfl := Option.some.inj ht
  exact Dominance.rooted_of_tree? hsound.fitting.succs_inside (found_eq_ok_iff.mp htree)

/-- In the tree of a view that is provided all children hang below block one. -/
theorem View.Provided.rooted {v : View} {t : DomTree} (h : v.Provided) (ht : v.tree = some t) :
    t.Rooted := by
  cases h with
  | document h => exact Document.rooted_of_view h ht
  | function _ h => exact Presentation.rooted_of_view h ht

theorem View.Provided.sound {v : View} (h : v.Provided) : ∃ t, v.Sound t := by
  cases h with
  | document h => exact Document.view_sound h
  | function _ h => exact Presentation.view_sound h

/-! ### The edges of drawings -/

/-- The pairs of nodes that a text in the DOT language connects, in order. -/
def Dot.Reading.edges (r : Dot.Reading) : List (String × String) :=
  r.statements.filterMap fun
    | .edge tail head _ => some (tail, head)
    | _ => none

namespace DomTree

variable {t : DomTree} {levels : ℕ} {b : Int} {name text : String}

/-- The pairs of a block with its children. -/
def edgesOf (x : DomNode × ℕ) : List (String × String) :=
  (x.1.children.map toString).map (toString x.2, ·)

/-- The pairs of blocks and children by the numbers of the blocks. -/
def edges (t : DomTree) : List (String × String) :=
  (t.nodes.zipIdx 1).flatMap edgesOf

theorem edges_drawingReading (title : String) (attributes : ℕ → Dot.Attributes) :
    (drawingReading title ((t.nodes.zipIdx 1).flatMap
      (Graph.treeStatements attributes))).edges = t.edges := by
  rw [Dot.Reading.edges, drawingReading, List.filterMap_cons_none rfl, List.filterMap_cons_none rfl,
    List.filterMap_flatMap, edges]
  refine List.flatMap_congr fun x _ => ?_
  rw [Graph.treeStatements, List.filterMap_cons_none rfl, List.filterMap_map, edgesOf, List.map_map]
  exact congrFun List.filterMap_eq_map x.1.children

theorem map_snd_edges (t : DomTree) : t.edges.map Prod.snd = t.childLists.flatten.map toString := by
  have hpart : ∀ x, (edgesOf x).map Prod.snd = x.1.children.map toString := fun x => by
    rw [edgesOf, List.map_map]
    exact List.map_id _
  rw [edges, childLists, ← List.flatMap_def, List.map_flatMap, List.map_flatMap]
  simp only [hpart]
  rw [← List.flatMap_map Prod.fst fun node : DomNode => node.children.map toString,
    List.zipIdx_map_fst]

theorem Rooted.nodup_edges (h : t.Rooted) : t.edges.Nodup := by
  refine List.Nodup.of_map Prod.snd ?_
  rw [map_snd_edges]
  exact h.proper.hanging.nodup.map fun _ _ => Text.toString_inj.mp

theorem heads_edgesOf (x : DomNode × ℕ) :
    heads (toString x.2) (edgesOf x) = x.1.children.map toString :=
  heads_map_mk _ _

theorem heads_edgesOf_of_ne {x : DomNode × ℕ} (h : toString x.2 ≠ name) :
    heads name (edgesOf x) = [] := by
  refine heads_eq_nil fun pair hpair => ?_
  obtain ⟨c, -, rfl⟩ := List.mem_map.mp hpair
  exact h

/-- A block is the first item of the pairs with its children only. -/
theorem heads_flatMap_edgesOf (nodes : List DomNode) (start k : ℕ) :
    heads (toString (start + k)) ((nodes.zipIdx start).flatMap edgesOf) =
      (((nodes[k]?).map (·.children)).getD []).map toString := by
  induction nodes generalizing start k with
  | nil => rfl
  | cons node nodes ih =>
    rw [List.zipIdx_cons, List.flatMap_cons, heads_append]
    cases k with
    | zero =>
      have hrest : heads (toString start) ((nodes.zipIdx (start + 1)).flatMap edgesOf) = [] := by
        rw [heads_flatMap, List.flatMap_eq_nil_iff]
        intro x hx
        refine heads_edgesOf_of_ne fun hname => ?_
        have := (List.mem_zipIdx hx).1
        have := Text.toString_nat_inj.mp hname
        omega
      rw [Nat.add_zero, hrest, List.append_nil, heads_edgesOf (node, start)]
      rfl
    | succ k =>
      have hfirst : heads (toString (start + (k + 1))) (edgesOf (node, start)) = [] :=
        heads_edgesOf_of_ne fun hname => by
          have := Text.toString_nat_inj.mp hname
          omega
      rw [hfirst, List.nil_append, List.getElem?_cons_succ, ← ih (start + 1) k,
        Nat.add_right_comm start 1 k, Nat.add_assoc]

theorem heads_edges (hb : 1 ≤ b) : heads (toString b) t.edges = (t.childrenOf b).map toString := by
  obtain ⟨k, rfl⟩ : ∃ k : ℕ, b = k + 1 := ⟨(b - 1).toNat, by omega⟩
  rw [childrenOf, node?_succ, ← heads_flatMap_edgesOf t.nodes 1 k, Nat.add_comm 1 k]
  rfl

theorem heads_edges_eq_nil (h : ∀ b : Int, 1 ≤ b → toString b ≠ name) :
    heads name t.edges = [] := by
  rw [edges, heads_flatMap, List.flatMap_eq_nil_iff]
  intro x hx
  exact heads_edgesOf_of_ne (h x.2 (by have := (List.mem_zipIdx hx).1; omega))

/-- Every block has the same children in both drawings, in the same order. -/
theorem Rooted.heads_eq (h : t.Rooted) (htext : t.drawingWithin levels = .ok text) (name : String) :
    heads name ((t.linksBelow levels 0 1).map Link.pair) = heads name t.edges := by
  rw [drawingWithin_eq_ok_iff] at htext
  split at htext
  · next hnil =>
    rw [linksBelow_of_nodes_eq_nil hnil, edges, hnil]
    rfl
  have hends := htext.1
  by_cases hname : ∃ b : Int, 1 ≤ b ∧ toString b = name
  · obtain ⟨b, hb, rfl⟩ := hname
    rw [heads_map_pair, h.targets_eq hends hb, heads_edges hb]
  · have hne : ∀ b : Int, 1 ≤ b → toString b ≠ name := fun b hb heq => hname ⟨b, hb, heq⟩
    rw [heads_edges_eq_nil hne]
    refine heads_eq_nil fun pair hpair => ?_
    obtain ⟨l, hl, rfl⟩ := List.mem_map.mp hpair
    exact hne l.parent (h.proper.one_le_of_reaches le_rfl (reaches_of_mem hl).1)

end DomTree

/-! ### Both drawings -/

namespace View

/-- The plain text of the dominator tree of a view and its drawings in the DOT language show the
same tree. What follows the summary in the text is an outline. It and the drawings, with and without
the statements, are read as pairs of blocks and children. Each shows every pair once, and the
children of each block stand in the same order, which is that of the tree. -/
structure SameTree (v : View) (text : String) (pairs : List (String × String)) : Prop where
  description : ∀ includeCode, (v.drawing (.dominators includeCode)).description =
    .ok (v.treeSummary ++ "\n" ++ text)
  /-- The text is shown if the tree is not too deep to be gone through. -/
  described : ∀ t, v.tree = some t → (t.nodes ≠ [] → t.Ends levelLimit 1) → ∀ includeCode,
    v.describe (.dominators includeCode) = .ok (v.treeSummary ++ "\n" ++ text)
  /-- No other text is shown. -/
  shown : ∀ includeCode shown, v.describe (.dominators includeCode) = .ok shown →
    shown = v.treeSummary ++ "\n" ++ text
  outline : outline? text = some pairs
  nodup : pairs.Nodup
  children : ∀ t, v.tree = some t → ∀ b : Int, 1 ≤ b →
    heads (toString b) pairs = (t.childrenOf b).map toString
  source : ∀ includeCode, ∃ source reading,
    (v.drawing (.dominators includeCode)).source = .ok source ∧ Dot.read? source = some reading ∧
    reading.edges.Nodup ∧ pairs.Perm reading.edges ∧
    ∀ name, heads name pairs = heads name reading.edges

variable {v : View} {t : DomTree} {text : String}

/-- The text of the drawing of the tree follows the summary. -/
theorem treeDescription_eq_ok_iff {draw : DomTree → Except Failure String} {shown : String}
    (ht : v.tree = some t) : v.treeDescription draw = .ok shown ↔
      ∃ text, draw t = .ok text ∧ v.treeSummary ++ "\n" ++ text = shown := by
  have htree : v.requireTree = .ok t := by
    rw [requireTree, ht]
  rw [treeDescription, htree, bind_eq_ok_iff]
  constructor
  · rintro ⟨t', ht', h⟩
    obtain rfl := Except.ok.inj ht'
    obtain ⟨text, htext, h⟩ := bind_eq_ok_iff.mp h
    exact ⟨text, htext, Except.ok.inj h⟩
  · rintro ⟨text, htext, rfl⟩
    exact ⟨t, rfl, bind_eq_ok_iff.mpr ⟨text, htext, rfl⟩⟩

/-- The drawings of a sound view with a rooted tree show the same tree. -/
theorem Sound.exists_sameTree (h : v.Sound t) (hrooted : t.Rooted) :
    ∃ text pairs, v.SameTree text pairs := by
  obtain ⟨text, htext⟩ := hrooted.proper.exists_drawing
  have hheads := hrooted.heads_eq htext
  have hperm := perm_of_heads_eq hheads
  have hbounded {text' : String} (htext' : t.boundedDrawing = .ok text') : text' = text :=
    Except.ok.inj ((drawingWithin_mono htext' (Nat.min_le_right _ _)).symm.trans htext)
  refine ⟨text, _, fun includeCode => ?_, fun t' ht' hends includeCode => ?_,
    fun includeCode shown hshown => ?_,
    outline?_drawingWithin hrooted.proper.one_le_of_isChild htext,
    hperm.nodup_iff.mpr hrooted.nodup_edges, fun t' ht' b hb => ?_, fun includeCode => ?_⟩
  · exact (treeDescription_eq_ok_iff h.tree_eq).mpr ⟨text, htext, rfl⟩
  · obtain rfl := Option.some.inj (h.tree_eq.symm.trans ht')
    obtain ⟨text', htext'⟩ := h.proper.exists_boundedDrawing hends
    exact (treeDescription_eq_ok_iff h.tree_eq).mpr ⟨text', htext', by rw [hbounded htext']⟩
  · obtain ⟨text', htext', rfl⟩ := (treeDescription_eq_ok_iff h.tree_eq).mp hshown
    rw [hbounded htext']
  · obtain rfl := Option.some.inj (h.tree_eq.symm.trans ht')
    rw [hheads, heads_edges hb]
  · obtain ⟨d, attributes, hd, -, hread⟩ := h.fitting.tree_read h.length_nodes v.treeSummary
      includeCode
    have hedges := edges_drawingReading (t := t) v.treeSummary attributes
    refine ⟨d.source, _, map_eq_ok_iff.mpr ⟨d, ?_, rfl⟩, hread, ?_, ?_, fun name => ?_⟩
    · exact bind_eq_ok_iff.mpr ⟨t, h.requireTree_eq, hd⟩
    · rw [hedges]
      exact hrooted.nodup_edges
    · rw [hedges]
      exact hperm
    · rw [hedges, hheads]

/-- **The plain text and the drawings of the dominator tree show the same tree**, for every view
that is provided. -/
theorem sameTree_of_provided (v : View) (h : v.Provided) : ∃ text pairs, v.SameTree text pairs := by
  obtain ⟨t, hsound⟩ := h.sound
  exact hsound.exists_sameTree (h.rooted hsound.tree_eq)

/-- A document of a branch with a tree that lists the children of block one against their order. -/
def branchDocument : Json :=
  .obj [("code", .arr [
      .obj [("kind", .str "gotoifnot"), ("cond", .str "%1"), ("dest", .int 3)],
      .obj [("kind", .str "goto"), ("label", .int 4)],
      .obj [("kind", .str "return")],
      .obj [("kind", .str "return")]]),
    ("blocks", .arr [
      .obj [("stmts", .arr [.int 1, .int 1]), ("succs", .arr [.int 2, .int 3])],
      .obj [("stmts", .arr [.int 2, .int 2]), ("succs", .arr [.int 4])],
      .obj [("stmts", .arr [.int 3, .int 3])],
      .obj [("stmts", .arr [.int 4, .int 4])]]),
    ("domtree", .arr [.arr [.int 3, .int 2], .arr [.int 4], .arr [], .arr []])]

/-- The statements of the branch. -/
def branchCode : List Stmt :=
  [.gotoIfNot (.ssa (.int 1)) (.int 3), .goto (.int 4), .ret .undef, .ret .undef]

/-- The blocks of the branch. -/
def branchBlocks : List Block :=
  [⟨⟨1, 1⟩, [2, 3], []⟩, ⟨⟨2, 2⟩, [4], []⟩, ⟨⟨3, 3⟩, [], []⟩, ⟨⟨4, 4⟩, [], []⟩]

/-- The tree of the branch. -/
def branchTree : DomTree :=
  ⟨[⟨1, [3, 2]⟩, ⟨2, [4]⟩, ⟨2, []⟩, ⟨3, []⟩]⟩

theorem treeOfChildren_branch :
    Document.treeOfChildren 4 [[3, 2], [4], [], []] = .ok branchTree := by
  refine Document.treeOfChildren_eq_ok_iff.mpr
    ⟨rfl, ⟨by decide, by decide, by decide⟩, ?_, by decide⟩
  simp [branchTree, ofChildren?, levelsFrom?, descend?, numbered?, position?]

theorem branch_sameTree :
    ∃ v, Document.view branchDocument = .ok v ∧ ∃ text pairs, v.SameTree text pairs := by
  have hview := Document.view_eq_ok_iff.mpr ⟨_, _, _, branchCode, branchBlocks, branchTree, _, _,
    (rfl : branchDocument = _), rfl, rfl, mapM_eq_ok_iff.mp rfl, mapM_eq_ok_iff.mp rfl, rfl,
    treeOfChildren_branch, rfl, rfl, rfl⟩
  exact ⟨_, hview, sameTree_of_provided _ (.document hview)⟩

end View

end FlowAtlas
