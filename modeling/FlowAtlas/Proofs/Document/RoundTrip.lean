import FlowAtlas.Proofs.Document.Loaded
import FlowAtlas.Proofs.Document.Writer

/-!
# Loading undoes writing

A view that is written as a document is loaded as the same view. The graph has to be valid and
linked, since a document has no predecessors and the loader checks the graph and fills them in. The
tree has to be built from lists of children that pass the checks, since a document has these lists
only and the levels are found again: no block is listed twice, block one is not listed, and every
block that is listed can be reached from block one along the lists.

## Main definitions

* `DomTree.Listed`: one block is in the list of children of another.
* `View.Portable`: the views that a document can carry.

## Main results

* `DomTree.level_ne_zero_of_listed`: blocks that are reached along the lists have a level.
* `Document.link_map_unlinked`: linking finds the predecessors again.
* `Document.view_of_write`: loading undoes writing.
-/

namespace FlowAtlas

open Relation

/-! ### Trees -/

namespace DomTree

variable {children : List (List Int)} {t : DomTree} {b c : Int} {node : DomNode}

/-- A block is in the list of children of another. -/
def Listed (children : List (List Int)) (b c : Int) : Prop :=
  ∃ cs, counted? children b = some cs ∧ c ∈ cs

theorem reachable_of_listed (hh : Hanging children) (hne : children ≠ [])
    (hc : ReflTransGen (Listed children) 1 c) :
    ∃ k, position? children.length c = some k ∧ ReflTransGen (Below children) 0 k := by
  induction hc with
  | refl => exact ⟨0, position?_succ (List.length_pos_iff.mpr hne), .refl⟩
  | tail _ hstep ih =>
    obtain ⟨k, hk, hreach⟩ := ih
    obtain ⟨cs, hcs, hc⟩ := hstep
    obtain ⟨l, rfl, hl⟩ := counted?_eq_some_iff.mp hcs
    obtain rfl : l = k := Option.some.inj
      ((position?_succ (List.getElem?_eq_some_iff.mp hl).1).symm.trans hk)
    obtain ⟨m, hm⟩ := Option.isSome_iff_exists.mp
      (hh.isSome_position? cs (List.mem_of_getElem? hl) _ hc)
    exact ⟨m, hm, hreach.tail ⟨cs, hl, _, hc, hm⟩⟩

/-- Blocks that are reached along the lists have a level. -/
theorem level_ne_zero_of_listed (hh : Hanging children) (ht : ofChildren? children = some t)
    (hc : ReflTransGen (Listed children) 1 c) (hnode : t.node? c = some node) : node.level ≠ 0 := by
  rcases eq_or_ne children [] with rfl | hne
  · cases ht
    exact absurd (mem_of_numbered? hnode) List.not_mem_nil
  · obtain ⟨levels, hlevels, h⟩ := ofChildren?_eq hne hh.isSome_position?
    obtain rfl := Option.some.inj (ht.symm.trans hlevels)
    obtain ⟨k, hk, hreach⟩ := reachable_of_listed hh hne hc
    obtain rfl := Option.some.inj (hnode.symm.trans (node?_ofLevels h.length_eq hk))
    exact Int.natCast_ne_zero.mpr (h.level_ne_zero_iff.mpr hreach)

end DomTree

/-- A view that a document can carry, with a tree that is built from the given lists of children. -/
structure View.Portable (v : View) (children : List (List Int)) : Prop where
  bytecode : v.bytecode = none
  valid : v.graph.validate = .ok ()
  linked : v.graph.linked = v.graph
  code : ∀ s ∈ v.graph.code, s.Portable
  name : ∃ s, v.name = .str s
  signature : ∃ s, v.signature = .str s
  resultType : ∃ j : Json, v.resultType = j.toValue
  tree : ∃ t, DomTree.ofChildren? children = some t ∧ v.tree = some t
  length : children.length = v.graph.blocks.length
  nodup : children.flatten.Nodup
  entry : 1 ∉ children.flatten
  inside : ∀ c ∈ children.flatten, 1 ≤ c ∧ c ≤ v.graph.blocks.length
  reachable : ∀ c ∈ children.flatten, ReflTransGen (DomTree.Listed children) 1 c

namespace Document

open DomTree

variable {blocks : List Block} {b : Block} {children : List (List Int)} {t : DomTree} {v : View}
  {i : ℕ}

/-! ### Blocks -/

/-- A block without its predecessors. -/
def unlinked (b : Block) : Block :=
  { b with preds := [] }

/-- Linking finds the predecessors again. -/
theorem link_map_unlinked (blocks : List Block) :
    Graph.link (blocks.map unlinked) = Graph.link blocks := by
  refine Graph.link_congr ?_ ?_
  all_goals
    rw [List.map_map]
    rfl

theorem forall₂_toInteger {ε : Type} (f : NumeralFlaw → ε) (ns : List Int) :
    List.Forall₂ (fun j n => (Json.toInteger j).mapError f = .ok n) (ns.map .int) ns := by
  rw [List.forall₂_map_left_iff]
  exact List.forall₂_same.mpr fun n _ => rfl

/-- Reading a block undoes writing it, but for its predecessors. -/
theorem block_writeBlock (i : ℕ) (b : Block) : block i (writeBlock b) = .ok (unlinked b) := by
  have hsuccs : blockIntegers i (.arr (b.succs.map .int)) = .ok b.succs :=
    mapM_eq_ok_iff.mpr (forall₂_toInteger _ b.succs)
  refine bind_eq_ok_iff.mpr ⟨b.stmts.first, rfl, bind_eq_ok_iff.mpr ⟨b.stmts.last, rfl,
    bind_eq_ok_iff.mpr ⟨b.succs, hsuccs, rfl⟩⟩⟩

/-- The JSON value of lists of children. -/
def writeLists (children : List (List Int)) : Json :=
  .arr (children.map fun cs => .arr (cs.map .int))

theorem tree_writeLists (count : ℕ) (children : List (List Int)) :
    tree count (writeLists children) = treeOfChildren count children := by
  have hlists : (arrayItems? (writeLists children)).bind (·.mapM arrayItems?) =
      some (children.map (·.map .int)) := by
    rw [arrayLists_eq_some_iff, writeLists, List.map_map]
    rfl
  have hread : (children.map (·.map Json.int)).mapM
      (·.mapM fun c => c.toInteger.mapError treeFailure) = .ok children := by
    rw [mapM_eq_ok_iff, List.forall₂_map_left_iff]
    exact List.forall₂_same.mpr fun cs _ => mapM_eq_ok_iff.mpr (forall₂_toInteger _ cs)
  rw [tree, hlists]
  simp only [hread]
  rfl

/-- Reading the lists of children undoes writing them. -/
theorem tree_writeTree (ht : treeOfChildren t.nodes.length t.childLists = .ok t) :
    tree t.nodes.length (writeTree t) = .ok t :=
  (tree_writeLists _ _).trans ht

/-! ### Views -/

theorem forall₂_block (blocks : List Block) :
    List.Forall₂ (fun x b => block x.2 x.1 = .ok b) ((blocks.map writeBlock).zipIdx 1)
      (blocks.map unlinked) := by
  rw [List.zipIdx_map, List.forall₂_map_left_iff, ← List.zipIdx_map_fst 1 (blocks.map unlinked),
    List.zipIdx_map, List.map_map, List.forall₂_map_right_iff]
  exact List.forall₂_same.mpr fun x _ => block_writeBlock x.2 x.1

/-- **Loading undoes writing.** A view that a document can carry is written as a document that is
loaded as the same view. -/
theorem view_of_write (v : View) (children : List (List Int)) (h : v.Portable children) :
    ∃ j, write? v = some j ∧ view j = .ok v := by
  obtain ⟨t, ht, htree⟩ := h.tree
  obtain ⟨name, hname⟩ := h.name
  obtain ⟨signature, hsignature⟩ := h.signature
  obtain ⟨resultType, hresult⟩ := h.resultType
  have hh : Hanging children := ⟨h.length ▸ h.inside, h.nodup, h.entry⟩
  obtain ⟨-, hchildren⟩ := hh.proper ht
  have hcount : t.nodes.length = v.graph.blocks.length := by
    rw [← length_childLists, hchildren, h.length]
  -- The statements, and the tree with its levels, are read back.
  obtain ⟨code, hcode⟩ := exists_forall₂ fun s hs => exists_statement_eq (h.code s hs)
  have hchecked : treeOfChildren t.nodes.length t.childLists = .ok t := by
    rw [hchildren, hcount, treeOfChildren_eq_ok_iff]
    exact ⟨h.length, hh, ht, fun c hc node =>
      level_ne_zero_of_listed hh ht (h.reachable c hc)⟩
  have hlinked : Graph.linked ⟨v.graph.blocks.map unlinked, v.graph.code⟩ = v.graph := by
    rw [Graph.linked, link_map_unlinked]
    exact h.linked
  refine ⟨.obj [("name", .str name), ("signature", .str signature), ("rtype", resultType),
    ("code", .arr code), ("blocks", .arr (v.graph.blocks.map writeBlock)),
    ("domtree", writeTree t)], ?_, ?_⟩
  · rw [write?, mapM_eq_some_iff.mpr (hcode.imp fun _ _ h => h.1), htree, hname, hsignature, hresult,
      Json.ofValue?_toValue]
    rfl
  · refine view_eq_ok_iff.mpr ⟨_, code, v.graph.blocks.map writeBlock, v.graph.code,
      v.graph.blocks.map unlinked, t, name, signature, rfl, rfl, rfl, hcode.flip.imp fun _ _ h => h.2,
      forall₂_block _, hlinked.symm ▸ h.valid, ?_, rfl, rfl, ?_⟩
    · rw [List.length_map, ← hcount]
      exact tree_writeTree hchecked
    · obtain ⟨graph, vname, vsignature, vresult, vtree, vbytecode⟩ := v
      cases hname
      cases hsignature
      cases hresult
      cases htree
      cases h.bytecode
      rw [hlinked]
      rfl

/-- The statements of a function with a task, of every kind. -/
def taskCode : List Stmt :=
  [.expr "syncregion" [], .gotoIfNot (.arg (.int 2)) (.int 5), .detach (.ssa (.int 1)) (.int 4),
    .expr "call" [.str "fib", .arg (.int 2)], .value (.str "%4 + 1"),
    .reattach (.ssa (.int 1)) (.int 4), .sync (.ssa (.int 1)), .goto (.int 5), .ret .null,
    .ret .undef]

/-- The children of its blocks; block six cannot be reached. -/
def taskChildren : List (List Int) :=
  [[2, 5], [3, 4], [], [], [], []]

/-- The view of a function with a task. -/
def taskView : View where
  graph := Graph.linked ⟨[⟨⟨1, 2⟩, [2, 5], []⟩, ⟨⟨3, 3⟩, [3, 4], []⟩, ⟨⟨4, 6⟩, [4], []⟩,
    ⟨⟨7, 8⟩, [5], []⟩, ⟨⟨9, 9⟩, [], []⟩, ⟨⟨10, 10⟩, [], []⟩], taskCode⟩
  name := .str "fib"
  signature := .str "(n::Int64)"
  resultType := .str "Int64"
  tree := some ⟨[⟨1, [2, 5]⟩, ⟨2, [3, 4]⟩, ⟨3, []⟩, ⟨3, []⟩, ⟨2, []⟩, ⟨0, []⟩]⟩

theorem portable_of_mem_taskCode : ∀ s ∈ taskCode, s.Portable := by
  have hssa : (Value.ssa (.int 1)).Portable := .ssa (n := 1) (by decide)
  have harg : (Value.arg (.int 2)).Portable := .arg (n := 2) (by decide)
  have hstr : ∀ s : String, reference? s.toList = none → (Value.str s).Portable := fun s hs =>
    .json (.str s) fun _ h => Json.str.inj h ▸ reference?_eq_none_iff.mp hs
  have hargs : ∀ arg ∈ [Value.str "fib", .arg (.int 2)], arg.Portable := by
    simp only [List.forall_mem_cons]
    exact ⟨hstr _ rfl, harg, fun _ h => absurd h List.not_mem_nil⟩
  simp only [taskCode, List.forall_mem_cons]
  exact ⟨.expr _ fun _ h => absurd h List.not_mem_nil, .gotoIfNot harg 5, .detach hssa 4,
    .expr _ hargs, .value (hstr _ rfl) fun _ => Value.noConfusion, .reattach hssa 4, .sync hssa,
    .goto 5, .ret (.json .null fun _ => Json.noConfusion), .unreachable,
    fun _ h => absurd h List.not_mem_nil⟩

theorem portable_taskView : taskView.Portable taskChildren where
  bytecode := rfl
  valid := rfl
  linked := rfl
  code := portable_of_mem_taskCode
  name := ⟨_, rfl⟩
  signature := ⟨_, rfl⟩
  resultType := ⟨.str "Int64", rfl⟩
  tree := ⟨_, by simp [taskChildren, ofChildren?, levelsFrom?, descend?, numbered?, position?], rfl⟩
  length := rfl
  nodup := by decide
  entry := by decide
  inside := by decide
  reachable := by
    have htwo : ReflTransGen (Listed taskChildren) 1 2 := .single ⟨_, rfl, by decide⟩
    have hfive : ReflTransGen (Listed taskChildren) 1 5 := .single ⟨_, rfl, by decide⟩
    have hthree := htwo.tail (⟨_, rfl, by decide⟩ : Listed taskChildren 2 3)
    have hfour := htwo.tail (⟨_, rfl, by decide⟩ : Listed taskChildren 2 4)
    have hlisted : taskChildren.flatten = [2, 5, 3, 4] := rfl
    simp only [hlisted, List.forall_mem_cons]
    exact ⟨htwo, hfive, hthree, hfour, fun _ h => absurd h List.not_mem_nil⟩

theorem taskView_of_write : taskView.Portable taskChildren ∧
    ∃ j, write? taskView = some j ∧ view j = .ok taskView :=
  ⟨portable_taskView, view_of_write taskView taskChildren portable_taskView⟩

end Document

end FlowAtlas
