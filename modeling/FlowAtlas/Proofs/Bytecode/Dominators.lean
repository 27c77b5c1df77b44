import FlowAtlas.Bytecode.Function
import FlowAtlas.Proofs.Bytecode.Blocks
import FlowAtlas.Proofs.Dominance.Tree

/-!
# The dominator tree of a function

The tree in the view of a function is built from the graph of its blocks. Since the blocks divide
the instructions, it is the dominator tree of the flow between the instructions: the blocks in the
tree are those with instructions that can be reached, and domination between blocks is domination
between their first instructions.

## Main results

* `Presentation.view_eq`: the view of regular instructions is found, with the tree of their blocks.
* `Presentation.view_tree_is_dominatorTree`: the tree is that of the flow between instructions.
-/

namespace FlowAtlas

open Relation
open Bytecode
open Dominance (Follows Grown grow)

namespace Bytecode

variable {code : List Instruction} {blocks : List Block} {idoms : List (Int × Option Int)}
  {levels : List ℕ} {b : Int}

theorem Divided.exists_node (h : Divided code blocks) (hg : Grown blocks idoms levels)
    (h1 : 1 ≤ b) (hn : b ≤ blocks.length) : ∃ node, (grow blocks idoms levels).node? b = some node ∧
      (node.level = 0 ↔ ∀ p, Owns blocks b p → ¬ ReflTransGen (Flows code) 1 p) := by
  obtain ⟨node, hnode, hlevel⟩ := hg.exists_node h1 hn
  refine ⟨node, hnode, hlevel.trans ⟨fun hb p hp hreach => ?_, fun hb hreach => ?_⟩⟩
  · exact hb ((h.flow_reachable_iff hp).mp hreach)
  · obtain ⟨block, hblock⟩ := exists_counted? h1 hn
    exact hb _ (h.owns_first hblock) ((h.flow_reachable_iff (h.owns_first hblock)).mpr hreach)

theorem reachable_of_level (hg : Grown blocks idoms levels) {node : DomNode}
    {block : Block} (hb : counted? blocks b = some block)
    (hnode : (grow blocks idoms levels).node? b = some node) (hlevel : node.level ≠ 0) :
    ReflTransGen (Follows blocks) 1 b := by
  have hin := counted?_isSome_iff.mp (hb ▸ rfl : (counted? blocks b).isSome)
  obtain ⟨node', hnode', hlevel'⟩ := hg.exists_node hin.1 hin.2
  obtain rfl := Option.some.inj (hnode.symm.trans hnode')
  exact not_not.mp (mt hlevel'.mpr hlevel)

end Bytecode

namespace Presentation

/-- The view of regular instructions is found, with the tree of their blocks. -/
theorem view_eq {p : Presentation} (hne : p.code.instructions ≠ [])
    (hcode : Regular p.code.instructions) :
    ∃ v idoms levels, p.view = .ok v ∧ v.graph = graph p.code.instructions p.code.handlers ∧
      v.tree = some (grow v.graph.blocks idoms levels) ∧
      Dominance.tree? v.graph.blocks = some (grow v.graph.blocks idoms levels) ∧
      Grown v.graph.blocks idoms levels := by
  have hdivided := divided hcode p.code.handlers
  have hblocks : (graph p.code.instructions p.code.handlers).blocks ≠ [] := by
    rw [← List.length_pos_iff, length_blocks]
    exact List.length_pos_of_mem (zero_mem_starts hne)
  obtain ⟨idoms, levels, htree, hg⟩ := Dominance.tree?_eq hblocks fun b hb =>
    Dominance.inside_of_reachable hdivided.valid hblocks hb
  have hview : ∃ v, p.view = .ok v ∧ v.graph = graph p.code.instructions p.code.handlers ∧
      v.tree = some (grow (graph p.code.instructions p.code.handlers).blocks idoms levels) := by
    rw [view, graphOf_eq hcode]
    simp only [bind, Except.bind, htree, found]
    exact ⟨_, rfl, rfl, rfl⟩
  obtain ⟨v, hv, hgraph, hvtree⟩ := hview
  rw [← hgraph] at htree hg hvtree
  exact ⟨v, idoms, levels, hv, hgraph, hvtree, htree, hg⟩

/-- **The tree that is shown for a function is the dominator tree of the flow between its
instructions.** A block has level zero exactly if none of its instructions can be reached from the
first one. Among the other blocks, one is an ancestor of another, or the same, exactly if control
passes through its first instruction on every way to the first instruction of the other. -/
theorem view_tree_is_dominatorTree (p : Presentation) (hne : p.code.instructions ≠ [])
    (hasc : (p.code.instructions.map Instruction.offset).Pairwise (· < ·))
    (hint : ∀ ins ∈ p.code.instructions, ins.hasTarget → ∃ n : Int, ins.operand = .int n) :
    ∃ v tree, p.view = .ok v ∧ v.tree = some tree ∧
      graphOf p.code.instructions p.code.handlers = .ok v.graph ∧
      Dominance.tree? v.graph.blocks = some tree ∧
      (∀ b : Int, 1 ≤ b → b ≤ v.graph.blocks.length → ∃ node, tree.node? b = some node ∧
        (node.level = 0 ↔ ∀ q, Owns v.graph.blocks b q →
          ¬ ReflTransGen (Flows p.code.instructions) 1 q)) ∧
      ∀ a b block block' node node', counted? v.graph.blocks a = some block →
        counted? v.graph.blocks b = some block' → tree.node? a = some node →
        tree.node? b = some node' → node.level ≠ 0 → node'.level ≠ 0 →
        (ReflTransGen tree.IsChild a b ↔
          Dominates (Flows p.code.instructions) 1 block.stmts.first block'.stmts.first) := by
  have hcode : Regular p.code.instructions := ⟨hasc, hint⟩
  obtain ⟨v, idoms, levels, hv, hgraph, hvtree, htree, hg⟩ := view_eq hne hcode
  have hdivided := divided hcode p.code.handlers
  rw [← hgraph] at hdivided
  refine ⟨v, _, hv, hvtree, hgraph ▸ graphOf_eq hcode p.code.handlers, htree,
    fun b h1 hn => hdivided.exists_node hg h1 hn, ?_⟩
  intro a b block block' node node' ha hb hnode hnode' hlevel hlevel'
  rw [hdivided.dominates_iff ha hb]
  exact hg.ancestor_iff (reachable_of_level hg ha hnode hlevel)
    (reachable_of_level hg hb hnode' hlevel')

/-- A function with a loop below a handler. -/
def guarded : Presentation where
  code := { name := "guarded", instructions := guardedLoop, handlers := [10], listing := "" }
  name := "guarded"
  signature := "()"
  resultType := .null

theorem guarded_tree_is_dominatorTree : guarded.code.instructions ≠ [] ∧
    (guarded.code.instructions.map Instruction.offset).Pairwise (· < ·) ∧
    (∀ ins ∈ guarded.code.instructions, ins.hasTarget → ∃ n : Int, ins.operand = .int n) ∧
    ∃ v tree, guarded.view = .ok v ∧ v.tree = some tree ∧
      graphOf guarded.code.instructions guarded.code.handlers = .ok v.graph ∧
      Dominance.tree? v.graph.blocks = some tree ∧
      (∀ b : Int, 1 ≤ b → b ≤ v.graph.blocks.length → ∃ node, tree.node? b = some node ∧
        (node.level = 0 ↔ ∀ q, Owns v.graph.blocks b q →
          ¬ ReflTransGen (Flows guarded.code.instructions) 1 q)) ∧
      ∀ a b block block' node node', counted? v.graph.blocks a = some block →
        counted? v.graph.blocks b = some block' → tree.node? a = some node →
        tree.node? b = some node' → node.level ≠ 0 → node'.level ≠ 0 →
        (ReflTransGen tree.IsChild a b ↔
          Dominates (Flows guarded.code.instructions) 1 block.stmts.first block'.stmts.first) :=
  ⟨List.cons_ne_nil _ _, by decide, guardedLoop_operand,
    view_tree_is_dominatorTree guarded (List.cons_ne_nil _ _) (by decide) guardedLoop_operand⟩

end Presentation

end FlowAtlas
