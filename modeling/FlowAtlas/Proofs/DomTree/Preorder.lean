import FlowAtlas.Proofs.DomTree.Descent

/-!
# The order of the blocks of a tree

Going down from block one passes each block that hangs below it once: a block before what is below
it, and its children in their order. Only the lists of children matter for this, and for the
drawing, not the levels that the nodes have. The levels that the walk down gives count the blocks on
the way from block one.

## Main definitions

* `Traversal`: the blocks at and below a block, in order.
* `passed`: the blocks below a block as they are passed on the way down.
* `levelOf?`: the level of a block.

## Main results

* `drawing_eq_ok_iff_of_childLists_eq`: a drawing depends on the lists of children only.
* `traversal_passed`, `mem_passed_iff`, `Proper.nodup_passed`: the order of going down.
* `Proper.levelOf?_child`: a child is one level below its parent.
-/

namespace FlowAtlas.DomTree

open Relation

variable {t t' : DomTree} {levels d : ℕ} {text : String} {i b c p : Int}

/-! ### Levels do not matter -/

theorem numbered?_childLists (t : DomTree) (i : Int) :
    numbered? t.childLists i = (t.node? i).map (·.children) := by
  rw [numbered?, length_childLists, node?, numbered?, Option.map_bind]
  refine congrArg _ (funext fun k => ?_)
  rw [childLists, List.getElem?_map]
  rfl

section

variable (h : t.childLists = t'.childLists)
include h

theorem map_children_node?_congr (i : Int) :
    (t.node? i).map (·.children) = (t'.node? i).map (·.children) := by
  rw [← numbered?_childLists, h, numbered?_childLists]

theorem childrenOf_congr : t.childrenOf = t'.childrenOf := by
  funext i
  rw [childrenOf, map_children_node?_congr h, childrenOf]

theorem isChild_congr : t.IsChild = t'.IsChild := by
  funext p c
  rw [← mem_childrenOf_iff, childrenOf_congr h, mem_childrenOf_iff]

theorem ends_congr (levels : ℕ) (i : Int) : t.Ends levels i = t'.Ends levels i := by
  induction levels generalizing i with
  | zero => rfl
  | succ levels ih =>
    have hsome : (t.node? i).isSome = (t'.node? i).isSome := by
      rw [← Option.isSome_map, map_children_node?_congr h, Option.isSome_map]
    simp only [Ends, hsome, childrenOf_congr h, ih]

theorem drawnBelow_congr (levels : ℕ) (margin : String) (i : Int) :
    t.drawnBelow levels margin i = t'.drawnBelow levels margin i := by
  induction levels generalizing margin i with
  | zero => rfl
  | succ levels ih => simp only [drawnBelow, childrenOf_congr h, ih]

/-- A drawing depends on the lists of children only. -/
theorem drawing_eq_ok_iff_of_childLists_eq : t.drawing = .ok text ↔ t'.drawing = .ok text := by
  have hlength : t.nodes.length = t'.nodes.length := by
    rw [← length_childLists, h, length_childLists]
  have hnil : t.nodes = [] ↔ t'.nodes = [] := by
    rw [← List.length_eq_zero_iff, hlength, List.length_eq_zero_iff]
  simp only [drawing, drawingWithin_eq_ok_iff, hlength, hnil, ends_congr h, drawnBelow_congr h]

end

/-! ### Going down in order -/

/-- The blocks at and below a block: first the block, and then each of its children with what is
below it, in their order. -/
inductive Traversal (f : Int → List Int) : Int → List Int → Prop
  | node {i : Int} {parts : List (List Int)} (h : List.Forall₂ (Traversal f) (f i) parts) :
    Traversal f i (i :: parts.flatten)

/-- The blocks below a block as they are passed on the way down. -/
def passed (t : DomTree) : (levels : ℕ) → Int → List Int
  | 0, _ => []
  | levels + 1, i => (t.childrenOf i).flatMap fun c => c :: t.passed levels c

/-- Going down passes a block before what is below it, and its children in their order. -/
theorem traversal_passed (h : t.Ends levels i) :
    Traversal t.childrenOf i (i :: t.passed levels i) := by
  induction levels generalizing i with
  | zero => exact absurd h id
  | succ levels ih =>
    rw [passed, List.flatMap_def]
    exact .node (List.forall₂_map_right_iff.mpr (List.forall₂_same.mpr fun c hc => ih (h.2 c hc)))

theorem transGen_of_mem_passed (hb : b ∈ t.passed levels i) : TransGen t.IsChild i b := by
  induction levels generalizing i with
  | zero => exact absurd hb List.not_mem_nil
  | succ levels ih =>
    obtain ⟨c, hc, hb⟩ := List.mem_flatMap.mp hb
    have hc := mem_childrenOf_iff.mp hc
    rcases List.mem_cons.mp hb with rfl | hb
    · exact .single hc
    · exact .head hc (ih hb)

theorem reflTransGen_of_mem_passed (hb : b ∈ i :: t.passed levels i) :
    ReflTransGen t.IsChild i b := by
  rcases List.mem_cons.mp hb with rfl | hb
  · exact .refl
  · exact (transGen_of_mem_passed hb).to_reflTransGen

/-- Going down from a block passes all blocks below it, and no others. -/
theorem mem_passed_iff (h : t.Ends levels i) :
    b ∈ i :: t.passed levels i ↔ ReflTransGen t.IsChild i b := by
  refine ⟨reflTransGen_of_mem_passed, fun hb => ?_⟩
  induction levels generalizing i with
  | zero => exact absurd h id
  | succ levels ih =>
    rcases hb.cases_head with rfl | ⟨c, hc, hcb⟩
    · exact List.mem_cons_self
    · have hc := mem_childrenOf_iff.mpr hc
      exact List.mem_cons_of_mem i (List.mem_flatMap.mpr ⟨c, hc, ih (h.2 c hc) hcb⟩)

/-- No block is passed twice on the way down a proper tree. -/
theorem Proper.nodup_passed (h : t.Proper) (hi : ReflTransGen t.IsChild 1 i) :
    (i :: t.passed levels i).Nodup := by
  refine List.nodup_cons.mpr ⟨fun hmem => h.not_transGen hi (transGen_of_mem_passed hmem), ?_⟩
  induction levels generalizing i with
  | zero => exact List.nodup_nil
  | succ levels ih =>
    rw [passed, List.nodup_flatMap]
    constructor
    · intro c hc
      have hc := hi.tail (mem_childrenOf_iff.mp hc)
      exact List.nodup_cons.mpr ⟨fun hmem => h.not_transGen hc (transGen_of_mem_passed hmem), ih hc⟩
    · -- What is below one child is not below another.
      refine (h.nodup_childrenOf i).imp_of_mem fun hc hc' hne x hx hx' => hne ?_
      exact h.sibling_unique hi (mem_childrenOf_iff.mp hc) (mem_childrenOf_iff.mp hc')
        (reflTransGen_of_mem_passed hx) (reflTransGen_of_mem_passed hx')

/-! ### Levels of trees -/

/-- The level of a block in a tree. -/
def levelOf? (t : DomTree) (i : Int) : Option Int :=
  (t.node? i).map (·.level)

namespace Proper

variable (h : t.Proper)
include h

theorem levelOf?_entry (hne : t.nodes ≠ []) : t.levelOf? 1 = some 1 := by
  cases h with
  | empty => exact absurd rfl hne
  | hung hh h =>
    have hone : position? _ 1 = some 0 := position?_succ (List.length_pos_iff.mpr h.ne_nil)
    rw [levelOf?, node?_ofLevels h.length_eq hone, Option.map_some, h.entry]
    rfl

/-- **A child is one level below its parent.** -/
theorem levelOf?_child (hd : d ≠ 0) (hp : t.levelOf? p = some (d : Int))
    (hpc : t.IsChild p c) : t.levelOf? c = some ((d + 1 : ℕ) : Int) := by
  cases h with
  | empty =>
    obtain ⟨node, hnode, -⟩ := hpc
    exact absurd (mem_of_numbered? hnode) List.not_mem_nil
  | hung hh h =>
    obtain ⟨k, j, hk, hj, hbelow⟩ := exists_below_of_isChild h.length_eq hh.inside hpc
    rw [levelOf?, node?_ofLevels h.length_eq hk, Option.map_some, Option.some.injEq,
      Nat.cast_inj] at hp
    rw [levelOf?, node?_ofLevels h.length_eq hj, Option.map_some,
      h.level_succ hh hbelow (hp ▸ hd), hp]

end Proper

end FlowAtlas.DomTree
