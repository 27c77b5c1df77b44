import FlowAtlas.Graph
import FlowAtlas.Proofs.Numbering
import Mathlib.Data.List.Basic

/-!
# Linked blocks

Linking gives every block its predecessors: the blocks that have it among their successors, each
once and in ascending order. Only the successors are looked at, so the predecessors that were there
before do not matter, and linking again changes nothing. A successor that is no block is the
successor of its block still, but no block has that block as a predecessor for it.

The predecessors are found by one pass over the successors of all blocks, in which every successor
adds its block to the list of another one. Since the blocks come in ascending order, a list that has
block `i` in it already while the successors of `i` are gone through ends in it.

## Main definitions

* `Graph.predsOf`: the predecessors of a block, said outright.
* `Graph.Linking`: what linking does to a list of blocks.

## Main results

* `Graph.getElem?_predLists`: the pass finds the predecessors of each block.
* `Graph.mem_predsOf_iff`, `Graph.pairwise_predsOf`: the predecessors of a block.
* `Graph.predsOf_congr`: they depend on the successors only.
* `Graph.link_link`: linking again changes nothing.
* `Graph.link_inverts_succs`: predecessors are the inverse of successors.
-/

namespace FlowAtlas.Graph

variable {blocks blocks' : List Block} {b : Block} {i j : Int}

/-! ### Predecessors -/

/-- The numbers of the blocks of a list that have a given number among their successors, in
ascending order. -/
def predsOf (blocks : List Block) (i : Int) : List Int :=
  ((blocks.zipIdx 1).filter fun (b, _) => b.succs.contains i).map fun (_, k) => (k : Int)

/-- The predecessors of a block are the blocks that have it among their successors. -/
theorem mem_predsOf_iff :
    j ∈ predsOf blocks i ↔ ∃ b, counted? blocks j = some b ∧ i ∈ b.succs := by
  simp only [predsOf, List.mem_map, List.mem_filter, Prod.exists, mem_zipIdx_one_iff,
    List.contains_iff_mem]
  constructor
  · rintro ⟨b, k, hb, rfl⟩
    exact ⟨b, hb⟩
  · rintro ⟨b, hb, hi⟩
    obtain ⟨k, rfl, -⟩ := counted?_eq_some_iff.mp hb
    exact ⟨b, k + 1, ⟨hb, hi⟩, rfl⟩

/-- Predecessors are listed in ascending order, so that none is listed twice. -/
theorem pairwise_predsOf (blocks : List Block) (i : Int) :
    (predsOf blocks i).Pairwise (· < ·) := by
  have hcount : ((blocks.zipIdx 1).map Prod.snd).Pairwise (· < ·) := by
    rw [List.zipIdx_map_snd]
    exact List.pairwise_lt_range'
  rw [predsOf, List.pairwise_map]
  refine List.Pairwise.filter _ ((List.pairwise_map.mp hcount).imp fun h => ?_)
  exact Int.ofNat_lt.mpr h

/-- Predecessors depend on the successors only. -/
theorem predsOf_congr (h : blocks.map Block.succs = blocks'.map Block.succs) (i : Int) :
    predsOf blocks i = predsOf blocks' i := by
  have hsuccs : ∀ blocks : List Block, predsOf blocks i =
      (((blocks.map Block.succs).zipIdx 1).filter fun x => x.1.contains i).map
        fun x => (x.2 : Int) := by
    intro blocks
    rw [predsOf, List.zipIdx_map, List.filter_map, List.map_map]
    rfl
  rw [hsuccs, hsuccs, h]

/-! ### The pass over the successors -/

section Pass

variable {preds : List (List Int)} {n : ℕ}

theorem getElem?_addPred (i s : Int) (preds : List (List Int)) (k : ℕ) :
    (addPred i preds s)[k]? = preds[k]?.map fun xs => if s = k + 1 then appendNew i xs else xs := by
  rw [addPred]
  cases hk : preds[k]? with
  | none =>
    rw [Option.map_none]
    split_ifs
    · rw [List.getElem?_modify, hk]
      rfl
    · exact hk
  | some xs =>
    have hlt : k < preds.length := (List.getElem?_eq_some_iff.mp hk).1
    have hsk : (s - 1).toNat = k ∧ 1 ≤ s ↔ s = k + 1 := by omega
    rw [Option.map_some]
    split_ifs with hs hsk' hsk'
    · rw [List.getElem?_modify, hk]
      exact congrArg some (if_pos (hsk.mpr hsk').1)
    · rw [List.getElem?_modify, hk]
      exact congrArg some (if_neg fun h => hsk' (hsk.mp ⟨h, hs.1⟩))
    · omega
    · exact hk

/-- The successors of one block add it to the lists of those among them that are blocks. -/
theorem getElem?_foldl_addPred (i : Int) (succs : List Int) (preds : List (List Int)) (k : ℕ) :
    (succs.foldl (addPred i) preds)[k]? =
      preds[k]?.map fun xs => if (k + 1 : Int) ∈ succs then appendNew i xs else xs := by
  induction succs generalizing preds with
  | nil => simp
  | cons s succs ih =>
    rw [List.foldl_cons, ih, getElem?_addPred, Option.map_map]
    refine congrArg (Option.map · _) (funext fun xs => ?_)
    by_cases hs : s = k + 1 <;> by_cases hk : (k + 1 : Int) ∈ succs <;> simp [hs, hk, eq_comm]

/-- What the pass over the blocks from number `n` on adds to the lists. No list can hold one of
these blocks before. -/
theorem getElem?_foldl_predLists (blocks : List Block) (n k : ℕ)
    (hlt : ∀ listed ∈ preds, ∀ j ∈ listed, j < n) :
    ((blocks.zipIdx n).foldl (fun preds (b, i) => b.succs.foldl (addPred i) preds) preds)[k]? =
      preds[k]?.map (· ++ ((blocks.zipIdx n).filter fun (b, _) => b.succs.contains (k + 1 : Int)).map
        fun (_, j) => (j : Int)) := by
  induction blocks generalizing n preds with
  | nil => simp
  | cons b blocks ih =>
    have hnext : ∀ listed ∈ b.succs.foldl (addPred n) preds, ∀ j ∈ listed, j < (n + 1 : ℕ) := by
      intro listed hlisted j hj
      obtain ⟨l, hl⟩ := List.getElem?_of_mem hlisted
      rw [getElem?_foldl_addPred] at hl
      obtain ⟨before, hbefore, rfl⟩ := Option.map_eq_some_iff.mp hl
      have hnew : j ∈ before ∨ j = n := by
        split_ifs at hj
        · exact mem_appendNew.mp hj
        · exact .inl hj
      rcases hnew with hj | rfl
      · have := hlt before (List.mem_of_getElem? hbefore) j hj
        omega
      · omega
    rw [List.zipIdx_cons, List.foldl_cons, ih (n + 1) hnext, getElem?_foldl_addPred, Option.map_map]
    cases hk : preds[k]? with
    | none => rfl
    | some listed =>
      have hn : (n : Int) ∉ listed := fun hmem =>
        Int.lt_irrefl n (hlt listed (List.mem_of_getElem? hk) n hmem)
      by_cases hs : (k + 1 : Int) ∈ b.succs <;> simp [hs, appendNew_of_not_mem hn]

end Pass

theorem getElem?_predLists (blocks : List Block) (k : ℕ) :
    (predLists blocks)[k]? = blocks[k]?.map fun _ => predsOf blocks (k + 1) := by
  rw [predLists, getElem?_foldl_predLists blocks 1 k (by simp), List.getElem?_map, Option.map_map]
  simp [predsOf, Function.comp_def]

/-! ### Linking -/

theorem getElem?_link (blocks : List Block) (k : ℕ) : (link blocks)[k]? =
    blocks[k]?.map fun b => { b with preds := predsOf blocks (k + 1) } := by
  rw [link, List.getElem?_zipWith, getElem?_predLists]
  cases blocks[k]? <;> rfl

/-- What linking leaves alone: all that does not look at the predecessors. -/
theorem map_link {α : Type} {f : Block → α} (h : ∀ b preds, f { b with preds } = f b)
    (blocks : List Block) : (link blocks).map f = blocks.map f := by
  refine List.ext_getElem? fun k => ?_
  simp only [List.getElem?_map, getElem?_link, Option.map_map, Function.comp_def, h]

@[simp]
theorem length_link (blocks : List Block) : (link blocks).length = blocks.length := by
  rw [← List.length_map fun _ => (), map_link fun _ _ => rfl, List.length_map]

theorem link_congr (hstmts : blocks.map Block.stmts = blocks'.map Block.stmts)
    (hsuccs : blocks.map Block.succs = blocks'.map Block.succs) : link blocks = link blocks' := by
  refine List.ext_getElem? fun k => ?_
  have hstmts : blocks[k]?.map Block.stmts = blocks'[k]?.map Block.stmts := by
    rw [← List.getElem?_map, hstmts, List.getElem?_map]
  have hsuccs' : blocks[k]?.map Block.succs = blocks'[k]?.map Block.succs := by
    rw [← List.getElem?_map, hsuccs, List.getElem?_map]
  rw [getElem?_link, getElem?_link, predsOf_congr hsuccs]
  cases hb : blocks[k]? <;> cases hb' : blocks'[k]? <;> simp_all

/-- Linking again changes nothing. -/
theorem link_link (blocks : List Block) : link (link blocks) = link blocks :=
  link_congr (map_link (fun _ _ => rfl) blocks) (map_link (fun _ _ => rfl) blocks)

/-- What linking does to a list of blocks. -/
structure Linking (blocks linked : List Block) : Prop where
  length_eq : linked.length = blocks.length
  stmts_eq : linked.map Block.stmts = blocks.map Block.stmts
  succs_eq : linked.map Block.succs = blocks.map Block.succs
  /-- The predecessors of a block are exactly the blocks that have it among their successors. -/
  mem_preds_iff : ∀ {i j b}, counted? linked i = some b →
    (j ∈ b.preds ↔ ∃ a, counted? linked j = some a ∧ i ∈ a.succs)
  ascending : ∀ b ∈ linked, b.preds.Pairwise (· < ·)
  again : link linked = linked

theorem preds_eq (h : counted? (link blocks) i = some b) : b.preds = predsOf (link blocks) i := by
  obtain ⟨k, rfl, hk⟩ := counted?_eq_some_iff.mp h
  rw [getElem?_link] at hk
  obtain ⟨a, -, rfl⟩ := Option.map_eq_some_iff.mp hk
  exact predsOf_congr (map_link (fun _ _ => rfl) blocks).symm _

/-- **Predecessors are the inverse of successors** in linked blocks. -/
theorem link_inverts_succs (blocks : List Block) : Linking blocks (link blocks) where
  length_eq := length_link blocks
  stmts_eq := map_link (fun _ _ => rfl) blocks
  succs_eq := map_link (fun _ _ => rfl) blocks
  mem_preds_iff h := by rw [preds_eq h, mem_predsOf_iff]
  ascending b hb := by
    obtain ⟨k, hk⟩ := List.getElem?_of_mem hb
    rw [preds_eq ((counted?_succ k).trans hk)]
    exact pairwise_predsOf _ _
  again := link_link blocks

/-- A block that is listed twice counts once, and numbers of no block count for none. -/
example : (link [⟨⟨1, 1⟩, [2, 2, 0, -1], [7]⟩, ⟨⟨2, 2⟩, [1, 3, 2], []⟩]).map Block.preds =
    [[2], [1, 2]] := by
  decide

end FlowAtlas.Graph
