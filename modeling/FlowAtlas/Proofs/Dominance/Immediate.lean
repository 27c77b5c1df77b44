import FlowAtlas.Proofs.Dominance.Places

/-!
# Immediate dominators

The blocks that can be reached from block one have places in the reverse postorder, and domination
between blocks is domination between their places. The parents on which the sweeps settle thus name
the immediate dominators.

## Main definitions

* `IdomTable`: what a list of immediate dominators says.

## Main results

* `ReversePostorder.dominates_iff`: domination between blocks and between places.
* `immediateDominators?_eq`: the list of immediate dominators is found.
* `immediateDominators_are_nearest`: every block is listed with its nearest dominator.
-/

namespace FlowAtlas.Dominance

open Relation

variable {blocks : List Block} {order : List Int} {i j k : ℕ} {a b : Int}

/-! ### Domination between places -/

namespace ReversePostorder

variable (h : ReversePostorder blocks order)
include h

theorem ordered : Ordered (placePreds blocks order) order.length where
  lt_count := by
    intro j i hji
    obtain ⟨a, b, ha, hb, -⟩ := h.edge_placePreds_iff.mp hji
    exact ⟨(List.getElem?_eq_some_iff.mp ha).1, (List.getElem?_eq_some_iff.mp hb).1⟩
  exists_forward := by
    intro i h0 hi
    have hb : order[i]? = some order[i] := List.getElem?_eq_getElem hi
    have hne : order[i] ≠ 1 := fun h1 =>
      h0 (h.place_unique (hb.trans (congrArg some h1)) h.getElem?_zero)
    obtain ⟨j, hji, a, ha, hab⟩ := h.exists_place_lt hb hne
    exact ⟨j, h.edge_placePreds_iff.mpr ⟨a, _, ha, hb, hab⟩, hji⟩

/-- Domination between blocks is domination between their places. -/
theorem dominates_iff (hi : order[i]? = some a) (hk : order[k]? = some b) :
    Dominates (Edge (placePreds blocks order)) 0 i k ↔ Dominates (Follows blocks) 1 a b := by
  rw [← not_iff_not, not_dominates_iff, not_dominates_iff]
  constructor
  · rintro ⟨hne, hreach⟩
    refine ⟨fun h1 => hne (h.place_unique h.getElem?_zero (h1 ▸ hi)), ?_⟩
    induction hreach generalizing b with
    | refl =>
      obtain rfl := Option.some.inj (h.getElem?_zero.symm.trans hk)
      exact .refl
    | tail _ hstep ih =>
      obtain ⟨c, b', hc, hb, hcb⟩ := h.edge_placePreds_iff.mp hstep.1
      obtain rfl := Option.some.inj (hk.symm.trans hb)
      exact (ih hc).tail ⟨hcb, fun hba => hstep.2 (h.place_unique hk (hba ▸ hi))⟩
  · rintro ⟨hne, hreach⟩
    refine ⟨fun h0 => hne (Option.some.inj (h.getElem?_zero.symm.trans (h0 ▸ hi))), ?_⟩
    induction hreach generalizing k with
    | refl =>
      obtain rfl := h.place_unique h.getElem?_zero hk
      exact .refl
    | @tail c b hreach hstep ih =>
      have hc : ReflTransGen (Follows blocks) 1 c :=
        ReflTransGen.mono (fun _ _ => And.left) _ _ hreach
      obtain ⟨j, hj⟩ := List.getElem?_of_mem (h.mem_iff.mpr hc)
      refine (ih hj).tail ⟨h.edge_placePreds_iff.mpr ⟨c, b, hj, hk, hstep.1⟩, fun hki => ?_⟩
      exact hstep.2 (Option.some.inj (hk.symm.trans (hki ▸ hi)))

end ReversePostorder

/-! ### The list of immediate dominators -/

/-- What a list of immediate dominators says. It lists every block that can be reached once, block
one without a dominator, and every other with one that does not go back to the block and that is
dominated by all its other dominators. -/
structure IdomTable (blocks : List Block) (idoms : List (Int × Option Int)) : Prop where
  nodup : (idoms.map Prod.fst).Nodup
  mem_iff : ∀ {b}, b ∈ idoms.map Prod.fst ↔ ReflTransGen (Follows blocks) 1 b
  entry_iff : ∀ {b d?}, (b, d?) ∈ idoms → (d? = none ↔ b = 1)
  not_dominates : ∀ {b d}, (b, some d) ∈ idoms → ¬ Dominates (Follows blocks) 1 b d
  dominates_iff : ∀ {b c d}, (b, some d) ∈ idoms →
    (Dominates (Follows blocks) 1 c b ↔ c = b ∨ Dominates (Follows blocks) 1 c d)

/-- The blocks of an order with their parents. -/
def table (order : List Int) (parents : Parents) : List (Int × Option Int) :=
  order.zipIdx.map fun (b, i) => (b, if i = 0 then none else (parents.parent? i).bind (order[·]?))

theorem map_fst_table (order : List Int) (parents : Parents) :
    (table order parents).map Prod.fst = order := by
  rw [table, List.map_map]
  exact List.zipIdx_map_fst 0 order

theorem mem_table_iff {parents : Parents} {d? : Option Int} : (b, d?) ∈ table order parents ↔
    ∃ i, order[i]? = some b ∧
      d? = if i = 0 then none else (parents.parent? i).bind (order[·]?) := by
  simp only [table, List.mem_map, Prod.exists, List.mem_zipIdx_iff_getElem?, Prod.mk.injEq]
  constructor
  · rintro ⟨_, i, hi, rfl, rfl⟩
    exact ⟨i, hi, rfl⟩
  · rintro ⟨i, hi, rfl⟩
    exact ⟨b, i, hi, rfl, rfl⟩

section Table

variable {parents : Parents} {b d : Int}
  (hs : Settled (placePreds blocks order) order.length parents)
include hs

/-- The blocks at the parents are all found. -/
theorem ReversePostorder.dominators?_eq (h : ReversePostorder blocks order) :
    dominators? order parents = some (table order parents) := by
  rw [dominators?, mapM_eq_some_iff, List.forall₂_iff_get]
  refine ⟨by simp [table], fun i hi hi' => ?_⟩
  have hplace : place? order order[i] = some i :=
    h.place?_eq_some_iff.mpr (List.getElem?_eq_getElem hi)
  simp only [List.get_eq_getElem, hplace, Option.bind_some, table, List.getElem_map,
    List.getElem_zipIdx, Nat.zero_add]
  by_cases h0 : i = 0
  · rw [if_pos h0, if_pos h0]
  · obtain ⟨p, hp⟩ := Option.isSome_iff_exists.mp (hs.sweeping.done hi)
    have hlt : p < order.length := (hs.sweeping.rooted.lt h0 hp).trans hi
    rw [if_neg h0, if_neg h0, hp, Option.bind_some, Option.bind_some,
      List.getElem?_eq_getElem hlt, Option.map_some]

theorem exists_place_of_mem_table (hd : (b, some d) ∈ table order parents) :
    ∃ i p, order[i]? = some b ∧ order[p]? = some d ∧ parents.parent? i = some p ∧ p < i := by
  obtain ⟨i, hi, hparent⟩ := mem_table_iff.mp hd
  split_ifs at hparent with h0
  obtain ⟨p, hp, hpd⟩ := Option.bind_eq_some_iff.mp hparent.symm
  exact ⟨i, p, hi, hpd, hp, hs.sweeping.rooted.lt h0 hp⟩

/-- Settled parents name the immediate dominators. -/
theorem ReversePostorder.idomTable (h : ReversePostorder blocks order) :
    IdomTable blocks (table order parents) where
  nodup := by
    rw [map_fst_table]
    exact h.nodup
  mem_iff := by
    intro b
    rw [map_fst_table]
    exact h.mem_iff
  entry_iff := by
    intro b d? hb
    obtain ⟨i, hi, rfl⟩ := mem_table_iff.mp hb
    have hb1 : b = 1 ↔ i = 0 := by
      constructor
      · rintro rfl
        exact h.place_unique hi h.getElem?_zero
      · rintro rfl
        exact Option.some.inj (hi.symm.trans h.getElem?_zero)
    rw [hb1]
    split_ifs with h0
    · simp [h0]
    · have hlt : i < order.length := (List.getElem?_eq_some_iff.mp hi).1
      obtain ⟨p, hp⟩ := Option.isSome_iff_exists.mp (hs.sweeping.done hlt)
      have hpi : p < i := hs.sweeping.rooted.lt h0 hp
      simp [hp, List.getElem?_eq_getElem (hpi.trans hlt), h0]
  not_dominates := by
    intro b d hd hbd
    obtain ⟨i, p, hi, hpd, hp, hpi⟩ := exists_place_of_mem_table hs hd
    have hlt : p < order.length := (List.getElem?_eq_some_iff.mp hpd).1
    rw [← h.dominates_iff hi hpd, ← hs.above_iff h.ordered hlt] at hbd
    exact absurd (hs.sweeping.rooted.le hbd) (not_le.mpr hpi)
  dominates_iff := by
    intro b c d hd
    obtain ⟨i, p, hi, hpd, hp, -⟩ := exists_place_of_mem_table hs hd
    have hb : ReflTransGen (Follows blocks) 1 b := h.mem_iff.mp (List.mem_of_getElem? hi)
    have hd : ReflTransGen (Follows blocks) 1 d := h.mem_iff.mp (List.mem_of_getElem? hpd)
    by_cases hc : ReflTransGen (Follows blocks) 1 c
    · obtain ⟨j, hj⟩ := List.getElem?_of_mem (h.mem_iff.mpr hc)
      rw [← h.dominates_iff hj hi, ← h.dominates_iff hj hpd,
        ← hs.above_iff h.ordered (List.getElem?_eq_some_iff.mp hi).1,
        ← hs.above_iff h.ordered (List.getElem?_eq_some_iff.mp hpd).1, Above.iff_of_parent hp]
      exact or_congr_left ⟨fun hji => Option.some.inj (hj.symm.trans (hji ▸ hi)),
        fun hcb => h.place_unique hj (hcb ▸ hi)⟩
    · -- Without a place a block is not reachable, and what it dominates is not reachable either.
      exact ⟨fun h' => absurd (h'.reachable hb) hc,
        fun h' => h'.elim (fun hcb => absurd (hcb ▸ hb) hc) fun h' => absurd (h'.reachable hd) hc⟩

end Table

/-- The list of immediate dominators is found, unless control may pass to a number of no
block. -/
theorem immediateDominators?_eq (hne : blocks ≠ []) :
    (∃ idoms, immediateDominators? blocks = some idoms ∧ IdomTable blocks idoms) ∨
    (immediateDominators? blocks = none ∧
      ∃ s, ReflTransGen (Follows blocks) 1 s ∧ s ∉ numbers blocks.length) := by
  rcases reversePostorder?_eq hne with ⟨order, horder, h⟩ | ⟨hnone, hs⟩
  · obtain ⟨parents, hparents, hs⟩ := settle?_eq h.ordered (List.length_pos_of_mem h.entry_mem)
    refine .inl ⟨table order parents, ?_, h.idomTable hs⟩
    rw [immediateDominators?, horder]
    simp only [Option.bind_eq_bind, Option.bind_some, h.sweepWork?_eq, hparents, h.dominators?_eq hs]
  · refine .inr ⟨?_, hs⟩
    rw [immediateDominators?, hnone]
    rfl

/-! ### Blocks whose successors are all blocks -/

theorem inside_of_reachable
    (hvalid : ∀ block ∈ blocks, ∀ s ∈ block.succs, 1 ≤ s ∧ s ≤ blocks.length)
    (hne : blocks ≠ []) (hb : ReflTransGen (Follows blocks) 1 b) : 1 ≤ b ∧ b ≤ blocks.length := by
  cases hb with
  | refl =>
    have hpos : 0 < blocks.length := List.length_pos_iff.mpr hne
    omega
  | tail _ hstep =>
    obtain ⟨block, hblock, hs⟩ := hstep
    exact hvalid block (mem_of_numbered? hblock) b hs

/-- If all successors are numbers of blocks, the search from block one gives a reverse postorder. -/
theorem exists_reversePostorder
    (hvalid : ∀ block ∈ blocks, ∀ s ∈ block.succs, 1 ≤ s ∧ s ≤ blocks.length)
    (hne : blocks ≠ []) :
    ∃ order, reversePostorder? blocks = some order ∧ ReversePostorder blocks order := by
  rcases reversePostorder?_eq hne with horder | ⟨-, s, hs, hnot⟩
  · exact horder
  · obtain ⟨h1, hn⟩ := inside_of_reachable hvalid hne hs
    exact absurd (mem_numbers_of_pos h1 hn) hnot

theorem IdomTable.exists_dominator {idoms : List (Int × Option Int)} (h : IdomTable blocks idoms)
    (hb : ReflTransGen (Follows blocks) 1 b) (hb1 : b ≠ 1) : ∃ d, (b, some d) ∈ idoms := by
  obtain ⟨⟨b', d?⟩, hmem, rfl⟩ := List.mem_map.mp (h.mem_iff.mpr hb)
  cases d? with
  | none => exact absurd ((h.entry_iff hmem).mp rfl) hb1
  | some d => exact ⟨d, hmem⟩

theorem IdomTable.entry_mem {idoms : List (Int × Option Int)} (h : IdomTable blocks idoms) :
    (1, none) ∈ idoms := by
  obtain ⟨⟨b', d?⟩, hmem, rfl⟩ := List.mem_map.mp (h.mem_iff.mpr .refl)
  rwa [(h.entry_iff hmem).mpr rfl] at hmem

/-- **Immediate dominators are nearest dominators.** Exactly the blocks that can be reached are
listed, each once. Block one has no dominator in the list; every other block has one that differs
from it, that all walks from block one to it go through, and that all its other dominators
dominate. -/
theorem immediateDominators_are_nearest (blocks : List Block) (hne : blocks ≠ [])
    (hvalid : ∀ block ∈ blocks, ∀ s ∈ block.succs, 1 ≤ s ∧ s ≤ blocks.length) :
    ∃ idoms, immediateDominators? blocks = some idoms ∧ (idoms.map Prod.fst).Nodup ∧
      (∀ b, b ∈ idoms.map Prod.fst ↔ ReflTransGen (Follows blocks) 1 b) ∧
      (1, none) ∈ idoms ∧
      ∀ b, ReflTransGen (Follows blocks) 1 b → b ≠ 1 → ∃ d, (b, some d) ∈ idoms ∧ d ≠ b ∧
        Dominates (Follows blocks) 1 d b ∧
        ∀ c, c ≠ b → Dominates (Follows blocks) 1 c b → Dominates (Follows blocks) 1 c d := by
  rcases immediateDominators?_eq hne with ⟨idoms, hidoms, h⟩ | ⟨-, s, hs, hnot⟩
  · refine ⟨idoms, hidoms, h.nodup, fun b => h.mem_iff, h.entry_mem, fun b hb hb1 => ?_⟩
    obtain ⟨d, hd⟩ := h.exists_dominator hb hb1
    refine ⟨d, hd, fun hdb => ?_, (h.dominates_iff hd).mpr (.inr (.refl 1 d)), fun c hcb hc => ?_⟩
    · exact h.not_dominates hd (hdb ▸ .refl 1 d)
    · exact ((h.dominates_iff hd).mp hc).resolve_left hcb
  · obtain ⟨h1, hn⟩ := inside_of_reachable hvalid hne hs
    refine absurd (mem_numbers_iff.mpr ?_) hnot
    rw [Option.isSome_iff_ne_none, Ne, position?_eq_none_iff]
    omega

/-- An irreducible graph: the loop of blocks two and three is entered at both, and block five, which
cannot be reached, leads into the blocks that can. -/
def irreducible : List Block :=
  [⟨⟨1, 1⟩, [2, 3, 3], []⟩, ⟨⟨2, 2⟩, [3, 4], []⟩, ⟨⟨3, 3⟩, [2, 3], []⟩, ⟨⟨4, 4⟩, [1], []⟩,
    ⟨⟨5, 5⟩, [4], []⟩]

theorem irreducible_immediateDominators : irreducible ≠ [] ∧
    (∀ block ∈ irreducible, ∀ s ∈ block.succs, 1 ≤ s ∧ s ≤ irreducible.length) ∧
    ∃ idoms, immediateDominators? irreducible = some idoms ∧ (idoms.map Prod.fst).Nodup ∧
      (∀ b, b ∈ idoms.map Prod.fst ↔ ReflTransGen (Follows irreducible) 1 b) ∧
      (1, none) ∈ idoms ∧
      ∀ b, ReflTransGen (Follows irreducible) 1 b → b ≠ 1 → ∃ d, (b, some d) ∈ idoms ∧ d ≠ b ∧
        Dominates (Follows irreducible) 1 d b ∧ ∀ c, c ≠ b →
          Dominates (Follows irreducible) 1 c b → Dominates (Follows irreducible) 1 c d :=
  ⟨by decide, by decide, immediateDominators_are_nearest irreducible (by decide) (by decide)⟩

example : immediateDominators? irreducible =
    some [(1, none), (2, some 1), (4, some 2), (3, some 1)] := by
  cbv

end FlowAtlas.Dominance
