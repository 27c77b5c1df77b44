import FlowAtlas.Proofs.Dominance.Immediate
import Mathlib.Data.List.Nodup

/-!
# What stands before what in a reverse postorder

In a reverse postorder a block stands before all its successors, except for those that lead back to
it. Where nothing leads back, it stands before all that it leads to, so that the order is a
topological one. Whether or not something leads back, a block other than block one has a
predecessor that stands before it.

That one block stands before another is said by their indices, which are those of the places that
the sweeps go through.

## Main results

* `ReversePostorder.idxOf_lt_of_follows`: edges go forward unless they lead back.
* `ReversePostorder.idxOf_lt_of_transGen`: where nothing leads back, walks go forward.
* `reversePostorder?_orders_edges`: the search from block one gives such an order.
-/

namespace FlowAtlas.Dominance

open Relation

theorem idxOf_lt_idxOf {l : List Int} {a b : Int} (hsub : [a, b].Sublist l) (hnd : l.Nodup) :
    l.idxOf a < l.idxOf b := by
  have hb : b ∈ l := hsub.subset (List.mem_cons_of_mem a List.mem_cons_self)
  have hlt : l.idxOf b < l.length := List.idxOf_lt_length_of_mem hb
  have hplace : l[l.idxOf b]? = some b := by
    rw [List.getElem?_eq_getElem hlt, List.getElem_idxOf hlt]
  obtain ⟨j, hj, ha⟩ := exists_place_lt hsub hnd hplace
  obtain ⟨hjl, rfl⟩ := List.getElem?_eq_some_iff.mp ha
  rwa [hnd.idxOf_getElem j hjl]

namespace ReversePostorder

variable {blocks : List Block} {order : List Int} {a b : Int}

theorem head?_eq (h : ReversePostorder blocks order) : order.head? = some 1 := by
  rw [List.head?_eq_getElem?, h.getElem?_zero]

/-- An edge goes forward unless it leads back. -/
theorem idxOf_lt_of_follows (h : ReversePostorder blocks order)
    (ha : ReflTransGen (Follows blocks) 1 a) (hab : Follows blocks a b)
    (hback : ¬ ReflTransGen (Follows blocks) b a) : order.idxOf a < order.idxOf b :=
  idxOf_lt_idxOf ((h.before (h.mem_iff.mpr ha) hab).resolve_right hback) h.nodup

/-- Where nothing leads back, walks go forward. The induction is on the walk; its last edge
leads back to no block, since that would be a way from a block to itself. -/
theorem idxOf_lt_of_transGen (h : ReversePostorder blocks order)
    (hacyclic : ∀ b, ReflTransGen (Follows blocks) 1 b → ¬ TransGen (Follows blocks) b b)
    (ha : ReflTransGen (Follows blocks) 1 a) (hab : TransGen (Follows blocks) a b) :
    order.idxOf a < order.idxOf b := by
  have hstep : ∀ {u v}, ReflTransGen (Follows blocks) 1 u → Follows blocks u v →
      order.idxOf u < order.idxOf v := fun hu huv =>
    h.idxOf_lt_of_follows hu huv fun hback => hacyclic _ hu (.head' huv hback)
  induction hab with
  | single hab => exact hstep ha hab
  | tail hac hcb ih => exact ih.trans (hstep (ha.trans hac.to_reflTransGen) hcb)

theorem exists_idxOf_lt (h : ReversePostorder blocks order)
    (hb : ReflTransGen (Follows blocks) 1 b) (hb1 : b ≠ 1) :
    ∃ a ∈ order, Follows blocks a b ∧ order.idxOf a < order.idxOf b := by
  obtain ⟨a, hab, hsub⟩ := h.led (h.mem_iff.mpr hb) hb1
  exact ⟨a, hsub.subset List.mem_cons_self, hab, idxOf_lt_idxOf hsub h.nodup⟩

end ReversePostorder

/-- **The search from block one gives a reverse postorder.** It lists exactly the blocks that can be
reached, each once, with block one first. A block stands before each of its successors that does not
lead back to it. If no block that can be reached leads back to itself, a block stands before all
that it leads to. Every block but block one has a predecessor that stands before it. -/
theorem reversePostorder?_orders_edges (blocks : List Block) (hne : blocks ≠ [])
    (hvalid : ∀ block ∈ blocks, ∀ s ∈ block.succs, 1 ≤ s ∧ s ≤ blocks.length) :
    ∃ order, reversePostorder? blocks = some order ∧ order.Nodup ∧
      (∀ b, b ∈ order ↔ ReflTransGen (Follows blocks) 1 b) ∧
      order.head? = some 1 ∧
      (∀ a b, ReflTransGen (Follows blocks) 1 a → Follows blocks a b →
        ¬ ReflTransGen (Follows blocks) b a → order.idxOf a < order.idxOf b) ∧
      ((∀ b, ReflTransGen (Follows blocks) 1 b → ¬ TransGen (Follows blocks) b b) →
        ∀ a b, ReflTransGen (Follows blocks) 1 a → TransGen (Follows blocks) a b →
          order.idxOf a < order.idxOf b) ∧
      ∀ b, ReflTransGen (Follows blocks) 1 b → b ≠ 1 →
        ∃ a ∈ order, Follows blocks a b ∧ order.idxOf a < order.idxOf b := by
  rcases reversePostorder?_eq hne with ⟨order, horder, h⟩ | ⟨-, s, hs, hnot⟩
  · exact ⟨order, horder, h.nodup, fun b => h.mem_iff, h.head?_eq,
      fun a b => h.idxOf_lt_of_follows, fun hacyclic a b => h.idxOf_lt_of_transGen hacyclic,
      fun b => h.exists_idxOf_lt⟩
  · obtain ⟨h1, hn⟩ := inside_of_reachable hvalid hne hs
    exact absurd (mem_numbers_of_pos h1 hn) hnot

theorem irreducible_orders_edges : irreducible ≠ [] ∧
    (∀ block ∈ irreducible, ∀ s ∈ block.succs, 1 ≤ s ∧ s ≤ irreducible.length) ∧
    ∃ order, reversePostorder? irreducible = some order ∧ order.Nodup ∧
      (∀ b, b ∈ order ↔ ReflTransGen (Follows irreducible) 1 b) ∧
      order.head? = some 1 ∧
      (∀ a b, ReflTransGen (Follows irreducible) 1 a → Follows irreducible a b →
        ¬ ReflTransGen (Follows irreducible) b a → order.idxOf a < order.idxOf b) ∧
      ((∀ b, ReflTransGen (Follows irreducible) 1 b → ¬ TransGen (Follows irreducible) b b) →
        ∀ a b, ReflTransGen (Follows irreducible) 1 a → TransGen (Follows irreducible) a b →
          order.idxOf a < order.idxOf b) ∧
      ∀ b, ReflTransGen (Follows irreducible) 1 b → b ≠ 1 →
        ∃ a ∈ order, Follows irreducible a b ∧ order.idxOf a < order.idxOf b :=
  ⟨by decide, by decide, reversePostorder?_orders_edges irreducible (by decide) (by decide)⟩

/-- Two branches that meet: block four stands behind both, though block two is visited first. -/
example : reversePostorder? [⟨⟨1, 1⟩, [2, 3], []⟩, ⟨⟨2, 2⟩, [4], []⟩, ⟨⟨3, 3⟩, [4], []⟩,
    ⟨⟨4, 4⟩, [], []⟩] = some [1, 3, 2, 4] := by
  cbv

end FlowAtlas.Dominance
