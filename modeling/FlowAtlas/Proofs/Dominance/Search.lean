import FlowAtlas.Dominance.Order
import Mathlib.Data.List.Nodup
import Mathlib.Logic.Relation
import Mathlib.Order.Nat

/-!
# The reverse postorder of a search

Depth-first search enters every block that can be reached from block one and leaves it once. A block
is left before the block from which it was entered, so in the reverse postorder every block but the
first has a predecessor before it. A block stands before its successors, except for those that lead
back to it.

## Main definitions

* `Follows`: the edges of a list of blocks.
* `Searching`: what holds throughout a search.
* `ReversePostorder`: what holds of the order that it gives.

## Main results

* `Searching.leave`, `Searching.skip`, `Searching.enter`: the steps of a search keep the invariant.
* `reversePostorder?_eq`: the search ends with a reverse postorder or meets a number of no block.
-/

namespace FlowAtlas.Dominance

open Relation

/-- Control may pass from block `a` to block `b`. -/
def Follows (blocks : List Block) (a b : Int) : Prop :=
  ∃ block, numbered? blocks a = some block ∧ b ∈ block.succs

variable {blocks : List Block} {seen order : List Int} {stack : List (Int × List Int)}
  {node s : Int} {rest : List Int}

/-- On the stack of a search every block was entered from the one below it, and block one is at the
bottom. -/
inductive Entered (blocks : List Block) : List (Int × List Int) → Prop
  | nil : Entered blocks []
  | entry (rest : List Int) : Entered blocks [(1, rest)]
  | step {a b : Int} {rest rest' : List Int} {stack : List (Int × List Int)}
      (h : Entered blocks ((a, rest) :: stack)) (hab : Follows blocks a b) :
      Entered blocks ((b, rest') :: (a, rest) :: stack)

namespace Entered

theorem of_cons {top : Int × List Int} (h : Entered blocks (top :: stack)) :
    Entered blocks stack := by
  cases h with
  | entry => exact .nil
  | step h => exact h

theorem visit (h : Entered blocks ((node, rest) :: stack)) (rest' : List Int) :
    Entered blocks ((node, rest') :: stack) := by
  cases h with
  | entry => exact .entry rest'
  | step h hab => exact .step h hab

theorem reaches {top : Int × List Int} (h : Entered blocks (top :: stack)) :
    ∀ e ∈ stack, ReflTransGen (Follows blocks) e.1 top.1 := by
  induction stack generalizing top with
  | nil => exact fun e he => absurd he List.not_mem_nil
  | cons below stack ih =>
    cases h with
    | step h hab =>
      rw [List.forall_mem_cons]
      exact ⟨.single hab, fun e he => (ih h e he).tail hab⟩

end Entered

/-- What holds throughout a search. The blocks that were entered are those on the stack and those
that were left. -/
structure Searching (blocks : List Block) (seen order : List Int) (stack : List (Int × List Int)) :
    Prop where
  perm : seen.Perm (stack.map Prod.fst ++ order)
  nodup : seen.Nodup
  entry : 1 ∈ seen
  inside : ∀ {b}, b ∈ seen → b ∈ numbers blocks.length
  reachable : ∀ {b}, b ∈ seen → ReflTransGen (Follows blocks) 1 b
  entered : Entered blocks stack
  /-- The successors that are still to be visited are all that were not entered. -/
  rest : ∀ {e}, e ∈ stack → (∀ {s}, s ∈ e.2 → Follows blocks e.1 s) ∧
    ∀ {s}, Follows blocks e.1 s → s ∈ e.2 ∨ s ∈ seen
  closed : ∀ {a b}, a ∈ order → Follows blocks a b → b ∈ seen
  /-- A block that was left was entered from one that has not been left or was left later. -/
  led : ∀ {b}, b ∈ order → b ≠ 1 →
    ∃ a, Follows blocks a b ∧ (a ∈ stack.map Prod.fst ∨ [a, b].Sublist order)
  /-- A successor of a block that was left was left earlier or leads back to it. -/
  before : ∀ {a b}, a ∈ order → Follows blocks a b →
    [a, b].Sublist order ∨ ReflTransGen (Follows blocks) b a

namespace Searching

/-- A block is left when all its successors have been visited. -/
theorem leave (h : Searching blocks seen order ((node, []) :: stack)) :
    Searching blocks seen (node :: order) stack where
  perm := h.perm.trans List.perm_middle.symm
  nodup := h.nodup
  entry := h.entry
  inside := h.inside
  reachable := h.reachable
  entered := h.entered.of_cons
  rest := fun he => h.rest (List.mem_cons_of_mem _ he)
  closed := by
    intro a b ha hab
    rcases List.mem_cons.mp ha with rfl | ha
    · exact ((h.rest List.mem_cons_self).2 hab).resolve_left List.not_mem_nil
    · exact h.closed ha hab
  led := by
    intro b hb hb1
    rcases List.mem_cons.mp hb with rfl | hbo
    · cases h.entered with
      | entry => exact absurd rfl hb1
      | step _ hab => exact ⟨_, hab, .inl List.mem_cons_self⟩
    · obtain ⟨a, hab, ha | hsub⟩ := h.led hbo hb1
      · rcases List.mem_cons.mp ha with rfl | ha
        · exact ⟨_, hab, .inr (List.Sublist.cons_cons _ (List.singleton_sublist.mpr hbo))⟩
        · exact ⟨a, hab, .inl ha⟩
      · exact ⟨a, hab, .inr (hsub.cons node)⟩
  before := by
    intro a b ha hab
    rcases List.mem_cons.mp ha with rfl | ha
    · have hb : b ∈ seen := ((h.rest List.mem_cons_self).2 hab).resolve_left List.not_mem_nil
      rcases List.mem_append.mp (h.perm.mem_iff.mp hb) with hb | hb
      · obtain ⟨e, he, rfl⟩ := List.mem_map.mp hb
        rcases List.mem_cons.mp he with rfl | he
        · exact .inr .refl
        · -- The blocks below the one on top are those through which it was entered.
          exact .inr (h.entered.reaches e he)
      · exact .inl (List.Sublist.cons_cons a (List.singleton_sublist.mpr hb))
    · exact (h.before ha hab).imp_left fun hsub => hsub.cons node

/-- The successors of the block on top that are still to be visited, after the next was entered. -/
theorem rest_of_cons (h : Searching blocks seen order ((node, s :: rest) :: stack))
    {seen' : List Int} (hseen : ∀ {t}, t ∈ seen → t ∈ seen') (hs : s ∈ seen') :
    (∀ {t}, t ∈ rest → Follows blocks node t) ∧
      ∀ {t}, Follows blocks node t → t ∈ rest ∨ t ∈ seen' := by
  obtain ⟨hfollows, hrest⟩ := h.rest List.mem_cons_self
  refine ⟨fun ht => hfollows (List.mem_cons_of_mem s ht), fun ht => ?_⟩
  rcases hrest ht with ht | ht
  · rcases List.mem_cons.mp ht with rfl | ht
    · exact .inr hs
    · exact .inl ht
  · exact .inr (hseen ht)

/-- A successor that was entered before is passed over. -/
theorem skip (h : Searching blocks seen order ((node, s :: rest) :: stack)) (hs : s ∈ seen) :
    Searching blocks seen order ((node, rest) :: stack) :=
  { h with
    entered := h.entered.visit rest
    rest := by
      intro e he
      rcases List.mem_cons.mp he with rfl | he
      · exact h.rest_of_cons id hs
      · exact h.rest (List.mem_cons_of_mem _ he) }

/-- A successor that was not entered before is entered. -/
theorem enter (h : Searching blocks seen order ((node, s :: rest) :: stack)) (hs : s ∉ seen)
    {b : Block} (hb : numbered? blocks s = some b) :
    Searching blocks (s :: seen) order ((s, b.succs) :: (node, rest) :: stack) := by
  have hstep : Follows blocks node s := (h.rest List.mem_cons_self).1 List.mem_cons_self
  have hnode : node ∈ seen := h.perm.mem_iff.mpr (List.mem_append_left _ List.mem_cons_self)
  have hperm : (s :: seen).Perm (s :: ((node :: stack.map Prod.fst) ++ order)) := h.perm.cons s
  exact {
    perm := hperm
    nodup := List.nodup_cons.mpr ⟨hs, h.nodup⟩
    entry := List.mem_cons_of_mem s h.entry
    inside := by
      intro t ht
      rcases List.mem_cons.mp ht with rfl | ht
      · exact numbered?_isSome_iff.mp (Option.isSome_of_mem hb)
      · exact h.inside ht
    reachable := by
      intro b hb
      rcases List.mem_cons.mp hb with rfl | hb
      · exact (h.reachable hnode).tail hstep
      · exact h.reachable hb
    entered := .step (h.entered.visit rest) hstep
    rest := by
      intro e he
      rcases List.mem_cons.mp he with rfl | he
      · refine ⟨fun ht => ⟨b, hb, ht⟩, fun ⟨b', hb', ht⟩ => ?_⟩
        obtain rfl := Option.some.inj (hb.symm.trans hb')
        exact .inl ht
      · rcases List.mem_cons.mp he with rfl | he
        · exact h.rest_of_cons (List.mem_cons_of_mem s) List.mem_cons_self
        · obtain ⟨hfollows, hrest⟩ := h.rest (List.mem_cons_of_mem _ he)
          exact ⟨hfollows, fun ht => (hrest ht).imp_right (List.mem_cons_of_mem s)⟩
    closed := fun ha hab => List.mem_cons_of_mem s (h.closed ha hab)
    led := by
      intro b hb hb1
      obtain ⟨a, hab, ha⟩ := h.led hb hb1
      exact ⟨a, hab, ha.imp_left (List.mem_cons_of_mem s)⟩
    before := h.before }

theorem search?_eq (h : Searching blocks seen order stack) :
    (∃ seen' order', search? blocks seen order stack = some order' ∧
      Searching blocks seen' order' []) ∨
    (search? blocks seen order stack = none ∧
      ∃ s, ReflTransGen (Follows blocks) 1 s ∧ s ∉ numbers blocks.length) := by
  -- One case for each way the loop goes on; only `case4` gives up, at a number of no block.
  fun_induction search? blocks seen order stack with
  | case1 seen order => exact .inl ⟨seen, order, rfl, h⟩
  | case2 seen order node stack ih => exact ih h.leave
  | case3 seen order node s rest stack hs ih => exact ih (h.skip (List.contains_iff_mem.mp hs))
  | case4 seen order node s rest stack hs hnone =>
    have hnode : node ∈ seen := h.perm.mem_iff.mpr (List.mem_append_left _ List.mem_cons_self)
    have hstep : Follows blocks node s := (h.rest List.mem_cons_self).1 List.mem_cons_self
    refine .inr ⟨rfl, s, (h.reachable hnode).tail hstep, fun hmem => ?_⟩
    rw [← numbered?_isSome_iff, hnone] at hmem
    cases hmem
  | case5 seen order node s rest stack hs b hb ih =>
    exact ih (h.enter (fun hmem => hs (List.contains_iff_mem.mpr hmem)) hb)

end Searching

/-- The order in which a search leaves the blocks, reversed: every block but the first has a
predecessor before it, and a block stands before all its successors that do not lead back to it. -/
structure ReversePostorder (blocks : List Block) (order : List Int) : Prop where
  nodup : order.Nodup
  inside : ∀ {b}, b ∈ order → b ∈ numbers blocks.length
  mem_iff : ∀ {b}, b ∈ order ↔ ReflTransGen (Follows blocks) 1 b
  led : ∀ {b}, b ∈ order → b ≠ 1 → ∃ a, Follows blocks a b ∧ [a, b].Sublist order
  before : ∀ {a b}, a ∈ order → Follows blocks a b →
    [a, b].Sublist order ∨ ReflTransGen (Follows blocks) b a

theorem Searching.reversePostorder (h : Searching blocks seen order []) :
    ReversePostorder blocks order where
  nodup := h.perm.nodup_iff.mp h.nodup
  inside := fun hb => h.inside (h.perm.mem_iff.mpr hb)
  mem_iff := by
    intro b
    constructor
    · exact fun hb => h.reachable (h.perm.mem_iff.mpr hb)
    · intro hb
      induction hb with
      | refl => exact h.perm.mem_iff.mp h.entry
      | tail _ hstep ih => exact h.perm.mem_iff.mp (h.closed ih hstep)
  led := by
    intro b hb hb1
    obtain ⟨a, hab, ha | hsub⟩ := h.led hb hb1
    · cases ha
    · exact ⟨a, hab, hsub⟩
  before := h.before

theorem Searching.start {b : Block} (hb : numbered? blocks 1 = some b) :
    Searching blocks [1] [] [(1, b.succs)] where
  perm := .refl _
  nodup := List.nodup_singleton 1
  entry := List.mem_singleton_self 1
  inside := by
    intro b' hb'
    obtain rfl := List.mem_singleton.mp hb'
    exact numbered?_isSome_iff.mp (Option.isSome_of_mem hb)
  reachable := by
    intro b hb
    obtain rfl := List.mem_singleton.mp hb
    exact .refl
  entered := .entry b.succs
  rest := by
    intro e he
    obtain rfl := List.mem_singleton.mp he
    refine ⟨fun hs => ⟨b, hb, hs⟩, fun ⟨b', hb', hs⟩ => ?_⟩
    obtain rfl := Option.some.inj (hb.symm.trans hb')
    exact .inl hs
  closed := fun ha => absurd ha List.not_mem_nil
  led := fun hb => absurd hb List.not_mem_nil
  before := fun ha => absurd ha List.not_mem_nil

/-- **The search from block one gives a reverse postorder**, unless control may pass to a number of
no block. -/
theorem reversePostorder?_eq (hne : blocks ≠ []) :
    (∃ order, reversePostorder? blocks = some order ∧ ReversePostorder blocks order) ∨
    (reversePostorder? blocks = none ∧
      ∃ s, ReflTransGen (Follows blocks) 1 s ∧ s ∉ numbers blocks.length) := by
  cases blocks with
  | nil => exact absurd rfl hne
  | cons entry others =>
    have hentry : numbered? (entry :: others) 1 = some entry := by
      rw [numbered?_of_pos (Int.le_refl 1) (by rw [List.length_cons]; omega)]
      rfl
    rcases (Searching.start hentry).search?_eq with ⟨seen, order, hsome, h⟩ | hnone
    · exact .inl ⟨order, hsome, h.reversePostorder⟩
    · exact .inr hnone

/-! ### Places in the order -/

/-- In a list without repetitions, what comes first in a sublist has the smaller place. -/
theorem exists_place_lt {α : Type*} {a b : α} {l : List α} {i : ℕ} (hsub : [a, b].Sublist l)
    (hnd : l.Nodup) (hi : l[i]? = some b) : ∃ j < i, l[j]? = some a := by
  obtain ⟨l₁, l₂, rfl, ha, hb⟩ := List.cons_sublist_iff.mp hsub
  obtain ⟨j, hj, rfl⟩ := List.mem_iff_getElem.mp ha
  have hle : l₁.length ≤ i := by
    by_contra hlt
    rw [List.getElem?_append_left (not_le.mp hlt)] at hi
    exact (List.nodup_append.mp hnd).2.2 b (List.mem_of_getElem? hi) b
      (List.singleton_sublist.mp hb) rfl
  exact ⟨j, hj.trans_le hle, by rw [List.getElem?_append_left hj, List.getElem?_eq_getElem hj]⟩

namespace ReversePostorder

variable (h : ReversePostorder blocks order)
include h

theorem entry_mem : 1 ∈ order := h.mem_iff.mpr .refl

theorem exists_place_lt {i : ℕ} {b : Int} (hi : order[i]? = some b) (hb : b ≠ 1) :
    ∃ j < i, ∃ a, order[j]? = some a ∧ Follows blocks a b := by
  obtain ⟨a, hab, hsub⟩ := h.led (List.mem_of_getElem? hi) hb
  obtain ⟨j, hji, hj⟩ := Dominance.exists_place_lt hsub h.nodup hi
  exact ⟨j, hji, a, hj, hab⟩

theorem getElem?_zero : order[0]? = some 1 := by
  obtain ⟨entry, he⟩ : ∃ b, order[0]? = some b :=
    ⟨_, List.getElem?_eq_getElem (List.length_pos_of_mem h.entry_mem)⟩
  by_contra hne
  obtain ⟨j, hj, -⟩ := h.exists_place_lt he fun h1 => hne (h1 ▸ he)
  exact Nat.not_lt_zero j hj

end ReversePostorder

end FlowAtlas.Dominance
