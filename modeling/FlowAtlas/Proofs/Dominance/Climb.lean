import FlowAtlas.Dominance.Idom
import Mathlib.Logic.Relation
import Mathlib.Order.Nat
import Mathlib.Tactic.WLOG

/-!
# Climbs to a common ancestor

Some of a number of blocks have a parent, which is one of them again. The blocks are numbered: the
root, which is its own parent, has the least number, and every other block has a greater one than
its parent. The chain of a block consists of the block and of all that its parents lead to. It thus
descends in the numbers, and it ends at the root.

A climb from two blocks moves the one with the greater number to its parent until the two meet. They
meet at the block with the greatest number that is on the chains of both: a block that is left has a
greater number than all of the other chain.

## Main definitions

* `Ranked`: numbered blocks, some of which have a parent.
* `Nearest`: the block with the greatest number on two chains.

## Main results

* `intersect?_comm`: two places climb to the same in either order.
* `Ranked.intersect?_eq`: two blocks meet, and what is on both of their chains is what is on the
  chain of the block where they meet.
* `Ranked.exists_nearest`: they meet at the nearest block on both chains.
-/

namespace FlowAtlas.Dominance

open Relation

section Places

variable {parent : ℕ → Option ℕ} {i j : ℕ}

theorem intersect?_of_lt (hlt : j < i) : intersect? parent i j =
    (parent i).bind fun p => if p < i then intersect? parent p j else none := by
  rw [intersect?, if_neg hlt.ne', if_pos hlt]
  cases parent i <;> rfl

theorem intersect?_of_gt (hlt : i < j) : intersect? parent i j =
    (parent j).bind fun p => if p < j then intersect? parent i p else none := by
  rw [intersect?, if_neg hlt.ne, if_neg hlt.asymm]
  cases parent j <;> rfl

/-- Two places climb to the same in either order. -/
theorem intersect?_comm (parent : ℕ → Option ℕ) (i j : ℕ) :
    intersect? parent i j = intersect? parent j i := by
  have hgt : ∀ {i j : ℕ}, ¬ i = j → ¬ j < i → i < j := fun hne hlt => by omega
  fun_induction intersect? parent i j with
  | case1 i => rw [intersect?, if_pos rfl]
  | case2 i j _ hlt hnone => rw [intersect?_of_gt hlt, hnone, Option.bind_none]
  | case3 i j _ hlt p hp hpi ih => rw [intersect?_of_gt hlt, hp, Option.bind_some, if_pos hpi, ih]
  | case4 i j _ hlt p hp hpi => rw [intersect?_of_gt hlt, hp, Option.bind_some, if_neg hpi]
  | case5 i j hne hlt hnone => rw [intersect?_of_lt (hgt hne hlt), hnone, Option.bind_none]
  | case6 i j hne hlt p hp hpj ih =>
    rw [intersect?_of_lt (hgt hne hlt), hp, Option.bind_some, if_pos hpj, ih]
  | case7 i j hne hlt p hp hpj =>
    rw [intersect?_of_lt (hgt hne hlt), hp, Option.bind_some, if_neg hpj]

end Places

variable {β : Type*} {number : β → ℕ} {idom : β → Option β} {root a b c d : β}

/-- Numbered blocks, some of which have a parent. The root is its own parent and has the least
number. A parent has a parent too, and a smaller number than any other block of which it is the
parent. The blocks with a parent have different numbers. -/
structure Ranked (number : β → ℕ) (idom : β → Option β) (root : β) : Prop where
  root_eq : idom root = some root
  root_le : ∀ {b}, (idom b).isSome → number root ≤ number b
  lt : ∀ {b d}, b ≠ root → idom b = some d → number d < number b
  closed : ∀ {b d}, idom b = some d → (idom d).isSome
  injective : ∀ {a b}, (idom a).isSome → (idom b).isSome → number a = number b → a = b

/-- Block `c` has the greatest number of all that are on the chains of both `a` and `b`. -/
structure Nearest (number : β → ℕ) (idom : β → Option β) (a b c : β) : Prop where
  left : ReflTransGen (fun x d => idom x = some d) a c
  right : ReflTransGen (fun x d => idom x = some d) b c
  le : ∀ {x}, ReflTransGen (fun x d => idom x = some d) a x →
    ReflTransGen (fun x d => idom x = some d) b x → number x ≤ number c

theorem chain_iff_of_parent (hd : idom b = some d) :
    ReflTransGen (fun x d => idom x = some d) b c ↔
      c = b ∨ ReflTransGen (fun x d => idom x = some d) d c := by
  rw [ReflTransGen.cases_head_iff]
  simp only [hd, Option.some.injEq, exists_eq_left']
  exact or_congr_left eq_comm

namespace Ranked

variable (h : Ranked number idom root)
include h

theorem le_of_chain (hac : ReflTransGen (fun x d => idom x = some d) a c) :
    number c ≤ number a := by
  induction hac with
  | refl => exact le_rfl
  | @tail x d _ hd ih =>
    by_cases hx : x = root
    · subst hx
      obtain rfl := Option.some.inj (h.root_eq.symm.trans hd)
      exact ih
    · exact (h.lt hx hd).le.trans ih

/-- Two blocks meet, and what is on both of their chains is what is on the chain of the block
where they meet. The induction is on the sum of the numbers, which every move makes smaller; the
case of the second block having the greater number is that of the first by symmetry. -/
theorem intersect?_eq {parent : ℕ → Option ℕ}
    (hparent : ∀ b d, idom b = some d → parent (number b) = some (number d))
    (ha : (idom a).isSome) (hb : (idom b).isSome) :
    ∃ c, intersect? parent (number a) (number b) = some (number c) ∧ (idom c).isSome ∧
      ∀ x, ReflTransGen (fun x d => idom x = some d) c x ↔
        ReflTransGen (fun x d => idom x = some d) a x ∧
          ReflTransGen (fun x d => idom x = some d) b x := by
  induction hn : number a + number b using Nat.strongRecOn generalizing a b with
  | ind n ih =>
    wlog hle : number b ≤ number a generalizing a b
    · obtain ⟨c, hc, hcs, hchain⟩ := this hb ha ((Nat.add_comm _ _).trans hn) (Nat.le_of_not_le hle)
      exact ⟨c, (intersect?_comm _ _ _).trans hc, hcs, fun x => (hchain x).trans and_comm⟩
    rcases hle.eq_or_lt with heq | hlt
    · obtain rfl := h.injective hb ha heq
      refine ⟨b, ?_, hb, fun x => and_self_iff.symm⟩
      rw [intersect?, if_pos rfl]
    · have hroot : a ≠ root := by
        rintro rfl
        exact absurd (h.root_le hb) (Nat.not_le.mpr hlt)
      obtain ⟨d, hd⟩ := Option.isSome_iff_exists.mp ha
      have hda : number d < number a := h.lt hroot hd
      obtain ⟨c, hc, hcs, hchain⟩ := ih (number d + number b) (by omega) (h.closed hd) hb rfl
      refine ⟨c, ?_, hcs, fun x => (hchain x).trans ?_⟩
      · rw [intersect?_of_lt hlt, hparent a d hd, Option.bind_some, if_pos hda, hc]
      -- The block that is left is not on the other chain: its number is too great.
      refine and_congr_left fun hx => ?_
      have hxa : x ≠ a := by
        rintro rfl
        exact absurd (h.le_of_chain hx) (Nat.not_le.mpr hlt)
      rw [chain_iff_of_parent hd, or_iff_right hxa]

/-- **Two blocks meet at the nearest block on both chains.** -/
theorem exists_nearest {parent : ℕ → Option ℕ}
    (hparent : ∀ b d, idom b = some d → parent (number b) = some (number d))
    (ha : (idom a).isSome) (hb : (idom b).isSome) :
    ∃ c, intersect? parent (number a) (number b) = some (number c) ∧ (idom c).isSome ∧
      Nearest number idom a b c := by
  obtain ⟨c, hc, hcs, hchain⟩ := h.intersect?_eq hparent ha hb
  obtain ⟨hac, hbc⟩ := (hchain c).mp .refl
  exact ⟨c, hc, hcs, hac, hbc, fun hax hbx => h.le_of_chain ((hchain _).mpr ⟨hax, hbx⟩)⟩

end Ranked

end FlowAtlas.Dominance
