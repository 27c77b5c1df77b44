import FlowAtlas.DomTree
import FlowAtlas.Proofs.Numbering
import Mathlib.Data.List.GetD
import Mathlib.Logic.Relation
import Mathlib.Order.Nat

/-!
# Levels of a dominator tree

The walk down from block one gives every child that has no level yet the level below that of its
parent. Whatever the lists of children are, the blocks that get a level are those that can be
reached from block one, and each of them but block one is a child of one whose level is one less.

Blocks are told apart by their positions, counted from zero, since two numbers may name one block.

## Main definitions

* `Below`: one block is a child of another.
* `Descended`, `Levelled`: what one descent does, and what holds throughout the walk.

## Main results

* `Levelled.descend`: a descent keeps the invariant.
* `ofChildren?_eq`: the tree with given lists of children is found, and its levels are sound.
-/

namespace FlowAtlas.DomTree

open Relation

variable {children : List (List Int)} {cs found stack : List Int} {levels levels' : List ℕ}
  {below k c : ℕ} {i : Int}

/-- The block at position `c` is a child of that at position `k`. -/
def Below (children : List (List Int)) (k c : ℕ) : Prop :=
  ∃ cs, children[k]? = some cs ∧ ∃ i ∈ cs, position? children.length i = some c

/-- What a descent from a block of level `below` does: children without a level get the next one,
and nothing else changes. -/
structure Descended (below : ℕ) (cs : List Int) (levels levels' : List ℕ) (found : List Int) :
    Prop where
  length_eq : levels'.length = levels.length
  kept : ∀ {k}, levels.getD k 0 ≠ 0 → levels'.getD k 0 = levels.getD k 0
  new : ∀ {k}, levels'.getD k 0 ≠ 0 → levels.getD k 0 = 0 → levels'.getD k 0 = below + 1 ∧
    ∃ i ∈ found, position? levels.length i = some k
  mem_of_found : ∀ {i}, i ∈ found → i ∈ cs
  reached : ∀ {i k}, i ∈ cs → position? levels.length i = some k → levels'.getD k 0 ≠ 0

theorem getD_set (hk : k < levels.length) (level j : ℕ) :
    (levels.set k level).getD j 0 = if j = k then level else levels.getD j 0 := by
  rw [List.getD_eq_getElem?_getD, List.getElem?_set, List.getD_eq_getElem?_getD]
  by_cases hj : k = j
  · simp [hj, hj ▸ hk]
  · simp [hj, Ne.symm hj]

namespace Descended

theorem nil (below : ℕ) (levels : List ℕ) : Descended below [] levels levels [] where
  length_eq := rfl
  kept := fun _ => rfl
  new := fun h h0 => absurd h0 h
  mem_of_found := id
  reached := fun h => absurd h List.not_mem_nil

theorem skip (h : Descended below cs levels levels' found)
    (hi : position? levels.length i = some k) (hk : levels.getD k 0 ≠ 0) :
    Descended below (i :: cs) levels levels' found :=
  { h with
    mem_of_found := fun hj => List.mem_cons_of_mem i (h.mem_of_found hj)
    reached := by
      intro j l hj hl
      rcases List.mem_cons.mp hj with rfl | hj
      · obtain rfl := Option.some.inj (hi.symm.trans hl)
        rwa [h.kept hk]
      · exact h.reached hj hl }

/-- A child that has no level gets one. -/
theorem mark (h : Descended below cs (levels.set k (below + 1)) levels' found)
    (hi : position? levels.length i = some k) (hk : levels.getD k 0 = 0) :
    Descended below (i :: cs) levels levels' (found ++ [i]) := by
  have hset := getD_set (position?_lt hi) (below + 1)
  have hlength : (levels.set k (below + 1)).length = levels.length := List.length_set
  have hk' : levels'.getD k 0 = below + 1 := by
    rw [h.kept (by rw [hset, if_pos rfl]; exact Nat.succ_ne_zero below), hset, if_pos rfl]
  refine ⟨h.length_eq.trans hlength, fun {j} hj => ?_, fun {j} hj hj0 => ?_, fun hj => ?_, ?_⟩
  · have hjk : j ≠ k := fun hjk => hj (hjk ▸ hk)
    rw [h.kept (by rwa [hset, if_neg hjk]), hset, if_neg hjk]
  · by_cases hjk : j = k
    · subst hjk
      exact ⟨hk', i, List.mem_append_right _ (List.mem_singleton_self i), hi⟩
    · obtain ⟨hlevel, i', hi', hpos⟩ := h.new hj (by rwa [hset, if_neg hjk])
      exact ⟨hlevel, i', List.mem_append_left _ hi', hlength ▸ hpos⟩
  · rcases List.mem_append.mp hj with hj | hj
    · exact List.mem_cons_of_mem i (h.mem_of_found hj)
    · exact List.mem_cons.mpr (.inl (List.mem_singleton.mp hj))
  · intro j l hj hl
    rcases List.mem_cons.mp hj with rfl | hj
    · obtain rfl := Option.some.inj (hi.symm.trans hl)
      rw [hk']
      exact Nat.succ_ne_zero below
    · exact h.reached hj (hlength.symm ▸ hl)

end Descended

theorem descend?_eq (below : ℕ) (cs : List Int) (levels : List ℕ)
    (hcs : ∀ i ∈ cs, (position? levels.length i).isSome) :
    ∃ levels' found, descend? below cs levels = some (levels', found) ∧
      Descended below cs levels levels' found := by
  induction cs generalizing levels with
  | nil => exact ⟨levels, [], rfl, .nil below levels⟩
  | cons i cs ih =>
    rw [List.forall_mem_cons] at hcs
    obtain ⟨k, hi⟩ := Option.isSome_iff_exists.mp hcs.1
    have hk : levels[k]? = some (levels.getD k 0) := by
      rw [List.getD_eq_getElem?_getD, List.getElem?_eq_getElem (position?_lt hi), Option.getD_some]
    rw [descend?, hi]
    by_cases h0 : levels.getD k 0 = 0
    · have hlength : (levels.set k (below + 1)).length = levels.length := List.length_set
      obtain ⟨levels', found, heq, h⟩ := ih (levels.set k (below + 1)) (hlength.symm ▸ hcs.2)
      refine ⟨levels', found ++ [i], ?_, h.mark hi h0⟩
      simp only [hk, h0, if_true, heq, Option.map_some]
    · obtain ⟨levels', found, heq, h⟩ := ih levels hcs.2
      refine ⟨levels', found, ?_, h.skip hi h0⟩
      simp only [hk, Option.some.injEq, h0, if_false, heq]

/-! ### The walk down -/

/-- What holds throughout the walk. Blocks with a level are waiting on the stack or have been
descended from. -/
structure Levelled (children : List (List Int)) (levels : List ℕ) (stack : List Int) : Prop where
  length_eq : levels.length = children.length
  entry : levels.getD 0 0 = 1
  stacked : ∀ {i}, i ∈ stack → ∃ k, position? children.length i = some k ∧ levels.getD k 0 ≠ 0
  parent : ∀ {k}, levels.getD k 0 ≠ 0 → k ≠ 0 → ∃ p, Below children p k ∧ levels.getD p 0 ≠ 0 ∧
    levels.getD k 0 = levels.getD p 0 + 1
  closed : ∀ {k}, levels.getD k 0 ≠ 0 →
    (∃ i ∈ stack, position? children.length i = some k) ∨
      ∀ {c}, Below children k c → levels.getD c 0 ≠ 0

theorem lt_length_of_level (h : levels.getD k 0 ≠ 0) : k < levels.length := by
  by_contra hk
  exact h (List.getD_eq_default levels 0 (not_lt.mp hk))

/-- A descent keeps the invariant. -/
theorem Levelled.descend (h : Levelled children levels (i :: stack))
    (hi : position? children.length i = some k) (hcs : children[k]? = some cs)
    (hin : ∀ j ∈ cs, (position? children.length j).isSome)
    (hd : Descended (levels.getD k 0) cs levels levels' found) :
    Levelled children levels' (found ++ stack) := by
  have hkept : ∀ {j}, levels.getD j 0 ≠ 0 → levels'.getD j 0 ≠ 0 := fun hj => by rwa [hd.kept hj]
  have hk : levels.getD k 0 ≠ 0 := by
    obtain ⟨k', hk', hlevel⟩ := h.stacked List.mem_cons_self
    rwa [Option.some.inj (hi.symm.trans hk')]
  have hreached : ∀ {j c}, j ∈ cs → position? children.length j = some c → levels'.getD c 0 ≠ 0 :=
    fun hj hc => hd.reached hj (h.length_eq.symm ▸ hc)
  have hnew : ∀ {j}, levels'.getD j 0 ≠ 0 → levels.getD j 0 = 0 →
      levels'.getD j 0 = levels.getD k 0 + 1 ∧ ∃ i ∈ found, position? children.length i = some j :=
    fun hj h0 => h.length_eq ▸ hd.new hj h0
  refine ⟨hd.length_eq.trans h.length_eq, ?_, fun {j} hj => ?_, fun {j} hj hj0 => ?_,
    fun {j} hj => ?_⟩
  · rw [hd.kept (by rw [h.entry]; exact Nat.one_ne_zero), h.entry]
  · rcases List.mem_append.mp hj with hj | hj
    · obtain ⟨c, hc⟩ := Option.isSome_iff_exists.mp (hin j (hd.mem_of_found hj))
      exact ⟨c, hc, hreached (hd.mem_of_found hj) hc⟩
    · obtain ⟨c, hc, hlevel⟩ := h.stacked (List.mem_cons_of_mem i hj)
      exact ⟨c, hc, hkept hlevel⟩
  · by_cases h0 : levels.getD j 0 = 0
    · obtain ⟨hlevel, i', hi', hpos⟩ := hnew hj h0
      exact ⟨k, ⟨cs, hcs, i', hd.mem_of_found hi', hpos⟩, hkept hk, by rw [hlevel, hd.kept hk]⟩
    · obtain ⟨p, hp, hlevel, hsucc⟩ := h.parent h0 hj0
      exact ⟨p, hp, hkept hlevel, by rw [hd.kept h0, hd.kept hlevel, hsucc]⟩
  · by_cases h0 : levels.getD j 0 = 0
    · obtain ⟨-, i', hi', hpos⟩ := hnew hj h0
      exact .inl ⟨i', List.mem_append_left _ hi', hpos⟩
    · rcases h.closed h0 with ⟨i', hi', hpos⟩ | hclosed
      · rcases List.mem_cons.mp hi' with rfl | hi'
        · -- The block that was descended from leaves the stack with levels for all its children.
          right
          intro c hc
          obtain rfl := Option.some.inj (hi.symm.trans hpos)
          obtain ⟨cs', hcs', j, hj, hc⟩ := hc
          obtain rfl := Option.some.inj (hcs.symm.trans hcs')
          exact hreached hj hc
        · exact .inl ⟨i', List.mem_append_right _ hi', hpos⟩
      · exact .inr fun hc => hkept (hclosed hc)

theorem Levelled.top (h : Levelled children levels (i :: stack)) :
    ∃ k cs, position? children.length i = some k ∧ children[k]? = some cs ∧
      numbered? children i = some cs ∧ numbered? levels i = some (levels.getD k 0) := by
  obtain ⟨k, hi, hk⟩ := h.stacked List.mem_cons_self
  have hlt : k < children.length := position?_lt hi
  have hcs : children[k]? = some children[k] := List.getElem?_eq_getElem hlt
  have hlevel : levels[k]? = some (levels.getD k 0) := by
    rw [List.getD_eq_getElem?_getD, List.getElem?_eq_getElem (lt_length_of_level hk),
      Option.getD_some]
  exact ⟨k, children[k], hi, hcs, (numbered?_eq_of_position? hi).trans hcs,
    (numbered?_eq_of_position? (h.length_eq.symm ▸ hi)).trans hlevel⟩

/-- The walk down ends with the invariant. -/
theorem Levelled.levelsFrom?_eq
    (hin : ∀ cs ∈ children, ∀ j ∈ cs, (position? children.length j).isSome)
    (h : Levelled children levels stack) :
    ∃ levels', levelsFrom? children levels stack = some levels' ∧ Levelled children levels' [] := by
  fun_induction levelsFrom? children levels stack with
  | case1 levels => exact ⟨levels, rfl, h⟩
  | case2 levels i stack cs level hlevel hcs hnone =>
    obtain ⟨k, cs', -, hk, hcs', -⟩ := h.top
    obtain rfl := Option.some.inj (hcs.symm.trans hcs')
    obtain ⟨levels', found, hd, -⟩ := descend?_eq level cs levels
      (h.length_eq.symm ▸ hin cs (List.mem_of_getElem? hk))
    rw [hnone] at hd
    cases hd
  | case3 levels i stack cs level hlevel hcs levels' found hsome ih =>
    obtain ⟨k, cs', hi, hk, hcs', hlevel'⟩ := h.top
    obtain rfl := Option.some.inj (hcs.symm.trans hcs')
    obtain rfl := Option.some.inj (hlevel.symm.trans hlevel')
    have hin' := hin cs (List.mem_of_getElem? hk)
    obtain ⟨levels'', found', hd, hdesc⟩ := descend?_eq (levels.getD k 0) cs levels
      (h.length_eq.symm ▸ hin')
    rw [hsome] at hd
    cases hd
    exact ih (h.descend hi hk hin' hdesc)
  | case4 levels i stack hnone =>
    obtain ⟨k, cs, -, -, hcs, hlevel⟩ := h.top
    exact absurd hlevel fun hlevel => hnone cs _ hcs hlevel

/-- The walk down begins at block one. -/
theorem Levelled.start (cs : List Int) (others : List (List Int)) :
    Levelled (cs :: others) (1 :: others.map fun _ => 0) [1] := by
  have hlevel : ∀ {k}, (1 :: others.map fun _ => 0).getD k 0 ≠ 0 → k = 0 := by
    intro k hk
    cases k with
    | zero => rfl
    | succ k =>
      rw [List.getD_cons_succ, List.getD_eq_getElem?_getD, List.getElem?_map] at hk
      cases hother : others[k]? <;> simp [hother] at hk
  have hone : position? (cs :: others).length 1 = some 0 := position?_succ (Nat.zero_lt_succ _)
  refine ⟨by simp, rfl, fun {i} hi => ?_, fun hk h0 => absurd (hlevel hk) h0, fun {k} hk => ?_⟩
  · obtain rfl := List.mem_singleton.mp hi
    exact ⟨0, hone, Nat.one_ne_zero⟩
  · obtain rfl := hlevel hk
    exact .inl ⟨1, List.mem_singleton_self 1, hone⟩

/-- After the walk down exactly the blocks that can be reached from block one have levels. -/
theorem Levelled.level_ne_zero_iff (h : Levelled children levels []) :
    levels.getD k 0 ≠ 0 ↔ ReflTransGen (Below children) 0 k := by
  constructor
  · intro hk
    induction hn : levels.getD k 0 using Nat.strongRecOn generalizing k with
    | ind n ih =>
      by_cases h0 : k = 0
      · exact h0 ▸ .refl
      · obtain ⟨p, hp, hlevel, hsucc⟩ := h.parent hk h0
        exact (ih _ (by omega) hlevel rfl).tail hp
  · intro hk
    induction hk with
    | refl =>
      rw [h.entry]
      exact Nat.one_ne_zero
    | tail _ hstep ih =>
      rcases h.closed ih with ⟨i, hi, -⟩ | hclosed
      · exact absurd hi List.not_mem_nil
      · exact hclosed hstep

/-- The tree with lists of children and levels. -/
def ofLevels (levels : List ℕ) (children : List (List Int)) : DomTree :=
  ⟨List.zipWith (fun (level : ℕ) below => ⟨level, below⟩) levels children⟩

/-- **The tree with given lists of children is found**, and its levels are sound. -/
theorem ofChildren?_eq (hne : children ≠ [])
    (hin : ∀ cs ∈ children, ∀ j ∈ cs, (position? children.length j).isSome) :
    ∃ levels, ofChildren? children = some (ofLevels levels children) ∧
      Levelled children levels [] := by
  cases children with
  | nil => exact absurd rfl hne
  | cons cs others =>
    obtain ⟨levels, hlevels, h⟩ := (Levelled.start cs others).levelsFrom?_eq hin
    exact ⟨levels, by rw [ofChildren?, hlevels]; rfl, h⟩

/-! ### The nodes of the tree -/

theorem length_nodes_ofLevels (hlength : levels.length = children.length) :
    (ofLevels levels children).nodes.length = children.length := by
  rw [ofLevels, List.length_zipWith, hlength, Nat.min_self]

theorem childLists_ofLevels (hlength : levels.length = children.length) :
    (ofLevels levels children).childLists = children := by
  rw [childLists, ofLevels]
  refine List.ext_getElem (by simp [hlength]) fun k hk hk' => ?_
  rw [List.getElem_map, List.getElem_zipWith]

theorem node?_ofLevels (hlength : levels.length = children.length)
    (hi : position? children.length i = some k) :
    (ofLevels levels children).node? i = some ⟨levels.getD k 0, children.getD k []⟩ := by
  rw [node?, numbered?_eq_of_position? ((length_nodes_ofLevels hlength).symm ▸ hi), ofLevels,
    List.getElem?_zipWith]
  have hk : k < children.length := position?_lt hi
  simp [List.getElem?_eq_getElem hk, List.getElem?_eq_getElem (hlength.symm ▸ hk)]

end FlowAtlas.DomTree
