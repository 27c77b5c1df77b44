import FlowAtlas.DomTree.Drawing
import FlowAtlas.Proofs.Dominance.Strays
import FlowAtlas.Proofs.Outcome
import Mathlib.Data.List.Nodup
import Mathlib.Order.Interval.Finset.Nat

/-!
# Trees in which no block hangs twice

If no block is listed as a child twice and block one is not listed at all, every child has one
parent, so that its level is one more than that of the parent. Going down from block one then never
comes back, and it goes down no more levels than there are blocks. The drawing of such a tree ends.

## Main definitions

* `Hanging`: the condition on lists of children.
* `Proper`: the trees with such lists.

## Main results

* `Levelled.level_succ`: a child is one level below its parent.
* `Levelled.level_le`: there are no more levels than blocks.
* `Hanging.proper`: a tree that is built from lists of children that hang together is proper.
* `Proper.not_transGen`: going down from block one never comes back.
* `Proper.exists_drawing`: the drawing of the tree ends.
* `exists_proper_tree?`: the dominator tree of a list of blocks is proper.
-/

namespace FlowAtlas.DomTree

open Relation

variable {children : List (List Int)} {levels : List ℕ} {t : DomTree} {cs : List Int}
  {k c p q n : ℕ} {i j b : Int}

/-- No block is listed as a child twice, block one is not listed, and all that is listed are
blocks. -/
structure Hanging (children : List (List Int)) : Prop where
  inside : ∀ c ∈ children.flatten, 1 ≤ c ∧ c ≤ children.length
  nodup : children.flatten.Nodup
  entry : 1 ∉ children.flatten

/-- If all that is listed counts from the front, it has a position. -/
theorem isSome_position?_of_inside
    (hin : ∀ c ∈ children.flatten, 1 ≤ c ∧ c ≤ children.length) :
    ∀ cs ∈ children, ∀ j ∈ cs, (position? children.length j).isSome := by
  intro cs hcs j hj
  have hj := hin j (List.mem_flatten.mpr ⟨cs, hcs, hj⟩)
  rw [position?_of_pos hj.1 hj.2]
  rfl

theorem Below.mem_flatten (h : Below children k c) :
    ∃ i ∈ children.flatten, position? children.length i = some c := by
  obtain ⟨cs, hcs, i, hi, hc⟩ := h
  exact ⟨i, List.mem_flatten.mpr ⟨cs, List.mem_of_getElem? hcs, hi⟩, hc⟩

namespace Hanging

variable (hh : Hanging children)
include hh

theorem index_unique {cs cs' : List Int} (hp : children[p]? = some cs) (hi : i ∈ cs)
    (hq : children[q]? = some cs') (hi' : i ∈ cs') : p = q := by
  obtain ⟨hplt, rfl⟩ := List.getElem?_eq_some_iff.mp hp
  obtain ⟨hqlt, rfl⟩ := List.getElem?_eq_some_iff.mp hq
  have hdisjoint := List.pairwise_iff_getElem.mp (List.nodup_flatten.mp hh.nodup).2
  rcases lt_trichotomy p q with hlt | heq | hlt
  · exact absurd hi' (hdisjoint p q hplt hqlt hlt hi)
  · exact heq
  · exact absurd hi (hdisjoint q p hqlt hplt hlt hi')

/-- Every child has one parent. -/
theorem parent_unique (hp : Below children p c) (hq : Below children q c) : p = q := by
  obtain ⟨cs, hcs, i, hi, hic⟩ := hp
  obtain ⟨cs', hcs', j, hj, hjc⟩ := hq
  have hone : ∀ {cs : List Int} {k : ℕ} {i : Int}, children[k]? = some cs → i ∈ cs → 1 ≤ i :=
    fun hcs hi => (hh.inside _ (List.mem_flatten.mpr ⟨_, List.mem_of_getElem? hcs, hi⟩)).1
  obtain rfl := position?_inj (hone hcs hi) (hone hcs' hj) hic hjc
  exact hh.index_unique hcs hi hcs' hj

theorem ne_zero_of_below (h : Below children k c) : c ≠ 0 := by
  rintro rfl
  obtain ⟨i, hi, hpos⟩ := h.mem_flatten
  have hone : i = 1 := eq_succ_of_position? (hh.inside i hi).1 hpos
  exact hh.entry (hone ▸ hi)

theorem isSome_position? : ∀ cs ∈ children, ∀ j ∈ cs, (position? children.length j).isSome :=
  isSome_position?_of_inside hh.inside

end Hanging

/-! ### Levels -/

namespace Levelled

variable (h : Levelled children levels [])
include h

theorem level_ne_zero_of_below (hb : Below children p c) (hp : levels.getD p 0 ≠ 0) :
    levels.getD c 0 ≠ 0 := by
  rcases h.closed hp with ⟨i, hi, -⟩ | hclosed
  · exact absurd hi List.not_mem_nil
  · exact hclosed hb

/-- A child is one level below its parent. -/
theorem level_succ (hh : Hanging children) (hb : Below children p c) (hp : levels.getD p 0 ≠ 0) :
    levels.getD c 0 = levels.getD p 0 + 1 := by
  obtain ⟨q, hq, -, hsucc⟩ := h.parent (h.level_ne_zero_of_below hb hp) (hh.ne_zero_of_below hb)
  rwa [hh.parent_unique hb hq]

theorem exists_level (hk : levels.getD k 0 = n + 1) {l : ℕ} (h1 : 1 ≤ l) (hl : l ≤ n + 1) :
    ∃ j, levels.getD j 0 = l := by
  induction n generalizing k with
  | zero => exact ⟨k, by omega⟩
  | succ n ih =>
    rcases hl.eq_or_lt with rfl | hlt
    · exact ⟨k, hk⟩
    · have hk0 : k ≠ 0 := by
        rintro rfl
        rw [h.entry] at hk
        omega
      obtain ⟨p, -, -, hsucc⟩ := h.parent (by omega) hk0
      exact ih (by omega : levels.getD p 0 = n + 1) (by omega)

/-- There are no more levels than blocks. -/
theorem level_le (k : ℕ) : levels.getD k 0 ≤ children.length := by
  have hsub : Finset.Icc 1 (levels.getD k 0) ⊆
      (Finset.range levels.length).image fun j => levels.getD j 0 := by
    intro l hl
    obtain ⟨h1, hl⟩ := Finset.mem_Icc.mp hl
    obtain ⟨j, rfl⟩ := h.exists_level
      (by omega : levels.getD k 0 = levels.getD k 0 - 1 + 1) h1 (by omega)
    exact Finset.mem_image_of_mem _
      (Finset.mem_range.mpr (lt_length_of_level (Nat.one_le_iff_ne_zero.mp h1)))
  have hcard := (Finset.card_le_card hsub).trans Finset.card_image_le
  rwa [Nat.card_Icc, Finset.card_range, Nat.add_sub_cancel, h.length_eq] at hcard

end Levelled

/-! ### Going down -/

theorem map_fst_markLast {α : Type} (l : List α) : (markLast l).map Prod.fst = l := by
  fun_induction markLast l with
  | case1 => rfl
  | case2 x => rfl
  | case3 x rest _ ih => rw [List.map_cons, ih]

theorem fst_mem_of_mem_markLast {α : Type} {l : List α} {x : α × Bool} (hx : x ∈ markLast l) :
    x.1 ∈ l :=
  map_fst_markLast l ▸ List.mem_map_of_mem hx

/-- Children along the numbers of blocks are children along their positions. -/
theorem exists_below_of_isChild (hlength : levels.length = children.length)
    (hin : ∀ c ∈ children.flatten, 1 ≤ c ∧ c ≤ children.length)
    (hbc : (ofLevels levels children).IsChild b i) : ∃ k c, position? children.length b = some k ∧
      position? children.length i = some c ∧ Below children k c := by
  obtain ⟨node, hnode, hi⟩ := hbc
  obtain ⟨k, hk, -⟩ := Option.bind_eq_some_iff.mp hnode
  rw [length_nodes_ofLevels hlength] at hk
  obtain rfl := Option.some.inj (hnode.symm.trans (node?_ofLevels hlength hk))
  have hcs : children[k]? = some (children.getD k []) := by
    rw [List.getD_eq_getElem?_getD, List.getElem?_eq_getElem (position?_lt hk), Option.getD_some]
  obtain ⟨c, hc⟩ := Option.isSome_iff_exists.mp
    (isSome_position?_of_inside hin _ (List.mem_of_getElem? hcs) i hi)
  exact ⟨k, c, hk, hc, _, hcs, i, hi, hc⟩

namespace Levelled

variable (h : Levelled children levels [])
include h

theorem exists_level_of_reachable (hin : ∀ c ∈ children.flatten, 1 ≤ c ∧ c ≤ children.length)
    (hb : ReflTransGen (ofLevels levels children).IsChild 1 b) (hne : children ≠ []) :
    ∃ k, position? children.length b = some k ∧ levels.getD k 0 ≠ 0 := by
  induction hb with
  | refl =>
    exact ⟨0, position?_succ (List.length_pos_iff.mpr hne), h.entry.symm ▸ Nat.one_ne_zero⟩
  | tail _ hstep ih =>
    obtain ⟨k, hk, hlevel⟩ := ih
    obtain ⟨k', c, hk', hc, hbelow⟩ := exists_below_of_isChild h.length_eq hin hstep
    obtain rfl := Option.some.inj (hk.symm.trans hk')
    exact ⟨c, hc, h.level_ne_zero_of_below hbelow hlevel⟩

/-- Going down from a block with a level leads to greater levels. -/
theorem level_lt_of_transGen (hh : Hanging children)
    (hbi : TransGen (ofLevels levels children).IsChild b i)
    (hk : position? children.length b = some k) (hlevel : levels.getD k 0 ≠ 0) :
    ∃ c, position? children.length i = some c ∧ levels.getD k 0 < levels.getD c 0 := by
  induction hbi with
  | single hstep =>
    obtain ⟨k', c, hk', hc, hbelow⟩ := exists_below_of_isChild h.length_eq hh.inside hstep
    obtain rfl := Option.some.inj (hk.symm.trans hk')
    exact ⟨c, hc, h.level_succ hh hbelow hlevel ▸ Nat.lt_succ_self _⟩
  | tail _ hstep ih =>
    obtain ⟨p, hp, hlt⟩ := ih
    obtain ⟨p', c, hp', hc, hbelow⟩ := exists_below_of_isChild h.length_eq hh.inside hstep
    obtain rfl := Option.some.inj (hp.symm.trans hp')
    have hsucc := h.level_succ hh hbelow (Nat.ne_zero_of_lt hlt)
    exact ⟨c, hc, by omega⟩

end Levelled

/-- The lines below a block are drawn, if as many levels are left as there may be below it. -/
theorem Levelled.exists_linesBelow (h : Levelled children levels []) (hh : Hanging children)
    {left : ℕ} (margin : String) (hi : position? children.length i = some k)
    (hk : levels.getD k 0 ≠ 0) (hleft : children.length < left + levels.getD k 0) :
    ∃ lines, (ofLevels levels children).linesBelow left margin i = .ok lines := by
  induction left generalizing margin i k with
  | zero => exact absurd (h.level_le k) (by omega)
  | succ left ih =>
    have hcs : children[k]? = some (children.getD k []) := by
      rw [List.getD_eq_getElem?_getD, List.getElem?_eq_getElem (position?_lt hi), Option.getD_some]
    have hdraw : ∀ x ∈ markLast (children.getD k []), ∃ part,
        (do
          let below ← (ofLevels levels children).linesBelow left (margin ++ passage x.2) x.1
          pure ((margin ++ connector x.2 ++ toString x.1) :: below)) =
            (.ok part : Except Failure (List String)) := by
      rintro ⟨c, last⟩ hc
      have hc : c ∈ children.getD k [] := fst_mem_of_mem_markLast hc
      obtain ⟨k', hk'⟩ := Option.isSome_iff_exists.mp
        (hh.isSome_position? _ (List.mem_of_getElem? hcs) c hc)
      have hsucc := h.level_succ hh ⟨_, hcs, c, hc, hk'⟩ hk
      obtain ⟨lines, hlines⟩ := ih (margin ++ passage last) hk' (by omega) (by omega)
      exact ⟨_, by rw [hlines]; rfl⟩
    obtain ⟨parts, hparts⟩ := exists_forall₂ hdraw
    refine ⟨parts.flatten, ?_⟩
    rw [linesBelow, node?_ofLevels h.length_eq hi]
    exact bind_eq_ok_iff.mpr ⟨parts, mapM_eq_ok_iff.mpr hparts, rfl⟩

/-! ### Proper trees -/

/-- A tree without nodes, or one with lists of children that hang together and with the levels that
the walk down gives. -/
inductive Proper : DomTree → Prop
  | empty : Proper ⟨[]⟩
  | hung {children : List (List Int)} {levels : List ℕ} (hh : Hanging children)
      (h : Levelled children levels []) : Proper (ofLevels levels children)

theorem Hanging.exists_ofChildren? (hh : Hanging children) :
    ∃ t, ofChildren? children = some t := by
  rcases eq_or_ne children [] with rfl | hne
  · exact ⟨⟨[]⟩, rfl⟩
  · obtain ⟨levels, hlevels, -⟩ := ofChildren?_eq hne hh.isSome_position?
    exact ⟨_, hlevels⟩

/-- A tree that is built from lists of children that hang together is proper, and it has these
lists. -/
theorem Hanging.proper (hh : Hanging children) (ht : ofChildren? children = some t) :
    t.Proper ∧ t.childLists = children := by
  rcases eq_or_ne children [] with rfl | hne
  · cases ht
    exact ⟨.empty, rfl⟩
  · obtain ⟨levels, hlevels, h⟩ := ofChildren?_eq hne hh.isSome_position?
    obtain rfl := Option.some.inj (ht.symm.trans hlevels)
    exact ⟨.hung hh h, childLists_ofLevels h.length_eq⟩

theorem length_childLists (t : DomTree) : t.childLists.length = t.nodes.length := by
  rw [childLists, List.length_map]

theorem Levelled.ne_nil (h : Levelled children levels []) : children ≠ [] := by
  rintro rfl
  have hentry := h.entry
  rw [List.length_eq_zero_iff.mp h.length_eq] at hentry
  cases hentry

namespace Proper

variable (h : t.Proper)
include h

theorem inside : ∀ c ∈ t.childLists.flatten, 1 ≤ c ∧ c ≤ t.nodes.length := by
  cases h with
  | empty => exact fun c hc => absurd hc List.not_mem_nil
  | hung hh h =>
    rw [childLists_ofLevels h.length_eq, length_nodes_ofLevels h.length_eq]
    exact hh.inside

/-- Going down from block one never comes back. -/
theorem not_transGen (hb : ReflTransGen t.IsChild 1 b) : ¬ TransGen t.IsChild b b := by
  intro hcycle
  cases h with
  | empty =>
    obtain ⟨c, ⟨node, hnode, -⟩, -⟩ := TransGen.head'_iff.mp hcycle
    exact absurd (mem_of_numbered? hnode) List.not_mem_nil
  | hung hh h =>
    obtain ⟨k, hk, hlevel⟩ := h.exists_level_of_reachable hh.inside hb h.ne_nil
    obtain ⟨c, hc, hlt⟩ := h.level_lt_of_transGen hh hcycle hk hlevel
    obtain rfl := Option.some.inj (hk.symm.trans hc)
    exact absurd hlt (lt_irrefl _)

/-- The drawing of a proper tree ends. -/
theorem exists_drawing : ∃ text, t.drawing = .ok text := by
  cases h with
  | empty => exact ⟨"", rfl⟩
  | @hung children levels hh h =>
    have hlength : (ofLevels levels children).nodes.length = children.length :=
      length_nodes_ofLevels h.length_eq
    have hpos := List.length_pos_iff.mpr h.ne_nil
    have hone : position? children.length 1 = some 0 := position?_succ hpos
    have hleft : children.length < (ofLevels levels children).nodes.length + levels.getD 0 0 := by
      rw [hlength, h.entry]
      exact Nat.lt_succ_self _
    obtain ⟨below, hbelow⟩ := h.exists_linesBelow hh "" hone
      (h.entry.symm ▸ Nat.one_ne_zero) hleft
    have hempty : (ofLevels levels children).nodes.isEmpty = false := by
      rw [List.isEmpty_eq_false_iff, ← List.length_pos_iff, hlength]
      exact hpos
    rw [drawing, drawingWithin, hempty, lines, hbelow]
    exact ⟨_, rfl⟩

end Proper

end FlowAtlas.DomTree

namespace FlowAtlas.Dominance

open DomTree Relation

variable {blocks : List Block} {idoms : List (Int × Option Int)} {levels : List ℕ} {t : DomTree}

theorem Grown.hanging (h : Grown blocks idoms levels) :
    Hanging (childLists blocks.length idoms) where
  inside := by
    intro c hc
    obtain ⟨d, hd⟩ := h.mem_flatten_childLists.mp hc
    rw [Dominance.length_childLists]
    exact h.inside (h.table.reachable_of_mem hd)
  nodup := h.nodup_flatten_childLists
  entry := fun hc => by
    obtain ⟨d, hd⟩ := h.mem_flatten_childLists.mp hc
    exact h.table.ne_entry hd rfl

/-- **The dominator tree of a list of blocks is proper**, and it has a node for each block. -/
theorem exists_proper_tree?
    (hvalid : ∀ block ∈ blocks, ∀ s ∈ block.succs, 1 ≤ s ∧ s ≤ blocks.length) :
    ∃ t, tree? blocks = some t ∧ t.Proper ∧ t.nodes.length = blocks.length := by
  rcases eq_or_ne blocks [] with rfl | hne
  · exact ⟨⟨[]⟩, tree?_nil, .empty, rfl⟩
  · obtain ⟨idoms, levels, htree, h⟩ := tree?_eq hne fun b hb => inside_of_reachable hvalid hne hb
    refine ⟨grow blocks idoms levels, htree, .hung h.hanging h.levelled, ?_⟩
    rw [grow, length_nodes_ofLevels h.levelled.length_eq, Dominance.length_childLists]

end FlowAtlas.Dominance
