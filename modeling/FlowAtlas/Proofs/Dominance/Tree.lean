import FlowAtlas.Dominance.Tree
import FlowAtlas.Proofs.DomTree.Levels
import FlowAtlas.Proofs.Dominance.Immediate
import Mathlib.Data.Set.Card
import Mathlib.Data.Int.Interval
import Mathlib.Order.Interval.Finset.Basic

/-!
# The dominator tree

The immediate dominators, turned around, are lists of children. Going up from a block in the tree
meets exactly its dominators, one for each level, since each has one immediate dominator.

## Main definitions

* `childLists`: the lists of the blocks with certain immediate dominators.
* `DomTree.IsChild`: the relation between the blocks of a tree along its lists of children.

## Main results

* `childLists?_eq`: the lists of children are those, if all immediate dominators have positions.
* `getElem?_childLists`: what the list of children at a position holds.
* `Grown.ancestor_iff`: the ancestors of a block in the tree are its dominators.
* `Grown.level_eq`: the level of a block counts its dominators.
* `tree?_is_dominatorTree`: the tree of a list of blocks is their dominator tree.
-/

namespace FlowAtlas

open Relation

/-- A block is listed among the children of another. -/
def DomTree.IsChild (tree : DomTree) (p c : Int) : Prop :=
  ∃ node, tree.node? p = some node ∧ c ∈ node.children

namespace Dominance

open DomTree

variable {blocks : List Block} {idoms : List (Int × Option Int)} {levels : List ℕ} {n k : ℕ}
  {a b c d : Int}

/-! ### The lists of children -/

/-- The blocks whose immediate dominator is the element at a position in a list of a given
length. -/
def childrenAt (length : ℕ) (idoms : List (Int × Option Int)) (k : ℕ) : List Int :=
  (idoms.filter fun (_, parent) => parent.bind (position? length) = some k).map (·.1)

/-- The lists of the blocks with the immediate dominators at all positions, in ascending order. -/
def childLists (length : ℕ) (idoms : List (Int × Option Int)) : List (List Int) :=
  let sorted := idoms.mergeSort fun a b => a.1 ≤ b.1
  (List.range length).map (childrenAt length sorted)

theorem childrenAt_cons_some {j : ℕ} (hd : position? n d = some j) :
    childrenAt n ((b, some d) :: idoms) k =
      if j = k then b :: childrenAt n idoms k else childrenAt n idoms k := by
  simp only [childrenAt, List.filter_cons, Option.bind_some, hd, Option.some.injEq,
    decide_eq_true_eq]
  split_ifs with hjk
  · rw [List.map_cons]
  · rfl

/-- Each of a run of blocks is put into the list at the position of its immediate dominator. -/
theorem foldlM_addChild?_eq (children : List (List Int))
    (h : ∀ b d, (b, some d) ∈ idoms → (position? children.length d).isSome) :
    ∃ next, idoms.foldlM addChild? children = some next ∧ next.length = children.length ∧
      ∀ k, next[k]? = children[k]?.map (· ++ childrenAt children.length idoms k) := by
  induction idoms generalizing children with
  | nil =>
    refine ⟨children, rfl, rfl, fun k => ?_⟩
    rw [childrenAt, List.filter_nil, List.map_nil]
    simp
  | cons e idoms ih =>
    obtain ⟨b, d?⟩ := e
    cases d? with
    | none => exact ih children fun b d hb => h b d (List.mem_cons_of_mem _ hb)
    | some d =>
      obtain ⟨j, hj⟩ := Option.isSome_iff_exists.mp (h b d List.mem_cons_self)
      -- One list grows by one block; how many lists there are stays the same.
      have hlen : (children.modify j (· ++ [b])).length = children.length := List.length_modify ..
      obtain ⟨next, hnext, hlength, hget⟩ := ih (children.modify j (· ++ [b]))
        fun b d hb => hlen ▸ h b d (List.mem_cons_of_mem _ hb)
      refine ⟨next, ?_, hlength.trans hlen, fun k => ?_⟩
      · rw [List.foldlM_cons, addChild?, hj]
        exact hnext
      · rw [hget, hlen, List.getElem?_modify, childrenAt_cons_some hj]
        cases children[k]? with
        | none => rfl
        | some cs =>
          by_cases hjk : j = k
          · simp [hjk]
          · simp [hjk]

/-- The lists of children are found, if all immediate dominators have positions. -/
theorem childLists?_eq (h : ∀ b d, (b, some d) ∈ idoms → (position? n d).isSome) :
    childLists? n idoms = some (childLists n idoms) := by
  have hlen : (List.replicate n ([] : List Int)).length = n := List.length_replicate
  have hsorted : ∀ b d, (b, some d) ∈ idoms.mergeSort (fun a b => a.1 ≤ b.1) →
      (position? (List.replicate n ([] : List Int)).length d).isSome := fun b d hb =>
    hlen.symm ▸ h b d (List.mem_mergeSort.mp hb)
  obtain ⟨next, hnext, hlength, hget⟩ := foldlM_addChild?_eq (List.replicate n []) hsorted
  rw [childLists?, hnext]
  refine congrArg some (List.ext_getElem? fun k => ?_)
  rw [hget, hlen, childLists, List.getElem?_map, List.getElem?_replicate]
  rcases Nat.lt_or_ge k n with hk | hk
  · rw [if_pos hk, List.getElem?_range hk, Option.map_some, Option.map_some, List.nil_append]
  · rw [if_neg (Nat.not_lt.mpr hk), List.getElem?_eq_none (by rwa [List.length_range])]
    rfl

theorem mem_childrenAt : b ∈ childrenAt n idoms k ↔
    ∃ d, (b, some d) ∈ idoms ∧ position? n d = some k := by
  simp only [childrenAt, List.mem_map, List.mem_filter, decide_eq_true_eq, Prod.exists,
    exists_and_right, exists_eq_right, Option.bind_eq_some_iff]
  constructor
  · rintro ⟨_, hb, d, rfl, hd⟩
    exact ⟨d, hb, hd⟩
  · rintro ⟨d, hb, hd⟩
    exact ⟨some d, hb, d, rfl, hd⟩

theorem length_childLists : (childLists n idoms).length = n := by
  rw [childLists, List.length_map, List.length_range]

theorem pairwise_sorted (hnodup : (idoms.map Prod.fst).Nodup) :
    (idoms.mergeSort fun a b => a.1 ≤ b.1).Pairwise fun x y => x.1 < y.1 := by
  have hle : (idoms.mergeSort fun a b => a.1 ≤ b.1).Pairwise fun x y => x.1 ≤ y.1 := by
    refine (List.pairwise_mergeSort (fun x y z hxy hyz => ?_) (fun x y => ?_) idoms).imp
      of_decide_eq_true
    · exact decide_eq_true ((of_decide_eq_true hxy).trans (of_decide_eq_true hyz))
    · rcases le_total x.1 y.1 with h | h <;> simp [h]
  have hne : (idoms.mergeSort fun a b => a.1 ≤ b.1).Pairwise fun x y => x.1 ≠ y.1 :=
    List.pairwise_map.mp (((List.mergeSort_perm idoms _).map Prod.fst).nodup_iff.mpr hnodup)
  exact hle.imp₂ (fun x y hxy hne => lt_of_le_of_ne hxy hne) hne

theorem pairwise_of_mem_childLists (hnodup : (idoms.map Prod.fst).Nodup) {cs : List Int}
    (hcs : cs ∈ childLists n idoms) : cs.Pairwise (· < ·) := by
  obtain ⟨k, -, rfl⟩ := List.mem_map.mp hcs
  exact List.pairwise_map.mpr ((pairwise_sorted hnodup).filter _)

/-- The list of children at a position holds the blocks whose immediate dominator has that
position. -/
theorem getElem?_childLists (idoms : List (Int × Option Int)) (hk : k < n) :
    ∃ cs, (childLists n idoms)[k]? = some cs ∧
      ∀ {b}, b ∈ cs ↔ ∃ d, (b, some d) ∈ idoms ∧ position? n d = some k := by
  refine ⟨_, by rw [childLists, List.getElem?_map, List.getElem?_range hk, Option.map_some], ?_⟩
  intro b
  simp only [mem_childrenAt, List.mem_mergeSort]

theorem exists_ofChildren?_childLists (hn : 0 < n)
    (hin : ∀ b d, (b, some d) ∈ idoms → (position? n b).isSome) :
    ∃ levels, ofChildren? (childLists n idoms) = some (ofLevels levels (childLists n idoms)) ∧
      Levelled (childLists n idoms) levels [] := by
  refine ofChildren?_eq ?_ fun cs hcs c hc => ?_
  · rw [← List.length_pos_iff, length_childLists]
    exact hn
  · obtain ⟨k, -, rfl⟩ := List.mem_map.mp hcs
    obtain ⟨d, hd, -⟩ := mem_childrenAt.mp hc
    rw [length_childLists]
    exact hin c d (List.mem_mergeSort.mp hd)

/-- A position below another is that of a block whose immediate dominator has the other. -/
theorem below_childLists_iff {length : ℕ} : Below (childLists length idoms) k n ↔
    ∃ b d, (b, some d) ∈ idoms ∧ position? length d = some k ∧
      position? length b = some n := by
  rw [Below, length_childLists]
  constructor
  · rintro ⟨cs, hcs, b, hb, hpos⟩
    have hk : k < length := by
      simpa only [length_childLists] using (List.getElem?_eq_some_iff.mp hcs).1
    obtain ⟨cs', hcs', hmem⟩ := getElem?_childLists idoms hk
    obtain rfl := Option.some.inj (hcs.symm.trans hcs')
    obtain ⟨d, hd, hdpos⟩ := hmem.mp hb
    exact ⟨b, d, hd, hdpos, hpos⟩
  · rintro ⟨b, d, hd, hdpos, hpos⟩
    obtain ⟨cs, hcs, hmem⟩ := getElem?_childLists idoms (position?_lt hdpos)
    exact ⟨cs, hcs, b, hmem.mpr ⟨d, hd, hdpos⟩, hpos⟩

/-! ### Levels and ancestors -/

/-- The tree with given levels whose lists of children come from a list of immediate dominators. All
blocks that can be reached are numbered from one, and the walk down has ended. -/
structure Grown (blocks : List Block) (idoms : List (Int × Option Int)) (levels : List ℕ) :
    Prop where
  table : IdomTable blocks idoms
  inside : ∀ {b}, ReflTransGen (Follows blocks) 1 b → 1 ≤ b ∧ b ≤ blocks.length
  levelled : Levelled (childLists blocks.length idoms) levels []

/-- The tree with given levels and the lists of children from immediate dominators. -/
def grow (blocks : List Block) (idoms : List (Int × Option Int)) (levels : List ℕ) : DomTree :=
  ofLevels levels (childLists blocks.length idoms)

namespace IdomTable

variable (h : IdomTable blocks idoms)
include h

theorem dominator_unique (hc : (b, some c) ∈ idoms) (hd : (b, some d) ∈ idoms) : c = d :=
  Option.some.inj (congrArg Prod.snd (List.inj_on_of_nodup_map h.nodup hc hd rfl))

theorem reachable_of_mem (hd : (b, some d) ∈ idoms) : ReflTransGen (Follows blocks) 1 b :=
  h.mem_iff.mp (List.mem_map_of_mem hd)

theorem dominates (hd : (b, some d) ∈ idoms) : Dominates (Follows blocks) 1 d b :=
  (h.dominates_iff hd).mpr (.inr (.refl 1 d))

theorem dominator_reachable (hd : (b, some d) ∈ idoms) : ReflTransGen (Follows blocks) 1 d :=
  (h.dominates hd).reachable (h.reachable_of_mem hd)

theorem ne_entry (hd : (b, some d) ∈ idoms) : b ≠ 1 := fun h1 =>
  Option.some_ne_none d ((h.entry_iff hd).mpr h1)

/-- A block has one dominator more than its immediate dominator, itself. -/
theorem dominators_eq (hd : (b, some d) ∈ idoms) : {a | Dominates (Follows blocks) 1 a b} =
    insert b {a | Dominates (Follows blocks) 1 a d} :=
  Set.ext fun _ => h.dominates_iff hd

end IdomTable

theorem dominators_entry (R : Int → Int → Prop) : {a | Dominates R 1 a 1} = {1} := by
  refine Set.ext fun a => ⟨fun ha => List.mem_singleton.mp (ha [1] .here), ?_⟩
  rintro rfl
  exact .refl 1 _

namespace Grown

variable (h : Grown blocks idoms levels)
include h

theorem position?_eq (hb : ReflTransGen (Follows blocks) 1 b) :
    position? blocks.length b = some (b - 1).toNat :=
  position?_of_pos (h.inside hb).1 (h.inside hb).2

theorem node?_eq (hb : position? blocks.length b = some k) : ∃ cs : List Int,
    (grow blocks idoms levels).node? b = some ⟨levels.getD k 0, cs⟩ ∧
      ∀ {c}, c ∈ cs ↔ ∃ d, (c, some d) ∈ idoms ∧ position? blocks.length d = some k := by
  obtain ⟨cs, hcs, hmem⟩ := getElem?_childLists idoms (position?_lt hb)
  have hgetD : (childLists blocks.length idoms).getD k [] = cs := by
    rw [List.getD_eq_getElem?_getD, hcs, Option.getD_some]
  exact ⟨cs, by rw [grow, node?_ofLevels h.levelled.length_eq (by rwa [length_childLists]), hgetD],
    hmem⟩

/-- The children of a block are those whose immediate dominator it is. -/
theorem isChild_iff (hd : ReflTransGen (Follows blocks) 1 d) :
    (grow blocks idoms levels).IsChild d b ↔ (b, some d) ∈ idoms := by
  have hpos := h.position?_eq hd
  obtain ⟨cs, hnode, hmem⟩ := h.node?_eq hpos
  rw [IsChild, hnode]
  simp only [Option.some.injEq, exists_eq_left', hmem]
  constructor
  · rintro ⟨d', hd', hpos'⟩
    obtain rfl := position?_inj (h.inside (h.table.dominator_reachable hd')).1 (h.inside hd).1
      hpos' hpos
    exact hd'
  · exact fun hb => ⟨d, hb, hpos⟩

theorem finite_dominators (hb : ReflTransGen (Follows blocks) 1 b) :
    {a | Dominates (Follows blocks) 1 a b}.Finite :=
  (Set.finite_Icc 1 (blocks.length : Int)).subset fun _ ha => h.inside (Dominates.reachable ha hb)

theorem ncard_dominators (hd : (b, some d) ∈ idoms) :
    {a | Dominates (Follows blocks) 1 a b}.ncard =
      {a | Dominates (Follows blocks) 1 a d}.ncard + 1 := by
  rw [h.table.dominators_eq hd, Set.ncard_insert_of_notMem (h.table.not_dominates hd)
    (h.finite_dominators (h.table.dominator_reachable hd))]

/-- Every dominator of a block is met on the way up, since the immediate dominator has fewer. -/
theorem ancestor_of_dominates (hb : ReflTransGen (Follows blocks) 1 b)
    (hab : Dominates (Follows blocks) 1 a b) :
    ReflTransGen (grow blocks idoms levels).IsChild a b := by
  induction hn : {a | Dominates (Follows blocks) 1 a b}.ncard using Nat.strongRecOn
    generalizing b with
  | ind n ih =>
    by_cases hne : a = b
    · exact hne ▸ .refl
    · have hb1 : b ≠ 1 := by
        rintro rfl
        exact hne (Set.ext_iff.mp (dominators_entry (Follows blocks)) a |>.mp hab)
      obtain ⟨d, hd⟩ := h.table.exists_dominator hb hb1
      have hd' := h.table.dominator_reachable hd
      have had := ((h.table.dominates_iff hd).mp hab).resolve_left hne
      have hlt := h.ncard_dominators hd
      exact (ih _ (by omega) hd' had rfl).tail ((h.isChild_iff hd').mpr hd)

theorem reachable_of_ancestor (ha : ReflTransGen (Follows blocks) 1 a)
    (hab : ReflTransGen (grow blocks idoms levels).IsChild a b) :
    ReflTransGen (Follows blocks) 1 b ∧ Dominates (Follows blocks) 1 a b := by
  induction hab with
  | refl => exact ⟨ha, .refl 1 a⟩
  | tail _ hstep ih =>
    have hd := (h.isChild_iff ih.1).mp hstep
    exact ⟨h.table.reachable_of_mem hd, ih.2.trans (h.table.dominates hd)⟩

/-- The ancestors of a block in the tree are its dominators. -/
theorem ancestor_iff (ha : ReflTransGen (Follows blocks) 1 a)
    (hb : ReflTransGen (Follows blocks) 1 b) :
    ReflTransGen (grow blocks idoms levels).IsChild a b ↔ Dominates (Follows blocks) 1 a b :=
  ⟨fun hab => (h.reachable_of_ancestor ha hab).2, h.ancestor_of_dominates hb⟩

/-- The level of a block is one more than that of its immediate dominator. -/
theorem level_succ (hd : (b, some d) ∈ idoms) (hb : position? blocks.length b = some k)
    (hdn : position? blocks.length d = some n) (hn : levels.getD n 0 ≠ 0) :
    levels.getD k 0 = levels.getD n 0 + 1 := by
  have hk : levels.getD k 0 ≠ 0 := by
    rcases h.levelled.closed hn with ⟨i, hi, -⟩ | hclosed
    · exact absurd hi List.not_mem_nil
    · exact hclosed (below_childLists_iff.mpr ⟨b, d, hd, hdn, hb⟩)
  have hb' := h.inside (h.table.reachable_of_mem hd)
  have hk0 : k ≠ 0 := by
    rintro rfl
    refine h.table.ne_entry hd (position?_inj hb'.1 le_rfl hb ?_)
    exact position?_of_pos le_rfl (hb'.1.trans hb'.2)
  obtain ⟨p, hp, -, hsucc⟩ := h.levelled.parent hk hk0
  obtain ⟨b', d', hd', hdp, hbk⟩ := below_childLists_iff.mp hp
  obtain rfl := position?_inj (h.inside (h.table.reachable_of_mem hd')).1 hb'.1 hbk hb
  obtain rfl := h.table.dominator_unique hd hd'
  rwa [Option.some.inj (hdn.symm.trans hdp)]

/-- The level of a block counts its dominators. -/
theorem level_eq (hb : ReflTransGen (Follows blocks) 1 b)
    (hk : position? blocks.length b = some k) :
    levels.getD k 0 = {a | Dominates (Follows blocks) 1 a b}.ncard := by
  induction hn : {a | Dominates (Follows blocks) 1 a b}.ncard using Nat.strongRecOn
    generalizing b k with
  | ind n ih =>
    by_cases hb1 : b = 1
    · subst hb1
      rw [h.position?_eq hb] at hk
      obtain rfl := Option.some.inj hk
      rw [← hn, dominators_entry, Set.ncard_singleton]
      exact h.levelled.entry
    · obtain ⟨d, hd⟩ := h.table.exists_dominator hb hb1
      have hd' := h.table.dominator_reachable hd
      have hsucc := h.ncard_dominators hd
      have hlevel := ih _ (by omega) hd' (h.position?_eq hd') rfl
      have hne : {a | Dominates (Follows blocks) 1 a d}.ncard ≠ 0 :=
        Set.ncard_ne_zero_of_mem (Dominates.refl 1 d) (h.finite_dominators hd')
      rw [h.level_succ hd hk (h.position?_eq hd') (hlevel ▸ hne), hlevel, ← hn, hsucc]

theorem reachable_of_level (hb : 1 ≤ b) (hk : position? blocks.length b = some k)
    (hlevel : levels.getD k 0 ≠ 0) : ReflTransGen (Follows blocks) 1 b := by
  cases h.levelled.level_ne_zero_iff.mp hlevel with
  | refl =>
    rw [position?_inj hb le_rfl hk (h.position?_eq .refl)]
  | tail _ hstep =>
    obtain ⟨b', d, hd, -, hpos⟩ := below_childLists_iff.mp hstep
    have hb' := h.table.reachable_of_mem hd
    rwa [position?_inj hb (h.inside hb').1 hk hpos]

theorem level_ne_zero_iff (h1 : 1 ≤ b) (hk : position? blocks.length b = some k) :
    levels.getD k 0 ≠ 0 ↔ ReflTransGen (Follows blocks) 1 b := by
  refine ⟨h.reachable_of_level h1 hk, fun hb => ?_⟩
  rw [h.level_eq hb hk]
  exact Set.ncard_ne_zero_of_mem (Dominates.refl 1 b) (h.finite_dominators hb)

/-- Every block has a node, with level zero if the block cannot be reached. -/
theorem exists_node (h1 : 1 ≤ b) (hn : b ≤ blocks.length) :
    ∃ node, (grow blocks idoms levels).node? b = some node ∧
      (node.level = 0 ↔ ¬ ReflTransGen (Follows blocks) 1 b) := by
  have hpos := position?_of_pos h1 hn
  obtain ⟨cs, hnode, -⟩ := h.node?_eq hpos
  refine ⟨_, hnode, ?_⟩
  rw [← h.level_ne_zero_iff h1 hpos, not_not]
  exact Int.natCast_eq_zero

/-- The node of a block that cannot be reached has no level and no children. -/
theorem node?_of_not_reachable (h1 : 1 ≤ b) (hn : b ≤ blocks.length)
    (hb : ¬ ReflTransGen (Follows blocks) 1 b) :
    (grow blocks idoms levels).node? b = some ⟨0, []⟩ := by
  have hpos := position?_of_pos h1 hn
  obtain ⟨cs, hnode, hmem⟩ := h.node?_eq hpos
  have hlevel : levels.getD (b - 1).toNat 0 = 0 := by
    by_contra hlevel
    exact hb (h.reachable_of_level h1 hpos hlevel)
  have hnil : cs = [] := by
    refine List.eq_nil_iff_forall_not_mem.mpr fun c hc => ?_
    obtain ⟨d, hd, hdpos⟩ := hmem.mp hc
    have hd' := h.table.dominator_reachable hd
    exact hb (position?_inj h1 (h.inside hd').1 hpos hdpos ▸ hd')
  rw [hnode, hlevel, hnil]
  rfl

theorem childLists_eq :
    (grow blocks idoms levels).childLists = childLists blocks.length idoms :=
  childLists_ofLevels h.levelled.length_eq

/-- The blocks that occur in lists of children are those with immediate dominators. -/
theorem mem_flatten_childLists :
    b ∈ (childLists blocks.length idoms).flatten ↔ ∃ d, (b, some d) ∈ idoms := by
  simp only [childLists, List.mem_flatten, List.mem_map, List.mem_range]
  constructor
  · rintro ⟨_, ⟨k, -, rfl⟩, hb⟩
    obtain ⟨d, hd, -⟩ := mem_childrenAt.mp hb
    exact ⟨d, List.mem_mergeSort.mp hd⟩
  · rintro ⟨d, hd⟩
    have hpos := h.position?_eq (h.table.dominator_reachable hd)
    exact ⟨_, ⟨_, position?_lt hpos, rfl⟩,
      mem_childrenAt.mpr ⟨d, List.mem_mergeSort.mpr hd, hpos⟩⟩

theorem nodup_flatten_childLists : (childLists blocks.length idoms).flatten.Nodup := by
  rw [List.nodup_flatten]
  constructor
  · exact fun cs hcs => (pairwise_of_mem_childLists h.table.nodup hcs).imp ne_of_lt
  · refine List.pairwise_map.mpr (List.nodup_range.imp fun {k l} hkl => ?_)
    intro b hbk hbl
    obtain ⟨d, hd, hdk⟩ := mem_childrenAt.mp hbk
    obtain ⟨d', hd', hdl⟩ := mem_childrenAt.mp hbl
    obtain rfl := h.table.dominator_unique (List.mem_mergeSort.mp hd) (List.mem_mergeSort.mp hd')
    exact hkl (Option.some.inj (hdk.symm.trans hdl))

/-- A block that can be reached, other than block one, occurs once among all children. -/
theorem count_flatten_childLists (hb : ReflTransGen (Follows blocks) 1 b) (hb1 : b ≠ 1) :
    (childLists blocks.length idoms).flatten.count b = 1 :=
  List.count_eq_one_of_mem h.nodup_flatten_childLists
    (h.mem_flatten_childLists.mpr (h.table.exists_dominator hb hb1))

end Grown

/-- The tree of a list of blocks is found, if all that can be reached are blocks. -/
theorem tree?_eq (hne : blocks ≠ [])
    (hin : ∀ b, ReflTransGen (Follows blocks) 1 b → 1 ≤ b ∧ b ≤ blocks.length) :
    ∃ idoms levels, tree? blocks = some (grow blocks idoms levels) ∧
      Grown blocks idoms levels := by
  rcases immediateDominators?_eq hne with ⟨idoms, hidoms, h⟩ | ⟨-, s, hs, hnot⟩
  · have hplace : ∀ b, ReflTransGen (Follows blocks) 1 b → (position? blocks.length b).isSome :=
      fun b hb => mem_numbers_iff.mp (mem_numbers_of_pos (hin b hb).1 (hin b hb).2)
    obtain ⟨levels, htree, hlevelled⟩ := exists_ofChildren?_childLists
      (List.length_pos_iff.mpr hne) fun b d hb => hplace b (h.reachable_of_mem hb)
    refine ⟨idoms, levels, ?_, h, fun {b} => hin b, hlevelled⟩
    have hlists : childLists? blocks.length idoms = some (childLists blocks.length idoms) :=
      childLists?_eq fun b d hb => hplace d (h.dominator_reachable hb)
    rw [tree?, hidoms, Option.bind_eq_bind, Option.bind_some, hlists]
    exact htree
  · have hs := hin s hs
    exact absurd (mem_numbers_of_pos hs.1 hs.2) hnot

/-- **The tree of a list of blocks is their dominator tree.** Each block that can be reached, other
than block one, is a child of one block, the children of each block are in ascending order, the
ancestors of a block are its dominators, and the level of a block counts them. Blocks that cannot be
reached stay out of the tree. -/
theorem tree?_is_dominatorTree (blocks : List Block) (hne : blocks ≠ [])
    (hvalid : ∀ block ∈ blocks, ∀ s ∈ block.succs, 1 ≤ s ∧ s ≤ blocks.length) :
    ∃ tree, tree? blocks = some tree ∧ tree.nodes.length = blocks.length ∧
      (∀ b, b = 1 ∨ ¬ ReflTransGen (Follows blocks) 1 b → b ∉ tree.childLists.flatten) ∧
      (∀ b, ReflTransGen (Follows blocks) 1 b → b ≠ 1 → tree.childLists.flatten.count b = 1) ∧
      (∀ cs ∈ tree.childLists, cs.Pairwise (· < ·)) ∧
      (∀ a b, ReflTransGen (Follows blocks) 1 a → ReflTransGen (Follows blocks) 1 b →
        (ReflTransGen tree.IsChild a b ↔ Dominates (Follows blocks) 1 a b)) ∧
      (∀ b, ReflTransGen (Follows blocks) 1 b → ∃ node, tree.node? b = some node ∧
        node.level = {a | Dominates (Follows blocks) 1 a b}.ncard) ∧
      ∀ b : Int, 1 ≤ b → b ≤ blocks.length → ¬ ReflTransGen (Follows blocks) 1 b →
        tree.node? b = some ⟨0, []⟩ := by
  obtain ⟨idoms, levels, htree, h⟩ := tree?_eq hne fun b hb => inside_of_reachable hvalid hne hb
  refine ⟨grow blocks idoms levels, htree, ?_, fun b hb => ?_, fun b hb hb1 => ?_, ?_,
    fun a b => h.ancestor_iff, fun b hb => ?_, fun b h1 hn hb => h.node?_of_not_reachable h1 hn hb⟩
  · rw [grow, length_nodes_ofLevels h.levelled.length_eq, length_childLists]
  · rw [h.childLists_eq, h.mem_flatten_childLists]
    rintro ⟨d, hd⟩
    rcases hb with hb1 | hb
    · exact h.table.ne_entry hd hb1
    · exact hb (h.table.reachable_of_mem hd)
  · rw [h.childLists_eq]
    exact h.count_flatten_childLists hb hb1
  · rw [h.childLists_eq]
    exact fun cs => pairwise_of_mem_childLists h.table.nodup
  · obtain ⟨cs, hnode, -⟩ := h.node?_eq (h.position?_eq hb)
    exact ⟨_, hnode, congrArg Nat.cast (h.level_eq hb (h.position?_eq hb))⟩

theorem irreducible_tree : irreducible ≠ [] ∧
    (∀ block ∈ irreducible, ∀ s ∈ block.succs, 1 ≤ s ∧ s ≤ irreducible.length) ∧
    ∃ tree, tree? irreducible = some tree ∧ tree.nodes.length = irreducible.length ∧
      (∀ b, b = 1 ∨ ¬ ReflTransGen (Follows irreducible) 1 b → b ∉ tree.childLists.flatten) ∧
      (∀ b, ReflTransGen (Follows irreducible) 1 b → b ≠ 1 →
        tree.childLists.flatten.count b = 1) ∧
      (∀ cs ∈ tree.childLists, cs.Pairwise (· < ·)) ∧
      (∀ a b, ReflTransGen (Follows irreducible) 1 a → ReflTransGen (Follows irreducible) 1 b →
        (ReflTransGen tree.IsChild a b ↔ Dominates (Follows irreducible) 1 a b)) ∧
      (∀ b, ReflTransGen (Follows irreducible) 1 b → ∃ node, tree.node? b = some node ∧
        node.level = {a | Dominates (Follows irreducible) 1 a b}.ncard) ∧
      ∀ b : Int, 1 ≤ b → b ≤ irreducible.length → ¬ ReflTransGen (Follows irreducible) 1 b →
        tree.node? b = some ⟨0, []⟩ :=
  ⟨by decide, by decide, tree?_is_dominatorTree irreducible (by decide) (by decide)⟩

end Dominance

end FlowAtlas
