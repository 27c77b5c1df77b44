import FlowAtlas.Proofs.DomTree.Faithful

/-!
# Levels of any lists of children

Lists of children need not be those of a tree: a block may be listed twice, by several blocks or by
itself, the lists may go round in a cycle, and block one may be a child. The walk down from block
one ends all the same. It gives a level to the blocks that can be reached and to no others, and each
of them but block one is a child of a block whose level is one less. Which one depends on the order
of the walk; where the lists are those of a tree, the level counts the blocks on the only way down.

## Main definitions

* `Layered`: what the levels of a tree say about its lists of children.

## Main results

* `IsPath.induction_on`: a way down is gone step by step.
* `Proper.isPath_unique`, `Proper.levelOf?_of_isPath`: the only way down to a block of a proper
  tree.
* `exists_layered`: lists of children that are all blocks make a tree with sound levels.
-/

namespace FlowAtlas.DomTree

open Relation

variable {children : List (List Int)} {levels : List ℕ} {t : DomTree} {f : Int → List Int}
  {path path' : List Int} {b p : Int} {k : ℕ}

/-! ### Ways down -/

theorem IsPath.cases (h : IsPath f path b) : (path = [1] ∧ b = 1) ∨
    ∃ way p, path = way ++ [b] ∧ IsPath f way p ∧ b ∈ f p := by
  obtain ⟨way, rfl⟩ := List.getLast?_eq_some_iff.mp h.last
  cases hp : way.getLast? with
  | none =>
    obtain rfl := List.getLast?_eq_none_iff.mp hp
    obtain rfl : b = 1 := Option.some.inj h.head
    exact .inl ⟨rfl, rfl⟩
  | some p =>
    obtain ⟨hway, -, hstep⟩ := List.isChain_append.mp h.chain
    have hhead : way.head? = some 1 := by
      rw [← h.head, List.head?_append_of_ne_nil way (List.ne_nil_of_mem (List.mem_of_getLast? hp))]
    exact .inr ⟨way, p, rfl, ⟨hhead, hp, hway⟩, hstep p hp b rfl⟩

/-- A way down is gone step by step. -/
@[elab_as_elim]
theorem IsPath.induction_on {motive : ∀ path b, IsPath f path b → Prop} (h : IsPath f path b)
    (entry : motive [1] 1 (isPath_singleton f))
    (step : ∀ way p c (hway : IsPath f way p) (hc : c ∈ f p), motive way p hway →
      motive (way ++ [c]) c (hway.concat hc)) :
    motive path b h := by
  induction hn : path.length generalizing path b with
  | zero =>
    rw [List.length_eq_zero_iff] at hn
    subst hn
    cases h.head
  | succ n ih =>
    obtain ⟨rfl, rfl⟩ | ⟨way, p, rfl, hway, hb⟩ := h.cases
    · exact entry
    · rw [List.length_append, List.length_singleton, Nat.add_right_cancel_iff] at hn
      exact step way p b hway hb (ih hway hn)

theorem IsPath.reaches (h : IsPath t.childrenOf path b) : ReflTransGen t.IsChild 1 b := by
  induction h using IsPath.induction_on with
  | entry => exact .refl
  | step way p c _ hc ih => exact ih.tail (mem_childrenOf_iff.mp hc)

theorem exists_isPath (h : ReflTransGen t.IsChild 1 b) : ∃ path, IsPath t.childrenOf path b := by
  induction h with
  | refl => exact ⟨[1], isPath_singleton _⟩
  | @tail p c _ hstep ih =>
    obtain ⟨path, hpath⟩ := ih
    exact ⟨path ++ [c], hpath.concat (mem_childrenOf_iff.mpr hstep)⟩

namespace Proper

variable (h : t.Proper)
include h

/-- There is only one way down to a block of a proper tree. -/
theorem isPath_unique (hpath : IsPath t.childrenOf path b) (hpath' : IsPath t.childrenOf path' b) :
    path' = path := by
  have hentry : ∀ {p}, 1 ∉ t.childrenOf p := fun hp =>
    h.hanging.entry (mem_childrenOf_iff.mp hp).mem_flatten
  induction hpath using IsPath.induction_on generalizing path' with
  | entry =>
    obtain ⟨rfl, -⟩ | ⟨way, p, -, -, hp⟩ := hpath'.cases
    · rfl
    · exact absurd hp hentry
  | step way p c hway hc ih =>
    obtain ⟨-, rfl⟩ | ⟨way', p', rfl, hway', hc'⟩ := hpath'.cases
    · exact absurd hc hentry
    · obtain rfl := h.parent_unique (h.one_le_of_reaches le_rfl hway.reaches)
        (h.one_le_of_reaches le_rfl hway'.reaches) (mem_childrenOf_iff.mp hc)
        (mem_childrenOf_iff.mp hc')
      rw [ih hway']

/-- The level of a block counts the blocks on the way down to it. -/
theorem levelOf?_of_isPath (hne : t.nodes ≠ []) (hpath : IsPath t.childrenOf path b) :
    t.levelOf? b = some (path.length : Int) := by
  induction hpath using IsPath.induction_on with
  | entry => exact h.levelOf?_entry hne
  | step way p c hway hc ih =>
    have hpos : way.length ≠ 0 := (List.length_pos_of_mem (List.mem_of_getLast? hway.last)).ne'
    rw [h.levelOf?_child hpos ih (mem_childrenOf_iff.mp hc), List.length_append,
      List.length_singleton]

end Proper

/-! ### Levels -/

/-- What the levels of a tree say about its lists of children. Block one has level one, the blocks
with a level are those below it, and each of them but block one is a child of one that is a level
higher. If no block is listed twice and block one is not listed, a level counts the blocks on the
only way down. -/
structure Layered (t : DomTree) : Prop where
  entry : t.levelOf? 1 = some 1
  reached : ∀ b : Int, 1 ≤ b → b ≤ t.nodes.length →
    ∃ level, t.levelOf? b = some level ∧ (level ≠ 0 ↔ ReflTransGen t.IsChild 1 b)
  parent : ∀ b, ReflTransGen t.IsChild 1 b → b ≠ 1 → ∃ p level, ReflTransGen t.IsChild 1 p ∧
    t.IsChild p b ∧ t.levelOf? p = some level ∧ t.levelOf? b = some (level + 1)
  counted : t.childLists.flatten.Nodup → 1 ∉ t.childLists.flatten →
    ∀ b, ReflTransGen t.IsChild 1 b → ∃ path, IsPath t.childrenOf path b ∧
      t.levelOf? b = some (path.length : Int) ∧
      ∀ path', IsPath t.childrenOf path' b → path' = path

theorem levelOf?_ofLevels (hlength : levels.length = children.length)
    (hk : position? children.length b = some k) :
    (ofLevels levels children).levelOf? b = some (levels.getD k 0 : Int) := by
  rw [levelOf?, node?_ofLevels hlength hk, Option.map_some]

namespace Levelled

variable (h : Levelled children levels [])
  (hin : ∀ c ∈ children.flatten, 1 ≤ c ∧ c ≤ children.length)
include h hin

theorem level_ne_zero_iff_reaches (hb : 1 ≤ b) (hk : position? children.length b = some k) :
    levels.getD k 0 ≠ 0 ↔ ReflTransGen (ofLevels levels children).IsChild 1 b := by
  refine ⟨h.reaches_of_level hin hb hk, fun hreach => ?_⟩
  obtain ⟨k', hk', hlevel⟩ := h.exists_level_of_reachable hin hreach h.ne_nil
  rwa [Option.some.inj (hk.symm.trans hk')]

/-- Every block below block one is a child of a block that is a level higher. -/
theorem exists_parent (hb : ReflTransGen (ofLevels levels children).IsChild 1 b) (hb1 : b ≠ 1) :
    ∃ p level, ReflTransGen (ofLevels levels children).IsChild 1 p ∧
      (ofLevels levels children).IsChild p b ∧
      (ofLevels levels children).levelOf? p = some level ∧
      (ofLevels levels children).levelOf? b = some (level + 1) := by
  obtain ⟨k, hk, hlevel⟩ := h.exists_level_of_reachable hin hb h.ne_nil
  have hone : 1 ≤ b := by
    obtain rfl | ⟨p, -, hpb⟩ := hb.cases_tail
    · exact le_rfl
    · exact (hin b (childLists_ofLevels h.length_eq ▸ hpb.mem_flatten)).1
  have hk0 : k ≠ 0 := by
    rintro rfl
    exact hb1 (eq_succ_of_position? hone hk)
  obtain ⟨p, hbelow, hp, hsucc⟩ := h.parent hlevel hk0
  have hpos : position? children.length (p + 1) = some p :=
    position?_succ (h.length_eq ▸ lt_length_of_level hp)
  refine ⟨p + 1, levels.getD p 0, ?_, isChild_of_below h.length_eq hin hbelow hone hk,
    levelOf?_ofLevels h.length_eq hpos, ?_⟩
  · exact (h.level_ne_zero_iff_reaches hin (by omega) hpos).mp hp
  · rw [levelOf?_ofLevels h.length_eq hk, hsucc, Nat.cast_succ]

theorem layered : (ofLevels levels children).Layered := by
  have hlists : (ofLevels levels children).childLists = children := childLists_ofLevels h.length_eq
  have hlength : (ofLevels levels children).nodes.length = children.length :=
    length_nodes_ofLevels h.length_eq
  have hpos := List.length_pos_iff.mpr h.ne_nil
  refine ⟨?_, fun b hb hn => ?_, fun b => h.exists_parent hin, fun hnodup hone b hb => ?_⟩
  · have hone : position? children.length 1 = some 0 := position?_succ hpos
    rw [levelOf?_ofLevels h.length_eq hone, h.entry, Nat.cast_one]
  · rw [hlength] at hn
    have hk := position?_of_pos hb hn
    refine ⟨_, levelOf?_ofLevels h.length_eq hk, ?_⟩
    rw [Int.natCast_ne_zero]
    exact h.level_ne_zero_iff_reaches hin hb hk
  · rw [hlists] at hnodup hone
    have hproper : (ofLevels levels children).Proper := .hung ⟨hin, hnodup, hone⟩ h
    have hne : (ofLevels levels children).nodes ≠ [] := List.length_pos_iff.mp (hlength ▸ hpos)
    obtain ⟨path, hpath⟩ := exists_isPath hb
    exact ⟨path, hpath, hproper.levelOf?_of_isPath hne hpath,
      fun path' => hproper.isPath_unique hpath⟩

end Levelled

/-- **Lists of children that are all blocks make a tree with sound levels**, whether they are those
of a tree or not, and it keeps the lists. -/
theorem exists_layered (hne : children ≠ [])
    (hin : ∀ c ∈ children.flatten, 1 ≤ c ∧ c ≤ children.length) :
    ∃ t, ofChildren? children = some t ∧ t.childLists = children ∧ t.Layered := by
  obtain ⟨levels, htree, h⟩ := ofChildren?_eq hne (isSome_position?_of_inside hin)
  exact ⟨_, htree, childLists_ofLevels h.length_eq, h.layered hin⟩

/-- Lists with a block that is listed twice, a shared child, a cycle through block one, a block that
is its own child, and two blocks that hang below each other only. -/
def tangledLists : List (List Int) :=
  [[2, 3, 3], [4, 2], [4, 1], [3], [6], [5]]

theorem tangledLists_layered : tangledLists ≠ [] ∧
    (∀ c ∈ tangledLists.flatten, 1 ≤ c ∧ c ≤ tangledLists.length) ∧
    ∃ t, ofChildren? tangledLists = some t ∧ t.childLists = tangledLists ∧ t.Layered := by
  have hne : tangledLists ≠ [] := by decide
  have hin : ∀ c ∈ tangledLists.flatten, 1 ≤ c ∧ c ≤ tangledLists.length := by decide
  exact ⟨hne, hin, exists_layered hne hin⟩

-- Block 4 is a child of blocks 2 and 3 and a level below both; blocks 5 and 6 are not reached.
example : (ofChildren? tangledLists).map (·.nodes.map (·.level)) = some [1, 2, 2, 3, 0, 0] := by
  cbv

end FlowAtlas.DomTree
