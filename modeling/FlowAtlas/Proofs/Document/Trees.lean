import FlowAtlas.Proofs.DomTree.Descent
import FlowAtlas.Proofs.Document.RoundTrip

/-!
# Trees in documents

A document gives its tree by lists of children, and the levels are found by the walk down from block
one. The lists pass the checks exactly if they are those of a tree that is rooted at block one. The
levels then are the depths in this tree, and no other levels would do, so that a rooted tree is read
back from its lists.

The dominator tree of a graph is rooted. A document without a tree can thus be given the tree that
is computed for it, and it is loaded as the same view.

## Main definitions

* `Document.Accepted`: the lists of children that pass the checks.
* `Document.treeFlaw`: what is wrong with other lists.

## Main results

* `DomTree.Levelled.level_unique`: the levels are determined by the lists of children.
* `DomTree.Rooted.exists_node`: the levels of a rooted tree are depths.
* `Document.treeOfChildren_eq_ok_iff_rooted`: the trees that pass the checks are the rooted ones.
* `Document.tree_accepts`: which lists of children are accepted, and what they give.
* `Document.view_with_computed_tree`: writing down the computed tree changes nothing.
-/

namespace FlowAtlas

open Relation

/-! ### Rooted trees -/

namespace DomTree

variable {children : List (List Int)} {levels levels' : List ℕ} {t : DomTree} {b c p : Int} {k : ℕ}

namespace Levelled

theorem level_eq (h : Levelled children levels []) (h' : Levelled children levels' [])
    (hh : Hanging children) (hk : ReflTransGen (Below children) 0 k) :
    levels.getD k 0 = levels'.getD k 0 := by
  induction hk with
  | refl => rw [h.entry, h'.entry]
  | tail hp hstep ih =>
    rw [h.level_succ hh hstep (h.level_ne_zero_iff.mpr hp),
      h'.level_succ hh hstep (h'.level_ne_zero_iff.mpr hp), ih]

/-- The levels are determined by the lists of children. -/
theorem level_unique (h : Levelled children levels []) (h' : Levelled children levels' [])
    (hh : Hanging children) : levels = levels' := by
  refine List.ext_getElem (h.length_eq.trans h'.length_eq.symm) fun k hk hk' => ?_
  rw [← List.getD_eq_getElem levels 0 hk, ← List.getD_eq_getElem levels' 0 hk']
  by_cases hreach : ReflTransGen (Below children) 0 k
  · exact h.level_eq h' hh hreach
  · rw [not_not.mp (h.level_ne_zero_iff.not.mpr hreach),
      not_not.mp (h'.level_ne_zero_iff.not.mpr hreach)]

end Levelled

/-- A proper tree is the tree with its lists of children. -/
theorem Proper.ofChildren?_childLists (h : t.Proper) : ofChildren? t.childLists = some t := by
  cases h with
  | empty => rfl
  | hung hh h =>
    obtain ⟨levels', htree, h'⟩ := ofChildren?_eq h.ne_nil hh.isSome_position?
    rw [childLists_ofLevels h.length_eq, htree, h.level_unique h' hh]

theorem node?_succ (t : DomTree) (k : ℕ) : t.node? (k + 1) = t.nodes[k]? := by
  rw [← counted?_succ k, counted?, if_pos (by omega), node?]

theorem Listed.one_le (h : Listed children p c) : 1 ≤ p := by
  obtain ⟨cs, hcs, -⟩ := h
  exact (counted?_isSome_iff.mp (Option.isSome_of_eq_some hcs)).1

theorem isChild_iff_listed (hp : 1 ≤ p) : t.IsChild p c ↔ Listed t.childLists p c := by
  obtain ⟨k, rfl⟩ : ∃ k : ℕ, p = k + 1 := ⟨(p - 1).toNat, by omega⟩
  rw [IsChild, Listed, node?_succ, counted?_succ, childLists, List.getElem?_map]
  simp only [Option.map_eq_some_iff, exists_exists_and_eq_and]

theorem Proper.reaches_iff_listed (h : t.Proper) :
    ReflTransGen t.IsChild 1 c ↔ ReflTransGen (Listed t.childLists) 1 c := by
  constructor
  · intro hc
    induction hc with
    | refl => exact .refl
    | tail hp hstep ih =>
      exact ih.tail ((isChild_iff_listed (h.one_le_of_reaches le_rfl hp)).mp hstep)
  · intro hc
    induction hc with
    | refl => exact .refl
    | tail _ hstep ih => exact ih.tail ((isChild_iff_listed hstep.one_le).mpr hstep)

/-- The levels of a rooted tree are depths. Block one has level one, and every child is one
level below its parent. Blocks that are not listed have level zero. -/
theorem Rooted.exists_node (h : t.Rooted) (hb : 1 ≤ b) (hn : b ≤ t.nodes.length) :
    ∃ node, t.node? b = some node ∧ (b = 1 → node.level = 1) ∧
      (∀ p parent, 1 ≤ p → t.IsChild p b → t.node? p = some parent →
        node.level = parent.level + 1) ∧
      (b ≠ 1 → b ∉ t.childLists.flatten → node.level = 0) := by
  obtain ⟨hproper, hreached⟩ := id h
  cases hproper with
  | empty => exact absurd (hb.trans hn) (by decide)
  | @hung children levels hh hl =>
    rw [length_nodes_ofLevels hl.length_eq] at hn
    have hpos := position?_of_pos hb hn
    refine ⟨_, node?_ofLevels hl.length_eq hpos, ?_, fun p parent hp hpb hparent => ?_,
      fun hb1 hunlisted => ?_⟩
    · rintro rfl
      exact congrArg Nat.cast hl.entry
    · obtain ⟨k, c, hk, hc, hbelow⟩ := exists_below_of_isChild hl.length_eq hh.inside hpb
      obtain rfl := Option.some.inj (hpos.symm.trans hc)
      obtain rfl := Option.some.inj (hparent.symm.trans (node?_ofLevels hl.length_eq hk))
      -- The parent hangs below block one, so that it has a level itself.
      obtain ⟨k', hk', hlevel⟩ :=
        hl.exists_level_of_reachable hh.inside (h.reaches_of_isChild hp hpb) hl.ne_nil
      obtain rfl := Option.some.inj (hk.symm.trans hk')
      exact congrArg Nat.cast (hl.level_succ hh hbelow hlevel)
    · rw [childLists_ofLevels hl.length_eq] at hunlisted
      by_contra hlevel
      obtain ⟨p, hbelow, -⟩ := hl.parent (Int.natCast_ne_zero.mp hlevel) (by omega)
      obtain ⟨i, hi, hpos'⟩ := hbelow.mem_flatten
      exact hunlisted (position?_inj (hh.inside i hi).1 hb hpos' hpos ▸ hi)

end DomTree

theorem Dominance.rooted_of_tree? {blocks : List Block} {t : DomTree}
    (hvalid : ∀ block ∈ blocks, ∀ s ∈ block.succs, 1 ≤ s ∧ s ≤ blocks.length)
    (ht : tree? blocks = some t) : t.Rooted := by
  rcases eq_or_ne blocks [] with rfl | hne
  · obtain rfl := Option.some.inj (tree?_nil.symm.trans ht)
    exact ⟨.empty, fun c hc => absurd hc List.not_mem_nil⟩
  · obtain ⟨idoms, levels, htree, h⟩ := tree?_eq hne fun b hb => inside_of_reachable hvalid hne hb
    obtain rfl := Option.some.inj (htree.symm.trans ht)
    refine ⟨.hung h.hanging h.levelled, fun c hc => ?_⟩
    rw [h.childLists_eq, h.mem_flatten_childLists] at hc
    obtain ⟨d, hd⟩ := hc
    exact h.ancestor_of_dominates (h.table.reachable_of_mem hd) (.entry 1 c)

namespace Document

open DomTree

variable {count : ℕ} {children : List (List Int)} {t : DomTree} {j : Json} {v : View}

/-! ### Trees that pass the checks -/

theorem rooted_of_treeOfChildren (h : treeOfChildren count children = .ok t) : t.Rooted := by
  obtain ⟨-, hh, ht, hlevels⟩ := treeOfChildren_eq_ok_iff.mp h
  refine ⟨(hh.proper ht).1, fun c hc => ?_⟩
  rcases eq_or_ne children [] with rfl | hne
  · cases ht
    exact absurd hc List.not_mem_nil
  · obtain ⟨levels, hlevels', hlevelled⟩ := ofChildren?_eq hne hh.isSome_position?
    obtain rfl := Option.some.inj (hlevels'.symm.trans ht)
    rw [childLists_ofLevels hlevelled.length_eq] at hc
    have hinside := hh.inside c hc
    have hpos := position?_of_pos hinside.1 hinside.2
    refine hlevelled.reaches_of_level hh.inside hinside.1 hpos fun hzero => ?_
    exact hlevels c hc _ (node?_ofLevels hlevelled.length_eq hpos) (congrArg Nat.cast hzero)

theorem rooted_of_tree (h : tree count j = .ok t) : t.Rooted := by
  obtain ⟨lists, children, -, -, h⟩ := tree_eq_ok_iff.mp h
  exact rooted_of_treeOfChildren h

/-- The trees that pass the checks are the rooted ones, each from its own lists of children. -/
theorem treeOfChildren_eq_ok_iff_rooted : treeOfChildren count children = .ok t ↔
    t.Rooted ∧ t.childLists = children ∧ t.nodes.length = count := by
  constructor
  · intro h
    obtain ⟨-, hh, ht, -⟩ := treeOfChildren_eq_ok_iff.mp h
    exact ⟨rooted_of_treeOfChildren h, (hh.proper ht).2, (treeOfChildren_proper h).2⟩
  · rintro ⟨h, rfl, rfl⟩
    have htree := h.proper.ofChildren?_childLists
    refine treeOfChildren_eq_ok_iff.mpr
      ⟨length_childLists t, h.proper.hanging, htree, fun c hc node => ?_⟩
    have hlisted := h.proper.reaches_iff_listed.mp (h.reached c hc)
    exact level_ne_zero_of_listed h.proper.hanging htree hlisted

/-- The lists of children of a tree over so many blocks that is rooted at block one. -/
structure Accepted (count : ℕ) (children : List (List Int)) : Prop where
  length_eq : children.length = count
  inside : ∀ c ∈ children.flatten, 1 ≤ c ∧ c ≤ count
  nodup : children.flatten.Nodup
  entry : 1 ∉ children.flatten
  reached : ∀ c ∈ children.flatten, ReflTransGen (Listed children) 1 c

theorem Accepted.hanging (h : Accepted count children) : Hanging children :=
  ⟨h.length_eq.symm ▸ h.inside, h.nodup, h.entry⟩

/-- Which lists of children pass the checks. -/
theorem exists_treeOfChildren_iff :
    (∃ t, treeOfChildren count children = .ok t) ↔ Accepted count children := by
  constructor
  · rintro ⟨t, ht⟩
    obtain ⟨h, rfl, rfl⟩ := treeOfChildren_eq_ok_iff_rooted.mp ht
    exact ⟨length_childLists t, h.proper.inside, h.proper.hanging.nodup, h.proper.hanging.entry,
      fun c hc => h.proper.reaches_iff_listed.mp (h.reached c hc)⟩
  · intro h
    obtain ⟨t, ht⟩ := h.hanging.exists_ofChildren?
    obtain ⟨hproper, rfl⟩ := h.hanging.proper ht
    refine ⟨t, treeOfChildren_eq_ok_iff_rooted.mpr ⟨⟨hproper, fun c hc => ?_⟩, rfl, ?_⟩⟩
    · exact hproper.reaches_iff_listed.mpr (h.reached c hc)
    · rw [← length_childLists, h.length_eq]

/-- What is wrong with lists of children that do not pass the checks: their count is told first,
then that a child is no block. All else makes them no tree. -/
def treeFlaw (count : ℕ) (children : List (List Int)) : DocumentFlaw :=
  if children.length ≠ count then .treeSize children.length count
  else if ∀ c ∈ children.flatten, 1 ≤ c ∧ c ≤ count then .notATree
  else .treeUnknownBlock

/-- Why lists of children are refused. -/
theorem failsOnly_treeFlaw (count : ℕ) (children : List (List Int)) :
    FailsOnly (· = .document (treeFlaw count children)) (treeOfChildren count children) := by
  rw [treeOfChildren, treeFlaw]
  by_cases hlength : children.length = count
  · rw [if_neg (not_not.mpr hlength), if_neg (not_not.mpr hlength)]
    by_cases hin : ∀ c ∈ children.flatten, 1 ≤ c ∧ c ≤ count
    · rw [if_neg (any_outside_iff.not.mpr (not_not.mpr hin)), if_pos hin]
      split
      · exact .error rfl
      · next htwice =>
        rw [twice_iff, not_not] at htwice
        have hh : Hanging children := ⟨hlength ▸ hin, htwice.2, htwice.1⟩
        obtain ⟨t, ht⟩ := hh.exists_ofChildren?
        rw [ht]
        refine (FailsOnly.ok t).bind fun t _ => ?_
        split
        · exact .error rfl
        · exact .ok t
    · rw [if_pos (any_outside_iff.mpr hin), if_neg hin]
      exact .error rfl
  · rw [if_pos hlength, if_pos hlength]
    exact .error rfl

/-- **Exactly the trees that are rooted at block one are accepted.** Such a tree has the given lists
of children. Block one has level one, every listed block is one level below the block that lists it,
and all other blocks have level zero. Other lists are refused as a flaw of the document. -/
theorem tree_accepts (count : ℕ) (children : List (List Int)) :
    ((∃ t, tree count (writeLists children) = .ok t) ↔ Accepted count children) ∧
    (¬ Accepted count children →
      tree count (writeLists children) = .error (.document (treeFlaw count children))) ∧
    ∀ t, tree count (writeLists children) = .ok t → t.childLists = children ∧
      ∀ b : Int, 1 ≤ b → b ≤ count → ∃ node, t.node? b = some node ∧
        (b = 1 → node.level = 1) ∧
        (∀ p parent, Listed children p b → t.node? p = some parent →
          node.level = parent.level + 1) ∧
        (b ≠ 1 → b ∉ children.flatten → node.level = 0) := by
  rw [tree_writeLists]
  refine ⟨exists_treeOfChildren_iff, fun hnot => ?_, fun t ht => ?_⟩
  · cases htree : treeOfChildren count children with
    | ok t => exact absurd (exists_treeOfChildren_iff.mp ⟨t, htree⟩) hnot
    | error failure => rw [failsOnly_treeFlaw count children failure htree]
  · obtain ⟨hrooted, rfl, rfl⟩ := treeOfChildren_eq_ok_iff_rooted.mp ht
    refine ⟨rfl, fun b hb hn => ?_⟩
    obtain ⟨node, hnode, hone, hchild, hunlisted⟩ := hrooted.exists_node hb hn
    exact ⟨node, hnode, hone, fun p parent hpb =>
      hchild p parent hpb.one_le ((isChild_iff_listed hpb.one_le).mpr hpb), hunlisted⟩

/-- Two blocks that list each other make no tree, though no block is listed twice. -/
example : treeOfChildren 3 [[], [3], [2]] = .error (.document .notATree) := by
  cbv

/-! ### Writing down the computed tree -/

theorem member?_insert {key other : String} (hne : other ≠ key)
    (before after : List (String × Json)) (x : Json) :
    Json.member? (before ++ (key, x) :: after) other = Json.member? (before ++ after) other := by
  rw [Json.member?, Json.member?, List.lookup_append, List.lookup_append, List.lookup_cons,
    beq_eq_false_iff_ne.mpr hne]

theorem member?_insert_self {key : String} {before after : List (String × Json)}
    (h : Json.member? (before ++ after) key = none) (x : Json) :
    Json.member? (before ++ (key, x) :: after) key = some x := by
  rw [Json.member?, List.lookup_append, Option.or_eq_none_iff] at h
  rw [Json.member?, List.lookup_append, h.1, List.lookup_cons_self, Option.none_or]

/-- **Writing down the computed tree changes nothing.** A document without a tree that is loaded is
also loaded with the tree that was computed for it, wherever it is added, and as the same view. -/
theorem view_with_computed_tree (before after : List (String × Json)) (v : View)
    (habsent : Json.member? (before ++ after) "domtree" = none)
    (h : view (.obj (before ++ after)) = .ok v) :
    ∃ t, v.tree = some t ∧ Dominance.tree? v.graph.blocks = some t ∧
      view (.obj (before ++ ("domtree", writeTree t) :: after)) = .ok v := by
  obtain ⟨members, code, blocks, stmts, blocks', t, name, signature, hmembers, hcode, hblocks,
    hstmts, hblocks', hvalid, ht, hname, hsignature, rfl⟩ := view_eq_ok_iff.mp h
  obtain rfl := Json.obj.inj hmembers
  rw [habsent] at ht
  have htree := found_eq_ok_iff.mp ht
  have hinside := (Graph.Fitting.of_validate hvalid).succs_inside
  have hlength : t.nodes.length = blocks'.length := by
    obtain ⟨t', htree', -, hlength⟩ := Dominance.exists_proper_tree? hinside
    obtain rfl := Option.some.inj (htree'.symm.trans htree)
    rw [hlength, Graph.linked, Graph.length_link]
  have hchecked : treeOfChildren t.nodes.length t.childLists = .ok t :=
    treeOfChildren_eq_ok_iff_rooted.mpr ⟨Dominance.rooted_of_tree? hinside htree, rfl, rfl⟩
  have hother : ∀ key, key ≠ "domtree" →
      Json.member? (before ++ ("domtree", writeTree t) :: after) key =
        Json.member? (before ++ after) key :=
    fun key hne => member?_insert hne before after _
  refine ⟨t, rfl, htree, view_eq_ok_iff.mpr ⟨_, code, blocks, stmts, blocks', t, name,
    signature, rfl, ?_, ?_, hstmts, hblocks', hvalid, ?_, ?_, ?_, ?_⟩⟩
  · rwa [hother _ (by decide)]
  · rwa [hother _ (by decide)]
  · rw [member?_insert_self habsent, ← hlength]
    exact tree_writeTree hchecked
  · rwa [textField, hother _ (by decide)]
  · rwa [textField, hother _ (by decide)]
  · rw [hother _ (by decide)]

/-- A document of a loop through block one with a block that cannot be reached, without a tree. -/
def retryMembers : List (String × Json) :=
  [("code", .arr [
      .obj [("kind", .str "gotoifnot"), ("cond", .str "%1"), ("dest", .int 3)],
      .obj [("kind", .str "goto"), ("label", .int 1)],
      .obj [("kind", .str "return")],
      .obj [("kind", .str "goto"), ("label", .int 3)]]),
    ("blocks", .arr [
      .obj [("stmts", .arr [.int 1, .int 1]), ("succs", .arr [.int 2, .int 3])],
      .obj [("stmts", .arr [.int 2, .int 2]), ("succs", .arr [.int 1])],
      .obj [("stmts", .arr [.int 3, .int 3])],
      .obj [("stmts", .arr [.int 4, .int 4]), ("succs", .arr [.int 3])]]),
    ("name", .str "retry")]

/-- The statements of the loop. -/
def retryCode : List Stmt :=
  [.gotoIfNot (.ssa (.int 1)) (.int 3), .goto (.int 1), .ret .undef, .goto (.int 3)]

/-- The blocks of the loop. -/
def retryBlocks : List Block :=
  [⟨⟨1, 1⟩, [2, 3], []⟩, ⟨⟨2, 2⟩, [1], []⟩, ⟨⟨3, 3⟩, [], []⟩, ⟨⟨4, 4⟩, [3], []⟩]

theorem retry_with_computed_tree : Json.member? (retryMembers ++ []) "domtree" = none ∧
    ∃ v, view (.obj (retryMembers ++ [])) = .ok v ∧
      ∃ t, v.tree = some t ∧ Dominance.tree? v.graph.blocks = some t ∧
        view (.obj (retryMembers ++ [("domtree", writeTree t)])) = .ok v := by
  have hinside : ∀ b ∈ Graph.link retryBlocks, ∀ s ∈ b.succs,
      1 ≤ s ∧ s ≤ (Graph.link retryBlocks).length := by
    decide
  obtain ⟨t, ht, -⟩ := Dominance.exists_proper_tree? hinside
  have hview := view_eq_ok_iff.mpr ⟨_, _, _, retryCode, retryBlocks, t, _, _,
    (rfl : Json.obj (retryMembers ++ []) = _), rfl, rfl, mapM_eq_ok_iff.mp rfl,
    mapM_eq_ok_iff.mp rfl, rfl, found_eq_ok_iff.mpr ht, rfl, rfl, rfl⟩
  exact ⟨rfl, _, hview, view_with_computed_tree retryMembers [] _ rfl hview⟩

end Document

end FlowAtlas
