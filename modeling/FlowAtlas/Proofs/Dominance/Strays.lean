import FlowAtlas.Proofs.Dominance.Tree

/-!
# Graphs with numbers of no block

The successors of a block may be any integers. Numbers from one to the count of blocks and those
that count back from the end name blocks; two numbers of one block are told apart by the search, and
become different blocks of the order. Control strays if it may pass from a block that can be reached
to a number of no block. The search then fails, and with it all that is built on it. Otherwise the
search, the sweeps and the walk down the tree all come to an end, and no look-up on the way fails.

## Main definitions

* `Strays`: control may pass to a number of no block.
* `sweeps?`: a number of sweeps, whether or not they change anything.
* `Computed`: what is found on the way from the blocks to the tree.

## Main results

* `reversePostorder?_eq_none_iff`, `immediateDominators?_eq_none_iff`, `tree?_eq_none_iff`: the
  order, the immediate dominators and the tree are missing exactly if control strays.
* `exists_sweeps?`: some number of sweeps leads to parents that a further sweep does not change.
* `dominance_fails_iff_strays`: all of this for one list of blocks.
-/

namespace FlowAtlas.Dominance

open Relation

variable {blocks : List Block} {seen order : List Int} {stack : List (Int × List Int)} {b s : Int}

/-- Control may pass from a block that can be reached to a number of no block. -/
def Strays (blocks : List Block) : Prop :=
  ∃ b s, ReflTransGen (Follows blocks) 1 b ∧ Follows blocks b s ∧
    (s < 1 - blocks.length ∨ blocks.length < s)

theorem not_mem_numbers_iff {n : ℕ} : s ∉ numbers n ↔ s < 1 - n ∨ n < s := by
  rw [mem_numbers_iff, Option.not_isSome_iff_eq_none, position?_eq_none_iff]

/-- Control strays if some number that can be reached is that of no block. Block one is there, so
the number is a successor. -/
theorem strays_iff (hne : blocks ≠ []) :
    Strays blocks ↔ ∃ s, ReflTransGen (Follows blocks) 1 s ∧ s ∉ numbers blocks.length := by
  constructor
  · rintro ⟨b, s, hb, hbs, hs⟩
    exact ⟨s, hb.tail hbs, not_mem_numbers_iff.mpr hs⟩
  · rintro ⟨s, hs, hnot⟩
    have hnot := not_mem_numbers_iff.mp hnot
    cases hs with
    | refl =>
      have hpos : 0 < blocks.length := List.length_pos_iff.mpr hne
      omega
    | tail hb hbs => exact ⟨_, s, hb, hbs, hnot⟩

/-- In a graph without blocks control passes nowhere. -/
theorem not_strays_nil : ¬ Strays [] := by
  rintro ⟨b, s, -, ⟨block, hblock, -⟩, -⟩
  exact absurd (mem_of_numbered? hblock) List.not_mem_nil

/-! ### The search -/

/-- The search fails exactly if control strays. -/
theorem reversePostorder?_eq_none_iff : reversePostorder? blocks = none ↔ Strays blocks := by
  rcases eq_or_ne blocks [] with rfl | hne
  · exact iff_of_false (Option.some_ne_none []) not_strays_nil
  · rw [strays_iff hne]
    rcases reversePostorder?_eq hne with ⟨order, horder, h⟩ | ⟨hnone, hs⟩
    · rw [horder]
      refine iff_of_false (Option.some_ne_none order) ?_
      rintro ⟨s, hs, hnot⟩
      exact hnot (h.inside (h.mem_iff.mpr hs))
    · exact iff_of_true hnone hs

/-! ### The sweeps -/

/-- The parents after a number of sweeps. -/
def sweeps? (work : List (ℕ × List ℕ)) : ℕ → Parents → Option Parents
  | 0, parents => some parents
  | n + 1, parents => (sweep? work parents).bind (sweeps? work n)

/-- Where the sweeps end, a further one changes nothing. -/
theorem exists_sweeps? {work : List (ℕ × List ℕ)} {parents final : Parents}
    (h : settle? work parents = some final) :
    ∃ n, sweeps? work n parents = some final ∧ sweep? work final = some final := by
  fun_induction settle? work parents with
  | case1 => cases h
  | case2 next hnext =>
    cases h
    exact ⟨0, rfl, hnext⟩
  | case3 parents next hnext hne hlt ih =>
    obtain ⟨n, hn, hfinal⟩ := ih h
    exact ⟨n + 1, by rw [sweeps?, hnext, Option.bind_some, hn], hfinal⟩
  | case4 => cases h

/-! ### From the blocks to the tree -/

/-- What is found on the way from a list of blocks to their dominator tree. The order, the work of
the sweeps, the blocks at the parents and the lists of children come from look-ups, each of which
has found something. -/
structure Computed (blocks : List Block) (order : List Int) (work : List (ℕ × List ℕ)) (count : ℕ)
    (parents : Parents) (idoms : List (Int × Option Int)) (children : List (List Int))
    (tree : DomTree) : Prop where
  order_eq : reversePostorder? blocks = some order
  /-- The blocks of the order are there, and so are the places of their successors. -/
  closed : ∀ b ∈ order, ∃ block, numbered? blocks b = some block ∧
    ∀ s ∈ block.succs, (place? order s).isSome
  work_eq : sweepWork? blocks order = some work
  sweeps_eq : sweeps? work count (.start order.length) = some parents
  /-- A further sweep changes nothing. -/
  settled : sweep? work parents = some parents
  dominators_eq : dominators? order parents = some idoms
  idoms_eq : immediateDominators? blocks = some idoms
  /-- Every immediate dominator has a list of children. -/
  parents_inside : ∀ b d, (b, some d) ∈ idoms → (position? blocks.length d).isSome
  children_eq : childLists? blocks.length idoms = some children
  ofChildren_eq : DomTree.ofChildren? children = some tree
  tree_eq : tree? blocks = some tree
  length_nodes : tree.nodes.length = blocks.length

theorem childLists?_nil : childLists? 0 [] = some [] := by
  rw [childLists?, List.mergeSort_nil]
  rfl

theorem immediateDominators?_nil : immediateDominators? [] = some [] := by
  have hsettle : settle? [] (.start 0) = some (.start 0) := by
    rw [settle?]
    rfl
  exact congrArg (Option.bind · (dominators? [])) hsettle

theorem tree?_nil : tree? [] = some ⟨[]⟩ := by
  rw [tree?, immediateDominators?_nil]
  exact congrArg (Option.bind · DomTree.ofChildren?) childLists?_nil

theorem computed_nil : Computed [] [] [] 0 (.start 0) [] [] ⟨[]⟩ where
  order_eq := rfl
  closed := fun _ hb => absurd hb List.not_mem_nil
  work_eq := rfl
  sweeps_eq := rfl
  settled := rfl
  dominators_eq := rfl
  idoms_eq := immediateDominators?_nil
  parents_inside := fun _ _ hb => absurd hb List.not_mem_nil
  children_eq := childLists?_nil
  ofChildren_eq := rfl
  tree_eq := tree?_nil
  length_nodes := rfl

/-- All that a reverse postorder leads to is found. -/
theorem ReversePostorder.exists_computed (h : ReversePostorder blocks order) (hne : blocks ≠ [])
    (horder : reversePostorder? blocks = some order) :
    ∃ work count parents idoms children tree,
      Computed blocks order work count parents idoms children tree := by
  obtain ⟨parents, hparents, hs⟩ := settle?_eq h.ordered (List.length_pos_of_mem h.entry_mem)
  obtain ⟨count, hcount, hfixed⟩ := exists_sweeps? hparents
  have hidoms : immediateDominators? blocks = some (table order parents) := by
    rw [immediateDominators?, horder]
    simp only [Option.bind_eq_bind, Option.bind_some, h.sweepWork?_eq, hparents, h.dominators?_eq hs]
  have hplace : ∀ b ∈ order, (position? blocks.length b).isSome := fun b hb =>
    mem_numbers_iff.mp (h.inside hb)
  have hinside : ∀ b d, (b, some d) ∈ table order parents →
      (position? blocks.length d).isSome := fun b d hb => by
    obtain ⟨-, p, -, hpd, -⟩ := exists_place_of_mem_table hs hb
    exact hplace d (List.mem_of_getElem? hpd)
  have hlists := childLists?_eq hinside
  obtain ⟨levels, htree, hlevelled⟩ := exists_ofChildren?_childLists (List.length_pos_iff.mpr hne)
    fun b d (hb : (b, some d) ∈ table order parents) =>
      hplace b (map_fst_table order parents ▸ List.mem_map_of_mem hb)
  exact ⟨_, count, parents, _, _, _, {
    order_eq := horder
    closed := fun b hb => by
      obtain ⟨block, hblock⟩ := Option.isSome_iff_exists.mp
        (numbered?_isSome_iff.mpr (h.inside hb))
      refine ⟨block, hblock, fun s hs => ?_⟩
      obtain ⟨i, hi⟩ := List.getElem?_of_mem (h.closed hb ⟨block, hblock, hs⟩)
      exact Option.isSome_of_mem (h.place?_eq_some_iff.mpr hi)
    work_eq := h.sweepWork?_eq
    sweeps_eq := hcount
    settled := hfixed
    dominators_eq := h.dominators?_eq hs
    idoms_eq := hidoms
    parents_inside := hinside
    children_eq := hlists
    ofChildren_eq := htree
    tree_eq := by
      rw [tree?, hidoms, Option.bind_eq_bind, Option.bind_some, hlists]
      exact htree
    length_nodes := (DomTree.length_nodes_ofLevels hlevelled.length_eq).trans length_childLists }⟩

theorem exists_computed (hin : ¬ Strays blocks) :
    ∃ order work count parents idoms children tree,
      Computed blocks order work count parents idoms children tree := by
  rcases eq_or_ne blocks [] with rfl | hne
  · exact ⟨_, _, _, _, _, _, _, computed_nil⟩
  · rcases reversePostorder?_eq hne with ⟨order, horder, h⟩ | ⟨hnone, -⟩
    · exact ⟨order, h.exists_computed hne horder⟩
    · exact absurd (reversePostorder?_eq_none_iff.mp hnone) hin

theorem immediateDominators?_eq_none_iff :
    immediateDominators? blocks = none ↔ Strays blocks := by
  constructor
  · intro hnone
    by_contra hin
    obtain ⟨_, _, _, _, idoms, _, _, h⟩ := exists_computed hin
    exact absurd (h.idoms_eq.symm.trans hnone) (Option.some_ne_none idoms)
  · intro hs
    rw [immediateDominators?, reversePostorder?_eq_none_iff.mpr hs]
    rfl

theorem tree?_eq_none_iff : tree? blocks = none ↔ Strays blocks := by
  constructor
  · intro hnone
    by_contra hin
    obtain ⟨_, _, _, _, _, _, tree, h⟩ := exists_computed hin
    exact absurd (h.tree_eq.symm.trans hnone) (Option.some_ne_none tree)
  · intro hs
    rw [tree?, immediateDominators?_eq_none_iff.mpr hs]
    rfl

/-- **Dominance is computed unless control strays.** The order, the immediate dominators and the
tree are missing exactly if control may pass from a block that can be reached to a number of no
block. Otherwise no look-up on the way to them fails, and some number of sweeps leads to parents
that a further sweep leaves as they are. Without blocks all three are empty. -/
theorem dominance_fails_iff_strays (blocks : List Block) :
    (reversePostorder? blocks = none ↔ Strays blocks) ∧
    (immediateDominators? blocks = none ↔ Strays blocks) ∧
    (tree? blocks = none ↔ Strays blocks) ∧
    (¬ Strays blocks → ∃ order work count parents idoms children tree,
      Computed blocks order work count parents idoms children tree) ∧
    reversePostorder? [] = some [] ∧ immediateDominators? [] = some [] ∧ tree? [] = some ⟨[]⟩ :=
  ⟨reversePostorder?_eq_none_iff, immediateDominators?_eq_none_iff, tree?_eq_none_iff,
    exists_computed, rfl, immediateDominators?_nil, tree?_nil⟩

/-- Numbers that count back from the end are blocks of their own in the order: here zero is block
two and minus one is block one again. -/
example : immediateDominators? [⟨⟨1, 1⟩, [0], []⟩, ⟨⟨2, 2⟩, [-1], []⟩] =
    some [(1, none), (0, some 1), (-1, some 0)] := by
  cbv

end FlowAtlas.Dominance
