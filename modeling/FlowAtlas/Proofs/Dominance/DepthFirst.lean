import FlowAtlas.Proofs.Dominance.Immediate

/-!
# The search as a recursion

Depth-first search is a recursion: to visit a block is to mark it, to visit those of its successors
that are not marked by then, in their order, and to leave it after all of them. The search of the
reverse postorder has no recursion. It keeps on a stack the blocks that have been entered and not
left, each with the successors that are still to be visited. A stack thus stands for the chain of
visits that are under way, and what is left to do of them is a recursion again: the one on top goes
on with its successors, is left, and the one below it goes on.

## Main definitions

* `Progress`, `explore?`, `visit?`: the recursive search.
* `depthFirst?`: the blocks in the order in which the recursive search leaves them.
* `finish?`: what is left to do of the visits on a stack.

## Main results

* `explore?_cons`: the recursion of the search.
* `search?_eq_finish?`: each state of the search with a stack has the result of the visits that are
  under way.
* `reversePostorder?_reverses_depthFirst`: the reverse postorder is the reverse of the order of the
  recursive search.
-/

namespace FlowAtlas.Dominance

/-! ### The recursion -/

/-- How far a search is: the blocks that are marked, and those that have been left, the latest
last. -/
structure Progress where
  marked : List Int
  left : List Int

namespace Progress

/-- Before a search no block is marked. -/
def start : Progress := ⟨[], []⟩

/-- A block is marked. -/
def mark (t : Progress) (b : Int) : Progress :=
  { t with marked := b :: t.marked }

/-- A block is left. -/
def leave (t : Progress) (b : Int) : Progress :=
  { t with left := t.left ++ [b] }

end Progress

theorem unseen_le_of_subset {length : ℕ} {seen seen' : List Int} (h : seen ⊆ seen') :
    unseen length seen' ≤ unseen length seen := by
  refine List.countP_mono_left fun i _ hi => ?_
  rw [Bool.not_eq_true', ← Bool.not_eq_true, List.contains_iff_mem] at hi ⊢
  exact fun hmem => hi (h hmem)

set_option linter.unusedVariables false in
/-- The recursive search, with the evidence that it takes no mark away. That is why it ends: a visit
marks a block more, and what follows the visit begins with no block less marked. -/
def exploring? (blocks : List Block) (todo : List Int) (t : Progress) :
    Option {t' : Progress // t.marked ⊆ t'.marked} :=
  match todo with
  | [] => some ⟨t, List.Subset.refl t.marked⟩
  | s :: rest =>
    if hmarked : t.marked.contains s then exploring? blocks rest t
    else
      match hfound : numbered? blocks s with
      | none => none
      | some b =>
        match exploring? blocks b.succs (t.mark s) with
        | none => none
        | some ⟨t', h'⟩ =>
          (exploring? blocks rest (t'.leave s)).map fun ⟨t'', h''⟩ =>
            ⟨t'', List.Subset.trans (List.subset_cons_self s t.marked) (List.Subset.trans h' h'')⟩
  termination_by (unseen blocks.length t.marked, todo.length)
  decreasing_by
    · exact .right _ (Nat.lt_succ_self _)
    all_goals
      have hless : unseen blocks.length (s :: t.marked) < unseen blocks.length t.marked :=
        unseen_cons_lt (numbered?_isSome_iff.mp (by simp [hfound])) (by simpa using hmarked)
    · exact .left _ _ hless
    · exact .left _ _ ((unseen_le_of_subset h').trans_lt hless)

/-- Visits those blocks of a list that are not marked by then, in their order. A number of no block
is an error. -/
def explore? (blocks : List Block) (todo : List Int) (t : Progress) : Option Progress :=
  (exploring? blocks todo t).map Subtype.val

/-- Visits a block: it is marked, its successors are visited, and it is left after all of them. -/
def visit? (blocks : List Block) (b : Int) (t : Progress) : Option Progress :=
  (numbered? blocks b).bind fun block =>
    (explore? blocks block.succs (t.mark b)).map fun t' => t'.leave b

/-- The blocks that a visit to block one visits, in the order in which they are left. -/
def depthFirst? (blocks : List Block) : Option (List Int) :=
  (visit? blocks 1 .start).map Progress.left

@[simp]
theorem explore?_nil (blocks : List Block) (t : Progress) : explore? blocks [] t = some t := by
  rw [explore?, exploring?, Option.map_some]

/-- The recursion of the search. -/
theorem explore?_cons (blocks : List Block) (s : Int) (rest : List Int) (t : Progress) :
    explore? blocks (s :: rest) t =
      if t.marked.contains s then explore? blocks rest t
      else (visit? blocks s t).bind (explore? blocks rest) := by
  rw [explore?, exploring?, visit?]
  split_ifs with hmarked
  · rfl
  split
  · next hfound =>
    rw [hfound]
    rfl
  · next b hfound =>
    rw [hfound, Option.bind_some, explore?]
    split
    · next hnone =>
      rw [hnone]
      rfl
    · next t' h' hsome =>
      rw [hsome, Option.map_map]
      rfl

/-! ### The visits that are under way -/

/-- What is left to do of the visits on a stack, the latest on top: the successors that are still to
be visited are visited, the block is left, and the visit below it goes on. -/
def finish? (blocks : List Block) : List (Int × List Int) → Progress → Option Progress
  | [], t => some t
  | (node, rest) :: stack, t =>
    (explore? blocks rest t).bind fun t' => finish? blocks stack (t'.leave node)

section Steps

variable {blocks : List Block} {stack : List (Int × List Int)} {node s : Int} {rest : List Int}
  {t : Progress}

theorem finish?_leave :
    finish? blocks ((node, []) :: stack) t = finish? blocks stack (t.leave node) := by
  rw [finish?, explore?_nil, Option.bind_some]

theorem finish?_skip (hs : t.marked.contains s) :
    finish? blocks ((node, s :: rest) :: stack) t = finish? blocks ((node, rest) :: stack) t := by
  rw [finish?, finish?, explore?_cons, if_pos hs]

/-- The next successor is not marked: its visit comes on top, and what was on top waits for it. -/
theorem finish?_enter (hs : ¬ t.marked.contains s) :
    finish? blocks ((node, s :: rest) :: stack) t = (numbered? blocks s).bind fun b =>
      finish? blocks ((s, b.succs) :: (node, rest) :: stack) (t.mark s) := by
  simp only [finish?, explore?_cons, if_neg hs, visit?]
  cases numbered? blocks s with
  | none => rfl
  | some b => simp only [Option.bind_some, Option.bind_map, Option.bind_assoc, Function.comp_def]

end Steps

/-- Each state of the search with a stack has the result of the visits that are under way. The
induction follows the search; its steps are those that `finish?` takes from one stack to the
next. -/
theorem search?_eq_finish? (blocks : List Block) (seen order : List Int)
    (stack : List (Int × List Int)) : search? blocks seen order stack =
      (finish? blocks stack ⟨seen, order.reverse⟩).map fun t => t.left.reverse := by
  fun_induction search? blocks seen order stack with
  | case1 seen order => rw [finish?, Option.map_some, List.reverse_reverse]
  | case2 seen order node stack ih =>
    rw [ih, finish?_leave, Progress.leave, List.reverse_cons]
  | case3 seen order node s rest stack hs ih => rw [ih, finish?_skip hs]
  | case4 seen order node s rest stack hs hnone =>
    rw [finish?_enter hs, hnone]
    rfl
  | case5 seen order node s rest stack hs b hb ih =>
    rw [ih, finish?_enter hs, hb]
    rfl

/-! ### The reverse postorder -/

/-- The reverse postorder and the recursive search have the same result, be it an order or an
error. -/
theorem reversePostorder?_eq_map_depthFirst? {blocks : List Block} (hne : blocks ≠ []) :
    reversePostorder? blocks = (depthFirst? blocks).map List.reverse := by
  obtain ⟨entry, others, rfl⟩ := List.exists_cons_of_ne_nil hne
  have hentry : numbered? (entry :: others) 1 = some entry := by
    rw [numbered?_of_pos (Int.le_refl 1) (by rw [List.length_cons]; omega)]
    rfl
  have hvisit : visit? (entry :: others) 1 .start =
      finish? (entry :: others) [(1, entry.succs)] ⟨[1], []⟩ := by
    rw [visit?, hentry, Option.bind_some, finish?, Option.map_eq_bind]
    rfl
  rw [reversePostorder?, search?_eq_finish?, depthFirst?, hvisit, Option.map_map]
  rfl

/-- **The reverse postorder is the reverse of the order in which the recursive search leaves the
blocks.** -/
theorem reversePostorder?_reverses_depthFirst (blocks : List Block) (hne : blocks ≠ [])
    (hvalid : ∀ block ∈ blocks, ∀ s ∈ block.succs, 1 ≤ s ∧ s ≤ blocks.length) :
    ∃ left, depthFirst? blocks = some left ∧ reversePostorder? blocks = some left.reverse := by
  obtain ⟨order, horder, -⟩ := exists_reversePostorder hvalid hne
  obtain ⟨left, hleft, rfl⟩ :=
    Option.map_eq_some_iff.mp ((reversePostorder?_eq_map_depthFirst? hne).symm.trans horder)
  exact ⟨left, hleft, horder⟩

theorem irreducible_reverses_depthFirst : irreducible ≠ [] ∧
    (∀ block ∈ irreducible, ∀ s ∈ block.succs, 1 ≤ s ∧ s ≤ irreducible.length) ∧
    ∃ left, depthFirst? irreducible = some left ∧
      reversePostorder? irreducible = some left.reverse :=
  ⟨by decide, by decide, reversePostorder?_reverses_depthFirst irreducible (by decide) (by decide)⟩

example : depthFirst? irreducible = some [3, 4, 2, 1] := by
  cbv

end FlowAtlas.Dominance
