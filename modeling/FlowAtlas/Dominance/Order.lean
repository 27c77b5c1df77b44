import FlowAtlas.Graph

/-!
# Reverse postorder

A depth-first search from block one visits the successors of a block in their order. The reverse
postorder lists the blocks that it reaches in the reverse of the order in which it leaves them.
-/

namespace FlowAtlas.Dominance

/-- The numbers of the elements of a list that the search has not entered. -/
def unseen (length : Nat) (seen : List Int) : Nat :=
  (numbers length).countP fun i => !seen.contains i

/-- Entering a block leaves one block less. -/
theorem unseen_cons_lt {length : Nat} {seen : List Int} {s : Int} (valid : s ∈ numbers length)
    (new : seen.contains s = false) : unseen length (s :: seen) < unseen length seen := by
  unfold unseen
  generalize numbers length = all at valid
  induction all with
  | nil => simp at valid
  | cons i rest ih =>
    have le : rest.countP (fun i => !(s :: seen).contains i) ≤
        rest.countP fun i => !seen.contains i :=
      List.countP_mono_left fun i _ h => by simp_all
    simp only [List.countP_cons]
    by_cases same : i = s
    · have entered : (!(s :: seen).contains i) = false := by simp [same]
      have unentered : (!seen.contains i) = true := by rw [same, new]; rfl
      rw [entered, unentered]
      simp only [Bool.false_eq_true, if_false, if_true]
      omega
    · have lt := ih (by simpa [Ne.symm same] using valid)
      have same' : (s :: seen).contains i = seen.contains i := by simp [same]
      rw [same']
      omega

/-- The visits and departures that a stack still holds. -/
def pending : List (Int × List Int) → Nat
  | [] => 0
  | (_, rest) :: stack => rest.length + 1 + pending stack

set_option linter.unusedVariables false in
/-- The search. On the stack is every block that has been entered and not left, the latest first,
with the successors that are still to be visited; `order` holds the blocks that have been left, the
latest first. A successor that is no block is an error. -/
def search? (blocks : List Block) (seen order : List Int) :
    List (Int × List Int) → Option (List Int)
  | [] => some order
  | (node, []) :: stack => search? blocks seen (node :: order) stack
  | (node, s :: rest) :: stack =>
    if new : seen.contains s then search? blocks seen order ((node, rest) :: stack)
    else
      match found : numbered? blocks s with
      | none => none
      | some b => search? blocks (s :: seen) order ((s, b.succs) :: (node, rest) :: stack)
  termination_by stack => (unseen blocks.length seen, pending stack)
  decreasing_by
    · exact .right _ (by rw [pending]; omega)
    · exact .right _ (by rw [pending, pending, List.length_cons]; omega)
    · exact .left _ _ (unseen_cons_lt (numbered?_isSome_iff.1 (by simp [found])) (by simpa using new))

/-- The blocks that can be reached from block one, in reverse postorder. -/
def reversePostorder? (blocks : List Block) : Option (List Int) :=
  match blocks with
  | [] => some []
  | entry :: _ => search? blocks [1] [] [(1, entry.succs)]

end FlowAtlas.Dominance
