import FlowAtlas.DomTree
import FlowAtlas.Dominance.Idom

/-!
# The dominator tree of a graph
-/

namespace FlowAtlas.Dominance

/-- The lists of children after a block has been put at the end of that of its parent, if it has
one. A parent without a list is an error. -/
def addChild? (children : List (List Int)) : Int × Option Int → Option (List (List Int))
  | (_, none) => some children
  | (b, some d) => (position? children.length d).map fun k => children.modify k (· ++ [b])

/-- The lists of the blocks that each of a count of blocks immediately dominates, in ascending
order. -/
def childLists? (count : Nat) (idoms : List (Int × Option Int)) : Option (List (List Int)) :=
  (idoms.mergeSort fun a b => a.1 ≤ b.1).foldlM addChild? (List.replicate count [])

/-- The dominator tree of a list of blocks. Blocks that cannot be reached from block one stay out of
it. A successor that is no block is an error. -/
def tree? (blocks : List Block) : Option DomTree := do
  let idoms ← immediateDominators? blocks
  let children ← childLists? blocks.length idoms
  DomTree.ofChildren? children

end FlowAtlas.Dominance
