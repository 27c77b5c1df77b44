import FlowAtlas.DomTree
import FlowAtlas.Failure

/-!
# The drawing of a dominator tree

A tree is drawn with one line for each block, a block before its children. Lines connect a block to
its parent: the last child hangs on a corner, every other child on a tee, and a bar passes the lines
below a tee.
-/

namespace FlowAtlas.DomTree

/-- What connects a block to the line of its parent. -/
def connector (last : Bool) : String :=
  if last then "└─ " else "├─ "

/-- What the lines below a block show in the place of its connector. -/
def passage (last : Bool) : String :=
  if last then "   " else "│  "

/-- The items of a list, each with whether it is the last. -/
def markLast {α : Type} : List α → List (α × Bool)
  | [] => []
  | [x] => [(x, true)]
  | x :: rest => (x, false) :: markLast rest

/-- The lines below a block, each after the same margin. No walk from the block goes down more than
so many levels. -/
def linesBelow (t : DomTree) : (levels : Nat) → (margin : String) → Int →
    Except Failure (List String)
  | 0, _, i => if (t.node? i).isSome then .error .tooDeep else .error .noSuchNumber
  | levels + 1, margin, i =>
    match t.node? i with
    | none => .error .noSuchNumber
    | some node => do
      let parts ← (markLast node.children).mapM fun (c, last) => do
        let below ← t.linesBelow levels (margin ++ passage last) c
        pure ((margin ++ connector last ++ toString c) :: below)
      pure parts.flatten

/-- The lines of a tree that has nodes, of at most so many levels. -/
def lines (t : DomTree) (levels : Nat) : Except Failure (List String) := do
  let below ← t.linesBelow levels "" 1
  pure (toString (1 : Int) :: below)

/-- The drawing of a tree of at most so many levels; a tree without nodes has an empty one. -/
def drawingWithin (t : DomTree) (levels : Nat) : Except Failure String :=
  if t.nodes.isEmpty then .ok "" else (t.lines levels).map ("\n".intercalate ·)

/-- The drawing of a tree. A tree has no walk down from its root over more blocks than it has nodes,
so that a longer one is in a cycle. -/
def drawing (t : DomTree) : Except Failure String :=
  t.drawingWithin t.nodes.length

/-- The drawing of a tree that is not too deep to be gone through. -/
def boundedDrawing (t : DomTree) : Except Failure String :=
  t.drawingWithin (min levelLimit t.nodes.length)

/-- A tree of few nodes is not too deep. -/
theorem boundedDrawing_eq_drawing {t : DomTree} (few : t.nodes.length ≤ levelLimit) :
    t.boundedDrawing = t.drawing := by
  rw [boundedDrawing, Nat.min_eq_right few, drawing]

end FlowAtlas.DomTree
