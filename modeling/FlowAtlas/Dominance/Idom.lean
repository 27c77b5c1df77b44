import FlowAtlas.Dominance.Order

/-!
# Immediate dominators

A block dominates another if every path from block one to the other leads through it. Each block
that can be reached, other than block one, has one nearest dominator apart from itself. It is found
by sweeps in reverse postorder: a sweep moves the parent of each block to the nearest common
ancestor of those predecessors that have a parent already, until a sweep changes nothing. Blocks
are told apart by their places in the order, counted from zero. A look-up that finds nothing is an
error throughout.
-/

namespace FlowAtlas.Dominance

/-- The parents found so far, by places in the order. The entry, at place zero, is its own
parent. -/
abbrev Parents := Array (Option Nat)

namespace Parents

/-- The parents of so many places before any sweep. -/
def start (count : Nat) : Parents :=
  (Array.replicate count none).setIfInBounds 0 (some 0)

/-- The parent of a place, if it has one yet. -/
def parent? (parents : Parents) (i : Nat) : Option Nat :=
  parents[i]?.join

/-- The parents with that of a place replaced. -/
def put (parents : Parents) (i p : Nat) : Parents :=
  parents.setIfInBounds i (some p)

/-- How far the parents are from the entry: the sum of all, where a missing one counts for more than
any place. -/
def height (parents : Parents) : Nat :=
  parents.toList.foldr (fun p total => p.getD parents.size + total) 0

end Parents

/-- The nearest common ancestor of two places. The greater place moves to its parent until the two
meet. A place without a parent, or with one that is not smaller, ends the climb without an
answer. -/
def intersect? (parent : Nat → Option Nat) (a b : Nat) : Option Nat :=
  if a = b then some a
  else if b < a then
    match parent a with
    | none => none
    | some p => if p < a then intersect? parent p b else none
  else
    match parent b with
    | none => none
    | some p => if p < b then intersect? parent a p else none
  termination_by a + b

/-- The place of a block in an order. -/
def place? (order : List Int) (b : Int) : Option Nat :=
  order.idxOf? b

/-- The lists of predecessors after the block at place `i` has been found to have a successor. -/
def addPred? (order : List Int) (i : Nat) (preds : List (List Nat)) (s : Int) :
    Option (List (List Nat)) :=
  (place? order s).map fun k => preds.modify k (appendNew i)

/-- The places of the predecessors of the blocks of an order, found by going through the successors
of each block in turn. -/
def predLists? (blocks : List Block) (order : List Int) : Option (List (List Nat)) :=
  order.zipIdx.foldlM (fun preds (b, i) =>
    (numbered? blocks b).bind fun block => block.succs.foldlM (addPred? order i) preds)
    (order.map fun _ => [])

/-- The work of a sweep: the places of an order below the first, each with those of its
predecessors. -/
def sweepWork? (blocks : List Block) (order : List Int) : Option (List (Nat × List Nat)) := do
  let preds ← predLists? blocks order
  order.tail.mapM fun b => (place? order b).bind fun i => preds[i]?.map (i, ·)

/-- The parent that a sweep gives to a place with certain predecessors: the nearest common ancestor
of those that have a parent. -/
def proposal? (parents : Parents) (preds : List Nat) : Option Nat :=
  match preds.filter fun p => (parents.parent? p).isSome with
  | [] => none
  | first :: others => others.foldlM (fun found p => intersect? parents.parent? p found) first

/-- A sweep over places, each with its predecessors. -/
def sweep? (work : List (Nat × List Nat)) (parents : Parents) : Option Parents :=
  work.foldlM (fun parents (i, preds) => (proposal? parents preds).map (parents.put i)) parents

/-- Sweeps until nothing changes. Every sweep that changes something moves parents towards the
entry. -/
def settle? (work : List (Nat × List Nat)) (parents : Parents) : Option Parents :=
  match sweep? work parents with
  | none => none
  | some next =>
    if next = parents then some parents
    else if next.height < parents.height then settle? work next
    else none
  termination_by parents.height

/-- The blocks of an order, each with the block at its parent; the first has none. -/
def dominators? (order : List Int) (parents : Parents) : Option (List (Int × Option Int)) :=
  order.mapM fun b => (place? order b).bind fun i =>
    if i = 0 then some (b, none)
    else (parents.parent? i).bind fun p => order[p]?.map fun d => (b, some d)

/-- The blocks that can be reached from block one, each with its immediate dominator; block one has
none. -/
def immediateDominators? (blocks : List Block) : Option (List (Int × Option Int)) := do
  let order ← reversePostorder? blocks
  let work ← sweepWork? blocks order
  let parents ← settle? work (.start order.length)
  dominators? order parents

end FlowAtlas.Dominance
