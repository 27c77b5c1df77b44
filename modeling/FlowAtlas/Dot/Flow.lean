import FlowAtlas.Dot.BlockLabel

/-!
# The drawing of a control-flow graph

The edges of a block are classified by its terminator. Of the two edges of a fork, the one to the
continuation comes first; the end of a forked task and the wait for tasks label their only edge; the
edges of a block that enters or leaves a handler are marked. An edge from a block to itself points
back.
-/

namespace FlowAtlas

/-- An edge of the drawing. The head is a block number, or the label of the terminator that equals
one. -/
structure FlowEdge where
  tail : Int
  head : Value
  label : Option String
  back : Bool

namespace FlowEdge

/-- The attributes that an edge is drawn with. -/
def attributes (e : FlowEdge) : Dot.Attributes :=
  (match e.label with | none => [] | some label => [("label", label)]) ++
    (if e.back then [("dir", "back")] else [])

/-- An edge as an item of the drawing. -/
def item (e : FlowEdge) : Dot.Item :=
  .edge (toString e.tail) e.head.text e.attributes

end FlowEdge

/-- The mark of a task edge: a letter and the region of the task. -/
def taskMark (letter : String) (region : Value) : String :=
  letter ++ "(" ++ region.text ++ ")"

/-- The mark of the edges of a block that enters or leaves a handler. -/
def handlerMark? : Stmt → Option String
  | .expr "enter" _ => some "E"
  | .expr "leave" _ => some "L"
  | _ => none

/-- The task edges of a block, if its terminator and its successors fit together. -/
def taskEdges? (i : Int) (succs : List Int) : Stmt → Option (List FlowEdge)
  | .detach region label =>
    match succs, succs.filter (!label.isNumber ·) with
    | [_, _], [other] =>
      some [⟨i, label, some (taskMark "C" region), false⟩,
        ⟨i, .int other, some (taskMark "D" region), false⟩]
    | _, _ => none
  | .reattach region label =>
    match succs with
    | [s] =>
      if label.isNumber s then some [⟨i, label, some (taskMark "R" region), false⟩] else none
    | _ => none
  | .sync region =>
    match succs with
    | [s] => some [⟨i, .int s, some (taskMark "S" region), false⟩]
    | _ => none
  | _ => none

/-- The edges of a block with a given terminator. -/
def edgesOf (i : Int) (succs : List Int) (terminator : Stmt) : List FlowEdge :=
  (taskEdges? i succs terminator).getD
    (succs.map fun s => ⟨i, .int s, handlerMark? terminator, s = i⟩)

namespace Graph

/-- The edges of the block with a number. -/
def edges? (g : Graph) (i : Int) : Option (List FlowEdge) := do
  let b ← g.block? i
  let terminator ← g.terminator? i
  some (edgesOf i b.succs terminator)

/-- The node of a block followed by its edges. -/
def blockItems? (g : Graph) (includeCode : Bool) (i : Int) : Option (List Dot.Item) := do
  let tag ← g.tag? i
  let attributes ← g.nodeAttributes? i tag includeCode
  let edges ← g.edges? i
  some (.node (toString i) attributes :: edges.map FlowEdge.item)

/-- The numbers of the blocks in ascending order. -/
def blockNumbers (g : Graph) : List Int :=
  (List.range g.blocks.length).map fun (k : Nat) => (k : Int) + 1

/-- The drawing of a control-flow graph. -/
def flowDigraph? (g : Graph) (title : String) (includeCode : Bool) : Option Dot.Digraph :=
  (g.blockNumbers.mapM (g.blockItems? includeCode)).map fun items =>
    ⟨Dot.escape title, items.flatten⟩

end Graph

end FlowAtlas
