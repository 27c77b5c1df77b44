import FlowAtlas.DomTree.Drawing
import FlowAtlas.Dot.Dominators
import FlowAtlas.Dot.Flow

/-!
# Views

A view shows the compiled form of a function: its graph with name, signature and result type, and,
if they are known, its dominator tree and the listing of the bytecode it was read from.
-/

namespace FlowAtlas

/-- The compiled form of a function. -/
structure View where
  graph : Graph
  name : Value := .str "f?"
  signature : Value := .str "(?)"
  resultType : Value := .null
  tree : Option DomTree := none
  bytecode : Option String := none

/-- The drawings of a view: its flow graph or its dominator tree, with or without the statements. -/
inductive DrawingKind where
  | flow (includeCode : Bool)
  | dominators (includeCode : Bool)
  deriving DecidableEq, Repr

/-- A drawing: what it is called, how it is described in plain text, and the graph that is drawn. -/
structure Drawing where
  summary : Except Failure String
  description : Except Failure String
  digraph : Except Failure Dot.Digraph

namespace Drawing

/-- The text of a drawing in the DOT language. -/
def source (d : Drawing) : Except Failure String :=
  d.digraph.map Dot.Digraph.source

/-- The drawing that draws nothing. -/
def blank : Drawing where
  summary := .error .abstract
  description := .error .abstract
  digraph := .error .abstract

end Drawing

namespace View

/-- What a view is called. -/
def summary (v : View) : String :=
  "IRCodeView of " ++ v.name.text ++ " with " ++ v.signature.text

/-- The listing of a view: its summary, its graph and its result type. -/
def listing (v : View) : Except Failure String := do
  let listing ← found v.graph.listing?
  pure ("\n".intercalate [v.summary, listing, "⇒ " ++ v.resultType.text] ++ "\n")

/-- The listing of the bytecode that a view was read from. -/
def bytecodeListing (v : View) : Except Failure String :=
  match v.bytecode with
  | some listing => .ok listing
  | none => .error (.graph (.noBytecode v.name.text))

/-- The dominator tree of a view. -/
def requireTree (v : View) : Except Failure DomTree :=
  match v.tree with
  | some t => .ok t
  | none => .error (.graph (.noTree v.name.text))

/-- The drawing of the flow graph. -/
def flowDrawing (v : View) (includeCode : Bool) : Drawing :=
  let summary := "CFG of " ++ v.name.text ++ " on " ++ v.signature.text
  { summary := .ok summary
    description := .ok summary
    digraph := found (v.graph.flowDigraph? summary includeCode) }

/-- What the drawing of the dominator tree is called. -/
def treeSummary (v : View) : String :=
  "Dominator tree for " ++ v.name.text ++ " on " ++ v.signature.text

/-- The dominator tree in plain text, as `draw` draws it. -/
def treeDescription (v : View) (draw : DomTree → Except Failure String) :
    Except Failure String := do
  pure (v.treeSummary ++ "\n" ++ (← draw (← v.requireTree)))

/-- The drawing of the dominator tree; its description is a drawing in plain text. -/
def treeDrawing (v : View) (includeCode : Bool) : Drawing where
  summary := .ok v.treeSummary
  description := v.treeDescription DomTree.drawing
  digraph := do v.graph.treeDigraph (← v.requireTree) v.treeSummary includeCode

/-- The drawing of a kind. -/
def drawing (v : View) : DrawingKind → Drawing
  | .flow includeCode => v.flowDrawing includeCode
  | .dominators includeCode => v.treeDrawing includeCode

/-- The description of the drawing of a kind, if the tree is not too deep to be gone through. -/
def describe (v : View) : DrawingKind → Except Failure String
  | .flow includeCode => (v.flowDrawing includeCode).description
  | .dominators _ => v.treeDescription DomTree.boundedDrawing

end View

end FlowAtlas
