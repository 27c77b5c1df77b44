import FlowAtlas.Bytecode.Blocks
import FlowAtlas.Bytecode.Signature
import FlowAtlas.Dominance.Tree
import FlowAtlas.View

/-!
# The views of Python functions

A piece of code has instructions and a name. A function has code and says how it is called; it may
wrap another function, which is then the one that is shown. A presentation is what a view of either
shows.
-/

namespace FlowAtlas

/-- A piece of code. -/
structure Code where
  name : String
  instructions : List Instruction
  handlers : List Int
  listing : String

/-- A function without regard to what it wraps. -/
structure Definition where
  code : Code
  name : String
  parameters : List Parameter
  result? : Option Annotation

/-- A function; a wrapper stands for the function that it wraps. -/
inductive Function where
  | plain (definition : Definition)
  | wrapper (definition : Definition) (wrapped : Function)

namespace Function

/-- The function that a function stands for. -/
def innermost : Function → Definition
  | plain definition => definition
  | wrapper _ wrapped => wrapped.innermost

/-- The code of a function itself. -/
def code : Function → Code
  | plain definition | wrapper definition _ => definition.code

/-- The function that a function wraps. -/
def wrapped? : Function → Option Function
  | plain _ => none
  | wrapper _ wrapped => some wrapped

end Function

/-- A piece of code with the name, the signature and the result type that are shown for it. -/
structure Presentation where
  code : Code
  name : String
  signature : String
  resultType : Value

/-- The presentation of code of which nothing else is known. -/
def Code.presentation (c : Code) : Presentation where
  code := c
  name := c.name
  signature := "(?)"
  resultType := .null

namespace Definition

/-- The presentation of a function. -/
def presentation (d : Definition) : Presentation where
  code := d.code
  name := d.name
  signature := signatureText d.parameters
  resultType := .str ((d.result?.map Annotation.shown).getD "Any")

/-- A method is called without the object that its function takes first. -/
def bound (d : Definition) : Except Failure Definition :=
  match withoutReceiver? d.parameters with
  | some parameters => .ok { d with parameters }
  | none => .error (.request .noReceiver)

end Definition

namespace Presentation

/-- The view of a presentation. -/
def view (p : Presentation) : Except Failure View := do
  let graph ← Bytecode.graphOf p.code.instructions p.code.handlers
  let tree ← found (Dominance.tree? graph.blocks)
  pure {
    graph
    name := .str p.name
    signature := .str p.signature
    resultType := p.resultType
    tree := some tree
    bytecode := some p.code.listing }

end Presentation

end FlowAtlas
