import FlowAtlas.Dot.Digraph
import FlowAtlas.Dot.Escape
import FlowAtlas.Failure
import FlowAtlas.Listing

/-!
# The labels of blocks

A block is drawn as a record node. Its label shows a tag, and either the statements below the tag or
the tag alone; the statements then are the tooltip. Statements are set flush left, one to a line.
-/

namespace FlowAtlas

namespace Graph

/-- The numbers of the statements of a block that open a region of forked tasks. -/
def regionsOf? (g : Graph) (i : Int) : Option (List Int) :=
  (g.stmtsOf? i).map fun stmts =>
    (stmts.filter fun (_, s) => s.head? = some "syncregion").map (·.1)

/-- The tag of a block in the flow graph. It marks a return and an unreachable end, and otherwise
lists the regions that the block opens. -/
def tag? (g : Graph) (i : Int) : Option String := do
  match ← g.terminator? i with
  | .ret .undef => some (blockMark i ++ "⚠")
  | .ret _ => some (blockMark i ++ "⏎")
  | _ =>
    let regions ← g.regionsOf? i
    if regions.isEmpty then some (blockMark i)
    else some (blockMark i ++ " SR(" ++ ", ".intercalate (regions.map ("%" ++ toString ·)) ++ ")")

/-- A line of a label, flush left. -/
def labelLine (s : String) : String :=
  Dot.escape s ++ "\\l"

/-- The statements of a block as the lines of a label. -/
def codeLabel? (g : Graph) (i : Int) : Option String :=
  (g.stmtsOf? i).map fun stmts => String.join (stmts.map fun (k, s) => labelLine (s.line k))

/-- The attributes of the node of a block with a given tag. -/
def nodeAttributes? (g : Graph) (i : Int) (tag : String) (includeCode : Bool) :
    Option Dot.Attributes :=
  (g.codeLabel? i).map fun code =>
    if includeCode then [("label", "\x7b" ++ Dot.escape tag ++ ":\\l" ++ code ++ "\x7d")]
    else [("label", "\x7b" ++ Dot.escape tag ++ "\x7d"), ("tooltip", code)]

end Graph

end FlowAtlas
