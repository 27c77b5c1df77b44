import FlowAtlas.Graph
import FlowAtlas.Value.Text

/-!
# The listing of a graph

A listing shows the blocks of a graph in order. A block begins with a line of its number and its
successors; each of its statements follows on a line of its own, indented and numbered.
-/

namespace FlowAtlas

/-- The text of a statement in a listing. The expressions that enter or leave a handler read like
control statements. -/
def Stmt.format : Stmt → String
  | .expr "enter" [block] => "enter #" ++ block.text
  | .expr "leave" args => " ".intercalate ("leave" :: Value.texts args)
  | .expr "pop_exception" args => " ".intercalate ("pop_exception" :: Value.texts args)
  | s => s.text

/-- A statement with its number. -/
def Stmt.line (index : Int) (s : Stmt) : String :=
  "%" ++ toString index ++ " = " ++ s.format

/-- The number of a block as the listing writes it. -/
def blockMark (i : Int) : String :=
  "#" ++ toString i

/-- The line that begins a block. -/
def Block.heading (b : Block) (i : Nat) : String :=
  if b.succs.isEmpty then blockMark i
  else blockMark i ++ " → " ++ ", ".intercalate (b.succs.map blockMark)

namespace Graph

/-- The lines of a block, if the table has its statements. -/
def blockLines? (g : Graph) (i : Nat) (b : Block) : Option (List String) :=
  (g.stmtsIn? b.stmts).map fun stmts => b.heading i :: stmts.map fun (k, s) => "  " ++ s.line k

/-- The lines of the listing, if the table has the statements of all blocks. -/
def listingLines? (g : Graph) : Option (List String) :=
  ((g.blocks.zipIdx 1).mapM fun (b, i) => g.blockLines? i b).map List.flatten

/-- The listing, if the table has the statements of all blocks. -/
def listing? (g : Graph) : Option String :=
  g.listingLines?.map ("\n".intercalate ·)

end Graph

end FlowAtlas
