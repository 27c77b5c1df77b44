import FlowAtlas.Failure
import FlowAtlas.Graph

/-!
# Valid graphs

A valid graph has no empty block, every block lies inside of the statement table, and every
successor is the number of a block. The first block that breaks a rule is reported, with the first
rule that it breaks.
-/

namespace FlowAtlas

/-- The greatest count of numbers in a run that can be counted. -/
def greatestSpan : Nat := Nat.pow 2 63 - 1

/-- The first rule that a block breaks, in a graph with the given counts of statements and of
blocks. -/
def Block.breach? (size count : Nat) (number : Nat) (b : Block) : Option GraphFlaw :=
  if b.stmts.size = 0 then some (.noStatements number)
  else if b.stmts.first < 1 || b.stmts.last > size then
    some (.outsideOfTable number b.stmts.first b.stmts.last size)
  else (b.succs.find? fun (s : Int) => !(1 ≤ s && s ≤ count)).map fun s =>
    .unknownSuccessor number s count

/-- Why a block fails the check: its run cannot be counted, or it breaks a rule. -/
def Block.failure? (size count : Nat) (number : Nat) (b : Block) : Option Failure :=
  if b.stmts.size > greatestSpan then some .overflow
  else (b.breach? size count number).map .graph

namespace Graph

/-- The first rule that a graph breaks whose runs can be counted. -/
def breach? (g : Graph) : Option GraphFlaw :=
  (g.blocks.zipIdx 1).findSome? fun (b, i) => b.breach? g.code.length g.blocks.length i

/-- The reason why a graph is not valid. -/
def failure? (g : Graph) : Option Failure :=
  (g.blocks.zipIdx 1).findSome? fun (b, i) => b.failure? g.code.length g.blocks.length i

/-- Succeeds on the valid graphs. -/
def validate (g : Graph) : Except Failure Unit :=
  match g.failure? with
  | some failure => .error failure
  | none => .ok ()

end Graph

end FlowAtlas
