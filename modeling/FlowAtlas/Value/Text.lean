import FlowAtlas.Decimal.Shortest
import FlowAtlas.Text.Quoted
import FlowAtlas.Value

/-!
# The text of operands and statements

An operand has two texts. The literal is unambiguous: texts are quoted and references are written
with the name of their kind. The plain text leaves a text as it is and abbreviates references; the
elements of a collection are literals in both.
-/

namespace FlowAtlas

open Decimal (Layout)

/-- Floating-point numbers are written positionally from `1e-4` up to but excluding `1e16`, and with
at least two digits of the exponent otherwise. -/
def floatLayout : Layout := ⟨-4, 16, 2⟩

/-- Items between two brackets, separated by commas. -/
def bracketed (left right : String) (items : List String) : String :=
  left ++ ", ".intercalate items ++ right

/-- Items between round brackets; a comma follows a single item. -/
def tupled : List String → String
  | [item] => "(" ++ item ++ ",)"
  | items => bracketed "(" ")" items

mutual

/-- The unambiguous text of an operand. -/
def Value.literal : Value → String
  | .null => "None"
  | .bool b => if b then "True" else "False"
  | .int n => toString n
  | .float x => x.text floatLayout
  | .str s => Text.quoted s
  | .list items => bracketed "[" "]" (Value.literals items)
  | .tuple items => tupled (Value.literals items)
  | .dict entries => bracketed "\x7b" "\x7d" (Value.entryLiterals entries)
  | .ssa id => "SSAValue(id=" ++ id.literal ++ ")"
  | .arg n => "Argument(n=" ++ n.literal ++ ")"
  | .undef => "UNDEF"
  | .stmt s => s.literal

/-- The literals of a list of operands. -/
def Value.literals : List Value → List String
  | [] => []
  | v :: rest => v.literal :: Value.literals rest

/-- The literals of the entries of a dictionary. -/
def Value.entryLiterals : List (Value × Value) → List String
  | [] => []
  | (key, v) :: rest => (key.literal ++ ": " ++ v.literal) :: Value.entryLiterals rest

/-- The unambiguous text of a statement. -/
def Stmt.literal : Stmt → String
  | .goto label => "GotoNode(label=" ++ label.literal ++ ")"
  | .gotoIfNot cond dest => "GotoIfNot(cond=" ++ cond.literal ++ ", dest=" ++ dest.literal ++ ")"
  | .ret val => "ReturnNode(val=" ++ val.literal ++ ")"
  | .expr head args =>
    "Expr(head=" ++ Text.quoted head ++ ", args=" ++ tupled (Value.literals args) ++ ")"
  | .detach region label =>
    "DetachNode(syncregion=" ++ region.literal ++ ", label=" ++ label.literal ++ ")"
  | .reattach region label =>
    "ReattachNode(syncregion=" ++ region.literal ++ ", label=" ++ label.literal ++ ")"
  | .sync region => "SyncNode(syncregion=" ++ region.literal ++ ")"
  | .value v => v.literal

end

mutual

/-- The plain text of an operand. -/
def Value.text : Value → String
  | .str s => s
  | .ssa id => "%" ++ id.text
  | .arg n => "_" ++ n.text
  | .stmt s => s.text
  | v => v.literal

/-- The plain texts of a list of operands. -/
def Value.texts : List Value → List String
  | [] => []
  | v :: rest => v.text :: Value.texts rest

/-- The plain text of a statement. -/
def Stmt.text : Stmt → String
  | .goto label => "goto #" ++ label.text
  | .gotoIfNot cond dest => "goto #" ++ dest.text ++ " if not " ++ cond.text
  | .ret .undef => "unreachable"
  | .ret val => "return " ++ val.text
  | .expr head args => head ++ bracketed "(" ")" (Value.texts args)
  | .detach region label => "detach within " ++ region.text ++ ", #" ++ label.text
  | .reattach region label => "reattach within " ++ region.text ++ ", #" ++ label.text
  | .sync region => "sync within " ++ region.text
  | .value v => v.text

end

end FlowAtlas
