import FlowAtlas.Decimal.Binary64

/-!
# Operands and statements

An operand is a constant, a reference to a result or to an argument, or a statement. A statement
transfers control, computes, marks a fork or a join of tasks, or just holds an operand.
-/

namespace FlowAtlas

open Decimal (Binary64)

mutual

/-- An operand. -/
inductive Value where
  | null
  | bool (b : Bool)
  | int (n : Int)
  | float (x : Binary64)
  | str (s : String)
  | list (items : List Value)
  | tuple (items : List Value)
  | dict (entries : List (Value × Value))
  /-- The result of the statement with this number. -/
  | ssa (id : Value)
  /-- The argument with this number. -/
  | arg (n : Value)
  /-- The operand of a return that is never reached. -/
  | undef
  | stmt (s : Stmt)

/-- A statement. -/
inductive Stmt where
  | goto (label : Value)
  | gotoIfNot (cond dest : Value)
  /-- A return of an operand; with the operand `undef` it is unreachable. -/
  | ret (val : Value)
  | expr (head : String) (args : List Value)
  /-- A fork; the label is the block where the forking task goes on. -/
  | detach (region label : Value)
  /-- The end of a forked task; the label is the block where the tasks join. -/
  | reattach (region label : Value)
  | sync (region : Value)
  /-- An operand used as a statement. -/
  | value (v : Value)

end

instance : Inhabited Value := ⟨.null⟩
instance : Inhabited Stmt := ⟨.value .null⟩

namespace Value

/-- The integer that equals an operand. The truth values equal one and zero, and a floating-point
number without a fraction equals its integer part. -/
def integer? : Value → Option Int
  | .bool b => some (if b then 1 else 0)
  | .int n => some n
  | .float x => x.integer?
  | _ => none

/-- An operand equals a number. -/
def isNumber (v : Value) (n : Int) : Bool :=
  v.integer? == some n

end Value

namespace Stmt

/-- The statement that an operand is when it stands alone. -/
def ofValue : Value → Stmt
  | .stmt s => s
  | v => .value v

/-- A return that is reached. -/
def returnsValue : Stmt → Bool
  | .ret .undef => false
  | .ret _ => true
  | _ => false

/-- The head of an expression; other statements have none. -/
def head? : Stmt → Option String
  | .expr head _ => some head
  | _ => none

end Stmt

end FlowAtlas
