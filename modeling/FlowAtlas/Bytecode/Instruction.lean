import FlowAtlas.Text.LowerCase
import FlowAtlas.Value

/-!
# Instructions

An instruction of a Python function has an offset, a name, and an operand that is also given as a
text. Some instructions control what runs next; the name tells how, except that a jump is marked as
such and the name only tells whether it is always taken.
-/

namespace FlowAtlas

/-- An instruction. -/
structure Instruction where
  offset : Int
  name : String
  operand : Value
  operandText : String
  isJump : Bool

/-- How an instruction controls what runs next. -/
inductive Control where
  /-- A handler is set up; its code may run next. -/
  | enter
  /-- A handler is removed. -/
  | leave
  | ret
  | throw
  /-- A jump that is always taken. -/
  | jump
  /-- A jump that is taken on a condition. -/
  | branch
  deriving DecidableEq, Repr

namespace Control

/-- The operand is the offset of an instruction that may run next. -/
def hasTarget : Control → Bool
  | enter | jump | branch => true
  | leave | ret | throw => false

end Control

namespace Instruction

/-- The jumps that are always taken. -/
def unconditionalJumps : List String :=
  ["JUMP", "JUMP_FORWARD", "JUMP_BACKWARD", "JUMP_ABSOLUTE", "JUMP_NO_INTERRUPT",
   "JUMP_BACKWARD_NO_INTERRUPT"]

/-- The instructions that set up a handler. -/
def handlerSetups : List String :=
  ["SETUP_FINALLY", "SETUP_WITH", "SETUP_ASYNC_WITH", "SETUP_EXCEPT"]

/-- The jumps of the instruction set. -/
def jumpNames : List String :=
  ["FOR_ITER", "JUMP_BACKWARD", "JUMP_BACKWARD_NO_INTERRUPT", "JUMP_FORWARD",
   "JUMP_IF_FALSE_OR_POP", "JUMP_IF_TRUE_OR_POP", "POP_JUMP_BACKWARD_IF_FALSE",
   "POP_JUMP_BACKWARD_IF_NONE", "POP_JUMP_BACKWARD_IF_NOT_NONE", "POP_JUMP_BACKWARD_IF_TRUE",
   "POP_JUMP_FORWARD_IF_FALSE", "POP_JUMP_FORWARD_IF_NONE", "POP_JUMP_FORWARD_IF_NOT_NONE",
   "POP_JUMP_FORWARD_IF_TRUE", "SEND"]

/-- The conditions that have to be false for a jump to be taken, with the jumps they belong to. -/
def conditions : List (String × List String) :=
  [("TOS", ["POP_JUMP_IF_FALSE", "POP_JUMP_FORWARD_IF_FALSE", "POP_JUMP_BACKWARD_IF_FALSE",
     "JUMP_IF_FALSE_OR_POP"]),
   ("not TOS", ["POP_JUMP_IF_TRUE", "POP_JUMP_FORWARD_IF_TRUE", "POP_JUMP_BACKWARD_IF_TRUE",
     "JUMP_IF_TRUE_OR_POP"]),
   ("TOS is not None", ["POP_JUMP_IF_NONE", "POP_JUMP_FORWARD_IF_NONE",
     "POP_JUMP_BACKWARD_IF_NONE"]),
   ("TOS is None", ["POP_JUMP_IF_NOT_NONE", "POP_JUMP_FORWARD_IF_NOT_NONE",
     "POP_JUMP_BACKWARD_IF_NOT_NONE"]),
   ("next(TOS)", ["FOR_ITER"])]

/-- How an instruction controls what runs next; other instructions have no say in it. -/
def control? (ins : Instruction) : Option Control :=
  if handlerSetups.contains ins.name then some .enter
  else if ins.name = "POP_BLOCK" then some .leave
  else if ["RETURN_VALUE", "RETURN_CONST"].contains ins.name then some .ret
  else if ["RAISE_VARARGS", "RERAISE"].contains ins.name then some .throw
  else if ins.isJump then
    some (if unconditionalJumps.contains ins.name then .jump else .branch)
  else none

/-- The operand is the offset of an instruction that may run next. -/
def hasTarget (ins : Instruction) : Bool :=
  ins.control?.any Control.hasTarget

/-- The offset of the instruction that may run next besides the following one. -/
def target? (ins : Instruction) : Option Int :=
  if ins.hasTarget then ins.operand.integer? else none

/-- The condition that has to be false for a jump to be taken. -/
def condition (ins : Instruction) : String :=
  match conditions.find? fun (_, names) => names.contains ins.name with
  | some (text, _) => text
  | none => Text.lower ins.name

end Instruction

end FlowAtlas
