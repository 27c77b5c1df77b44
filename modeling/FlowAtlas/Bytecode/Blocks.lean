import FlowAtlas.Bytecode.Instruction
import FlowAtlas.Failure
import FlowAtlas.Graph.Valid
import FlowAtlas.Value.Key

/-!
# The blocks of a list of instructions

Every instruction becomes one statement. A block begins at the first instruction, after every
control instruction, and wherever control may arrive from elsewhere: at the target of an instruction
and at a handler. The last instruction of a block decides which blocks may follow it.

The places where blocks begin are gathered as offsets. Only offsets of instructions count, and each
counts once. In ascending order they are looked up as positions, counted from one, so that the
instruction at a position becomes the statement with that number.
-/

namespace FlowAtlas.Bytecode

/-- The offsets at which blocks begin on account of an instruction that controls what runs next: its
target, and the offset of the instruction after it. -/
def leadersOf (offsets : List Int) (next : Option Instruction) (ins : Instruction) : List Int :=
  if ins.control?.isSome then
    (ins.target?.filter offsets.contains).toList ++ (next.map (·.offset)).toList
  else []

/-- The offsets at which the blocks of a list of instructions begin, in ascending order. -/
def leaders (first : Instruction) (code : List Instruction) (handlers : List Int) : List Int :=
  let offsets := code.map (·.offset)
  let found := first.offset :: handlers.filter offsets.contains ++
    code.zipIdx.flatMap fun (ins, i) => leadersOf offsets code[i + 1]? ins
  found.eraseDups.mergeSort (· ≤ ·)

/-- The position of the instruction at an offset; of several, that of the last. -/
def positionOf? (code : List Instruction) (offset : Int) : Option Nat :=
  ((code.zipIdx 1).reverse.find? fun (ins, _) => ins.offset = offset).map (·.2)

/-- The number of the block that begins at the target of an instruction. -/
def targetBlock? (leaders : List Int) (ins : Instruction) : Option Nat :=
  (ins.target?.bind fun offset => leaders.idxOf? offset).map (· + 1)

/-- The statement that an instruction becomes. -/
def statement (leaders : List Int) (ins : Instruction) : Stmt :=
  match ins.control?, targetBlock? leaders ins with
  | some .jump, some block => .goto (.int block)
  | some .branch, some block => .gotoIfNot (.str ins.condition) (.int block)
  | some .enter, some block => .expr "enter" [.int block]
  | some .leave, _ => .expr "leave" []
  | some .ret, _ => .ret (if ins.name = "RETURN_CONST" then ins.operand else .str "TOS")
  | some .throw, _ => .ret .undef
  | _, _ =>
    if ins.name = "POP_EXCEPT" then .expr "pop_exception" []
    else .expr (Text.lower ins.name) (if ins.operandText.isEmpty then [] else [.str ins.operandText])

/-- The blocks that may follow the block with a number, by its last instruction: the following block
first. -/
def successors (leaders : List Int) (number : Nat) (last : Instruction) : List Int :=
  let next : List Int := if number < leaders.length then [number + 1] else []
  let target : List Int := (targetBlock? leaders last).toList.map fun (block : Nat) => (block : Int)
  (match last.control? with
    | some .jump => target
    | some .branch | some .enter => next ++ target
    | some .ret | some .throw => []
    | some .leave | none => next).eraseDups

/-- The block with a number that begins at one position and stops before another. -/
def block? (code : List Instruction) (leaders : List Int) (number first stop : Nat) :
    Option Block :=
  (numbered? code (stop - 1)).map fun last =>
    { stmts := ⟨first, stop - 1⟩, succs := successors leaders number last }

/-- The graph of a list of instructions. -/
def graph? (code : List Instruction) (handlers : List Int) : Option Graph :=
  match code with
  | [] => some ⟨[], []⟩
  | first :: _ => do
    let leaders := leaders first code handlers
    let starts := (← leaders.mapM (positionOf? code)) ++ [code.length + 1]
    let blocks ← ((starts.zip starts.tail).zipIdx 1).mapM fun ((first, stop), number) =>
      block? code leaders number first stop
    some (Graph.linked ⟨blocks, code.map (statement leaders)⟩)

/-- The graph of a list of instructions; a target that cannot be looked up is an error. The runs of
its blocks are no longer than the list, so they can be counted. -/
def graphOf (code : List Instruction) (handlers : List Int) : Except Failure Graph :=
  if code.any fun ins => ins.hasTarget && !ins.operand.isKey then .error .unhashable
  else do
    let g ← found (graph? code handlers)
    match g.breach? with
    | some flaw => .error (.graph flaw)
    | none => .ok g

end FlowAtlas.Bytecode
