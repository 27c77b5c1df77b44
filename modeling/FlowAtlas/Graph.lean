import FlowAtlas.Numbering
import FlowAtlas.Value

/-!
# Control-flow graphs

A graph is a table of statements and a list of basic blocks. A block owns a run of statements, the
last of which is its terminator, and names the blocks that may follow it and, once the graph is
linked, those that may precede it.
-/

namespace FlowAtlas

/-- A list with an element put at its end, unless it is there already. -/
def appendNew {α : Type} [BEq α] (x : α) (xs : List α) : List α :=
  if xs.contains x then xs else xs ++ [x]

section AppendNew

variable {α : Type} [BEq α] [LawfulBEq α] {x y : α} {xs : List α}

theorem appendNew_of_mem (h : x ∈ xs) : appendNew x xs = xs :=
  if_pos (List.contains_iff_mem.mpr h)

theorem appendNew_of_not_mem (h : x ∉ xs) : appendNew x xs = xs ++ [x] :=
  if_neg fun hx => h (List.contains_iff_mem.mp hx)

@[simp]
theorem mem_appendNew : y ∈ appendNew x xs ↔ y ∈ xs ∨ y = x := by
  by_cases h : x ∈ xs
  · rw [appendNew_of_mem h]
    exact ⟨.inl, fun hy => hy.elim id fun hy => hy ▸ h⟩
  · rw [appendNew_of_not_mem h, List.mem_append, List.mem_singleton]

@[simp]
theorem appendNew_appendNew : appendNew x (appendNew x xs) = appendNew x xs :=
  appendNew_of_mem (mem_appendNew.mpr (.inr rfl))

end AppendNew

/-- A run of consecutive numbers, both ends included; it is empty if the last is below the first. -/
structure Span where
  first : Int
  last : Int
  deriving DecidableEq, Repr

namespace Span

/-- The count of the numbers of a run. -/
def size (s : Span) : Nat :=
  (s.last + 1 - s.first).toNat

/-- The numbers of a run in ascending order. -/
def toList (s : Span) : List Int :=
  (List.range s.size).map fun (k : Nat) => s.first + k

@[simp]
theorem length_toList (s : Span) : s.toList.length = s.size := by
  simp [toList]

theorem mem_toList_iff {s : Span} {i : Int} : i ∈ s.toList ↔ s.first ≤ i ∧ i ≤ s.last := by
  constructor
  · intro h
    obtain ⟨k, hk, rfl⟩ := List.mem_map.1 h
    grind [size]
  · intro h
    exact List.mem_map.2 ⟨(i - s.first).toNat, by grind [size], by grind⟩

end Span

/-- A basic block. -/
structure Block where
  stmts : Span
  succs : List Int := []
  preds : List Int := []
  deriving DecidableEq, Repr

/-- A control-flow graph. -/
structure Graph where
  blocks : List Block
  code : List Stmt

namespace Graph

/-- The statement with a number. -/
def stmt? (g : Graph) (i : Int) : Option Stmt :=
  numbered? g.code i

/-- The block with a number. -/
def block? (g : Graph) (i : Int) : Option Block :=
  numbered? g.blocks i

/-- The last statement of a run that is not empty. -/
def lastStmt? (g : Graph) (s : Span) : Option Stmt :=
  if s.size = 0 then none else g.stmt? s.last

/-- The terminator of the block with a number. -/
def terminator? (g : Graph) (i : Int) : Option Stmt :=
  (g.block? i).bind fun b => g.lastStmt? b.stmts

/-- The numbered statements of a run, if the table has all of them. The ends are looked up first, so
a run that reaches far outside of the table is not walked through. -/
def stmtsIn? (g : Graph) (s : Span) : Option (List (Int × Stmt)) :=
  if s.size = 0 then some []
  else if (g.stmt? s.first).isSome && (g.stmt? s.last).isSome then
    s.toList.mapM fun i => (g.stmt? i).map (i, ·)
  else none

/-- The numbered statements of the block with a number. -/
def stmtsOf? (g : Graph) (i : Int) : Option (List (Int × Stmt)) :=
  (g.block? i).bind fun b => g.stmtsIn? b.stmts

/-- The lists of predecessors after block `i` has been found to have a successor. A number of no
block is passed over. -/
def addPred (i : Int) (preds : List (List Int)) (s : Int) : List (List Int) :=
  if 1 ≤ s ∧ s ≤ preds.length then preds.modify (s - 1).toNat (appendNew i) else preds

/-- The predecessors of all blocks, found by going through the successors of each block in turn. -/
def predLists (blocks : List Block) : List (List Int) :=
  (blocks.zipIdx 1).foldl (fun preds (b, i) => b.succs.foldl (addPred i) preds)
    (blocks.map fun _ => [])

/-- The blocks of a list, each with all its predecessors. -/
def link (blocks : List Block) : List Block :=
  List.zipWith (fun b preds => { b with preds }) blocks (predLists blocks)

/-- The graph with the predecessors of all blocks filled in. -/
def linked (g : Graph) : Graph :=
  { g with blocks := link g.blocks }

end Graph

end FlowAtlas
