import FlowAtlas.Proofs.Bytecode.Flow
import FlowAtlas.Proofs.Bytecode.Leaders
import FlowAtlas.Proofs.Graph.Valid

/-!
# The blocks of a list of instructions

The blocks of the graph are the runs between the instructions that begin one. Their successors are
those blocks at whose first instructions control may arrive from the last instruction.

The offsets of the instructions have to ascend, and the operands of those with a target have to be
integers.

## Main definitions

* `IsRun`: what a block of the graph is.
* `Regular`: the condition on the instructions.

## Main results

* `owns_iff`: the instructions of a block are those of its run.
* `IsRun.mem_succs_iff`: the successors of a run.
* `divided`: the blocks divide the instructions.
* `graphOf_simulates_flow`: the graph of blocks simulates the flow between instructions.
-/

namespace FlowAtlas.Bytecode

open Relation
open Dominance (Follows)

variable {code : List Instruction} {handlers : List Int} {ins last : Instruction} {b : Block}
  {i k n : ℕ} {c p q s offset : Int}

/-! ### Blocks as runs -/

/-- The block with index `i` holds the instructions from position `k` on, the last of which decides
its successors. -/
structure IsRun (code : List Instruction) (handlers : List Int) (i k : ℕ) (ins : Instruction)
    (b : Block) : Prop where
  start : (starts code handlers)[i]? = some k
  first : b.stmts.first = k + 1
  last : b.stmts.last = stop (starts code handlers) code.length i
  final : code[stop (starts code handlers) code.length i - 1]? = some ins
  succs : b.succs = successors (offsetsAt code (starts code handlers)) (i + 1) ins

theorem length_spans (starts : List ℕ) (length : ℕ) :
    (spans starts length).length = starts.length := by
  cases starts with
  | nil => rfl
  | cons k starts => simp [spans]

theorem length_blocks : (graph code handlers).blocks.length = (starts code handlers).length := by
  simp [graph, Graph.linked, length_spans]

theorem getElem?_blocks (hi : (starts code handlers)[i]? = some k) :
    ∃ preds, (graph code handlers).blocks[i]? =
      some { block code (offsetsAt code (starts code handlers)) (i + 1)
        ⟨k + 1, stop (starts code handlers) code.length i⟩ with preds } := by
  rw [graph, Graph.linked, Graph.getElem?_link, List.getElem?_map, List.getElem?_zipIdx,
    getElem?_spans, hi, Nat.add_comm 1 i]
  exact ⟨_, rfl⟩

/-- A run is not empty and ends with the instructions at the latest. -/
theorem lt_stop_and_stop_le (hi : (starts code handlers)[i]? = some k) :
    k < stop (starts code handlers) code.length i ∧
      stop (starts code handlers) code.length i ≤ code.length :=
  ⟨lt_stop (pairwise_starts code handlers) (fun _ => lt_length_of_mem_starts) hi,
    stop_le fun _ => lt_length_of_mem_starts⟩

theorem exists_isRun (hi : (starts code handlers)[i]? = some k) :
    ∃ b ins, (graph code handlers).blocks[i]? = some b ∧ IsRun code handlers i k ins b := by
  have hstop := lt_stop_and_stop_le hi
  have hlast := List.getElem?_eq_getElem (l := code)
    (i := stop (starts code handlers) code.length i - 1) (by omega)
  have hnumbered := numbered?_of_counted? (counted?_eq_some_iff.mpr
    ⟨_, (by omega : (stop (starts code handlers) code.length i : Int) = _), hlast⟩)
  obtain ⟨preds, hblock⟩ := getElem?_blocks hi
  refine ⟨_, _, hblock, hi, rfl, rfl, hlast, ?_⟩
  simp only [block, hnumbered, Option.map_some, Option.getD_some]

theorem isRun_of_counted? (hb : counted? (graph code handlers).blocks c = some b) :
    ∃ (i : ℕ) (k : ℕ) (ins : Instruction), c = i + 1 ∧ IsRun code handlers i k ins b := by
  obtain ⟨i, rfl, hi⟩ := counted?_eq_some_iff.mp hb
  have hlt : i < (starts code handlers).length :=
    length_blocks ▸ (List.getElem?_eq_some_iff.mp hi).1
  obtain ⟨b', ins, hb', hrun⟩ := exists_isRun (List.getElem?_eq_getElem hlt)
  obtain rfl := Option.some.inj (hi.symm.trans hb')
  exact ⟨i, _, ins, rfl, hrun⟩

/-- The instructions of a block are those of its run. -/
theorem owns_iff : Owns (graph code handlers).blocks c p ↔
    ∃ i k : ℕ, c = i + 1 ∧ (starts code handlers)[i]? = some k ∧ k + 1 ≤ p ∧
      p ≤ stop (starts code handlers) code.length i := by
  constructor
  · rintro ⟨b, hb, hle, hlast⟩
    obtain ⟨i, k, _, rfl, hrun⟩ := isRun_of_counted? hb
    exact ⟨i, k, rfl, hrun.start, hrun.first ▸ hle, hrun.last ▸ hlast⟩
  · rintro ⟨i, k, rfl, hi, hle, hlast⟩
    obtain ⟨b, _, hb, hrun⟩ := exists_isRun hi
    exact ⟨b, (counted?_succ i).trans hb, hrun.first ▸ hle, hrun.last ▸ hlast⟩

/-! ### Targets and successors -/

theorem targetBlock?_eq_some_iff {leaders : List Int} : targetBlock? leaders ins = some n ↔
    ∃ offset i, ins.target? = some offset ∧ leaders.idxOf? offset = some i ∧ n = i + 1 := by
  simp only [targetBlock?, Option.map_eq_some_iff, Option.bind_eq_some_iff]
  constructor
  · rintro ⟨i, ⟨offset, htarget, hi⟩, rfl⟩
    exact ⟨offset, i, htarget, hi, rfl⟩
  · rintro ⟨offset, i, htarget, hi, rfl⟩
    exact ⟨i, ⟨offset, htarget, hi⟩, rfl⟩

theorem targetBlock?_eq_none {leaders : List Int} (h : ins.hasTarget = false) :
    targetBlock? leaders ins = none := by
  rw [targetBlock?, Instruction.target?, h]
  rfl

/-- The successors of a block are the next one, if control passes on to it, and the one at the
target. -/
theorem successors_eq_eraseDups (leaders : List Int) (n : ℕ) (ins : Instruction) :
    successors leaders n ins =
      ((if ins.passesOn ∧ n < leaders.length then [(n : Int) + 1] else []) ++
        (targetBlock? leaders ins).toList.map fun (m : ℕ) => (m : Int)).eraseDups := by
  have hnone : ins.hasTarget = false → targetBlock? leaders ins = none := targetBlock?_eq_none
  rw [Instruction.hasTarget] at hnone
  rw [successors, Instruction.passesOn]
  congr 1
  cases hcontrol : ins.control? with
  | none => simp [hnone, hcontrol]
  | some control => cases control <;> simp [hnone, hcontrol, Control.passesOn, Control.hasTarget]

/-- The blocks that may follow a block: the next one if control passes on, and the one at the
target. -/
theorem mem_successors_iff {leaders : List Int} : s ∈ successors leaders n ins ↔
    (ins.passesOn ∧ n < leaders.length ∧ s = n + 1) ∨
      ∃ m : ℕ, targetBlock? leaders ins = some m ∧ (m : Int) = s := by
  rw [successors_eq_eraseDups, List.mem_eraseDups, List.mem_append]
  refine or_congr ?_ (by simp only [List.mem_map, Option.mem_toList])
  split
  · next h => rw [List.mem_singleton, ← and_assoc, and_iff_right h]
  · next h => exact iff_of_false List.not_mem_nil fun h' => h ⟨h'.1, h'.2.1⟩

theorem target?_eq_some_iff (hint : ins.hasTarget → ∃ n : Int, ins.operand = .int n) :
    ins.target? = some offset ↔ ins.hasTarget ∧ ins.operand = .int offset := by
  rw [Instruction.target?]
  split
  · next h =>
    obtain ⟨m, hm⟩ := hint h
    simp [h, hm, Value.integer?]
  · next h => simp [h]

/-! ### The flow at the end of a run -/

namespace IsRun

theorem counted?_last (h : IsRun code handlers i k ins b) :
    counted? code b.stmts.last = some ins := by
  have hstop := lt_stop_and_stop_le h.start
  refine counted?_eq_some_iff.mpr ⟨_, ?_, h.final⟩
  rw [h.last]
  omega

/-- Only the last instruction of a run controls what runs next. -/
theorem exists_inner (h : IsRun code handlers i k ins b) (hfirst : b.stmts.first ≤ p)
    (hlast : p < b.stmts.last) :
    ∃ inner, counted? code p = some inner ∧ inner.control? = none := by
  rw [h.first] at hfirst
  rw [h.last] at hlast
  have hstop := lt_stop_and_stop_le h.start
  obtain ⟨n, rfl⟩ : ∃ n : ℕ, p = n + 1 := ⟨(p - 1).toNat, by omega⟩
  have hnot : n + 1 ∉ starts code handlers := by
    intro hmem
    obtain ⟨j, hj⟩ := List.getElem?_of_mem hmem
    have hij := (start_lt_start_iff (pairwise_starts code handlers) h.start hj).mp (by omega)
    have hji := index_le_of_lt_stop (i := i) (m := code.length)
      (pairwise_starts code handlers) hj (by omega)
    omega
  have hins : code[n]? = some code[n] := List.getElem?_eq_getElem (by omega)
  exact ⟨_, (counted?_succ n).trans hins, control?_eq_none hins (by omega) hnot⟩

theorem flows_inner_iff (h : IsRun code handlers i k ins b) (hfirst : b.stmts.first ≤ p)
    (hlast : p < b.stmts.last) : Flows code p q ↔ q = p + 1 := by
  obtain ⟨inner, hinner, hcontrol⟩ := h.exists_inner hfirst hlast
  have hnext : (counted? code (p + 1)).isSome := by
    have hstop := lt_stop_and_stop_le h.start
    rw [h.first] at hfirst
    rw [h.last] at hlast
    exact counted?_isSome_iff.mpr ⟨by omega, by omega⟩
  rw [flows_iff hinner, Instruction.passesOn, Instruction.hasTarget, hcontrol]
  simp [hnext]

/-- The block at the target of an instruction is the run that begins there. -/
theorem target_iff (h : IsRun code handlers i k ins b)
    (hasc : (code.map Instruction.offset).Pairwise (· < ·)) {last : Instruction}
    (hint : last.hasTarget → ∃ n : Int, last.operand = .int n) :
    (∃ m : ℕ, targetBlock? (offsetsAt code (starts code handlers)) last = some m ∧
        (m : Int) = i + 1) ↔
      ∃ target, last.hasTarget ∧ counted? code b.stmts.first = some target ∧
        last.operand = .int target.offset := by
  simp only [targetBlock?_eq_some_iff, target?_eq_some_iff hint, idxOf?_offsetsAt_iff hasc, h.first,
    counted?_succ]
  constructor
  · rintro ⟨_, ⟨_, j, ⟨hjump, hoperand⟩, ⟨l, target, hstart, htarget, rfl⟩, rfl⟩, hj⟩
    obtain rfl : j = i := by omega
    obtain rfl := Option.some.inj (h.start.symm.trans hstart)
    exact ⟨target, hjump, htarget, hoperand⟩
  · rintro ⟨target, hjump, htarget, hoperand⟩
    exact ⟨i + 1, ⟨_, i, ⟨hjump, hoperand⟩, ⟨k, target, h.start, htarget, rfl⟩, rfl⟩, by omega⟩

variable {j l : ℕ} {ins' : Instruction} {b' : Block}

theorem next_iff (h : IsRun code handlers i k ins b) (h' : IsRun code handlers j l ins' b') :
    i + 1 < (starts code handlers).length ∧ ((i + 1 : ℕ) : Int) + 1 = j + 1 ↔
      b'.stmts.first = b.stmts.last + 1 ∧ (counted? code (b.stmts.last + 1)).isSome := by
  have hstop := lt_stop_and_stop_le h'.start
  rw [h.last, h'.first, counted?_isSome_iff]
  constructor
  · rintro ⟨-, hj⟩
    obtain rfl : j = i + 1 := by omega
    rcases stop_eq (starts code handlers) code.length i with hstart | ⟨hnone, -⟩
    · obtain rfl := Option.some.inj (h'.start.symm.trans hstart)
      exact ⟨rfl, by omega, by omega⟩
    · exact absurd (h'.start.symm.trans hnone) (Option.some_ne_none l)
  · rintro ⟨hl, -⟩
    obtain rfl : l = stop (starts code handlers) code.length i := by omega
    have hnext := getElem?_stop (fun _ => lt_length_of_mem_starts) (List.mem_of_getElem? h'.start)
    obtain rfl := start_unique (pairwise_starts code handlers) h'.start hnext
    exact ⟨(List.getElem?_eq_some_iff.mp hnext).1, rfl⟩

/-- The successors of a run are those at whose starts control may arrive from its end. -/
theorem mem_succs_iff (h : IsRun code handlers i k ins b) (h' : IsRun code handlers j l ins' b')
    (hasc : (code.map Instruction.offset).Pairwise (· < ·))
    (hint : ins.hasTarget → ∃ n : Int, ins.operand = .int n) :
    (j + 1 : Int) ∈ b.succs ↔ Flows code b.stmts.last b'.stmts.first := by
  rw [h.succs, mem_successors_iff, length_offsetsAt fun _ => lt_length_of_mem_starts,
    flows_iff h.counted?_last, ← h.next_iff h', ← h'.target_iff hasc hint]
  simp only [eq_comm]

theorem succs_inside (h : IsRun code handlers i k ins b) (hs : s ∈ b.succs) :
    1 ≤ s ∧ s ≤ (starts code handlers).length := by
  have hlength : (offsetsAt code (starts code handlers)).length = (starts code handlers).length :=
    length_offsetsAt fun _ => lt_length_of_mem_starts
  rw [h.succs, mem_successors_iff, hlength] at hs
  rcases hs with ⟨-, hlt, rfl⟩ | ⟨m, hm, rfl⟩
  · omega
  · obtain ⟨_, j, -, hj, rfl⟩ := targetBlock?_eq_some_iff.mp hm
    obtain ⟨hlt, -⟩ := List.idxOf?_eq_some_iff.mp hj
    omega

theorem exists_start_of_flows (h : IsRun code handlers i k ins b)
    (hflow : Flows code b.stmts.last q) : ∃ l : ℕ, l ∈ starts code handlers ∧ q = l + 1 := by
  rcases (flows_iff h.counted?_last).mp hflow with ⟨-, rfl, hnext⟩ | ⟨target, hjump, htarget, hop⟩
  · rw [h.last] at hnext ⊢
    refine ⟨stop (starts code handlers) code.length i, ?_, rfl⟩
    rcases stop_eq (starts code handlers) code.length i with hstart | ⟨-, hend⟩
    · exact List.mem_of_getElem? hstart
    · have := counted?_isSome_iff.mp hnext
      omega
  · obtain ⟨l, rfl, hl⟩ := counted?_eq_some_iff.mp htarget
    refine ⟨l, mem_starts_of_target (List.mem_of_getElem? h.final) hl ?_, rfl⟩
    rw [Instruction.target?, if_pos hjump, hop]
    rfl

end IsRun

/-! ### The graph of blocks -/

/-- The condition on lists of instructions: offsets ascend, and the operands of instructions with a
target are integers. -/
structure Regular (code : List Instruction) : Prop where
  ascending : (code.map Instruction.offset).Pairwise (· < ·)
  operand : ∀ ins ∈ code, ins.hasTarget → ∃ n : Int, ins.operand = .int n

/-- The blocks of the graph divide the instructions. -/
theorem divided (hcode : Regular code) (handlers : List Int) :
    Divided code (graph code handlers).blocks where
  owned := by
    intro p h1 hn
    have hne : code ≠ [] := by
      rintro rfl
      simp at hn
      omega
    obtain ⟨i, k, hi, hk, hstop⟩ := exists_run (n := (p - 1).toNat) (m := code.length)
      (pairwise_starts code handlers) (fun _ => lt_length_of_mem_starts) (zero_mem_starts hne)
      (by omega)
    exact ⟨i + 1, owns_iff.mpr ⟨i, k, rfl, hi, by omega, by omega⟩⟩
  unique := by
    intro b c p hb hc
    obtain ⟨i, k, rfl, hi, hle, hlast⟩ := owns_iff.mp hb
    obtain ⟨j, l, rfl, hj, hle', hlast'⟩ := owns_iff.mp hc
    rw [run_unique (n := (p - 1).toNat) (m := code.length) (pairwise_starts code handlers) hi hj
      (by omega) (by omega) (by omega) (by omega)]
  first_le_last := by
    intro b block hb
    obtain ⟨i, k, _, -, hrun⟩ := isRun_of_counted? hb
    have hstop := lt_stop_and_stop_le hrun.start
    rw [hrun.first, hrun.last]
    omega
  entry := by
    intro block hb
    obtain ⟨i, k, _, hi, hrun⟩ := isRun_of_counted? hb
    obtain rfl : i = 0 := by omega
    have hne : code ≠ [] := by
      rintro rfl
      exact absurd (lt_length_of_mem_starts (List.mem_of_getElem? hrun.start)) (Nat.not_lt_zero k)
    rw [hrun.first, Option.some.inj (hrun.start.symm.trans (getElem?_zero_starts hne))]
    rfl
  inner := by
    intro b block p q hb hfirst hlast
    obtain ⟨_, _, _, -, hrun⟩ := isRun_of_counted? hb
    exact hrun.flows_inner_iff hfirst hlast
  succs_iff := by
    intro b c block block' hb hc
    obtain ⟨_, _, ins, -, hrun⟩ := isRun_of_counted? hb
    obtain ⟨_, _, _, rfl, hrun'⟩ := isRun_of_counted? hc
    exact hrun.mem_succs_iff hrun' hcode.ascending
      (hcode.operand ins (List.mem_of_getElem? hrun.final))
  arrives := by
    intro b block q hb hflow
    obtain ⟨_, _, _, -, hrun⟩ := isRun_of_counted? hb
    -- From its last instruction control only ever gets to where some block begins.
    obtain ⟨l, hl, rfl⟩ := hrun.exists_start_of_flows hflow
    obtain ⟨j, hj⟩ := List.getElem?_of_mem hl
    obtain ⟨block', _, hb', hrun'⟩ := exists_isRun hj
    exact ⟨j + 1, block', (counted?_succ j).trans hb', hrun'.first⟩
  inside := by
    intro b block s hb hs
    obtain ⟨_, _, _, -, hrun⟩ := isRun_of_counted? hb
    rw [length_blocks]
    exact hrun.succs_inside hs

/-- The graph of a list of instructions is valid. -/
theorem graph_fitting (code : List Instruction) (handlers : List Int) :
    (graph code handlers).Fitting := by
  intro b hb
  obtain ⟨k, hk⟩ := List.getElem?_of_mem hb
  obtain ⟨i, l, ins, -, hrun⟩ := isRun_of_counted? ((counted?_succ k).trans hk)
  have hstop := lt_stop_and_stop_le hrun.start
  have hlength : (graph code handlers).code.length = code.length := List.length_map _
  refine ⟨?_, ?_, ?_, fun s hs => ?_⟩
  · rw [hrun.first]
    omega
  · rw [hrun.first, hrun.last]
    omega
  · rw [hrun.last, hlength]
    omega
  · rw [length_blocks]
    exact hrun.succs_inside hs

/-- The graph of instructions is found, if their offsets ascend and their targets can be looked
up. -/
theorem graphOf_eq_of_isKey (hasc : (code.map Instruction.offset).Pairwise (· < ·))
    (hkey : ∀ ins ∈ code, ins.hasTarget → ins.operand.isKey) (handlers : List Int) :
    graphOf code handlers = .ok (graph code handlers) := by
  have hnone : ¬ (code.any fun ins => ins.hasTarget && !ins.operand.isKey) := by
    rw [List.any_eq_true]
    rintro ⟨ins, hins, hany⟩
    rw [Bool.and_eq_true, Bool.not_eq_true'] at hany
    exact Bool.false_ne_true (hany.2.symm.trans (hkey ins hins hany.1))
  rw [graphOf, if_neg hnone, graph?_eq hasc]
  simp only [found, bind, Except.bind, (graph_fitting code handlers).breach?_eq_none]

theorem graphOf_eq (hcode : Regular code) (handlers : List Int) :
    graphOf code handlers = .ok (graph code handlers) := by
  refine graphOf_eq_of_isKey hcode.ascending (fun ins hins hjump => ?_) handlers
  obtain ⟨n, hn⟩ := hcode.operand ins hins hjump
  exact hn ▸ rfl

/-- **The graph of blocks simulates the flow between instructions.** A block is a successor of
another exactly if control may pass from the last instruction of the other to its first one. From
the other instructions of a block control passes to the next one and to nothing else. Every
instruction belongs to one block, and can be reached from the first one exactly if its block can be
reached from block one. -/
theorem graphOf_simulates_flow (code : List Instruction) (handlers : List Int)
    (hasc : (code.map Instruction.offset).Pairwise (· < ·))
    (hint : ∀ ins ∈ code, ins.hasTarget → ∃ n : Int, ins.operand = .int n) :
    ∃ g, graphOf code handlers = .ok g ∧
      (∀ b c block block', counted? g.blocks b = some block → counted? g.blocks c = some block' →
        (c ∈ block.succs ↔ Flows code block.stmts.last block'.stmts.first)) ∧
      (∀ b block s, counted? g.blocks b = some block → s ∈ block.succs →
        (counted? g.blocks s).isSome) ∧
      (∀ b block p q, counted? g.blocks b = some block → block.stmts.first ≤ p →
        p < block.stmts.last → (Flows code p q ↔ q = p + 1)) ∧
      (∀ p : Int, 1 ≤ p → p ≤ code.length → ∃! b, Owns g.blocks b p) ∧
      ∀ b p, Owns g.blocks b p →
        (ReflTransGen (Flows code) 1 p ↔ ReflTransGen (Follows g.blocks) 1 b) := by
  have hcode : Regular code := ⟨hasc, hint⟩
  have h := divided hcode handlers
  refine ⟨graph code handlers, graphOf_eq hcode handlers, fun b c block block' => h.succs_iff,
    fun b block s hb hs => counted?_isSome_iff.mpr (h.inside hb hs),
    fun b block p q => h.inner, fun p h1 hn => ?_, fun b p => h.flow_reachable_iff⟩
  obtain ⟨b, hb⟩ := h.owned h1 hn
  exact ⟨b, hb, fun c hc => h.unique hc hb⟩

/-- A loop below a handler, with a jump to nowhere that is never reached. -/
def guardedLoop : List Instruction :=
  [⟨0, "SETUP_FINALLY", .int 10, "to 10", false⟩, ⟨2, "FOR_ITER", .int 8, "to 8", true⟩,
    ⟨4, "NOP", .null, "", false⟩, ⟨6, "JUMP_BACKWARD", .int 2, "to 2", true⟩,
    ⟨8, "RETURN_VALUE", .null, "", false⟩, ⟨10, "RERAISE", .null, "", false⟩,
    ⟨12, "JUMP_FORWARD", .int 99, "to 99", true⟩]

theorem guardedLoop_operand :
    ∀ ins ∈ guardedLoop, ins.hasTarget → ∃ n : Int, ins.operand = .int n := by
  simp only [guardedLoop, List.forall_mem_cons]
  refine ⟨fun _ => ⟨_, rfl⟩, fun _ => ⟨_, rfl⟩, fun h => absurd h (by decide), fun _ => ⟨_, rfl⟩,
    fun h => absurd h (by decide), fun h => absurd h (by decide), fun _ => ⟨_, rfl⟩, ?_⟩
  exact fun _ h => absurd h List.not_mem_nil

theorem guardedLoop_simulates_flow :
    (guardedLoop.map Instruction.offset).Pairwise (· < ·) ∧
    (∀ ins ∈ guardedLoop, ins.hasTarget → ∃ n : Int, ins.operand = .int n) ∧
    ∃ g, graphOf guardedLoop [10] = .ok g ∧
      (∀ b c block block', counted? g.blocks b = some block → counted? g.blocks c = some block' →
        (c ∈ block.succs ↔ Flows guardedLoop block.stmts.last block'.stmts.first)) ∧
      (∀ b block s, counted? g.blocks b = some block → s ∈ block.succs →
        (counted? g.blocks s).isSome) ∧
      (∀ b block p q, counted? g.blocks b = some block → block.stmts.first ≤ p →
        p < block.stmts.last → (Flows guardedLoop p q ↔ q = p + 1)) ∧
      (∀ p : Int, 1 ≤ p → p ≤ guardedLoop.length → ∃! b, Owns g.blocks b p) ∧
      ∀ b p, Owns g.blocks b p →
        (ReflTransGen (Flows guardedLoop) 1 p ↔ ReflTransGen (Follows g.blocks) 1 b) :=
  ⟨by decide, guardedLoop_operand,
    graphOf_simulates_flow guardedLoop [10] (by decide) guardedLoop_operand⟩

example : ((graph guardedLoop [10]).blocks.map Block.succs) =
    [[2, 5], [3, 4], [2], [], [], []] := by
  decide

end FlowAtlas.Bytecode
