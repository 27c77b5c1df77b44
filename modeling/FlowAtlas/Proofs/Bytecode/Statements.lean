import FlowAtlas.Proofs.View.Provided

/-!
# Statements and successors of blocks

The last instruction of a block decides both the statement at its end and its successors. The two
are found apart from each other, and they agree: where a jump ends a block, the label of the
statement is a successor, and where a return ends it, there is none. All other blocks are followed
by the next one, but for those with a jump to nowhere at their end.

Every label is the number of the block that begins at the offset to which the instruction jumps.

## Main definitions

* `BeginsAt`, `LeadsTo`: the block at an offset, and the block to which an instruction leads.
* `Becomes`: what the statement of an instruction tells of it.
* `PassesOn`, `Agrees`: the successors of a block agree with the statement at its end.
* `Coherent`: statements and successors agree in a graph.

## Main results

* `becomes_statement`: the statements of instructions.
* `successors_eq`: the successors of a block by the target at its end.
* `agrees_statement`: the successors by an instruction agree with its statement.
* `graphOf_coherent`: statements and successors agree in the graph of a list of instructions.
-/

namespace FlowAtlas.Bytecode

variable {code : List Instruction} {handlers : List Int} {ins : Instruction} {blocks : List Block}
  {n : ℕ} {c offset : Int}

/-! ### Where instructions lead -/

/-- The block with a number begins at the instruction with an offset. -/
def BeginsAt (code : List Instruction) (blocks : List Block) (c offset : Int) : Prop :=
  ∃ block ins, counted? blocks c = some block ∧ counted? code block.stmts.first = some ins ∧
    ins.offset = offset

/-- The operand of an instruction is the offset at which the block with a number begins. -/
def LeadsTo (code : List Instruction) (blocks : List Block) (ins : Instruction) (c : Int) : Prop :=
  ∃ offset, ins.operand.integer? = some offset ∧ BeginsAt code blocks c offset

/-- A jump that is always taken leads to no instruction. -/
def Lost (code : List Instruction) (ins : Instruction) : Prop :=
  ins.control? = some .jump ∧ ∀ target ∈ code, ins.operand.integer? ≠ some target.offset

theorem target?_eq_some_iff_integer? :
    ins.target? = some offset ↔ ins.hasTarget ∧ ins.operand.integer? = some offset := by
  rw [Instruction.target?]
  split
  · next h => exact (and_iff_right h).symm
  · next h => exact iff_of_false (Option.some_ne_none offset).symm fun h' => h h'.1

theorem LeadsTo.inside (h : LeadsTo code blocks ins c) : 1 ≤ c ∧ c ≤ blocks.length := by
  obtain ⟨_, -, block, _, hblock, -⟩ := h
  exact counted?_isSome_iff.mp (Option.isSome_of_eq_some hblock)

section Ascending

variable (hasc : (code.map Instruction.offset).Pairwise (· < ·))
include hasc

/-- The block that is found for a target begins there. -/
theorem leadsTo_of_targetBlock?
    (h : targetBlock? (offsetsAt code (starts code handlers)) ins = some n) :
    ins.hasTarget ∧ LeadsTo code (graph code handlers).blocks ins n := by
  obtain ⟨offset, i, htarget, hi, rfl⟩ := targetBlock?_eq_some_iff.mp h
  obtain ⟨k, first, hstart, hfirst, hoffset⟩ := (idxOf?_offsetsAt_iff hasc).mp hi
  obtain ⟨block, _, hblock, hrun⟩ := exists_isRun hstart
  obtain ⟨hjump, hoperand⟩ := target?_eq_some_iff_integer?.mp htarget
  refine ⟨hjump, offset, hoperand, block, first, (counted?_succ i).trans hblock, ?_, hoffset⟩
  rw [hrun.first, counted?_succ, hfirst]

/-- No instruction is at a target for which no block is found. -/
theorem ne_offset_of_targetBlock?_eq_none (hins : ins ∈ code) (hjump : ins.hasTarget)
    (hnone : targetBlock? (offsetsAt code (starts code handlers)) ins = none) :
    ∀ target ∈ code, ins.operand.integer? ≠ some target.offset := by
  intro target htarget hoperand
  obtain ⟨k, hk⟩ := List.getElem?_of_mem htarget
  have hoffset := target?_eq_some_iff_integer?.mpr ⟨hjump, hoperand⟩
  have hstart : k ∈ starts code handlers := mem_starts_of_target hins hk hoffset
  obtain ⟨i, hi⟩ := List.getElem?_of_mem hstart
  have hfound := (idxOf?_offsetsAt_iff hasc).mpr ⟨k, target, hi, hk, rfl⟩
  rw [targetBlock?, hoffset, Option.bind_some, hfound] at hnone
  cases hnone

end Ascending

/-! ### Statements -/

/-- What a statement tells of the instruction that becomes it. -/
inductive Becomes (leaders : List Int) (ins : Instruction) : Stmt → Prop
  | goto {n : ℕ} (hcontrol : ins.control? = some .jump)
      (htarget : targetBlock? leaders ins = some n) : Becomes leaders ins (.goto (.int n))
  | gotoIfNot {cond : Value} {n : ℕ} (hcontrol : ins.control? = some .branch)
      (htarget : targetBlock? leaders ins = some n) : Becomes leaders ins (.gotoIfNot cond (.int n))
  | ret {val : Value} (hcontrol : ins.control? = some .ret ∨ ins.control? = some .throw) :
      Becomes leaders ins (.ret val)
  | expr {head : String} {args : List Value}
      (hstays : ins.control? ≠ some .ret ∧ ins.control? ≠ some .throw)
      (hnone : ins.control? = some .jump ∨ ins.control? = some .branch →
        targetBlock? leaders ins = none) : Becomes leaders ins (.expr head args)

/-- The statements of instructions. -/
theorem becomes_statement (leaders : List Int) (ins : Instruction) :
    Becomes leaders ins (statement leaders ins) := by
  rw [statement.eq_def]
  split
  · next hcontrol htarget => exact .goto hcontrol htarget
  · next hcontrol htarget => exact .gotoIfNot hcontrol htarget
  · next hcontrol _ => exact .expr (by simp [hcontrol]) (by simp [hcontrol])
  · next hcontrol => exact .expr (by simp [hcontrol]) (by simp [hcontrol])
  · next hcontrol => exact .ret (.inl hcontrol)
  · next hcontrol => exact .ret (.inr hcontrol)
  · next hret hthrow hjump hbranch _ =>
    have hnone : ins.control? = some .jump ∨ ins.control? = some .branch →
        targetBlock? leaders ins = none := by
      rintro (hcontrol | hcontrol)
      · exact Option.eq_none_iff_forall_ne_some.mpr fun n hn => hjump n hcontrol hn
      · exact Option.eq_none_iff_forall_ne_some.mpr fun n hn => hbranch n hcontrol hn
    split
    all_goals exact .expr ⟨hret, hthrow⟩ hnone

/-! ### Successors -/

theorem eraseDups_pair (x y : Int) : [x, y].eraseDups = if y = x then [x] else [x, y] := by
  by_cases h : y = x
  · simp [List.eraseDups_cons, h]
  · simp [List.eraseDups_cons, h]

/-- The successors of a block: the next one, if control passes on to it, and the one at the
target, if it is another one. -/
theorem successors_eq (leaders : List Int) (n : ℕ) (ins : Instruction) : successors leaders n ins =
    match targetBlock? leaders ins with
    | none => if ins.passesOn ∧ n < leaders.length then [(n : Int) + 1] else []
    | some m =>
      if ins.passesOn ∧ n < leaders.length then
        if (m : Int) = n + 1 then [(n : Int) + 1] else [(n : Int) + 1, m]
      else [(m : Int)] := by
  have hone : ∀ x : Int, [x].eraseDups = [x] := fun x => by simp [List.eraseDups_cons]
  rw [successors_eq_eraseDups]
  cases targetBlock? leaders ins with
  | none =>
    split
    · exact hone _
    · rfl
  | some m =>
    split
    · exact eraseDups_pair _ _
    · exact hone _

theorem nodup_successors (leaders : List Int) (n : ℕ) (ins : Instruction) :
    (successors leaders n ins).Nodup := by
  rw [successors_eq_eraseDups]
  exact nodup_eraseDups _

theorem head?_successors {leaders : List Int} (hpasses : ins.passesOn)
    (hn : n < leaders.length) :
    (successors leaders n ins).head? = some ((n : Int) + 1) := by
  rw [successors_eq]
  split
  · rw [if_pos ⟨hpasses, hn⟩, List.head?_cons]
  · rw [if_pos ⟨hpasses, hn⟩]
    split
    · exact List.head?_cons
    · exact List.head?_cons

/-- Where control does not pass on, only a target follows. -/
theorem successors_of_not_passesOn {leaders : List Int} (hpasses : ¬ ins.passesOn) (n : ℕ) :
    successors leaders n ins = (targetBlock? leaders ins).toList.map fun (m : ℕ) => (m : Int) := by
  rw [successors_eq]
  split
  · next hnone => rw [if_neg fun h => hpasses h.1, hnone, Option.toList_none, List.map_nil]
  · next m hsome =>
    rw [if_neg fun h => hpasses h.1, hsome, Option.toList_some, List.map_singleton]

/-! ### Agreement -/

/-- The successors of a block that ends neither in a jump to a block nor in a return. The next block
comes first, if there is one, unless the jump at the end of the block leads nowhere. Apart from it
there is only the target of an instruction that sets up a handler. -/
structure PassesOn (code : List Instruction) (blocks : List Block) (c : Int) (last : Instruction)
    (succs : List Int) : Prop where
  nodup : succs.Nodup
  lost : Lost code last → succs = []
  next : c < blocks.length → ¬ Lost code last → succs.head? = some (c + 1)
  only : ∀ s ∈ succs, s = c + 1 ∧ c < blocks.length ∨
    last.control? = some .enter ∧ LeadsTo code blocks last s

/-- The successors of the block with a number agree with the statement at its end. -/
def Agrees (code : List Instruction) (blocks : List Block) (c : Int) (last : Instruction)
    (succs : List Int) : Stmt → Prop
  | .goto label => ∃ l, label = .int l ∧ succs = [l]
  | .gotoIfNot _ dest => ∃ d, dest = .int d ∧ succs =
    if c < blocks.length then if d = c + 1 then [c + 1] else [c + 1, d] else [d]
  | .ret _ => succs = []
  | _ => PassesOn code blocks c last succs

/-- Control passes on unless the instruction is a jump that is always taken or ends the function. -/
theorem passesOn_iff : ins.passesOn ↔
    ins.control? ≠ some .jump ∧ ins.control? ≠ some .ret ∧ ins.control? ≠ some .throw := by
  rw [Instruction.passesOn]
  cases ins.control? with
  | none => simp
  | some control => cases control <;> simp [Control.passesOn]

theorem control?_eq_enter (htarget : ins.hasTarget) (hjump : ins.control? ≠ some .jump)
    (hbranch : ins.control? ≠ some .branch) : ins.control? = some .enter := by
  rw [Instruction.hasTarget] at htarget
  cases hcontrol : ins.control? with
  | none => simp [hcontrol] at htarget
  | some control => cases control <;> simp_all [Control.hasTarget]

theorem length_offsetsAt_starts (code : List Instruction) (handlers : List Int) :
    (offsetsAt code (starts code handlers)).length = (graph code handlers).blocks.length := by
  rw [length_offsetsAt fun _ => lt_length_of_mem_starts, length_blocks]

section Ascending

variable (hasc : (code.map Instruction.offset).Pairwise (· < ·))
include hasc

theorem passesOn_successors (hins : ins ∈ code)
    (hstays : ins.control? ≠ some .ret ∧ ins.control? ≠ some .throw)
    (hnone : ins.control? = some .jump ∨ ins.control? = some .branch →
      targetBlock? (offsetsAt code (starts code handlers)) ins = none) :
    PassesOn code (graph code handlers).blocks n ins
      (successors (offsetsAt code (starts code handlers)) n ins) := by
  have hlength := length_offsetsAt_starts code handlers
  refine ⟨nodup_successors _ _ _, fun hlost => ?_, fun hn hnot => ?_, fun s hs => ?_⟩
  · rw [successors_of_not_passesOn (fun hpasses => (passesOn_iff.mp hpasses).1 hlost.1),
      hnone (.inl hlost.1)]
    rfl
  · refine head?_successors (passesOn_iff.mpr ⟨fun hjump => hnot ⟨hjump, ?_⟩, hstays⟩) (by omega)
    refine ne_offset_of_targetBlock?_eq_none hasc hins ?_ (hnone (.inl hjump))
    rw [Instruction.hasTarget, hjump]
    rfl
  · rcases mem_successors_iff.mp hs with ⟨-, hn, rfl⟩ | ⟨m, hm, rfl⟩
    · exact .inl ⟨rfl, by omega⟩
    · -- A jump is an expression only if no block is found for its target.
      have hfound : ¬ (ins.control? = some .jump ∨ ins.control? = some .branch) := by
        intro hcontrol
        rw [hnone hcontrol] at hm
        cases hm
      obtain ⟨hjump, hleads⟩ := leadsTo_of_targetBlock? hasc hm
      rw [not_or] at hfound
      exact .inr ⟨control?_eq_enter hjump hfound.1 hfound.2, hleads⟩

/-- The successors by an instruction agree with its statement. -/
theorem agrees_statement (hins : ins ∈ code) (n : ℕ) :
    Agrees code (graph code handlers).blocks n ins
      (successors (offsetsAt code (starts code handlers)) n ins)
      (statement (offsetsAt code (starts code handlers)) ins) := by
  have hs := becomes_statement (offsetsAt code (starts code handlers)) ins
  generalize statement (offsetsAt code (starts code handlers)) ins = s at hs ⊢
  cases hs with
  | goto hcontrol htarget =>
    have hpasses : ¬ ins.passesOn := fun h => (passesOn_iff.mp h).1 hcontrol
    refine ⟨_, rfl, ?_⟩
    rw [successors_of_not_passesOn hpasses, htarget]
    rfl
  | gotoIfNot hcontrol htarget =>
    have hpasses : ins.passesOn := passesOn_iff.mpr (by simp [hcontrol])
    refine ⟨_, rfl, ?_⟩
    simp only [successors_eq, htarget, hpasses, true_and, length_offsetsAt_starts, Nat.cast_lt]
  | ret hcontrol =>
    have hpasses : ¬ ins.passesOn := fun h =>
      hcontrol.elim (passesOn_iff.mp h).2.1 (passesOn_iff.mp h).2.2
    have hjump : ins.hasTarget = false := by
      rw [Instruction.hasTarget]
      rcases hcontrol with hcontrol | hcontrol <;> rw [hcontrol] <;> rfl
    show successors _ _ _ = []
    rw [successors_of_not_passesOn hpasses, targetBlock?_eq_none hjump]
    rfl
  | expr hstays hnone => exact passesOn_successors hasc hins hstays hnone

end Ascending

/-- Statements and successors agree in a graph of instructions. The statement at the end of each
block agrees with the successors of the block, all other statements of the block are expressions,
and every label is the number of the block that begins at the target of the instruction. -/
structure Coherent (code : List Instruction) (g : Graph) : Prop where
  terminator : ∀ c block, counted? g.blocks c = some block → ∃ last s,
    counted? code block.stmts.last = some last ∧ g.terminator? c = some s ∧
      Agrees code g.blocks c last block.succs s
  inner : ∀ c block p, counted? g.blocks c = some block → block.stmts.first ≤ p →
    p < block.stmts.last → ∃ head args, counted? g.code p = some (.expr head args)
  label : ∀ p s label, counted? g.code p = some s →
    s = .goto label ∨ (∃ cond, s = .gotoIfNot cond label) → ∃ ins l,
      counted? code p = some ins ∧ label = .int l ∧ 1 ≤ l ∧ l ≤ g.blocks.length ∧
        LeadsTo code g.blocks ins l

theorem counted?_code (p : Int) : counted? (graph code handlers).code p =
    (counted? code p).map (statement (offsetsAt code (starts code handlers))) := by
  have hcode : (graph code handlers).code =
      code.map (statement (offsetsAt code (starts code handlers))) := rfl
  ext s
  simp only [hcode, Option.map_eq_some_iff, counted?_eq_some_iff, List.getElem?_map]
  constructor
  · rintro ⟨k, rfl, ins, hins, rfl⟩
    exact ⟨ins, ⟨k, rfl, hins⟩, rfl⟩
  · rintro ⟨ins, ⟨k, rfl, hins⟩, rfl⟩
    exact ⟨k, rfl, ins, hins, rfl⟩

theorem graph_coherent (hasc : (code.map Instruction.offset).Pairwise (· < ·)) :
    Coherent code (graph code handlers) where
  terminator := by
    intro c block hblock
    obtain ⟨i, k, last, rfl, hrun⟩ := isRun_of_counted? hblock
    obtain ⟨s, hs, hcounted⟩ := (graph_fitting code handlers).exists_terminator? hblock
    rw [counted?_code, hrun.counted?_last, Option.map_some, Option.some.injEq] at hcounted
    refine ⟨last, s, hrun.counted?_last, hs, ?_⟩
    rw [← hcounted, hrun.succs, ← Nat.cast_succ]
    exact agrees_statement hasc (List.mem_of_getElem? hrun.final) (i + 1)
  inner := by
    intro c block p hblock hfirst hlast
    obtain ⟨i, k, last, rfl, hrun⟩ := isRun_of_counted? hblock
    obtain ⟨ins, hins, hcontrol⟩ := hrun.exists_inner hfirst hlast
    rw [counted?_code, hins, Option.map_some]
    have hs := becomes_statement (offsetsAt code (starts code handlers)) ins
    generalize statement (offsetsAt code (starts code handlers)) ins = s at hs ⊢
    cases hs with
    | goto h | gotoIfNot h => cases hcontrol.symm.trans h
    | ret h => rcases h with h | h <;> cases hcontrol.symm.trans h
    | expr => exact ⟨_, _, rfl⟩
  label := by
    intro p s label hs hlabel
    rw [counted?_code] at hs
    obtain ⟨ins, hins, rfl⟩ := Option.map_eq_some_iff.mp hs
    obtain ⟨n, rfl, htarget⟩ : ∃ n : ℕ, label = .int n ∧
        targetBlock? (offsetsAt code (starts code handlers)) ins = some n := by
      have hs := becomes_statement (offsetsAt code (starts code handlers)) ins
      rcases hlabel with heq | ⟨cond, heq⟩
      · rw [heq] at hs
        cases hs with
        | goto _ htarget => exact ⟨_, rfl, htarget⟩
      · rw [heq] at hs
        cases hs with
        | gotoIfNot _ htarget => exact ⟨_, rfl, htarget⟩
    obtain ⟨-, hleads⟩ := leadsTo_of_targetBlock? hasc htarget
    exact ⟨ins, n, hins, rfl, hleads.inside.1, hleads.inside.2, hleads⟩

/-- **Statements and successors agree in the graph of a list of instructions** the offsets of which
ascend and the targets of which can be looked up. -/
theorem graphOf_coherent (code : List Instruction) (handlers : List Int)
    (hasc : (code.map Instruction.offset).Pairwise (· < ·))
    (hkey : ∀ ins ∈ code, ins.hasTarget → ins.operand.isKey) :
    ∃ g, graphOf code handlers = .ok g ∧ Coherent code g :=
  ⟨graph code handlers, graphOf_eq_of_isKey hasc hkey handlers, graph_coherent hasc⟩

theorem guardedLoop_coherent : (guardedLoop.map Instruction.offset).Pairwise (· < ·) ∧
    (∀ ins ∈ guardedLoop, ins.hasTarget → ins.operand.isKey) ∧
    ∃ g, graphOf guardedLoop [10] = .ok g ∧ Coherent guardedLoop g := by
  have hkey : ∀ ins ∈ guardedLoop, ins.hasTarget → ins.operand.isKey := by
    intro ins hins hjump
    obtain ⟨n, hn⟩ := guardedLoop_operand ins hins hjump
    exact hn ▸ rfl
  exact ⟨by decide, hkey, graphOf_coherent guardedLoop [10] (by decide) hkey⟩

/-- A branch to the next instruction has one successor only, and a jump to itself is its own. -/
example : ((graph [⟨0, "POP_JUMP_IF_TRUE", .int 2, "to 2", true⟩,
    ⟨2, "JUMP_BACKWARD", .int 2, "to 2", true⟩] []).blocks.map Block.succs) = [[2], [2]] := by
  decide

end FlowAtlas.Bytecode
