import FlowAtlas.Proofs.Bytecode.Blocks
import FlowAtlas.Proofs.View.Provided

/-!
# Where one block ends and the next begins

The blocks of a list of instructions are as long as they can be. They follow one another without a
gap and without an overlap, and a new one begins only where it has to: after an instruction that
controls what runs next, at a handler, and at the target of an instruction.

Positions are counted from zero in `starts`, and the statements of blocks from one.

## Main results

* `flatMap_toList_blocks`: the blocks list all statements in order.
* `succ_mem_starts_iff`: where a block has to begin.
* `owns_and_owns_succ_iff`: two neighbours are in one block exactly if none begins between them.
* `graphOf_splits`: the graph of a list of instructions has exactly the greatest blocks.
-/

namespace FlowAtlas.Bytecode

variable {code : List Instruction} {handlers : List Int} {ins next : Instruction}
  {rest : List ℕ} {k m n : ℕ}

/-! ### The runs in order -/

theorem toList_span (h : k ≤ n) :
    Span.toList ⟨(k : Int) + 1, n⟩ = (List.range' k (n - k)).map fun (i : ℕ) => (i : Int) + 1 := by
  have hsize : Span.size ⟨(k : Int) + 1, n⟩ = n - k := by
    simp only [Span.size]
    omega
  rw [Span.toList, hsize, List.range'_eq_map_range, List.map_map]
  refine List.map_congr_left fun i _ => ?_
  rw [Function.comp_apply]
  push_cast
  omega

theorem flatMap_toList_spans (hasc : (k :: rest).Pairwise (· < ·))
    (hlt : ∀ l ∈ k :: rest, l < m) : (spans (k :: rest) m).flatMap Span.toList =
      (List.range' k (m - k)).map fun (i : ℕ) => (i : Int) + 1 := by
  induction rest generalizing k with
  | nil =>
    have hk := hlt k List.mem_cons_self
    exact (List.append_nil _).trans (toList_span hk.le)
  | cons l rest ih =>
    have hkl : k < l := List.rel_of_pairwise_cons hasc List.mem_cons_self
    have hl : l < m := hlt l (List.mem_cons_of_mem k List.mem_cons_self)
    have hcons : spans (k :: l :: rest) m = ⟨(k : Int) + 1, l⟩ :: spans (l :: rest) m := rfl
    have hsplit : List.range' k (m - k) = List.range' k (l - k) ++ List.range' l (m - l) := by
      have happend := List.range'_append_1 (s := k) (m := l - k) (n := m - l)
      rw [Nat.add_sub_of_le hkl.le] at happend
      rw [happend]
      congr 1
      omega
    rw [hcons, List.flatMap_cons, toList_span hkl.le,
      ih (List.Pairwise.of_cons hasc) fun i hi => hlt i (List.mem_cons_of_mem k hi), hsplit,
      List.map_append]

theorem map_stmts_blocks (code : List Instruction) (handlers : List Int) :
    (graph code handlers).blocks.map Block.stmts = spans (starts code handlers) code.length := by
  refine List.ext_getElem? fun i => ?_
  rw [List.getElem?_map, getElem?_spans]
  cases hi : (starts code handlers)[i]? with
  | none =>
    have hnone : (graph code handlers).blocks[i]? = none := by
      rw [List.getElem?_eq_none_iff] at hi ⊢
      rwa [length_blocks]
    rw [hnone, Option.map_none, Option.map_none]
  | some k =>
    obtain ⟨preds, hblock⟩ := getElem?_blocks hi
    rw [hblock, Option.map_some, Option.map_some]
    rfl

/-- The blocks list all statements in order, without a gap and without an overlap. -/
theorem flatMap_toList_blocks (code : List Instruction) (handlers : List Int) :
    ((graph code handlers).blocks.flatMap fun b => b.stmts.toList) =
      (List.range code.length).map fun (i : ℕ) => (i : Int) + 1 := by
  have hspans : ((graph code handlers).blocks.flatMap fun b => b.stmts.toList) =
      (spans (starts code handlers) code.length).flatMap Span.toList := by
    rw [← map_stmts_blocks, List.flatMap_map]
  rw [hspans]
  rcases eq_or_ne code [] with rfl | hne
  · rfl
  · -- The first run begins with the first instruction.
    have hzero : (starts code handlers)[0]? = some 0 := getElem?_zero_starts hne
    have hasc := pairwise_starts code handlers
    have hlt : ∀ l ∈ starts code handlers, l < code.length := fun _ => lt_length_of_mem_starts
    cases hstarts : starts code handlers with
    | nil =>
      rw [hstarts] at hzero
      cases hzero
    | cons k rest =>
      rw [hstarts] at hzero hasc hlt
      obtain rfl : k = 0 := Option.some.inj hzero
      rw [flatMap_toList_spans hasc hlt, Nat.sub_zero, List.range_eq_range']

/-! ### Where blocks have to begin -/

/-- Where a block has to begin behind an instruction: if that controls what runs next, if the
next one is a handler, or if it is the target of an instruction. -/
theorem succ_mem_starts_iff (hins : code[k]? = some ins) (hnext : code[k + 1]? = some next)
    (hint : ∀ ins ∈ code, ins.hasTarget → ∃ n : Int, ins.operand = .int n) :
    k + 1 ∈ starts code handlers ↔ ins.control?.isSome ∨ next.offset ∈ handlers ∨
      ∃ jump ∈ code, jump.hasTarget ∧ jump.operand = .int next.offset := by
  have hlt : k + 1 < code.length := (List.getElem?_eq_some_iff.mp hnext).1
  have htarget : (∃ jump ∈ code, jump.target? = some next.offset) ↔
      ∃ jump ∈ code, jump.hasTarget ∧ jump.operand = .int next.offset :=
    exists_congr fun jump => and_congr_right fun hjump => target?_eq_some_iff (hint jump hjump)
  rw [mem_starts_iff, and_iff_right hlt, beginsBlock, Nat.add_sub_cancel, hins, hnext, ← htarget]
  simp [arrivals]

/-- Two neighbours are in one block exactly if none begins between them. -/
theorem owns_and_owns_succ_iff (hk : k + 1 < code.length) :
    (∃ b, Owns (graph code handlers).blocks b (k + 1) ∧
      Owns (graph code handlers).blocks b (k + 1 + 1)) ↔ k + 1 ∉ starts code handlers := by
  have hasc := pairwise_starts code handlers
  have hlt : ∀ l ∈ starts code handlers, l < code.length := fun _ => lt_length_of_mem_starts
  constructor
  · rintro ⟨b, hk, hnext⟩ hmem
    obtain ⟨i, l, rfl, hi, hle, -⟩ := owns_iff.mp hk
    obtain ⟨i', l', heq, hi', -, hstop⟩ := owns_iff.mp hnext
    obtain rfl : i' = i := by omega
    obtain ⟨j, hj⟩ := List.getElem?_of_mem hmem
    have hij := (start_lt_start_iff hasc hi hj).mp (by omega)
    have hji := index_le_of_lt_stop (i := i') (m := code.length) hasc hj (by omega)
    omega
  · intro hnot
    have hne : code ≠ [] := List.ne_nil_of_length_pos (Nat.zero_lt_of_lt hk)
    obtain ⟨i, l, hi, hle, hstop⟩ := exists_run (n := k) (m := code.length) hasc hlt
      (zero_mem_starts hne) (by omega)
    have hstop' : stop (starts code handlers) code.length i ≠ k + 1 := by
      intro heq
      rcases stop_eq (starts code handlers) code.length i with hstart | ⟨-, hend⟩
      · exact hnot (heq ▸ List.mem_of_getElem? hstart)
      · omega
    exact ⟨i + 1, owns_iff.mpr ⟨i, l, rfl, hi, by omega, by omega⟩,
      owns_iff.mpr ⟨i, l, rfl, hi, by omega, by omega⟩⟩

theorem owns_ne_iff (hcode : Regular code) (hins : code[k]? = some ins)
    (hnext : code[k + 1]? = some next) :
    (∃ b c, Owns (graph code handlers).blocks b (k + 1) ∧
      Owns (graph code handlers).blocks c (k + 1 + 1) ∧ b ≠ c) ↔
      ins.control?.isSome ∨ next.offset ∈ handlers ∨
        ∃ jump ∈ code, jump.hasTarget ∧ jump.operand = .int next.offset := by
  have hlt : k + 1 < code.length := (List.getElem?_eq_some_iff.mp hnext).1
  have h := divided hcode handlers
  rw [← succ_mem_starts_iff hins hnext hcode.operand, ← not_iff_not, ← owns_and_owns_succ_iff hlt]
  constructor
  · intro hnone
    obtain ⟨b, hb⟩ := h.owned (p := k + 1) (by omega) (by omega)
    obtain ⟨c, hc⟩ := h.owned (p := k + 1 + 1) (by omega) (by omega)
    have hbc : b = c := by
      by_contra hne
      exact hnone ⟨b, c, hb, hc, hne⟩
    exact ⟨b, hb, hbc ▸ hc⟩
  · rintro ⟨d, hd, hd'⟩ ⟨b, c, hb, hc, hne⟩
    exact hne ((h.unique hb hd).trans (h.unique hd' hc))

/-! ### The graph of blocks -/

/-- **The graph of a list of instructions has exactly the greatest blocks.** It is there and valid,
with one statement for each instruction. The runs of its blocks are not empty and, one after
another, list all statements. Two neighbours are in different blocks exactly if the first controls
what runs next, or the second is a handler or the target of an instruction anywhere in the list. -/
theorem graphOf_splits (code : List Instruction) (handlers : List Int)
    (hasc : (code.map Instruction.offset).Pairwise (· < ·))
    (hint : ∀ ins ∈ code, ins.hasTarget → ∃ n : Int, ins.operand = .int n) :
    ∃ g, graphOf code handlers = .ok g ∧ g.Fitting ∧
      (code.length ≤ greatestSpan → g.validate = .ok ()) ∧
      g.code.length = code.length ∧
      (∀ b ∈ g.blocks, b.stmts.toList ≠ []) ∧
      (g.blocks.flatMap fun b => b.stmts.toList) =
        (List.range code.length).map (fun (i : ℕ) => (i : Int) + 1) ∧
      (∀ p ins next, counted? code p = some ins → counted? code (p + 1) = some next →
        ((∃ b c, Owns g.blocks b p ∧ Owns g.blocks c (p + 1) ∧ b ≠ c) ↔
          ins.control?.isSome ∨ next.offset ∈ handlers ∨
            ∃ jump ∈ code, jump.hasTarget ∧ jump.operand = .int next.offset)) ∧
      (code = [] → g = ⟨[], []⟩) := by
  have hcode : Regular code := ⟨hasc, hint⟩
  have hfitting := graph_fitting code handlers
  have hlength : (graph code handlers).code.length = code.length := List.length_map _
  refine ⟨graph code handlers, graphOf_eq hcode handlers, hfitting, fun hgreat => ?_, hlength, ?_,
    flatMap_toList_blocks code handlers, ?_, ?_⟩
  · exact hfitting.validate_eq (hlength.symm ▸ hgreat)
  · intro b hb
    rw [← List.length_pos_iff, Span.length_toList]
    exact Nat.pos_of_ne_zero (hfitting b hb).size_ne_zero
  · intro p ins next hins hnext
    obtain ⟨k, rfl, hk⟩ := counted?_eq_some_iff.mp hins
    exact owns_ne_iff hcode hk ((counted?_succ (k + 1)).symm.trans hnext)
  · rintro rfl
    rfl

/-- The loop below a handler, with a handler at no instruction. -/
theorem guardedLoop_splits :
    (guardedLoop.map Instruction.offset).Pairwise (· < ·) ∧
    (∀ ins ∈ guardedLoop, ins.hasTarget → ∃ n : Int, ins.operand = .int n) ∧
    ∃ g, graphOf guardedLoop [10, 7] = .ok g ∧ g.Fitting ∧
      (guardedLoop.length ≤ greatestSpan → g.validate = .ok ()) ∧
      g.code.length = guardedLoop.length ∧
      (∀ b ∈ g.blocks, b.stmts.toList ≠ []) ∧
      (g.blocks.flatMap fun b => b.stmts.toList) =
        (List.range guardedLoop.length).map (fun (i : ℕ) => (i : Int) + 1) ∧
      (∀ p ins next, counted? guardedLoop p = some ins →
        counted? guardedLoop (p + 1) = some next →
        ((∃ b c, Owns g.blocks b p ∧ Owns g.blocks c (p + 1) ∧ b ≠ c) ↔
          ins.control?.isSome ∨ next.offset ∈ [10, 7] ∨
            ∃ jump ∈ guardedLoop, jump.hasTarget ∧ jump.operand = .int next.offset)) ∧
      (guardedLoop = [] → g = ⟨[], []⟩) :=
  ⟨by decide, guardedLoop_operand,
    graphOf_splits guardedLoop [10, 7] (by decide) guardedLoop_operand⟩

end FlowAtlas.Bytecode
