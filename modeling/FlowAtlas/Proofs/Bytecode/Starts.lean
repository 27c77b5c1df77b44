import FlowAtlas.Bytecode.Blocks
import FlowAtlas.Proofs.Numbering
import Mathlib.Data.Int.Order.Basic
import Mathlib.Data.List.Nodup
import Mathlib.Order.Nat

/-!
# Where blocks begin

The instructions that begin a block are listed in ascending order, the first instruction first. Each
block runs from its start to just before the next one, so every instruction lies in one run.
Instructions whose offsets ascend are told apart by them, and a block is found by the offset at
which it begins.

Positions are counted from zero here.

## Main definitions

* `starts`: the instructions that begin a block.
* `graph`: the graph of the blocks that begin there.
* `stop`: where the run that begins at a start ends.

## Main results

* `exists_run`, `run_unique`: every position lies in the run of exactly one start.
* `idxOf?_offsetsAt_iff`: a block is found by its offset.
-/

namespace FlowAtlas.Bytecode

/-- The offsets at which control may arrive from elsewhere. -/
def arrivals (code : List Instruction) (handlers : List Int) : List Int :=
  handlers ++ code.filterMap Instruction.target?

/-- Instruction `k` begins a block. -/
def beginsBlock (code : List Instruction) (arrivals : List Int) (k : ℕ) : Bool :=
  k = 0 || code[k - 1]?.any (·.control?.isSome) || code[k]?.any fun ins =>
    arrivals.contains ins.offset

/-- The instructions that begin a block, in order. -/
def starts (code : List Instruction) (handlers : List Int) : List ℕ :=
  let arrivals := arrivals code handlers
  (List.range code.length).filter (beginsBlock code arrivals)

/-- The offsets of the instructions at given positions. -/
def offsetsAt (code : List Instruction) (starts : List ℕ) : List Int :=
  starts.filterMap fun k => code[k]?.map (·.offset)

/-- The runs of statements of the blocks that begin at the given instructions. -/
def spans (starts : List ℕ) (length : ℕ) : List Span :=
  List.zipWith (fun (k next : ℕ) => ⟨k + 1, next⟩) starts (starts.tail ++ [length])

/-- The block with a number and a run of statements. -/
def block (code : List Instruction) (leaders : List Int) (number : ℕ) (stmts : Span) : Block where
  stmts
  succs := ((numbered? code stmts.last).map (successors leaders number)).getD []

/-- The graph of the blocks that begin at the starts. -/
def graph (code : List Instruction) (handlers : List Int) : Graph :=
  let starts := starts code handlers
  let leaders := offsetsAt code starts
  let blocks := ((spans starts code.length).zipIdx 1).map fun (stmts, i) =>
    block code leaders i stmts
  Graph.linked ⟨blocks, code.map (statement leaders)⟩

/-! ### Runs between ascending starts -/

/-- The position just after the run that begins at the start with index `i`: the next start, or the
end. -/
def stop (starts : List ℕ) (length i : ℕ) : ℕ :=
  (starts[i + 1]?).getD length

section Runs

variable {starts : List ℕ} {i j k l m n : ℕ}

theorem getElem?_spans (starts : List ℕ) (m i : ℕ) :
    (spans starts m)[i]? =
      starts[i]?.map fun k => ⟨(k : Int) + 1, stop starts m i⟩ := by
  rw [spans, List.getElem?_zipWith]
  cases hi : starts[i]? with
  | none => rfl
  | some k =>
    have hlt : i < starts.length := (List.getElem?_eq_some_iff.mp hi).1
    have hnext : (starts.tail ++ [m])[i]? = some (stop starts m i) := by
      rw [stop]
      rcases Nat.lt_or_ge (i + 1) starts.length with h | h
      · rw [List.getElem?_append_left (by rw [List.length_tail]; omega), List.getElem?_tail,
          List.getElem?_eq_getElem h]
        rfl
      · rw [List.getElem?_append_right (by rw [List.length_tail]; omega),
          List.getElem?_eq_none h, List.length_tail, Nat.sub_eq_zero_of_le (by omega)]
        rfl
    rw [hnext]
    rfl

variable (hasc : starts.Pairwise (· < ·)) (hlt : ∀ k ∈ starts, k < m)

include hasc in
theorem start_lt_start_iff (hi : starts[i]? = some k) (hj : starts[j]? = some l) :
    k < l ↔ i < j := by
  obtain ⟨hi', rfl⟩ := List.getElem?_eq_some_iff.mp hi
  obtain ⟨hj', rfl⟩ := List.getElem?_eq_some_iff.mp hj
  have hmono := List.pairwise_iff_getElem.mp hasc
  refine ⟨fun h => ?_, hmono i j hi' hj'⟩
  by_contra hji
  rcases (not_lt.mp hji).lt_or_eq with hji | rfl
  · exact absurd (hmono j i hj' hi' hji) h.asymm
  · exact absurd h (lt_irrefl _)

include hasc in
theorem start_unique (hi : starts[i]? = some k) (hj : starts[j]? = some k) : i = j := by
  have h1 := start_lt_start_iff hasc hi hj
  have h2 := start_lt_start_iff hasc hj hi
  omega

/-- Where a run ends another begins, unless it is the last. -/
theorem stop_eq (starts : List ℕ) (m i : ℕ) :
    starts[i + 1]? = some (stop starts m i) ∨
      starts[i + 1]? = none ∧ stop starts m i = m := by
  rw [stop]
  cases starts[i + 1]? with
  | none => exact .inr ⟨rfl, rfl⟩
  | some k => exact .inl rfl

include hlt in
theorem stop_le : stop starts m i ≤ m := by
  rcases stop_eq starts m i with h | ⟨-, h⟩
  · exact (hlt _ (List.mem_of_getElem? h)).le
  · exact h.le

include hlt in
/-- A start at which a run ends is the next one. -/
theorem getElem?_stop (h : stop starts m i ∈ starts) :
    starts[i + 1]? = some (stop starts m i) := by
  rcases stop_eq starts m i with h' | ⟨-, h'⟩
  · exact h'
  · exact absurd (hlt _ h) h'.not_lt

include hasc hlt in
theorem lt_stop (hi : starts[i]? = some k) : k < stop starts m i := by
  rcases stop_eq starts m i with h | ⟨-, h⟩
  · exact (start_lt_start_iff hasc hi h).mpr (Nat.lt_succ_self i)
  · exact (hlt k (List.mem_of_getElem? hi)).trans_eq h.symm

include hasc in
/-- What begins before a run has ended is that run or comes before it. -/
theorem index_le_of_lt_stop (hj : starts[j]? = some l) (hl : l < stop starts m i) : j ≤ i := by
  rcases stop_eq starts m i with h | ⟨h, -⟩
  · exact Nat.lt_succ_iff.mp ((start_lt_start_iff hasc hj h).mp hl)
  · have hj' : j < starts.length := (List.getElem?_eq_some_iff.mp hj).1
    have hi : starts.length ≤ i + 1 := List.getElem?_eq_none_iff.mp h
    omega

include hasc in
/-- Every position lies in at most one run. -/
theorem run_unique (hi : starts[i]? = some k) (hj : starts[j]? = some l) (hkn : k ≤ n)
    (hn : n < stop starts m i) (hln : l ≤ n) (hn' : n < stop starts m j) : i = j :=
  le_antisymm (index_le_of_lt_stop hasc hi (hkn.trans_lt hn'))
    (index_le_of_lt_stop hasc hj (hln.trans_lt hn))

include hasc hlt in
/-- Every position lies in a run, if the first one is a start. -/
theorem exists_run (h0 : 0 ∈ starts) (hn : n < m) :
    ∃ i k, starts[i]? = some k ∧ k ≤ n ∧ n < stop starts m i := by
  induction n with
  | zero =>
    obtain ⟨i, hi⟩ := List.getElem?_of_mem h0
    exact ⟨i, 0, hi, le_rfl, lt_stop hasc hlt hi⟩
  | succ n ih =>
    obtain ⟨i, k, hi, hk, hn'⟩ := ih (by omega)
    rcases Nat.lt_or_ge (n + 1) (stop starts m i) with h | h
    · exact ⟨i, k, hi, by omega, h⟩
    · -- The run of the position before ends here, so a new one begins.
      obtain hstop : stop starts m i = n + 1 := by omega
      rcases stop_eq starts m i with hnext | ⟨-, hend⟩
      · rw [hstop] at hnext
        exact ⟨i + 1, n + 1, hnext, le_rfl, lt_stop hasc hlt hnext⟩
      · omega

end Runs

/-! ### The instructions that begin a block -/

variable {code : List Instruction} {handlers : List Int} {ins target : Instruction} {i j k : ℕ}
  {offset : Int}

theorem mem_starts_iff : k ∈ starts code handlers ↔
    k < code.length ∧ beginsBlock code (arrivals code handlers) k := by
  rw [starts, List.mem_filter, List.mem_range]

theorem pairwise_starts (code : List Instruction) (handlers : List Int) :
    (starts code handlers).Pairwise (· < ·) :=
  List.pairwise_lt_range.filter _

theorem lt_length_of_mem_starts (hk : k ∈ starts code handlers) : k < code.length :=
  (mem_starts_iff.mp hk).1

theorem zero_mem_starts (hne : code ≠ []) : 0 ∈ starts code handlers :=
  mem_starts_iff.mpr ⟨List.length_pos_iff.mpr hne, rfl⟩

/-- The first instruction begins the first block. -/
theorem getElem?_zero_starts (hne : code ≠ []) : (starts code handlers)[0]? = some 0 := by
  obtain ⟨i, hi⟩ := List.getElem?_of_mem (zero_mem_starts hne : 0 ∈ starts code handlers)
  rcases i.eq_zero_or_pos with rfl | hpos
  · exact hi
  · have hlen : 0 < (starts code handlers).length := hpos.trans (List.getElem?_eq_some_iff.mp hi).1
    have hlt := (start_lt_start_iff (pairwise_starts code handlers)
      (List.getElem?_eq_getElem hlen) hi).mpr hpos
    exact absurd hlt (Nat.not_lt_zero _)

/-- A block begins after every instruction that controls what runs next. -/
theorem mem_starts_of_control (hins : code[k]? = some ins) (hcontrol : ins.control?.isSome)
    (hk : k + 1 < code.length) : k + 1 ∈ starts code handlers := by
  refine mem_starts_iff.mpr ⟨hk, ?_⟩
  rw [beginsBlock, Nat.add_sub_cancel, hins]
  simp [hcontrol]

theorem mem_starts_of_target (hins : ins ∈ code) (hk : code[k]? = some target)
    (htarget : ins.target? = some target.offset) : k ∈ starts code handlers := by
  refine mem_starts_iff.mpr ⟨(List.getElem?_eq_some_iff.mp hk).1, ?_⟩
  have hmem : target.offset ∈ arrivals code handlers :=
    List.mem_append_right _ (List.mem_filterMap.mpr ⟨ins, hins, htarget⟩)
  rw [beginsBlock, hk]
  simp [hmem]

/-- Within a block no instruction but the last one controls what runs next. -/
theorem control?_eq_none (hins : code[k]? = some ins) (hk : k + 1 < code.length)
    (hnot : k + 1 ∉ starts code handlers) : ins.control? = none := by
  by_contra hcontrol
  exact hnot (mem_starts_of_control hins (Option.isSome_iff_ne_none.mpr hcontrol) hk)

/-! ### Blocks by the offsets at which they begin -/

theorem getElem?_offsetsAt_iff {starts : List ℕ} (hlt : ∀ k ∈ starts, k < code.length) :
    (offsetsAt code starts)[i]? = some offset ↔
      ∃ k ins, starts[i]? = some k ∧ code[k]? = some ins ∧ ins.offset = offset := by
  induction starts generalizing i with
  | nil => simp [offsetsAt]
  | cons k starts ih =>
    rw [List.forall_mem_cons] at hlt
    have hk : code[k]? = some code[k] := List.getElem?_eq_getElem hlt.1
    have hcons : offsetsAt code (k :: starts) = code[k].offset :: offsetsAt code starts := by
      rw [offsetsAt, List.filterMap_cons, hk]
      rfl
    rw [hcons]
    cases i with
    | zero => simp [hk]
    | succ i => simpa only [List.getElem?_cons_succ] using ih hlt.2

theorem length_offsetsAt {starts : List ℕ} (hlt : ∀ k ∈ starts, k < code.length) :
    (offsetsAt code starts).length = starts.length := by
  rw [offsetsAt, List.length_filterMap_eq_countP, List.countP_eq_length]
  intro k hk
  rw [List.getElem?_eq_getElem (hlt k hk)]
  rfl

/-- Instructions are told apart by their offsets. -/
theorem offset_inj (hasc : (code.map Instruction.offset).Pairwise (· < ·))
    (hi : code[i]? = some ins) (hj : code[j]? = some target)
    (heq : ins.offset = target.offset) : i = j := by
  have hmap : (code.map Instruction.offset)[i]? = (code.map Instruction.offset)[j]? := by
    rw [List.getElem?_map, List.getElem?_map, hi, hj, Option.map_some, Option.map_some, heq]
  refine (List.getElem?_inj ?_ (hasc.imp ne_of_lt)).mp hmap
  rw [List.length_map]
  exact (List.getElem?_eq_some_iff.mp hi).1

theorem pairwise_offsetsAt (hasc : (code.map Instruction.offset).Pairwise (· < ·)) :
    (offsetsAt code (starts code handlers)).Pairwise (· < ·) := by
  refine List.pairwise_filterMap.mpr ((pairwise_starts code handlers).imp ?_)
  intro k l hkl a ha b hb
  rw [← List.getElem?_map] at ha hb
  obtain ⟨hk, rfl⟩ := List.getElem?_eq_some_iff.mp ha
  obtain ⟨hl, rfl⟩ := List.getElem?_eq_some_iff.mp hb
  exact List.pairwise_iff_getElem.mp hasc k l hk hl hkl

theorem nodup_offsetsAt (hasc : (code.map Instruction.offset).Pairwise (· < ·)) :
    (offsetsAt code (starts code handlers)).Nodup :=
  (pairwise_offsetsAt hasc).imp ne_of_lt

/-- **A block is found by the offset of its first instruction.** -/
theorem idxOf?_offsetsAt_iff (hasc : (code.map Instruction.offset).Pairwise (· < ·)) :
    (offsetsAt code (starts code handlers)).idxOf? offset = some i ↔
      ∃ k ins, (starts code handlers)[i]? = some k ∧ code[k]? = some ins ∧
        ins.offset = offset := by
  rw [← getElem?_offsetsAt_iff fun k => lt_length_of_mem_starts, List.idxOf?_eq_some_iff,
    List.getElem?_eq_some_iff]
  constructor
  · rintro ⟨hi, heq, -⟩
    exact ⟨hi, heq⟩
  · rintro ⟨hi, rfl⟩
    refine ⟨hi, rfl, fun j hji heq => hji.ne ?_⟩
    exact (List.Nodup.getElem_inj_iff (nodup_offsetsAt hasc)).mp heq

end FlowAtlas.Bytecode
