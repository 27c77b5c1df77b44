import FlowAtlas.Proofs.Bytecode.Starts
import FlowAtlas.Proofs.Outcome

/-!
# Looking up leaders

The offsets at which blocks begin are gathered from the whole list of instructions, in any order and
some more than once. Sorted, they are the offsets of the starts, if the offsets of the instructions
ascend. The look-ups of their positions and of the last instructions of the blocks succeed for any
offsets, since only offsets of instructions are gathered.

## Main results

* `mem_leaders_iff`: leaders are the offsets of starts.
* `leaders_eq`: in ascending order, if the offsets of the instructions ascend.
* `exists_graph?`: no look-up fails.
* `graph?_eq`: the graph is that of the blocks between the starts.
-/

namespace FlowAtlas.Bytecode

variable {code : List Instruction} {handlers offsets : List Int} {first ins : Instruction}
  {next : Option Instruction} {x : Int} {k n : ℕ}

/-! ### The offsets that are gathered -/

theorem mem_offsetsAt_iff {starts : List ℕ} : x ∈ offsetsAt code starts ↔
    ∃ k ∈ starts, ∃ ins, code[k]? = some ins ∧ ins.offset = x := by
  simp only [offsetsAt, List.mem_filterMap, Option.map_eq_some_iff]

theorem control?_isSome_of_target? (h : ins.target? = some x) : ins.control?.isSome := by
  rw [Instruction.target?, Instruction.hasTarget] at h
  cases hcontrol : ins.control? with
  | none =>
    rw [hcontrol] at h
    cases h
  | some control => rfl

theorem mem_leadersOf_iff : x ∈ leadersOf offsets next ins ↔
    (ins.target? = some x ∧ x ∈ offsets) ∨
      ins.control?.isSome ∧ ∃ after, next = some after ∧ after.offset = x := by
  rw [leadersOf]
  split
  · next hcontrol => simp [hcontrol, Option.filter_eq_some_iff]
  · next hcontrol =>
    refine iff_of_false List.not_mem_nil ?_
    rintro (⟨htarget, -⟩ | ⟨h, -⟩)
    · exact hcontrol (control?_isSome_of_target? htarget)
    · exact hcontrol h

theorem beginsBlock_iff (hk : code[k]? = some ins) : beginsBlock code (arrivals code handlers) k ↔
    k = 0 ∨ (∃ before, code[k - 1]? = some before ∧ before.control?.isSome) ∨
      ins.offset ∈ handlers ∨ ∃ jump ∈ code, jump.target? = some ins.offset := by
  simp [beginsBlock, hk, arrivals, Option.any_eq_true, or_assoc]

/-- Leaders are the offsets of starts. -/
theorem mem_leaders_iff (hfirst : code[0]? = some first) :
    x ∈ leaders first code handlers ↔ x ∈ offsetsAt code (starts code handlers) := by
  have hoffset : x ∈ code.map (·.offset) ↔ ∃ (k : ℕ) (ins : Instruction),
      code[k]? = some ins ∧ ins.offset = x := by
    rw [List.mem_iff_getElem?]
    simp only [List.getElem?_map, Option.map_eq_some_iff]
  simp only [leaders, List.mem_mergeSort, List.mem_eraseDups, List.cons_append, List.mem_cons,
    List.mem_append, List.mem_filter, List.contains_iff_mem, List.mem_flatMap, Prod.exists,
    List.mem_zipIdx_iff_getElem?, mem_leadersOf_iff, mem_offsetsAt_iff, mem_starts_iff, hoffset]
  constructor
  · rintro (rfl | ⟨hhandler, k, ins, hk, rfl⟩ |
      ⟨jump, i, hi, ⟨htarget, k, ins, hk, rfl⟩ | ⟨hcontrol, ins, hnext, rfl⟩⟩)
    · exact ⟨0, ⟨(List.getElem?_eq_some_iff.mp hfirst).1, rfl⟩, first, hfirst, rfl⟩
    · exact ⟨k, ⟨(List.getElem?_eq_some_iff.mp hk).1,
        (beginsBlock_iff hk).mpr (.inr (.inr (.inl hhandler)))⟩, ins, hk, rfl⟩
    · exact ⟨k, ⟨(List.getElem?_eq_some_iff.mp hk).1, (beginsBlock_iff hk).mpr
        (.inr (.inr (.inr ⟨jump, List.mem_of_getElem? hi, htarget⟩)))⟩, ins, hk, rfl⟩
    · exact ⟨i + 1, ⟨(List.getElem?_eq_some_iff.mp hnext).1,
        (beginsBlock_iff hnext).mpr (.inr (.inl ⟨jump, hi, hcontrol⟩))⟩, ins, hnext, rfl⟩
  · rintro ⟨k, ⟨-, hbegins⟩, ins, hk, rfl⟩
    rcases (beginsBlock_iff hk).mp hbegins with rfl | ⟨before, hbefore, hcontrol⟩ | hhandler |
      ⟨jump, hjump, htarget⟩
    · exact .inl (congrArg Instruction.offset (Option.some.inj (hk.symm.trans hfirst)))
    · -- With truncated subtraction the first instruction also stands before itself.
      rcases k.eq_zero_or_pos with rfl | hpos
      · exact .inl (congrArg Instruction.offset (Option.some.inj (hk.symm.trans hfirst)))
      · exact .inr (.inr ⟨before, k - 1, hbefore, .inr ⟨hcontrol, ins,
          by rwa [Nat.sub_add_cancel hpos], rfl⟩⟩)
    · exact .inr (.inl ⟨hhandler, k, ins, hk, rfl⟩)
    · obtain ⟨i, hi⟩ := List.getElem?_of_mem hjump
      exact .inr (.inr ⟨jump, i, hi, .inl ⟨htarget, k, ins, hk, rfl⟩⟩)

theorem nodup_eraseDups (l : List Int) : l.eraseDups.Nodup := by
  induction hn : l.length using Nat.strongRecOn generalizing l with
  | ind n ih =>
    cases l with
    | nil => exact List.nodup_nil
    | cons x l =>
      rw [List.eraseDups_cons, List.nodup_cons]
      refine ⟨fun hx => ?_, ih _ ?_ _ rfl⟩
      · have hx := (List.mem_filter.mp (List.mem_eraseDups.mp hx)).2
        simp at hx
      · rw [← hn, List.length_cons]
        exact Nat.lt_succ_of_le (List.length_filter_le _ _)

theorem nodup_leaders : (leaders first code handlers).Nodup :=
  (List.mergeSort_perm _ _).nodup_iff.mpr (nodup_eraseDups _)

theorem pairwise_leaders : (leaders first code handlers).Pairwise (· ≤ ·) := by
  rw [leaders]
  refine (List.pairwise_mergeSort (fun a b c hab hbc => ?_) (fun a b => ?_) _).imp
    of_decide_eq_true
  · exact decide_eq_true ((of_decide_eq_true hab).trans (of_decide_eq_true hbc))
  · rcases le_total a b with h | h <;> simp [h]

/-- Leaders stand in ascending order, so they are the offsets of the starts in order. -/
theorem leaders_eq (hfirst : code[0]? = some first)
    (hasc : (code.map Instruction.offset).Pairwise (· < ·)) :
    leaders first code handlers = offsetsAt code (starts code handlers) := by
  -- Two ascending lists without repetition are equal as soon as they have the same members.
  have hperm : (leaders first code handlers).Perm (offsetsAt code (starts code handlers)) :=
    (List.perm_ext_iff_of_nodup nodup_leaders (nodup_offsetsAt hasc)).mpr
      fun _ => mem_leaders_iff hfirst
  exact hperm.eq_of_pairwise (fun _ _ _ _ => le_antisymm) pairwise_leaders
    ((pairwise_offsetsAt hasc).imp le_of_lt)

/-! ### Positions -/

theorem exists_of_positionOf? (h : positionOf? code x = some n) :
    ∃ k ins, n = k + 1 ∧ code[k]? = some ins ∧ ins.offset = x := by
  obtain ⟨⟨ins, n⟩, hfind, rfl⟩ := Option.map_eq_some_iff.mp h
  have hmem := List.mem_reverse.mp (List.mem_of_find?_eq_some hfind)
  obtain ⟨hn, hk⟩ := List.mk_mem_zipIdx_iff_le_and_getElem?_sub.mp hmem
  have hx := List.find?_some hfind
  exact ⟨n - 1, ins, (Nat.sub_add_cancel hn).symm, hk, of_decide_eq_true hx⟩

theorem exists_positionOf? (hk : code[k]? = some ins) :
    ∃ n, positionOf? code ins.offset = some n := by
  refine Option.isSome_iff_exists.mp ?_
  rw [positionOf?, Option.isSome_map, List.find?_isSome]
  refine ⟨(ins, k + 1), List.mem_reverse.mpr ?_, decide_eq_true rfl⟩
  exact List.mk_mem_zipIdx_iff_le_and_getElem?_sub.mpr ⟨Nat.le_add_left 1 k, hk⟩

/-- Instructions with ascending offsets are found at their positions. -/
theorem positionOf?_eq (hasc : (code.map Instruction.offset).Pairwise (· < ·))
    (hk : code[k]? = some ins) : positionOf? code ins.offset = some (k + 1) := by
  obtain ⟨n, hn⟩ := exists_positionOf? hk
  obtain ⟨l, ins', rfl, hl, hoffset⟩ := exists_of_positionOf? hn
  rw [hn, offset_inj hasc hl hk hoffset]

theorem forall₂_positionOf? (hasc : (code.map Instruction.offset).Pairwise (· < ·))
    {starts : List ℕ} (hlt : ∀ k ∈ starts, k < code.length) :
    List.Forall₂ (fun x k => positionOf? code x = some (k + 1)) (offsetsAt code starts) starts := by
  induction starts with
  | nil => exact .nil
  | cons k starts ih =>
    rw [List.forall_mem_cons] at hlt
    have hk : code[k]? = some code[k] := List.getElem?_eq_getElem hlt.1
    rw [offsetsAt, List.filterMap_cons, hk]
    exact .cons (positionOf?_eq hasc hk) (ih hlt.2)

/-! ### The graph -/

/-- The instruction before a position where a block may stop is there. -/
theorem exists_last (hne : code ≠ []) (h1 : 1 ≤ n) (hn : n ≤ code.length + 1) :
    ∃ last, numbered? code (n - 1) = some last := by
  have hpos : 0 < code.length := List.length_pos_iff.mpr hne
  refine Option.isSome_iff_exists.mp (numbered?_isSome_iff.mpr (mem_numbers_iff.mpr ?_))
  rw [Option.isSome_iff_ne_none, Ne, position?_eq_none_iff]
  omega

theorem exists_block? (hne : code ≠ []) (leaders : List Int) (number start : ℕ) (h1 : 1 ≤ n)
    (hn : n ≤ code.length + 1) : ∃ b, block? code leaders number start n = some b := by
  obtain ⟨last, hlast⟩ := exists_last hne h1 hn
  exact ⟨_, by rw [block?, hlast, Option.map_some]⟩

/-- Every leader has a position in the list. -/
theorem exists_positions (hfirst : code[0]? = some first) (handlers : List Int) :
    ∃ positions, List.Forall₂ (fun x n => positionOf? code x = some n)
      (leaders first code handlers) positions ∧ ∀ n ∈ positions, 1 ≤ n ∧ n ≤ code.length := by
  have hleader : ∀ x ∈ leaders first code handlers, ∃ n, positionOf? code x = some n := by
    intro x hx
    obtain ⟨k, -, ins, hk, rfl⟩ := mem_offsetsAt_iff.mp ((mem_leaders_iff hfirst).mp hx)
    exact exists_positionOf? hk
  obtain ⟨positions, hpositions⟩ := exists_forall₂ hleader
  refine ⟨positions, hpositions, fun n hn => ?_⟩
  obtain ⟨x, -, hx⟩ := exists_of_mem_right hpositions hn
  obtain ⟨k, ins, rfl, hk, -⟩ := exists_of_positionOf? hx
  exact ⟨Nat.le_add_left 1 k, (List.getElem?_eq_some_iff.mp hk).1⟩

/-- No look-up fails, whatever the offsets. -/
theorem exists_graph? (code : List Instruction) (handlers : List Int) :
    ∃ g, graph? code handlers = some g ∧
      ∃ leaders, g.code = code.map (statement leaders) := by
  cases hcode : code with
  | nil => exact ⟨_, rfl, [], rfl⟩
  | cons first rest =>
    rw [← hcode]
    have hne : code ≠ [] := hcode ▸ List.cons_ne_nil first rest
    have hfirst : code[0]? = some first := hcode ▸ rfl
    obtain ⟨positions, hpositions, hrange⟩ := exists_positions hfirst handlers
    let stops := positions ++ [code.length + 1]
    have hstop : ∀ n ∈ stops, 1 ≤ n ∧ n ≤ code.length + 1 := by
      intro n hn
      rcases List.mem_append.mp hn with hn | hn
      · exact ⟨(hrange n hn).1, (hrange n hn).2.trans (Nat.le_succ _)⟩
      · rw [List.mem_singleton.mp hn]
        exact ⟨Nat.le_add_left 1 _, le_rfl⟩
    obtain ⟨blocks, hblocks⟩ : ∃ blocks, List.Forall₂
        (fun (x : (ℕ × ℕ) × ℕ) b =>
          block? code (leaders first code handlers) x.2 x.1.1 x.1.2 = some b)
        ((stops.zip stops.tail).zipIdx 1) blocks := by
      refine exists_forall₂ fun x hx => ?_
      have hmem := (List.of_mem_zip (List.fst_mem_of_mem_zipIdx hx)).2
      obtain ⟨h1, hn⟩ := hstop _ (List.mem_of_mem_tail hmem)
      exact exists_block? hne _ _ _ h1 hn
    refine ⟨Graph.linked ⟨blocks, code.map (statement (leaders first code handlers))⟩, ?_, _, rfl⟩
    rw [hcode, graph?, ← hcode, mapM_eq_some_iff.mpr hpositions]
    simp only [Option.bind_eq_bind, Option.bind_some]
    rw [mapM_eq_some_iff.mpr hblocks]
    rfl

theorem zip_tail_append (starts : List ℕ) (n : ℕ) :
    (starts ++ [n]).zip (starts ++ [n]).tail = starts.zip (starts.tail ++ [n]) := by
  induction starts with
  | nil => rfl
  | cons k starts ih =>
    cases starts with
    | nil => rfl
    | cons l starts => exact congrArg ((k, l) :: ·) ih

theorem zip_positions (starts : List ℕ) (n : ℕ) :
    (starts.map (· + 1) ++ [n + 1]).zip (starts.map (· + 1) ++ [n + 1]).tail =
      (starts.zip (starts.tail ++ [n])).map (Prod.map (· + 1) (· + 1)) := by
  have hshift : starts.map (· + 1) ++ [n + 1] = (starts ++ [n]).map (· + 1) := by
    rw [List.map_append]
    rfl
  rw [hshift, ← List.map_tail, List.zip_map, zip_tail_append]

/-- The runs between the starts, from the positions where they begin and stop. -/
theorem spans_eq (starts : List ℕ) (n : ℕ) : spans starts n =
    (starts.zip (starts.tail ++ [n])).map fun (k, next) => ⟨(k : Int) + 1, next⟩ := by
  rw [spans, List.zip, List.map_zipWith]

/-- The block with a number is that of the run between two positions. -/
theorem block?_eq (hne : code ≠ []) (leaders : List Int) (number k : ℕ) (hn : n ≤ code.length) :
    block? code leaders number (k + 1) (n + 1) = some (block code leaders number ⟨k + 1, n⟩) := by
  obtain ⟨last, hlast⟩ := exists_last hne (Nat.le_add_left 1 n) (Nat.succ_le_succ hn)
  have hstop : ((n + 1 : ℕ) : Int) - 1 = n := by omega
  rw [hstop] at hlast
  rw [block?, hstop, hlast, Option.map_some, block, hlast]
  rfl

/-- **The graph is that of the blocks between the starts**, if the offsets ascend. -/
theorem graph?_eq (hasc : (code.map Instruction.offset).Pairwise (· < ·)) :
    graph? code handlers = some (graph code handlers) := by
  cases hcode : code with
  | nil => rfl
  | cons first rest =>
    rw [← hcode]
    have hlt : ∀ k ∈ starts code handlers, k < code.length := fun _ => lt_length_of_mem_starts
    have hpositions : (offsetsAt code (starts code handlers)).mapM (positionOf? code) =
        some ((starts code handlers).map (· + 1)) := by
      rw [mapM_eq_some_iff, List.forall₂_map_right_iff]
      exact forall₂_positionOf? hasc hlt
    have hblocks : ((((starts code handlers).map (· + 1) ++ [code.length + 1]).zip
        ((starts code handlers).map (· + 1) ++ [code.length + 1]).tail).zipIdx 1).mapM
          (fun (x : (ℕ × ℕ) × ℕ) =>
            block? code (offsetsAt code (starts code handlers)) x.2 x.1.1 x.1.2) =
        some (((spans (starts code handlers) code.length).zipIdx 1).map fun x =>
          block code (offsetsAt code (starts code handlers)) x.2 x.1) := by
      rw [zip_positions, spans_eq, List.zipIdx_map, List.zipIdx_map, mapM_eq_some_iff,
        List.forall₂_map_left_iff, List.map_map, List.forall₂_map_right_iff, List.forall₂_same]
      intro x hx
      have hmem := (List.of_mem_zip (List.fst_mem_of_mem_zipIdx hx)).2
      refine block?_eq (hcode ▸ List.cons_ne_nil first rest) _ _ _ ?_
      rcases List.mem_append.mp hmem with hmem | hmem
      · exact (hlt _ (List.mem_of_mem_tail hmem)).le
      · exact (List.mem_singleton.mp hmem).le
    have hfirst : code[0]? = some first := hcode ▸ rfl
    rw [hcode, graph?, ← hcode, leaders_eq hfirst hasc, hpositions]
    simp only [Option.bind_eq_bind, Option.bind_some]
    rw [hblocks]
    rfl

end FlowAtlas.Bytecode
