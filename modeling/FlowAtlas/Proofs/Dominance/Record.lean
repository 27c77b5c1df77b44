import FlowAtlas.Proofs.Dominance.Immediate

/-!
# The climbs of the sweeps

Every sweep joins the predecessors of a place by climbs, under the parents that have been found by
then. A record of the climbs, kept while the immediate dominators are computed, shows that each goes
from two places that have parents, under parents that form a tree. In terms of blocks, those that
have an immediate dominator by then are numbered by their places in the reverse postorder: block one
is its own parent and has the least number, and the number of every other block is greater than that
of its parent. Each climb thus ends at the nearest block on the chains of two blocks.

## Main definitions

* `Climb`: the parents at the time of a climb and the places from which it goes.
* `recordedDominators?`: the immediate dominators with a record of all climbs.
* `idomOf`: the immediate dominators that parents of places stand for.

## Main results

* `map_fst_recordedDominators?`: the record changes nothing.
* `ReversePostorder.ranked`: blocks with an immediate dominator are numbered by their places.
* `intersect?_meets_nearest`: climbs end at the nearest common ancestor, and this applies to every
  climb that is recorded.
-/

namespace FlowAtlas.Dominance

/-! ### The record -/

/-- A climb: the parents at its time, and the two places from which it goes. -/
structure Climb where
  parents : Parents
  a : ℕ
  b : ℕ

/-- The parent that a sweep gives to a place, and the record with the climbs to it. -/
def recordedProposal? (parents : Parents) (preds : List ℕ) (record : List Climb) :
    Option (ℕ × List Climb) :=
  match preds.filter fun p => (parents.parent? p).isSome with
  | [] => none
  | first :: others =>
    others.foldlM (fun (found, record) p =>
      (intersect? parents.parent? p found).map (·, ⟨parents, p, found⟩ :: record)) (first, record)

/-- A sweep, and the record with its climbs. -/
def recordedSweep? (work : List (ℕ × List ℕ)) (parents : Parents) (record : List Climb) :
    Option (Parents × List Climb) :=
  work.foldlM (fun (parents, record) (i, preds) =>
    (recordedProposal? parents preds record).map fun (q, record) => (parents.put i q, record))
    (parents, record)

/-- Sweeps until nothing changes, and the record with their climbs. -/
def recordedSettle? (work : List (ℕ × List ℕ)) (parents : Parents) (record : List Climb) :
    Option (Parents × List Climb) :=
  match recordedSweep? work parents record with
  | none => none
  | some (next, record) =>
    if next = parents then some (parents, record)
    else if next.height < parents.height then recordedSettle? work next record
    else none
  termination_by parents.height

/-- The immediate dominators, and a record of the climbs that lead to them, the latest first. -/
def recordedDominators? (blocks : List Block) : Option (List (Int × Option Int) × List Climb) := do
  let order ← reversePostorder? blocks
  let work ← sweepWork? blocks order
  let (parents, record) ← recordedSettle? work (.start order.length) []
  let idoms ← dominators? order parents
  some (idoms, record)

theorem map_fst_foldlM {α β γ : Type} {plain : α → γ → Option α}
    {recorded : α × β → γ → Option (α × β)}
    (h : ∀ s x, (recorded s x).map Prod.fst = plain s.1 x) (xs : List γ) (s : α × β) :
    (xs.foldlM recorded s).map Prod.fst = xs.foldlM plain s.1 := by
  induction xs generalizing s with
  | nil => rfl
  | cons x xs ih =>
    rw [List.foldlM_cons, List.foldlM_cons, ← h s x]
    cases recorded s x with
    | none => rfl
    | some next => exact ih next

theorem map_fst_recordedProposal? (parents : Parents) (preds : List ℕ) (record : List Climb) :
    (recordedProposal? parents preds record).map Prod.fst = proposal? parents preds := by
  rw [recordedProposal?, proposal?]
  cases preds.filter fun p => (parents.parent? p).isSome with
  | nil => rfl
  | cons first others =>
    refine map_fst_foldlM (fun s p => ?_) others (first, record)
    rw [Option.map_map]
    exact Option.map_id'

theorem map_fst_recordedSweep? (work : List (ℕ × List ℕ)) (parents : Parents)
    (record : List Climb) :
    (recordedSweep? work parents record).map Prod.fst = sweep? work parents := by
  refine map_fst_foldlM (fun ⟨parents, record⟩ ⟨i, preds⟩ => ?_) work (parents, record)
  dsimp only
  rw [← map_fst_recordedProposal? parents preds record, Option.map_map, Option.map_map]
  rfl

theorem sweep?_of_recordedSweep? {work : List (ℕ × List ℕ)} {parents next : Parents}
    {record record' : List Climb} (h : recordedSweep? work parents record = some (next, record')) :
    sweep? work parents = some next := by
  rw [← map_fst_recordedSweep? work parents record, h, Option.map_some]

theorem map_fst_recordedSettle? (work : List (ℕ × List ℕ)) (parents : Parents)
    (record : List Climb) :
    (recordedSettle? work parents record).map Prod.fst = settle? work parents := by
  fun_induction recordedSettle? work parents record with
  | case1 parents record hnone =>
    rw [settle?, ← map_fst_recordedSweep? work parents record, hnone]
    rfl
  | case2 record next record' hsome =>
    rw [settle?, sweep?_of_recordedSweep? hsome]
    exact (if_pos rfl).symm
  | case3 parents record next record' hsome hne hlt ih =>
    rw [ih, settle?.eq_def work parents, sweep?_of_recordedSweep? hsome]
    exact ((if_neg hne).trans (if_pos hlt)).symm
  | case4 parents record next record' hsome hne hlt =>
    rw [settle?, sweep?_of_recordedSweep? hsome]
    exact ((if_neg hne).trans (if_neg hlt)).symm

/-- The record changes nothing. -/
theorem map_fst_recordedDominators? (blocks : List Block) :
    (recordedDominators? blocks).map Prod.fst = immediateDominators? blocks := by
  rw [recordedDominators?, immediateDominators?]
  cases reversePostorder? blocks with
  | none => rfl
  | some order =>
    simp only [Option.bind_eq_bind, Option.bind_some]
    cases sweepWork? blocks order with
    | none => rfl
    | some work =>
      rw [Option.bind_some, Option.bind_some, ← map_fst_recordedSettle? _ _ []]
      cases recordedSettle? work (.start order.length) [] with
      | none => rfl
      | some settled =>
        rw [Option.bind_some, Option.map_some, Option.bind_some]
        cases dominators? order settled.1 <;> rfl

/-! ### What holds of every climb -/

/-- A climb goes from two of so many places, both with parents, under parents that form a tree. -/
structure Climb.Sound (count : ℕ) (climb : Climb) : Prop where
  rooted : Rooted climb.parents.parent?
  size_eq : climb.parents.size = count
  a_isSome : (climb.parents.parent? climb.a).isSome
  b_isSome : (climb.parents.parent? climb.b).isSome

section Sound

variable {preds : ℕ → List ℕ} {count i found q : ℕ} {parents next : Parents}
  {record record' : List Climb}

/-- The climbs that join a list of places to one are sound: each ends at a place that has a
parent. -/
theorem sound_of_foldlM (hr : Rooted parents.parent?) (hc : parents.size = count)
    {others : List ℕ} (ho : ∀ j ∈ others, (parents.parent? j).isSome)
    (hfound : (parents.parent? found).isSome) (hrecord : ∀ climb ∈ record, climb.Sound count)
    (h : others.foldlM (fun (found, record) p => (intersect? parents.parent? p found).map
      (·, ⟨parents, p, found⟩ :: record)) (found, record) = some (q, record')) :
    ∀ climb ∈ record', climb.Sound count := by
  induction others generalizing found record with
  | nil =>
    cases h
    exact hrecord
  | cons j others ih =>
    rw [List.forall_mem_cons] at ho
    rw [List.foldlM_cons] at h
    obtain ⟨_, hstep, h⟩ := Option.bind_eq_some_iff.mp h
    obtain ⟨c, hmeet, rfl⟩ := Option.map_eq_some_iff.mp hstep
    obtain ⟨c', hmeet', habove⟩ := hr.intersect?_eq ho.1 hfound
    obtain rfl := Option.some.inj (hmeet.symm.trans hmeet')
    refine ih ho.2 (hr.isSome_of_above ((habove c).mp (.refl c)).1 ho.1) ?_ h
    exact List.forall_mem_cons.mpr ⟨⟨hr, hc, ho.1, hfound⟩, hrecord⟩

theorem sound_of_recordedProposal? (hr : Rooted parents.parent?) (hc : parents.size = count)
    {preds : List ℕ} (hrecord : ∀ climb ∈ record, climb.Sound count)
    (h : recordedProposal? parents preds record = some (q, record')) :
    ∀ climb ∈ record', climb.Sound count := by
  have hfilter : ∀ j ∈ preds.filter fun p => (parents.parent? p).isSome,
      (parents.parent? j).isSome := fun j hj => (List.mem_filter.mp hj).2
  rw [recordedProposal?] at h
  cases hd : preds.filter fun p => (parents.parent? p).isSome with
  | nil =>
    rw [hd] at h
    cases h
  | cons first others =>
    rw [hd] at h hfilter
    rw [List.forall_mem_cons] at hfilter
    exact sound_of_foldlM hr hc hfilter.2 hfilter.1 hrecord h

/-- The climbs of a sweep are sound, since its visits keep the invariant of the sweeps. -/
theorem Sweeping.sound_of_recordedSweep? (ho : Ordered preds count) (h : Sweeping preds i parents)
    (h0 : i ≠ 0) (hi : i ≤ count) (hc : parents.size = count)
    (hrecord : ∀ climb ∈ record, climb.Sound count)
    (hsweep : recordedSweep? (workFrom preds count i) parents record = some (next, record')) :
    ∀ climb ∈ record', climb.Sound count := by
  induction hn : count - i generalizing i parents record with
  | zero =>
    rw [workFrom, hn] at hsweep
    cases hsweep
    exact hrecord
  | succ n ih =>
    have hlt : i < count := by omega
    rw [workFrom_eq_cons preds hlt, recordedSweep?, List.foldlM_cons] at hsweep
    obtain ⟨_, hvisit, hsweep⟩ := Option.bind_eq_some_iff.mp hsweep
    obtain ⟨⟨q, record₁⟩, hprop, rfl⟩ := Option.map_eq_some_iff.mp hvisit
    obtain ⟨q', hprop', hq⟩ := h.proposal?_eq ho h0 hlt
    rw [← map_fst_recordedProposal? parents (preds i) record, hprop] at hprop'
    obtain rfl := Option.some.inj hprop'
    refine ih (h.put ho h0 hlt hq hc) (by omega) hlt (by rw [Parents.size_put, hc]) ?_ hsweep
      (by omega)
    exact sound_of_recordedProposal? h.rooted hc hrecord hprop

/-- All climbs of the sweeps are sound. -/
theorem Sweeping.sound_of_recordedSettle? {final : Parents} (ho : Ordered preds count)
    (h : Sweeping preds 1 parents) (hpos : 1 ≤ count) (hc : parents.size = count)
    (hrecord : ∀ climb ∈ record, climb.Sound count)
    (hsettle : recordedSettle? (workFrom preds count 1) parents record = some (final, record')) :
    ∀ climb ∈ record', climb.Sound count := by
  fun_induction recordedSettle? (workFrom preds count 1) parents record with
  | case1 parents record hnone => cases hsettle
  | case2 record next record₁ hsweep =>
    cases hsettle
    exact h.sound_of_recordedSweep? ho Nat.one_ne_zero hpos hc hrecord hsweep
  | case3 parents record next record₁ hsweep hne hlt ih =>
    obtain ⟨next', hnext, hsize, hs, -⟩ := h.sweep?_eq ho Nat.one_ne_zero hpos hc
    obtain rfl := Option.some.inj ((sweep?_of_recordedSweep? hsweep).symm.trans hnext)
    exact ih (hs.restart hpos) hsize
      (h.sound_of_recordedSweep? ho Nat.one_ne_zero hpos hc hrecord hsweep) hsettle
  | case4 => cases hsettle

end Sound

/-! ### Blocks numbered by their places -/

/-- The immediate dominators of blocks that the parents of their places stand for. -/
def idomOf (order : List Int) (parents : Parents) (b : Int) : Option Int :=
  (parents.parent? (order.idxOf b)).bind (order[·]?)

namespace ReversePostorder

variable {blocks : List Block} {order : List Int} {parents : Parents} {i : ℕ} {b d : Int}
  (h : ReversePostorder blocks order)
include h

theorem idxOf_eq (hi : order[i]? = some b) : order.idxOf b = i := by
  obtain ⟨hlt, rfl⟩ := List.getElem?_eq_some_iff.mp hi
  exact h.nodup.idxOf_getElem i hlt

/-- Blocks have the immediate dominators that stand at the parents of their places. -/
theorem idomOf_eq_some_iff (hsize : parents.size = order.length) :
    idomOf order parents b = some d ↔
      ∃ i p, order[i]? = some b ∧ order[p]? = some d ∧ parents.parent? i = some p := by
  rw [idomOf, Option.bind_eq_some_iff]
  constructor
  · rintro ⟨p, hp, hd⟩
    have hlt : order.idxOf b < order.length := hsize ▸ Parents.lt_size (Option.isSome_of_mem hp)
    exact ⟨order.idxOf b, p, List.getElem?_eq_some_iff.mpr ⟨hlt, List.getElem_idxOf hlt⟩, hd, hp⟩
  · rintro ⟨i, p, hi, hd, hp⟩
    exact ⟨p, h.idxOf_eq hi ▸ hp, hd⟩

/-- The blocks have at their places the parents that they have as blocks. -/
theorem parent?_idxOf (hsize : parents.size = order.length)
    (hd : idomOf order parents b = some d) :
    parents.parent? (order.idxOf b) = some (order.idxOf d) := by
  obtain ⟨i, p, hi, hp, hip⟩ := (h.idomOf_eq_some_iff hsize).mp hd
  rw [h.idxOf_eq hi, h.idxOf_eq hp, hip]

/-- A place that has a parent is that of a block that has an immediate dominator. -/
theorem exists_idxOf_eq (hr : Rooted parents.parent?) (hsize : parents.size = order.length)
    (hi : (parents.parent? i).isSome) :
    ∃ b, (idomOf order parents b).isSome ∧ i = order.idxOf b := by
  have hplace : ∀ {j}, (parents.parent? j).isSome → ∃ b, order[j]? = some b := fun hj =>
    ⟨_, List.getElem?_eq_getElem (hsize ▸ Parents.lt_size hj)⟩
  obtain ⟨p, hp⟩ := Option.isSome_iff_exists.mp hi
  obtain ⟨b, hb⟩ := hplace hi
  obtain ⟨d, hd⟩ := hplace (hr.closed hp)
  exact ⟨b, Option.isSome_of_mem ((h.idomOf_eq_some_iff hsize).mpr ⟨i, p, hb, hd, hp⟩),
    (h.idxOf_eq hb).symm⟩

/-- Blocks with an immediate dominator are numbered by their places: block one has the least
number, and every other block a greater one than its immediate dominator. -/
theorem ranked (hr : Rooted parents.parent?) (hsize : parents.size = order.length) :
    Ranked (order.idxOf ·) (idomOf order parents) 1 where
  root_eq := (h.idomOf_eq_some_iff hsize).mpr ⟨0, 0, h.getElem?_zero, h.getElem?_zero, hr.entry⟩
  root_le := by
    intro b _
    rw [h.idxOf_eq h.getElem?_zero]
    exact Nat.zero_le _
  lt := by
    intro b d hb1 hd
    obtain ⟨i, p, hi, hp, hip⟩ := (h.idomOf_eq_some_iff hsize).mp hd
    have h0 : i ≠ 0 := by
      rintro rfl
      exact hb1 (Option.some.inj (hi.symm.trans h.getElem?_zero))
    rw [h.idxOf_eq hi, h.idxOf_eq hp]
    exact hr.lt h0 hip
  closed := by
    intro b d hd
    obtain ⟨i, p, -, hp, hip⟩ := (h.idomOf_eq_some_iff hsize).mp hd
    obtain ⟨d', hd', rfl⟩ := h.exists_idxOf_eq hr hsize (hr.closed hip)
    obtain ⟨j, -, hj, -, -⟩ :=
      (h.idomOf_eq_some_iff hsize).mp (Option.some_get hd').symm
    rw [h.idxOf_eq hj, hj] at hp
    rwa [← Option.some.inj hp]
  injective := by
    intro a b ha hb hab
    obtain ⟨i, -, hi, -, -⟩ := (h.idomOf_eq_some_iff hsize).mp (Option.some_get ha).symm
    obtain ⟨j, -, hj, -, -⟩ := (h.idomOf_eq_some_iff hsize).mp (Option.some_get hb).symm
    rw [h.idxOf_eq hi, h.idxOf_eq hj] at hab
    exact Option.some.inj (hi.symm.trans (hab ▸ hj))

end ReversePostorder

/-! ### Every climb meets -/

/-- A climb goes from two blocks that have an immediate dominator by then, under parents that say of
the places what the immediate dominators say of the blocks. -/
structure Climb.FromBlocks (order : List Int) (climb : Climb) : Prop where
  ranked : Ranked (order.idxOf ·) (idomOf order climb.parents) 1
  parent_eq : ∀ b d, idomOf order climb.parents b = some d →
    climb.parents.parent? (order.idxOf b) = some (order.idxOf d)
  exists_blocks : ∃ a b, (idomOf order climb.parents a).isSome ∧
    (idomOf order climb.parents b).isSome ∧ climb.a = order.idxOf a ∧ climb.b = order.idxOf b

theorem Climb.Sound.fromBlocks {blocks : List Block} {order : List Int} {climb : Climb}
    (hc : climb.Sound order.length) (h : ReversePostorder blocks order) :
    climb.FromBlocks order where
  ranked := h.ranked hc.rooted hc.size_eq
  parent_eq := fun _ _ hd => h.parent?_idxOf hc.size_eq hd
  exists_blocks := by
    obtain ⟨a, ha, haeq⟩ := h.exists_idxOf_eq hc.rooted hc.size_eq hc.a_isSome
    obtain ⟨b, hb, hbeq⟩ := h.exists_idxOf_eq hc.rooted hc.size_eq hc.b_isSome
    exact ⟨a, b, ha, hb, haeq, hbeq⟩

theorem recordedDominators?_nil : recordedDominators? [] = some ([], []) := by
  have hsettle : recordedSettle? [] (.start 0) [] = some (.start 0, []) := by
    rw [recordedSettle?]
    exact if_pos rfl
  exact congrArg (Option.bind · fun x => some ([], x.2)) hsettle

theorem exists_recordedDominators? {blocks : List Block}
    (hvalid : ∀ block ∈ blocks, ∀ s ∈ block.succs, 1 ≤ s ∧ s ≤ blocks.length) :
    ∃ order idoms record, reversePostorder? blocks = some order ∧
      recordedDominators? blocks = some (idoms, record) ∧
      ∀ climb ∈ record, climb.FromBlocks order := by
  rcases eq_or_ne blocks [] with rfl | hne
  · exact ⟨[], [], [], rfl, recordedDominators?_nil, fun _ hmem => absurd hmem List.not_mem_nil⟩
  obtain ⟨order, horder, h⟩ := exists_reversePostorder hvalid hne
  have hpos : 1 ≤ order.length := List.length_pos_of_mem h.entry_mem
  obtain ⟨parents, hparents, hsettled⟩ := settle?_eq h.ordered hpos
  rw [← map_fst_recordedSettle? _ _ []] at hparents
  obtain ⟨⟨final, record⟩, hrecord, heq⟩ := Option.map_eq_some_iff.mp hparents
  obtain rfl : final = parents := heq
  refine ⟨order, table order final, record, horder, ?_, fun climb hclimb => ?_⟩
  · rw [recordedDominators?, horder]
    simp only [Option.bind_eq_bind, Option.bind_some, h.sweepWork?_eq, hrecord,
      h.dominators?_eq hsettled]
  · refine Climb.Sound.fromBlocks ?_ h
    exact (Sweeping.start _ hpos).sound_of_recordedSettle? h.ordered hpos (by simp [Parents.start])
      (fun _ hmem => absurd hmem List.not_mem_nil) hrecord climb hclimb

/-- **Climbs end at the nearest common ancestor.** Let some of a number of blocks have an immediate
dominator, and let the blocks be numbered: the root is its own immediate dominator and has the least
number, and any other immediate dominator has a smaller number than its block. Then the climb from
two of the blocks ends, at the same block in either order, and of all blocks that are on the chains
of both that one has the greatest number. The blocks of a graph are such blocks at every climb that
leads to their immediate dominators. -/
theorem intersect?_meets_nearest :
    (∀ (number : Int → ℕ) (idom : Int → Option Int) (root : Int) (parent : ℕ → Option ℕ),
      Ranked number idom root →
      (∀ b d, idom b = some d → parent (number b) = some (number d)) →
      ∀ a b, (idom a).isSome → (idom b).isSome →
        intersect? parent (number a) (number b) = intersect? parent (number b) (number a) ∧
        ∃ c, intersect? parent (number a) (number b) = some (number c) ∧ (idom c).isSome ∧
          Nearest number idom a b c) ∧
    ∀ blocks : List Block,
      (∀ block ∈ blocks, ∀ s ∈ block.succs, 1 ≤ s ∧ s ≤ blocks.length) →
      ∃ order idoms record, reversePostorder? blocks = some order ∧
        immediateDominators? blocks = some idoms ∧
        recordedDominators? blocks = some (idoms, record) ∧
        ∀ climb ∈ record, climb.FromBlocks order := by
  constructor
  · intro number idom root parent h hparent a b ha hb
    exact ⟨intersect?_comm parent _ _, h.exists_nearest hparent ha hb⟩
  · intro blocks hvalid
    obtain ⟨order, idoms, record, horder, hrecord, hclimbs⟩ := exists_recordedDominators? hvalid
    refine ⟨order, idoms, record, horder, ?_, hrecord, hclimbs⟩
    rw [← map_fst_recordedDominators?, hrecord, Option.map_some]

/-- The immediate dominators of four blocks. -/
def sparseIdom (b : Int) : Option Int :=
  if b = 1 ∨ b = 3 then some 1 else if b = 2 ∨ b = 4 then some 3 else none

/-- Numbers of the four blocks, with gaps and in another order. -/
def sparseNumber (b : Int) : ℕ :=
  if b = 1 then 5 else if b = 3 then 7 else if b = 2 then 9 else 8

/-- The parents of the numbers. -/
def sparseParent (n : ℕ) : Option ℕ :=
  if n = 5 ∨ n = 7 then some 5 else if n = 9 ∨ n = 8 then some 7 else none

theorem ranked_sparse : Ranked sparseNumber sparseIdom 1 where
  root_eq := rfl
  root_le := by grind [sparseIdom, sparseNumber]
  lt := by grind [sparseIdom, sparseNumber]
  closed := by grind [sparseIdom]
  injective := by grind [sparseIdom, sparseNumber]

theorem sparse_meets_nearest :
    (Ranked sparseNumber sparseIdom 1 ∧
      (∀ b d, sparseIdom b = some d → sparseParent (sparseNumber b) = some (sparseNumber d)) ∧
      (sparseIdom 2).isSome ∧ (sparseIdom 4).isSome ∧
      intersect? sparseParent (sparseNumber 2) (sparseNumber 4) =
        intersect? sparseParent (sparseNumber 4) (sparseNumber 2) ∧
      ∃ c, intersect? sparseParent (sparseNumber 2) (sparseNumber 4) = some (sparseNumber c) ∧
        (sparseIdom c).isSome ∧ Nearest sparseNumber sparseIdom 2 4 c) ∧
    (∀ block ∈ irreducible, ∀ s ∈ block.succs, 1 ≤ s ∧ s ≤ irreducible.length) ∧
      ∃ order idoms record, reversePostorder? irreducible = some order ∧
        immediateDominators? irreducible = some idoms ∧
        recordedDominators? irreducible = some (idoms, record) ∧
        ∀ climb ∈ record, climb.FromBlocks order := by
  have hparent : ∀ b d, sparseIdom b = some d →
      sparseParent (sparseNumber b) = some (sparseNumber d) := by
    grind [sparseIdom, sparseNumber, sparseParent]
  exact ⟨⟨ranked_sparse, hparent, rfl, rfl, intersect?_meets_nearest.1 sparseNumber sparseIdom 1
    sparseParent ranked_sparse hparent 2 4 rfl rfl⟩, by decide,
    intersect?_meets_nearest.2 irreducible (by decide)⟩

/-- Of the climbs for a loop that is entered at two places, the first sweep takes one, and the
second, which changes nothing, three. -/
example : (recordedDominators? irreducible).map (·.2.map fun climb => (climb.a, climb.b)) =
    some [(3, 0), (1, 0), (3, 0), (1, 0)] := by
  cbv

end FlowAtlas.Dominance
