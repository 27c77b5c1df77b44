import FlowAtlas.Proofs.Dominance.Search
import FlowAtlas.Proofs.Dominance.Settle
import FlowAtlas.Proofs.Numbering
import FlowAtlas.Proofs.Outcome

/-!
# Looking up places

The blocks of a reverse postorder have places in it, and so have all their successors, since these
can be reached as well. All that the sweeps look up is thus there: the block at a place, the places
of its successors, and the list of predecessors at each of them.

## Main definitions

* `Listed`: a place is in the list of another one.
* `placePreds`: the predecessors of places.

## Main results

* `predLists?_eq`: the lists of predecessors are found, and what they hold.
* `sweepWork?_eq`: the work of a sweep is found.
-/

namespace FlowAtlas.Dominance

variable {blocks : List Block} {order : List Int} {preds : List (List ℕ)} {i j k l : ℕ} {b s : Int}

theorem place?_eq_some_iff (hnd : order.Nodup) : place? order b = some i ↔ order[i]? = some b := by
  rw [place?, List.idxOf?_eq_some_iff, List.getElem?_eq_some_iff]
  constructor
  · rintro ⟨hi, heq, -⟩
    exact ⟨hi, heq⟩
  · rintro ⟨hi, rfl⟩
    exact ⟨hi, rfl, fun j hji heq => hji.ne ((hnd.getElem_inj_iff).mp heq)⟩

/-! ### Lists of predecessors -/

/-- Place `j` is in the list at place `i`. -/
def Listed (preds : List (List ℕ)) (i j : ℕ) : Prop :=
  ∃ js, preds[i]? = some js ∧ j ∈ js

theorem listed_modify_iff :
    Listed (preds.modify k (appendNew i)) l j ↔
      Listed preds l j ∨ l = k ∧ l < preds.length ∧ j = i := by
  rw [Listed, Listed, List.getElem?_modify]
  rcases Nat.lt_or_ge l preds.length with hl | hl
  · rw [List.getElem?_eq_getElem hl]
    by_cases hlk : k = l
    · simp [hlk, hl]
    · simp [hlk, Ne.symm hlk]
  · rw [List.getElem?_eq_none hl]
    have hnot : ¬ l < preds.length := Nat.not_lt.mpr hl
    simp [hnot]

/-- The successors of a block add its place to their lists, if all of them have places. -/
theorem foldlM_addPred?_eq (i : ℕ) (preds : List (List ℕ)) (hnd : order.Nodup) {succs : List Int}
    (hs : ∀ s ∈ succs, s ∈ order) (hlen : preds.length = order.length) : ∃ next,
      succs.foldlM (addPred? order i) preds = some next ∧ next.length = order.length ∧
      ∀ l j, Listed next l j ↔ Listed preds l j ∨ j = i ∧ ∃ s ∈ succs, order[l]? = some s := by
  induction succs generalizing preds with
  | nil => exact ⟨preds, rfl, hlen, fun l j => by simp⟩
  | cons s succs ih =>
    rw [List.forall_mem_cons] at hs
    obtain ⟨k, hk⟩ := List.getElem?_of_mem hs.1
    obtain ⟨next, hnext, hlength, hlisted⟩ := ih (preds.modify k (appendNew i)) hs.2
      (by rw [List.length_modify, hlen])
    have hadd : addPred? order i preds s = some (preds.modify k (appendNew i)) := by
      rw [addPred?, (place?_eq_some_iff hnd).mpr hk, Option.map_some]
    refine ⟨next, ?_, hlength, fun l j => ?_⟩
    · rw [List.foldlM_cons, hadd]
      exact hnext
    · have hlk : l = k ∧ l < preds.length ↔ order[l]? = some s := by
        rw [hlen]
        constructor
        · rintro ⟨rfl, -⟩
          exact hk
        · intro hl
          have hlt := (List.getElem?_eq_some_iff.mp hl).1
          exact ⟨(List.getElem?_inj hlt hnd).mp (hl.trans hk.symm), hlt⟩
      rw [hlisted, listed_modify_iff, ← and_assoc, hlk, List.exists_mem_cons_iff]
      tauto

namespace ReversePostorder

variable (h : ReversePostorder blocks order)
include h

theorem closed (hb : b ∈ order) (hbs : Follows blocks b s) : s ∈ order :=
  h.mem_iff.mpr ((h.mem_iff.mp hb).tail hbs)

theorem place_unique (hi : order[i]? = some b) (hk : order[k]? = some b) : i = k :=
  (List.getElem?_inj (List.getElem?_eq_some_iff.mp hi).1 h.nodup).mp (hi.trans hk.symm)

theorem place?_eq_some_iff : place? order b = some i ↔ order[i]? = some b :=
  Dominance.place?_eq_some_iff h.nodup

/-- The lists of predecessors are found for the blocks of any part of the order. -/
theorem foldlM_predLists_eq (preds : List (List ℕ)) {part : List (Int × ℕ)}
    (hpart : ∀ e ∈ part, e.1 ∈ order) (hlen : preds.length = order.length) : ∃ next,
      part.foldlM (fun preds (b, i) =>
        (numbered? blocks b).bind fun block => block.succs.foldlM (addPred? order i) preds) preds =
          some next ∧ next.length = order.length ∧
      ∀ l j, Listed next l j ↔ Listed preds l j ∨
        ∃ a b, (a, j) ∈ part ∧ order[l]? = some b ∧ Follows blocks a b := by
  induction part generalizing preds with
  | nil => exact ⟨preds, rfl, hlen, fun l j => by simp⟩
  | cons e part ih =>
    obtain ⟨a, i⟩ := e
    have ha : a ∈ order := hpart _ List.mem_cons_self
    obtain ⟨block, hblock⟩ := Option.isSome_iff_exists.mp
      (numbered?_isSome_iff.mpr (h.inside ha))
    -- All successors of the first block have places, so none of its updates fails.
    obtain ⟨mid, hmid, hmidlen, hmidlisted⟩ := foldlM_addPred?_eq i preds h.nodup
      (fun s hs => h.closed ha ⟨block, hblock, hs⟩) hlen
    obtain ⟨next, hnext, hlength, hlisted⟩ := ih mid
      (fun e he => hpart e (List.mem_cons_of_mem _ he)) hmidlen
    refine ⟨next, ?_, hlength, fun l j => ?_⟩
    · rw [List.foldlM_cons]
      simp only [hblock, Option.bind_some, hmid]
      exact hnext
    · have hfollows : (∃ s ∈ block.succs, order[l]? = some s) ↔
          ∃ s, order[l]? = some s ∧ Follows blocks a s := by
        simp only [Follows, hblock, Option.some.injEq, exists_eq_left', and_comm]
      rw [hlisted, hmidlisted, hfollows]
      simp only [List.mem_cons, Prod.mk.injEq]
      constructor
      · rintro ((hl | ⟨rfl, s, hs, has⟩) | ⟨a', b, ha', hb⟩)
        · exact .inl hl
        · exact .inr ⟨a, s, .inl ⟨rfl, rfl⟩, hs, has⟩
        · exact .inr ⟨a', b, .inr ha', hb⟩
      · rintro (hl | ⟨a', b, ⟨rfl, rfl⟩ | ha', hb⟩)
        · exact .inl (.inl hl)
        · exact .inl (.inr ⟨rfl, b, hb⟩)
        · exact .inr ⟨a', b, ha', hb⟩

/-- **The lists of predecessors are found.** -/
theorem predLists?_eq : ∃ preds, predLists? blocks order = some preds ∧
    preds.length = order.length ∧
    ∀ i j, Listed preds i j ↔
      ∃ a b, order[j]? = some a ∧ order[i]? = some b ∧ Follows blocks a b := by
  have hpart : ∀ e ∈ order.zipIdx, e.1 ∈ order := fun e he => List.fst_mem_of_mem_zipIdx he
  obtain ⟨preds, hpreds, hlength, hlisted⟩ :=
    h.foldlM_predLists_eq (order.map fun _ => []) hpart (List.length_map _)
  refine ⟨preds, hpreds, hlength, fun i j => ?_⟩
  have hnone : ¬ Listed (order.map fun _ => []) i j := by
    rintro ⟨js, hjs, hj⟩
    rw [List.getElem?_map] at hjs
    obtain ⟨_, -, rfl⟩ := Option.map_eq_some_iff.mp hjs
    exact absurd hj List.not_mem_nil
  rw [hlisted, or_iff_right hnone]
  simp only [List.mem_zipIdx_iff_getElem?]

end ReversePostorder

/-! ### The work of a sweep -/

/-- The places of the predecessors of the block at a place. -/
def placePreds (blocks : List Block) (order : List Int) (i : ℕ) : List ℕ :=
  ((predLists? blocks order).bind (·[i]?)).getD []

namespace ReversePostorder

variable (h : ReversePostorder blocks order)
include h

theorem edge_placePreds_iff : Edge (placePreds blocks order) j i ↔
    ∃ a b, order[j]? = some a ∧ order[i]? = some b ∧ Follows blocks a b := by
  obtain ⟨preds, hpreds, -, hlisted⟩ := h.predLists?_eq
  rw [← hlisted, Edge, placePreds, hpreds, Option.bind_some, Listed]
  cases preds[i]? with
  | none => simp
  | some js => simp

/-- The work of a sweep is found. -/
theorem sweepWork?_eq :
    sweepWork? blocks order = some (workFrom (placePreds blocks order) order.length 1) := by
  obtain ⟨preds, hpreds, hlength, -⟩ := h.predLists?_eq
  rw [sweepWork?, hpreds, Option.bind_eq_bind, Option.bind_some, mapM_eq_some_iff,
    List.forall₂_iff_get]
  refine ⟨by simp [workFrom], fun k hk hk' => ?_⟩
  have hlt : k + 1 < order.length := by
    rw [List.length_tail] at hk
    omega
  have hplace : place? order order[k + 1] = some (k + 1) :=
    h.place?_eq_some_iff.mpr (List.getElem?_eq_getElem hlt)
  have hpreds' : preds[k + 1]? = some (placePreds blocks order (k + 1)) := by
    rw [placePreds, hpreds, Option.bind_some, List.getElem?_eq_getElem (hlength ▸ hlt),
      Option.getD_some]
  simp only [List.get_eq_getElem, List.getElem_tail, workFrom, List.getElem_map,
    List.getElem_range', hplace, Option.bind_some]
  rw [Nat.one_mul, Nat.add_comm 1 k, hpreds', Option.map_some]

end ReversePostorder

end FlowAtlas.Dominance
