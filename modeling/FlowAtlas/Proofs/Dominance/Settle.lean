import FlowAtlas.Proofs.Dominance.Sweep

/-!
# Sweeps until nothing changes

A sweep either changes nothing or moves some parent towards the entry, so the sweeps come to an end.
Where nothing changes, the parent of every place joins its predecessors, and then the ancestors of a
place are exactly the places that dominate it.

## Main results

* `Sweeping.sweep?_eq`: a sweep keeps the invariant and lowers the parents unless they are settled.
* `settle?_eq`: the sweeps end with settled parents.
* `Settled.above_iff`: under settled parents the ancestors are the dominators.
-/

namespace FlowAtlas.Dominance

variable {preds : ℕ → List ℕ} {count i k a q : ℕ} {parents : Parents}

/-! ### The height of the parents -/

private theorem foldr_set_lt {n i q : ℕ} {l : List (Option ℕ)} {old : Option ℕ}
    (hi : l[i]? = some old) (hq : q < old.getD n) :
    (l.set i (some q)).foldr (fun p total => p.getD n + total) 0 <
      l.foldr (fun p total => p.getD n + total) 0 := by
  induction l generalizing i with
  | nil => simp at hi
  | cons p l ih =>
    cases i with
    | zero =>
      obtain rfl : p = old := by simpa using hi
      simpa using hq
    | succ i =>
      have := ih (by simpa using hi)
      simpa using this

theorem Parents.height_put_lt (hi : i < parents.size)
    (hq : q < (parents.parent? i).getD parents.size) :
    (parents.put i q).height < parents.height := by
  have hget : parents.toList[i]? = some parents[i] := by simp [hi]
  have hq' : q < (parents[i]).getD parents.size := by
    simpa [parent?, hi] using hq
  rw [height, height, size_put, put, Array.toList_setIfInBounds]
  exact foldr_set_lt hget hq'

theorem Parents.put_eq_self (hp : parents.parent? i = some q) : parents.put i q = parents := by
  have hpi : parents[i]? = some (some q) := Option.join_eq_some_iff.mp hp
  have hi : i < parents.size := lt_size (hp ▸ rfl)
  refine Array.ext_getElem? fun k => ?_
  rw [put, Array.getElem?_setIfInBounds]
  split_ifs with hik
  · rw [← hik, hpi]
  · rfl

/-! ### One sweep -/

/-- The places from `i` on, each with its predecessors. -/
def workFrom (preds : ℕ → List ℕ) (count i : ℕ) : List (ℕ × List ℕ) :=
  (List.range' i (count - i)).map fun k => (k, preds k)

theorem workFrom_eq_cons (preds : ℕ → List ℕ) (hi : i < count) :
    workFrom preds count i = (i, preds i) :: workFrom preds count (i + 1) := by
  rw [workFrom, workFrom, Nat.sub_add_eq, ← Nat.succ_pred_eq_of_pos (Nat.sub_pos_of_lt hi)]
  rfl

/-- The parent of every place from `i` on joins the predecessors of the place. -/
def SettledFrom (preds : ℕ → List ℕ) (count i : ℕ) (parents : Parents) : Prop :=
  ∀ k, i ≤ k → k < count → ∃ q, parents.parent? k = some q ∧ Joins parents (preds k) q

/-- A visit that changes a parent lowers the parents. -/
theorem Sweeping.height_put_lt (ho : Ordered preds count) (h : Sweeping preds i parents)
    (h0 : i ≠ 0) (hi : i < count) (hc : parents.size = count) (hq : Joins parents (preds i) q)
    (hp : parents.parent? i ≠ some q) : (parents.put i q).height < parents.height := by
  refine Parents.height_put_lt (hc ▸ hi) ?_
  cases hpi : parents.parent? i with
  | none => exact (h.join_lt ho h0 hi hq).trans (hc ▸ hi)
  | some p =>
    refine lt_of_le_of_ne (h.le_parent hq h0 hpi) fun hqp => hp ?_
    rw [hpi, hqp]
    rfl

/-- A sweep keeps the invariant, and it lowers the parents unless all of them are settled. -/
theorem Sweeping.sweep?_eq (ho : Ordered preds count) (h : Sweeping preds i parents) (h0 : i ≠ 0)
    (hi : i ≤ count) (hc : parents.size = count) :
    ∃ next, sweep? (workFrom preds count i) parents = some next ∧ next.size = count ∧
      Sweeping preds count next ∧
      (next.height < parents.height ∨ next = parents ∧ SettledFrom preds count i parents) := by
  -- By induction on the number of places still to visit, with the invariant for those behind.
  induction hn : count - i generalizing i parents with
  | zero =>
    have hic : i = count := by omega
    subst hic
    refine ⟨parents, by rw [workFrom, Nat.sub_self]; rfl, hc, h, .inr ⟨rfl, ?_⟩⟩
    intro k hk hk'
    omega
  | succ n ih =>
    have hlt : i < count := by omega
    obtain ⟨q, hprop, hq⟩ := h.proposal?_eq ho h0 hlt
    obtain ⟨next, hnext, hsize, hs, hheight⟩ := ih (h.put ho h0 hlt hq hc) (by omega) hlt
      (by rw [Parents.size_put, hc]) (by omega)
    refine ⟨next, ?_, hsize, hs, ?_⟩
    · rw [workFrom_eq_cons preds hlt, sweep?, List.foldlM_cons]
      simp only [hprop, Option.map_some]
      exact hnext
    · -- A visit that keeps the parent leaves all as it was; any other makes progress for good.
      by_cases hp : parents.parent? i = some q
      · rw [Parents.put_eq_self hp] at hheight
        refine hheight.imp_right fun ⟨heq, hset⟩ => ⟨heq, fun k hk hk' => ?_⟩
        rcases hk.eq_or_lt with rfl | hk
        · exact ⟨q, hp, hq⟩
        · exact hset k hk hk'
      · left
        have hlower := h.height_put_lt ho h0 hlt hc hq hp
        rcases hheight with hlt' | ⟨rfl, -⟩
        · exact hlt'.trans hlower
        · exact hlower

/-! ### All sweeps -/

/-- All places have parents, and nothing is left to change. -/
structure Settled (preds : ℕ → List ℕ) (count : ℕ) (parents : Parents) : Prop where
  sweeping : Sweeping preds count parents
  joins : SettledFrom preds count 1 parents

/-- The sweeps end with settled parents. -/
theorem Sweeping.settle?_eq (ho : Ordered preds count) (h : Sweeping preds 1 parents)
    (hpos : 1 ≤ count) (hc : parents.size = count) :
    ∃ final, settle? (workFrom preds count 1) parents = some final ∧ Settled preds count final := by
  -- Each sweep but the last lowers the parents, so the test that `settle?` makes never stops it.
  induction hn : parents.height using Nat.strongRecOn generalizing parents with
  | ind n ih =>
    obtain ⟨next, hnext, hsize, hs, hheight⟩ := h.sweep?_eq ho Nat.one_ne_zero hpos hc
    rw [settle?, hnext]
    by_cases heq : next = parents
    · subst heq
      refine ⟨next, if_pos rfl, hs, ?_⟩
      exact (hheight.resolve_left (lt_irrefl _)).2
    · have hlt : next.height < parents.height := hheight.resolve_right fun h => heq h.1
      obtain ⟨final, hfinal, hset⟩ := ih next.height (hn ▸ hlt) (hs.restart hpos) hsize rfl
      refine ⟨final, ?_, hset⟩
      simp only [heq, if_false, hlt, if_true, hfinal]

theorem settle?_eq (ho : Ordered preds count) (hpos : 1 ≤ count) :
    ∃ final, settle? (workFrom preds count 1) (.start count) = some final ∧
      Settled preds count final :=
  (Sweeping.start preds hpos).settle?_eq ho hpos (by simp [Parents.start])

namespace Settled

theorem mem_of_above (ho : Ordered preds count) (h : Settled preds count parents) {via : List ℕ}
    (w : Walk (Edge preds) 0 k via) (ha : Above parents.parent? a k) : a ∈ via := by
  induction w with
  | here => exact List.mem_singleton.mpr (Nat.le_zero.mp (h.sweeping.rooted.le ha))
  | @step j k via w hj ih =>
    obtain ⟨hjc, hkc⟩ := ho.lt_count hj
    by_cases hak : a = k
    · exact List.mem_append_right _ (List.mem_singleton.mpr hak)
    · have hk : k ≠ 0 := fun hk => hak (by have := h.sweeping.rooted.le ha; omega)
      obtain ⟨q, hp, hq⟩ := h.joins k (Nat.one_le_iff_ne_zero.mpr hk) hkc
      have haq := ((Above.iff_of_parent hp).mp ha).resolve_left hak
      exact List.mem_append_left _ (ih ((hq a).mp haq j hj (h.sweeping.done hjc)))

/-- **Under settled parents the ancestors of a place are the places that dominate it.** -/
theorem above_iff (ho : Ordered preds count) (h : Settled preds count parents) (hk : k < count) :
    Above parents.parent? a k ↔ Dominates (Edge preds) 0 a k :=
  ⟨fun ha _ w => h.mem_of_above ho w ha, h.sweeping.sound (h.sweeping.done hk)⟩

end Settled

end FlowAtlas.Dominance
