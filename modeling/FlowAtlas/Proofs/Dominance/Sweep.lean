import FlowAtlas.Proofs.Dominance.Ancestry
import FlowAtlas.Proofs.Walks

/-!
# Sweeps over places

A sweep visits the places in ascending order and gives each the join of its predecessors as its
parent. Every place but the entry has a smaller predecessor, so it is reached by an ascending walk.

The parents always lie between two kinds of domination. The ancestors of a place contain all that
dominates it, and they dominate it at least along ascending walks. The second bound is what keeps
the first when a parent is replaced: a place that loses an ancestor passes the loss on to all below
it, since these are reached from it by ascending walks around the lost ancestor.

## Main definitions

* `Edge`, `Forward`, `Ordered`.
* `Sweeping`: what holds in a sweep before a place is visited.

## Main results

* `Sweeping.put`: a visit keeps the invariant.
* `Sweeping.le_parent`: a visit moves a parent only towards the entry.
-/

namespace FlowAtlas.Dominance

variable {preds : ℕ → List ℕ} {count i j k a p q : ℕ} {parents : Parents}

/-- Control may pass from place `j` to place `i`. -/
def Edge (preds : ℕ → List ℕ) (j i : ℕ) : Prop := j ∈ preds i

/-- Control may pass from place `j` to a greater place `i`. -/
def Forward (preds : ℕ → List ℕ) (j i : ℕ) : Prop := j ∈ preds i ∧ j < i

/-- Control passes only between the first `count` places, and every one of them but the entry has a
smaller predecessor. -/
structure Ordered (preds : ℕ → List ℕ) (count : ℕ) : Prop where
  lt_count : ∀ {j i}, Edge preds j i → j < count ∧ i < count
  exists_forward : ∀ {i}, i ≠ 0 → i < count → ∃ j, Forward preds j i

theorem Ordered.exists_walk (ho : Ordered preds count) (hi : i < count) :
    ∃ via, Walk (Forward preds) 0 i via := by
  induction i using Nat.strongRecOn with
  | ind i ih =>
    by_cases h0 : i = 0
    · exact ⟨[0], h0 ▸ .here⟩
    · obtain ⟨j, hj⟩ := ho.exists_forward h0 hi
      obtain ⟨via, p⟩ := ih j hj.2 (hj.2.trans hi)
      exact ⟨_, .step p hj⟩

theorem Forward.lt {j i : ℕ} (h : Forward preds j i) : j < i := h.2

/-- What a sweep relies on before it visits place `i`. -/
structure Sweeping (preds : ℕ → List ℕ) (i : ℕ) (parents : Parents) : Prop where
  rooted : Rooted parents.parent?
  done : ∀ {k}, k < i → (parents.parent? k).isSome
  /-- The ancestors of a place dominate it along ascending walks. -/
  forward : ∀ {a k}, (parents.parent? k).isSome → Above parents.parent? a k →
    Dominates (Forward preds) 0 a k
  /-- All that dominates a place is among its ancestors. -/
  sound : ∀ {a k}, (parents.parent? k).isSome → Dominates (Edge preds) 0 a k →
    Above parents.parent? a k
  /-- No common ancestor of the predecessors of a place is greater than its parent. -/
  bound : ∀ {a k p}, k ≠ 0 → parents.parent? k = some p →
    (∀ j ∈ preds k, (parents.parent? j).isSome → Above parents.parent? a j) → a ≤ p
  /-- A place that has been visited has no more proper ancestors than its smaller predecessors. -/
  visited : ∀ {a j k}, k < i → Forward preds j k → Above parents.parent? a k → a ≠ k →
    Above parents.parent? a j

/-! ### The start of a sweep -/

theorem parent?_start (hc : 0 < count) (k : ℕ) :
    (Parents.start count).parent? k = if k = 0 then some 0 else none := by
  rw [Parents.parent?, Parents.start, Array.getElem?_setIfInBounds]
  by_cases hk : k = 0
  · simp [hk, hc]
  · simp only [Ne.symm hk, if_false, hk, Array.getElem?_replicate]
    split_ifs <;> rfl

/-- The invariant holds at the start: only the entry has a parent. -/
theorem Sweeping.start (preds : ℕ → List ℕ) (hc : 0 < count) :
    Sweeping preds 1 (Parents.start count) := by
  have hsome : ∀ {k}, ((Parents.start count).parent? k).isSome → k = 0 := by
    intro k hk
    rw [parent?_start hc] at hk
    split_ifs at hk with h0
    · exact h0
    · cases hk
  have hroot : Rooted (Parents.start count).parent? := by
    refine ⟨by rw [parent?_start hc, if_pos rfl], fun hk hp => ?_, fun {k p} hp => ?_⟩
    · exact absurd (hsome (Option.isSome_of_mem hp)) hk
    · rw [parent?_start hc] at hp
      split_ifs at hp
      cases hp
      rw [parent?_start hc, if_pos rfl]
      rfl
  constructor
  · exact hroot
  · intro k hk
    rw [Nat.lt_one_iff.mp hk, parent?_start hc, if_pos rfl]
    rfl
  · intro a k hk ha
    have hk0 := hsome hk
    subst hk0
    rw [Nat.le_zero.mp (hroot.le ha)]
    exact .refl 0 0
  · intro a k hk ha
    have hk0 := hsome hk
    subst hk0
    rw [List.mem_singleton.mp (ha _ .here)]
    exact .refl 0
  · exact fun hk hp _ => absurd (hsome (Option.isSome_of_mem hp)) hk
  · intro a j k hk hj
    exact absurd hj.lt (by omega)

namespace Sweeping

/-- A sweep that has visited all places can be followed by another one. -/
theorem restart (h : Sweeping preds i parents) (hi : 1 ≤ i) : Sweeping preds 1 parents :=
  { h with
    done := fun hk => h.done (hk.trans_le hi)
    visited := fun hk => h.visited (hk.trans_le hi) }

/-! ### A visit -/

variable (ho : Ordered preds count) (h : Sweeping preds i parents) (h0 : i ≠ 0)
  (hi : i < count) (hq : Joins parents (preds i) q)

include h in
theorem isSome_of_forward (hj : Forward preds j i) : (parents.parent? j).isSome :=
  h.done hj.lt

include ho h h0 hi in
theorem proposal?_eq : ∃ q, proposal? parents (preds i) = some q ∧ Joins parents (preds i) q := by
  obtain ⟨j, hj⟩ := ho.exists_forward h0 hi
  exact h.rooted.proposal?_eq hj.1 (h.isSome_of_forward hj)

include h hq in
/-- The join of the predecessors is an ancestor of each from which control passes forward. -/
theorem above_of_forward (hj : Forward preds j i) : Above parents.parent? q j :=
  (hq q).mp (.refl q) j hj.1 (h.isSome_of_forward hj)

include ho h h0 hi hq in
theorem join_lt : q < i := by
  obtain ⟨j, hj⟩ := ho.exists_forward h0 hi
  exact (h.rooted.le (h.above_of_forward hq hj)).trans_lt hj.lt

include ho h h0 hi hq in
theorem isSome_join : (parents.parent? q).isSome :=
  h.done (h.join_lt ho h0 hi hq)

include h hq in
/-- A visit moves a parent only towards the entry. -/
theorem le_parent (h0 : i ≠ 0) (hp : parents.parent? i = some p) : q ≤ p :=
  h.bound h0 hp ((hq q).mp (.refl q))

include h h0 hq in
/-- What the join of the predecessors has above it dominates the visited place along ascending
walks. -/
theorem forward_of_above_join (ha : Above parents.parent? a q) :
    Dominates (Forward preds) 0 a i := by
  refine .of_forall_step h0 fun j hj => ?_
  exact h.forward (h.isSome_of_forward hj) ((hq a).mp ha j hj.1 (h.isSome_of_forward hj))

include hq h in
/-- All that dominates the visited place, itself apart, is above the join of the predecessors. -/
theorem above_join_of_dominates (ha : Dominates (Edge preds) 0 a i) (hne : a ≠ i) :
    Above parents.parent? a q :=
  (hq a).mpr fun _ hj hs => h.sound hs (ha.of_step hj hne)

include ho h h0 hi hq in
/-- The join of the predecessors is an ancestor of the visited place already, if that has a parent:
it is not below the parent, the parent is met on the way to a predecessor, and the places that the
sweep has visited keep no ancestor that one of them has lost. -/
theorem above_of_isSome (hs : (parents.parent? i).isSome) : Above parents.parent? q i := by
  obtain ⟨p, hp⟩ := Option.isSome_iff_exists.mp hs
  have hqp : q ≤ p := h.le_parent hq h0 hp
  have hpi : Above parents.parent? p i := .of_parent hp
  obtain ⟨via, w⟩ := ho.exists_walk hi
  have hvia : p ∈ via := h.forward hs hpi via w
  cases w with
  | here => exact absurd rfl h0
  | @step j _ via w hj =>
    have hpvia : p ∈ via := by
      rcases List.mem_append.mp hvia with hmem | hmem
      · exact hmem
      · exact absurd (h.rooted.lt h0 hp) (by rw [List.mem_singleton.mp hmem]; exact lt_irrefl i)
    -- From the predecessor back to the parent, every place still has the join above it.
    have hqp' : Above parents.parent? q p := by
      refine w.descend (fun _ _ h => h.lt) hpvia (fun b c hbc hpc hcj hqc => ?_)
        (h.above_of_forward hq hj)
      exact h.visited (hcj.trans_lt hj.lt) hbc hqc (hqp.trans_lt hpc).ne
    exact hqp'.trans hpi

include ho h in
/-- All that dominates a place but is smaller than one of its ancestors dominates that ancestor: the
ancestor is met on an ascending walk, which goes around what is smaller. -/
theorem dominates_of_above (hs : (parents.parent? k).isSome) (hk : k < count)
    (hik : Above parents.parent? i k) (hai : a < i) (ha : Dominates (Edge preds) 0 a k) :
    Dominates (Edge preds) 0 a i := by
  obtain ⟨via, w⟩ := ho.exists_walk hk
  refine w.descend (fun _ _ h => h.lt) (h.forward hs hik via w) (fun b c hbc hic _ hac => ?_) ha
  exact hac.of_step hbc.1 (hai.trans hic).ne

section Put

variable (hc : parents.size = count)

include hc hi in
theorem isSome_put (hs : (parents.parent? k).isSome) : ((parents.put i q).parent? k).isSome := by
  rw [Parents.parent?_put (hc ▸ hi)]
  split_ifs
  · rfl
  · exact hs

include hc hi in
theorem isSome_of_put (hs : ((parents.put i q).parent? k).isSome) (hki : k ≠ i) :
    (parents.parent? k).isSome := by
  rwa [Parents.parent?_put (hc ▸ hi), if_neg hki] at hs

include ho h h0 hi hq hc in
theorem above_of_put (hs : (parents.parent? k).isSome)
    (ha : Above (parents.put i q).parent? a k) : Above parents.parent? a k := by
  rcases h.rooted.above_of_put (hc ▸ hi) (h.join_lt ho h0 hi hq) ha with ha | ⟨hik, ha⟩
  · exact ha
  · have his := h.rooted.isSome_of_above hik hs
    exact (ha.trans (h.above_of_isSome ho h0 hi hq his)).trans hik

include ho h h0 hi hq hc in
theorem above_put_self_iff :
    Above (parents.put i q).parent? a i ↔ a = i ∨ Above parents.parent? a q :=
  h.rooted.above_put_self_iff (hc ▸ hi) h0 (h.join_lt ho h0 hi hq)

include ho h h0 hi hq hc in
theorem forward_put (hs : ((parents.put i q).parent? k).isSome)
    (ha : Above (parents.put i q).parent? a k) : Dominates (Forward preds) 0 a k := by
  by_cases hki : k = i
  · subst hki
    rcases (h.above_put_self_iff ho h0 hi hq hc).mp ha with rfl | ha
    · exact .refl 0 a
    · exact h.forward_of_above_join h0 hq ha
  · have hs := isSome_of_put hi hc hs hki
    rcases h.rooted.above_of_put (hc ▸ hi) (h.join_lt ho h0 hi hq) ha with ha | ⟨hik, ha⟩
    · exact h.forward hs ha
    · exact (h.forward_of_above_join h0 hq ha).trans (h.forward hs hik)

include ho h h0 hi hq hc in
theorem sound_put (hs : ((parents.put i q).parent? k).isSome)
    (ha : Dominates (Edge preds) 0 a k) : Above (parents.put i q).parent? a k := by
  by_cases hki : k = i
  · subst hki
    rw [h.above_put_self_iff ho h0 hi hq hc]
    exact or_iff_not_imp_left.mpr (h.above_join_of_dominates hq ha)
  · have hs := isSome_of_put hi hc hs hki
    rcases h.rooted.above_put (hc ▸ hi) h0 (h.sound hs ha) with ha' | ⟨hik, hai, -⟩
    · exact ha'
    · have hai' := h.dominates_of_above ho hs (hc ▸ Parents.lt_size hs) hik hai ha
      exact h.rooted.above_put_of_above (hc ▸ hi) h0 (h.join_lt ho h0 hi hq) hik
        (h.above_join_of_dominates hq hai' hai.ne)

include ho h h0 hi hq hc in
/-- **A visit keeps the invariant.** -/
theorem put : Sweeping preds (i + 1) (parents.put i q) := by
  have hlt : q < i := h.join_lt ho h0 hi hq
  have hsize : i < parents.size := hc ▸ hi
  constructor
  case rooted => exact h.rooted.put hsize h0 hlt (h.isSome_join ho h0 hi hq)
  case done =>
    intro k hk
    rw [Parents.parent?_put hsize]
    split_ifs with hki
    · rfl
    · exact h.done (by omega)
  case forward => exact h.forward_put ho h0 hi hq hc
  case sound => exact h.sound_put ho h0 hi hq hc
  case bound =>
    intro a k p hk hp hcommon
    -- A visit gives no place with a parent a new ancestor, so these were common before it.
    have hcommon' : ∀ j ∈ preds k, (parents.parent? j).isSome → Above parents.parent? a j :=
      fun j hj hs => h.above_of_put ho h0 hi hq hc hs (hcommon j hj (isSome_put hi hc hs))
    rw [Parents.parent?_put hsize] at hp
    split_ifs at hp with hki
    · cases hp
      exact h.rooted.le ((hq a).mpr (hki ▸ hcommon'))
    · exact h.bound hk hp hcommon'
  case visited =>
    intro a j k hk hj ha hne
    have hji : j < i := hj.lt.trans_le (Nat.le_of_lt_succ hk)
    rw [h.rooted.above_put_iff_of_lt hsize h0 hlt hji]
    by_cases hki : k = i
    · subst hki
      have haq := ((h.above_put_self_iff ho h0 hi hq hc).mp ha).resolve_left hne
      exact haq.trans (h.above_of_forward hq hj)
    · have hki : k < i := by omega
      exact h.visited hki hj ((h.rooted.above_put_iff_of_lt hsize h0 hlt hki).mp ha) hne

end Put

end Sweeping

end FlowAtlas.Dominance
