import FlowAtlas.Proofs.Dominance.Climb

/-!
# Ancestors of places

The parents found so far form a tree over some of the places: the entry is its own parent, and the
parent of any other place is a smaller one. The ancestors of a place are those that its parents
lead to, the place itself included. Two places climb to their nearest common ancestor, and a list of
places is joined to one whose ancestors are the common ones of all that have a parent.

## Main definitions

* `Above`, `Rooted`, `Joins`.

## Main results

* `Rooted.intersect?_eq`: the nearest common ancestor is found.
* `Rooted.proposal?_eq`: the parent proposed for a place joins its predecessors.
* `Rooted.above_put`, `Rooted.above_of_put`: the ancestors after one parent is replaced.
-/

namespace FlowAtlas.Dominance

open Relation

/-- A place `a` is an ancestor of `b`: it is `b`, or the parents lead from `b` to it. -/
def Above (parent : ℕ → Option ℕ) (a b : ℕ) : Prop :=
  ReflTransGen (fun k p => parent k = some p) b a

/-- The parents form a tree: the entry is its own parent, and every other place that has a parent
has a smaller one, which has a parent too. -/
structure Rooted (parent : ℕ → Option ℕ) : Prop where
  entry : parent 0 = some 0
  lt : ∀ {k p}, k ≠ 0 → parent k = some p → p < k
  closed : ∀ {k p}, parent k = some p → (parent p).isSome

namespace Above

variable {parent : ℕ → Option ℕ} {a b c p : ℕ}

@[simp] theorem refl (a : ℕ) : Above parent a a := ReflTransGen.refl

theorem trans (hab : Above parent a b) (hbc : Above parent b c) : Above parent a c :=
  ReflTransGen.trans hbc hab

theorem of_parent (hp : parent b = some p) : Above parent p b :=
  ReflTransGen.single hp

/-- The ancestors of a place with a parent are itself and those of its parent. -/
theorem iff_of_parent (hp : parent b = some p) : Above parent a b ↔ a = b ∨ Above parent a p :=
  chain_iff_of_parent hp

end Above

namespace Rooted

variable {parent : ℕ → Option ℕ} {a b c q : ℕ}

theorem ranked (hr : Rooted parent) : Ranked id parent 0 where
  root_eq := hr.entry
  root_le := fun _ => Nat.zero_le _
  lt := fun hk hp => hr.lt hk hp
  closed := fun hp => hr.closed hp
  injective := fun _ _ heq => heq

theorem le (hr : Rooted parent) (h : Above parent a b) : a ≤ b :=
  hr.ranked.le_of_chain h

theorem le_self (hr : Rooted parent) {k p : ℕ} (hp : parent k = some p) : p ≤ k :=
  hr.le (.of_parent hp)

theorem isSome_of_above (hr : Rooted parent) (h : Above parent a b) (hb : (parent b).isSome) :
    (parent a).isSome := by
  induction h with
  | refl => exact hb
  | tail _ hp => exact hr.closed hp

/-! ### Nearest common ancestors -/

/-- The climb of two places that have parents ends at their nearest common ancestor: a common
ancestor below all the others. -/
theorem intersect?_eq (hr : Rooted parent) (ha : (parent a).isSome) (hb : (parent b).isSome) :
    ∃ c, intersect? parent a b = some c ∧
      ∀ x, Above parent x c ↔ Above parent x a ∧ Above parent x b := by
  obtain ⟨c, hc, -, habove⟩ := hr.ranked.intersect?_eq (fun _ _ hp => hp) ha hb
  exact ⟨c, hc, habove⟩

/-- Joining a list of places to one of which all have parents gives the place with their common
ancestors. -/
theorem foldlM_intersect? (hr : Rooted parent) (others : List ℕ)
    (ho : ∀ j ∈ others, (parent j).isSome) (ha : (parent a).isSome) :
    ∃ q, others.foldlM (fun found p => intersect? parent p found) a = some q ∧
      ∀ x, Above parent x q ↔ Above parent x a ∧ ∀ j ∈ others, Above parent x j := by
  induction others generalizing a with
  | nil => exact ⟨a, rfl, fun x => by simp⟩
  | cons j others ih =>
    have hj := ho j List.mem_cons_self
    obtain ⟨c, hc, hcx⟩ := hr.intersect?_eq hj ha
    have hcs : (parent c).isSome := hr.isSome_of_above ((hcx c).mp (.refl c)).1 hj
    obtain ⟨q, hq, hqx⟩ := ih (fun k hk => ho k (List.mem_cons_of_mem j hk)) hcs
    refine ⟨q, by rw [List.foldlM_cons, hc]; exact hq, fun x => ?_⟩
    rw [hqx, hcx, List.forall_mem_cons, and_assoc, and_left_comm]

end Rooted

/-- A place `q` joins a list of places: its ancestors are the common ancestors of those places of
the list that have a parent. -/
def Joins (parents : Parents) (preds : List ℕ) (q : ℕ) : Prop :=
  ∀ a, Above parents.parent? a q ↔
    ∀ j ∈ preds, (parents.parent? j).isSome → Above parents.parent? a j

/-- The parent that is proposed for a place joins its predecessors, if some of them has a parent. -/
theorem Rooted.proposal?_eq {parents : Parents} (hr : Rooted parents.parent?) {preds : List ℕ}
    {j : ℕ} (hj : j ∈ preds) (hs : (parents.parent? j).isSome) :
    ∃ q, proposal? parents preds = some q ∧ Joins parents preds q := by
  have hmem : j ∈ preds.filter fun p => (parents.parent? p).isSome := List.mem_filter.mpr ⟨hj, hs⟩
  have hall : ∀ x, (∀ i ∈ preds, (parents.parent? i).isSome → Above parents.parent? x i) ↔
      ∀ i ∈ preds.filter fun p => (parents.parent? p).isSome, Above parents.parent? x i := by
    simp only [List.mem_filter, and_imp, implies_true]
  simp only [Joins, hall]
  have hfilter : ∀ i ∈ preds.filter fun p => (parents.parent? p).isSome,
      (parents.parent? i).isSome := fun i hi => (List.mem_filter.mp hi).2
  rw [proposal?]
  cases hd : preds.filter fun p => (parents.parent? p).isSome with
  | nil => rw [hd] at hmem; cases hmem
  | cons first others =>
    rw [hd, List.forall_mem_cons] at hfilter
    obtain ⟨q, hq, hqx⟩ := hr.foldlM_intersect? others hfilter.2 hfilter.1
    exact ⟨q, hq, fun x => by rw [hqx, List.forall_mem_cons]⟩

/-! ### Replacing a parent -/

namespace Parents

@[simp] theorem size_put (parents : Parents) (i p : ℕ) : (parents.put i p).size = parents.size := by
  simp [put]

theorem parent?_put {parents : Parents} {i : ℕ} (hi : i < parents.size) (p k : ℕ) :
    (parents.put i p).parent? k = if k = i then some p else parents.parent? k := by
  rw [parent?, put, Array.getElem?_setIfInBounds]
  by_cases h : i = k
  · subst h
    simp [hi]
  · simp [h, Ne.symm h, parent?]

theorem lt_size {parents : Parents} {k : ℕ} (h : (parents.parent? k).isSome) :
    k < parents.size := by
  by_contra hk
  simp [parent?, Array.getElem?_eq_none (not_lt.mp hk)] at h

end Parents

namespace Rooted

variable {parents : Parents} {i q a k : ℕ} (hr : Rooted parents.parent?) (hi : i < parents.size)
  (h0 : i ≠ 0) (hq : q < i)

include hr hi h0 hq in
/-- The parents still form a tree when one is replaced by a smaller place with a parent. -/
theorem put (hqs : (parents.parent? q).isSome) : Rooted (parents.put i q).parent? := by
  have hsome : ∀ {k}, (parents.parent? k).isSome → ((parents.put i q).parent? k).isSome := by
    intro k hk
    rw [Parents.parent?_put hi]
    split_ifs
    · rfl
    · exact hk
  constructor
  · rw [Parents.parent?_put hi, if_neg h0.symm]
    exact hr.entry
  · intro k p hk hp
    rw [Parents.parent?_put hi] at hp
    split_ifs at hp with hki
    · cases hp
      exact hki ▸ hq
    · exact hr.lt hk hp
  · intro k p hp
    rw [Parents.parent?_put hi] at hp
    split_ifs at hp with hki
    · cases hp
      exact hsome hqs
    · exact hsome (hr.closed hp)

include hr hi hq in
/-- An ancestor under the new parents is one under the old, unless it is reached by the parent that
was put in. -/
theorem above_of_put (h : Above (parents.put i q).parent? a k) :
    Above parents.parent? a k ∨ Above parents.parent? i k ∧ Above parents.parent? a q := by
  induction h with
  | refl => exact .inl (.refl k)
  | @tail b c _ hp ih =>
    rw [Parents.parent?_put hi] at hp
    split_ifs at hp with hbi
    · cases hp
      rcases ih with ih | ⟨-, ih⟩
      · exact .inr ⟨hbi ▸ ih, .refl q⟩
      · exact absurd (hr.le ih) (by omega)
    · rcases ih with ih | ⟨hik, ih⟩
      · exact .inl ((Above.of_parent hp).trans ih)
      · exact .inr ⟨hik, (Above.of_parent hp).trans ih⟩

include hr hi h0 in
/-- An ancestor under the old parents is one under the new, unless it is reached by the parent that
was replaced. -/
theorem above_put (h : Above parents.parent? a k) : Above (parents.put i q).parent? a k ∨
    Above parents.parent? i k ∧ a < i ∧ Above parents.parent? a i := by
  induction h with
  | refl => exact .inl (.refl k)
  | @tail b c hb hp ih =>
    rcases ih with ih | ⟨hik, hlt, ih⟩
    · by_cases hbi : b = i
      · subst hbi
        exact .inr ⟨hb, hr.lt h0 hp, .of_parent hp⟩
      · have hp' : (parents.put i q).parent? b = some c := by
          rw [Parents.parent?_put hi, if_neg hbi, hp]
        exact .inl ((Above.of_parent hp').trans ih)
    · exact .inr ⟨hik, (hr.le_self hp).trans_lt hlt, (Above.of_parent hp).trans ih⟩

include hr hi h0 hq in
/-- The new ancestors of all that had the place among theirs are those of the parent put in. -/
theorem above_put_of_above (hik : Above parents.parent? i k) (ha : Above parents.parent? a q) :
    Above (parents.put i q).parent? a k := by
  have hiq : (parents.put i q).parent? i = some q := by
    rw [Parents.parent?_put hi, if_pos rfl]
  have hak : Above (parents.put i q).parent? i k := by
    rcases hr.above_put hi h0 hik with h | ⟨-, hlt, -⟩
    · exact h
    · exact absurd hlt (lt_irrefl i)
  have haq : Above (parents.put i q).parent? a q := by
    rcases hr.above_put hi h0 ha with h | ⟨h, -⟩
    · exact h
    · exact absurd (hr.le h) (not_le.mpr hq)
  exact (haq.trans (.of_parent hiq)).trans hak

include hr hi h0 hq in
theorem above_put_iff_of_lt (hk : k < i) :
    Above (parents.put i q).parent? a k ↔ Above parents.parent? a k := by
  have hik : ¬ Above parents.parent? i k := fun h => absurd (hr.le h) (not_le.mpr hk)
  constructor
  · intro h
    exact (hr.above_of_put hi hq h).resolve_right fun h' => hik h'.1
  · intro h
    exact (hr.above_put hi h0 h).resolve_right fun h' => hik h'.1

include hr hi h0 hq in
theorem above_put_self_iff :
    Above (parents.put i q).parent? a i ↔ a = i ∨ Above parents.parent? a q := by
  have hiq : (parents.put i q).parent? i = some q := by
    rw [Parents.parent?_put hi, if_pos rfl]
  rw [Above.iff_of_parent hiq, hr.above_put_iff_of_lt hi h0 hq hq]

end Rooted

end FlowAtlas.Dominance
