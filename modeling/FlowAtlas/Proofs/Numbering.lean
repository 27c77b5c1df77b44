import FlowAtlas.Numbering

/-!
# Looking up numbered elements

Every position has a number that counts from the front. Looking up a number is looking up its
position. Where only the numbers that count from the front are meant, `counted?` looks them up.
-/

namespace FlowAtlas

variable {α : Type} {xs : List α} {x : α} {i : Int} {n k : Nat}

theorem position?_of_pos (hi : 1 ≤ i) (hn : i ≤ n) : position? n i = some (i - 1).toNat := by
  rw [position?, if_pos hi, if_pos hn]

/-- From one to the length, every number is that of an element. -/
theorem mem_numbers_of_pos (hi : 1 ≤ i) (hn : i ≤ n) : i ∈ numbers n := by
  rw [mem_numbers_iff, position?_of_pos hi hn]
  rfl

/-- The element at position `k` has the number `k + 1`. -/
theorem position?_succ (hk : k < n) : position? n (k + 1) = some k := by
  rw [position?_of_pos (by omega) (by omega)]
  simp

theorem eq_succ_of_position? (hi : 1 ≤ i) (h : position? n i = some k) : i = k + 1 := by
  rw [position?, if_pos hi] at h
  split at h
  · rw [Option.some.injEq] at h
    omega
  · exact absurd h (Option.some_ne_none k).symm

/-- Two numbers of one position that both count from the front are the same. -/
theorem position?_inj {j : Int} (hi : 1 ≤ i) (hj : 1 ≤ j) (hik : position? n i = some k)
    (hjk : position? n j = some k) : i = j :=
  (eq_succ_of_position? hi hik).trans (eq_succ_of_position? hj hjk).symm

theorem numbered?_eq_of_position? (hi : position? xs.length i = some k) :
    numbered? xs i = xs[k]? := by
  rw [numbered?, hi, Option.bind_some]

theorem numbered?_succ (hk : k < xs.length) : numbered? xs (k + 1) = some xs[k] := by
  rw [numbered?_eq_of_position? (position?_succ hk), List.getElem?_eq_getElem hk]

theorem mem_of_numbered? (h : numbered? xs i = some x) : x ∈ xs := by
  obtain ⟨k, -, hk⟩ := Option.bind_eq_some_iff.mp h
  exact List.mem_of_getElem? hk

/-- The element with a number that counts from the front. -/
def counted? {α : Type} (xs : List α) (i : Int) : Option α :=
  if 1 ≤ i then numbered? xs i else none

theorem counted?_eq_some_iff : counted? xs i = some x ↔ ∃ k : Nat, i = k + 1 ∧ xs[k]? = some x := by
  constructor
  · intro h
    rw [counted?] at h
    split at h
    · next hi =>
      obtain ⟨k, hk, hx⟩ := Option.bind_eq_some_iff.mp h
      exact ⟨k, eq_succ_of_position? hi hk, hx⟩
    · exact absurd h (Option.some_ne_none x).symm
  · rintro ⟨k, rfl, hx⟩
    obtain ⟨hk, rfl⟩ := List.getElem?_eq_some_iff.mp hx
    rw [counted?, if_pos (by omega), numbered?_succ hk]

theorem counted?_succ (k : Nat) : counted? xs (k + 1) = xs[k]? := by
  ext x
  rw [counted?_eq_some_iff]
  constructor
  · rintro ⟨l, hl, hx⟩
    obtain rfl : k = l := by omega
    exact hx
  · exact fun hx => ⟨k, rfl, hx⟩

theorem numbered?_of_counted? (h : counted? xs i = some x) : numbered? xs i = some x := by
  obtain ⟨k, rfl, hx⟩ := counted?_eq_some_iff.mp h
  rw [numbered?_eq_of_position? (position?_succ (List.getElem?_eq_some_iff.mp hx).1), hx]

theorem counted?_of_numbered? (hi : 1 ≤ i) (h : numbered? xs i = some x) :
    counted? xs i = some x := by
  rw [counted?, if_pos hi, h]

/-- The numbers that count from the front are those from one to the length. -/
theorem counted?_isSome_iff : (counted? xs i).isSome ↔ 1 ≤ i ∧ i ≤ xs.length := by
  rw [Option.isSome_iff_exists]
  constructor
  · rintro ⟨x, h⟩
    obtain ⟨k, rfl, hx⟩ := counted?_eq_some_iff.mp h
    have hk := (List.getElem?_eq_some_iff.mp hx).1
    omega
  · rintro ⟨h1, hn⟩
    obtain ⟨k, rfl⟩ : ∃ k : Nat, i = k + 1 := ⟨(i - 1).toNat, by omega⟩
    exact ⟨_, (counted?_succ k).trans (List.getElem?_eq_getElem (by omega))⟩

/-- From one to the length, every number that counts from the front has its element. -/
theorem exists_counted? (hi : 1 ≤ i) (hn : i ≤ xs.length) : ∃ x, counted? xs i = some x :=
  Option.isSome_iff_exists.mp (counted?_isSome_iff.mpr ⟨hi, hn⟩)

/-- Counting the elements of a list from one gives each the number that counts from the front. -/
theorem mem_zipIdx_one_iff : (x, k) ∈ xs.zipIdx 1 ↔ counted? xs k = some x := by
  rw [List.mk_mem_zipIdx_iff_le_and_getElem?_sub, counted?_eq_some_iff]
  constructor
  · rintro ⟨hk, hx⟩
    exact ⟨k - 1, by omega, hx⟩
  · rintro ⟨l, hl, hx⟩
    obtain rfl : k = l + 1 := by omega
    exact ⟨Nat.le_add_left 1 l, hx⟩

end FlowAtlas
