/-!
# Numbered lists

Statements and blocks are numbered from one. Zero and the negative numbers also name elements: they
count back from the end, so that zero is the last element and one less than it the last but one. A
list of `n` elements thus has the numbers from `1 - n` to `n`.
-/

namespace FlowAtlas

/-- The position, counted from zero, of the element with a number in a list of a given length. -/
def position? (length : Nat) (i : Int) : Option Nat :=
  if 1 ≤ i then
    if i ≤ length then some (i - 1).toNat else none
  else if 1 - (length : Int) ≤ i then some (i - 1 + length).toNat
  else none

/-- The element with a number. -/
def numbered? {α : Type} (xs : List α) (i : Int) : Option α :=
  (position? xs.length i).bind (xs[·]?)

/-- All numbers of the elements of a list of a given length. -/
def numbers (length : Nat) : List Int :=
  (List.range (2 * length)).map fun (k : Nat) => (k : Int) + 1 - length

theorem position?_lt {length k : Nat} {i : Int} (h : position? length i = some k) :
    k < length := by
  grind [position?]

theorem position?_eq_none_iff {length : Nat} {i : Int} :
    position? length i = none ↔ i < 1 - length ∨ length < i := by
  grind [position?]

/-- A number has a position exactly when it is among the numbers of the list. -/
theorem mem_numbers_iff {length : Nat} {i : Int} :
    i ∈ numbers length ↔ (position? length i).isSome := by
  constructor
  · intro h
    obtain ⟨k, hk, rfl⟩ := List.mem_map.1 h
    grind [position?]
  · intro h
    refine List.mem_map.2 ⟨(i + length - 1).toNat, ?_, ?_⟩ <;> grind [position?]

theorem numbered?_isSome_iff {α : Type} {xs : List α} {i : Int} :
    (numbered? xs i).isSome ↔ i ∈ numbers xs.length := by
  rw [mem_numbers_iff, numbered?]
  cases h : position? xs.length i with
  | none => simp
  | some k => simp [List.getElem?_eq_getElem (position?_lt h)]

/-- From one to the length, numbers count from the front. -/
theorem numbered?_of_pos {α : Type} {xs : List α} {i : Int} (one : 1 ≤ i) (le : i ≤ xs.length) :
    numbered? xs i = xs[(i - 1).toNat]? := by
  simp [numbered?, position?, one, le]

end FlowAtlas
