import FlowAtlas.Text.Blank
import FlowAtlas.Text.Digit
import Mathlib.Data.List.Basic

/-!
# Written numbers

A natural number is written in the digits of the Latin script. These are decimal digits with the
values that they have in any reading, so that the number that is read back is the one that was
written. A blank is no digit of any script.

## Main results

* `digitValue?_of_isDigit`: the values of the digits of the Latin script.
* `isDecimalDigit_of_isBlank`: a blank is no digit.
* `decimalValue_toDigits`: a written number is read back.
* `toString_inj`: an integer is told by how it is written.
-/

namespace FlowAtlas.Text

variable {c : Char} {cs : List Char}

/-- The digits of the Latin script are the first run of ten. -/
theorem digitValue?_of_isDigit (h : c.isDigit) : digitValue? c = some (c.toNat - 48) := by
  have hrange : 48 ≤ c.toNat ∧ c.toNat < 58 := by
    rw [Char.isDigit, Bool.and_eq_true, decide_eq_true_eq, decide_eq_true_eq] at h
    exact ⟨h.1, Nat.lt_succ_of_le h.2⟩
  rw [digitValue?, decimalZeros, List.find?_cons_of_pos (by simpa using hrange), Option.map_some]

theorem isDecimalDigit_of_isDigit (h : c.isDigit) : isDecimalDigit c := by
  rw [isDecimalDigit, digitValue?_of_isDigit h, Option.isSome_some]

theorem isDecimalDigit_newline : isDecimalDigit '\n' = false := by
  decide

/-- A blank is in none of the ranges that lie apart from those of the blanks. -/
theorem not_mem_range_of_isBlank {first last : ℕ} (hc : isBlank c)
    (hapart : ∀ r ∈ blankRanges, last < r.1 ∨ r.2 < first) :
    ¬ (first ≤ c.toNat ∧ c.toNat ≤ last) := by
  obtain ⟨r, hr, hbounds⟩ := List.any_eq_true.mp hc
  simp only [Bool.and_eq_true, decide_eq_true_eq] at hbounds
  have := hapart r hr
  omega

theorem isDecimalDigit_of_isBlank (hc : isBlank c) : isDecimalDigit c = false := by
  have hapart : ∀ z ∈ decimalZeros, ∀ r ∈ blankRanges, z + 9 < r.1 ∨ r.2 < z := by decide
  rw [isDecimalDigit, digitValue?, Option.isSome_map, ← Bool.not_eq_true, List.find?_isSome]
  rintro ⟨z, hz, hdigit⟩
  simp only [Bool.and_eq_true, decide_eq_true_eq] at hdigit
  exact not_mem_range_of_isBlank hc (hapart z hz) (by omega)

/-- Reading digits of the Latin script as decimal digits reads the number that they write. -/
theorem decimalValue_eq_ofDigitChars (h : ∀ c ∈ cs, c.isDigit) :
    decimalValue cs = Nat.ofDigitChars 10 cs 0 := by
  rw [decimalValue, Nat.ofDigitChars_eq_foldl]
  refine List.foldl_ext _ _ _ fun n c hc => ?_
  rw [digitValue?_of_isDigit (h c hc), Option.getD_some]
  rfl

/-- A written number is read back. -/
theorem decimalValue_toDigits (n : ℕ) : decimalValue (Nat.toDigits 10 n) = n := by
  rw [decimalValue_eq_ofDigitChars fun c hc => Nat.isDigit_of_mem_toDigits (by omega) (by omega) hc,
    Nat.ofDigitChars_ten_toDigits]

theorem toList_toString (n : ℕ) : (toString n).toList = Nat.toDigits 10 n :=
  Nat.toList_repr

theorem toDigits_inj {m n : ℕ} : Nat.toDigits 10 m = Nat.toDigits 10 n ↔ m = n := by
  refine ⟨fun h => ?_, congrArg _⟩
  rw [← decimalValue_toDigits m, h, decimalValue_toDigits]

theorem toString_nat_inj {m n : ℕ} : toString m = toString n ↔ m = n := by
  rw [← String.toList_inj, toList_toString, toList_toString, toDigits_inj]

theorem toList_toString_negSucc (n : ℕ) :
    (toString (Int.negSucc n)).toList = '-' :: Nat.toDigits 10 (n + 1) := by
  rw [← Nat.toList_repr]
  exact String.toList_append

/-- **An integer is told by how it is written.** -/
theorem toString_inj {m n : Int} : toString m = toString n ↔ m = n := by
  have hsign (m n : ℕ) : Nat.toDigits 10 m ≠ '-' :: Nat.toDigits 10 n := fun h => by
    have hdigit : Char.isDigit '-' := Nat.isDigit_of_mem_toDigits (by omega) (by omega)
      (h ▸ List.mem_cons_self)
    exact absurd hdigit (by decide)
  refine ⟨fun h => ?_, congrArg _⟩
  have hlist := congrArg String.toList h
  cases m with
  | ofNat m =>
    cases n with
    | ofNat n => exact congrArg Int.ofNat (toString_nat_inj.mp h)
    | negSucc n =>
      exact absurd ((toList_toString m).symm.trans (hlist.trans (toList_toString_negSucc n)))
        (hsign m (n + 1))
  | negSucc m =>
    cases n with
    | ofNat n =>
      exact absurd ((toList_toString n).symm.trans (hlist.symm.trans (toList_toString_negSucc m)))
        (hsign n (m + 1))
    | negSucc n =>
      have hdigits := (toList_toString_negSucc m).symm.trans (hlist.trans (toList_toString_negSucc n))
      have := toDigits_inj.mp (List.cons_inj_right '-' |>.mp hdigits)
      omega

end FlowAtlas.Text
