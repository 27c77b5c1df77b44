import FlowAtlas.Document.Integer
import FlowAtlas.Proofs.Text.Lines
import FlowAtlas.Proofs.Text.Numeral
import Mathlib.Data.List.TakeWhile

/-!
# What is read as an integer

A text is read as an integer if it holds groups of digits with single low lines between them, a sign
before them, if there is one, and blanks around them. Integers are read as they are written. Truth
values, floating-point numbers and texts are read as integers as well; the fraction of a number is
lost.

## Main definitions

* `Numeral`: an integer in a text, with the parts of its notation.
* `Json.ReadAs`: the integer as which a JSON value is read.

## Main results

* `integerOfText_eq_ok_iff`: when a text is read as an integer.
* `Json.toInteger_eq_ok_iff`: when a JSON value is read as an integer.
-/

namespace FlowAtlas

open Decimal (Binary64)

variable {c : Char} {run rest : List Char} {s : String} {n : ℤ}

/-! ### Numerals -/

/-- An integer in a text: a sign and groups of digits, between blanks. The groups are separated by
low lines. -/
structure Numeral where
  before : List Char
  sign : List Char
  groups : List (List Char)
  after : List Char
  before_isMargin : ∀ c ∈ before, isMargin c
  sign_mem : sign ∈ [[], ['+'], ['-']]
  groups_ne_nil : groups ≠ []
  group_ne_nil : ∀ group ∈ groups, group ≠ []
  isDecimalDigit : ∀ group ∈ groups, ∀ c ∈ group, Text.isDecimalDigit c
  length_le : groups.flatten.length ≤ digitLimit
  after_isMargin : ∀ c ∈ after, isMargin c

namespace Numeral

variable (m : Numeral)

/-- The groups of digits with low lines between them. -/
def body : List Char :=
  ['_'].intercalate m.groups

/-- The characters of a numeral. -/
def chars : List Char :=
  m.before ++ (m.sign ++ (m.body ++ m.after))

/-- The integer that a numeral writes. -/
def value : ℤ :=
  Binary64.signed (m.sign == ['-']) (Text.decimalValue m.groups.flatten)

end Numeral

/-! ### Characters -/

theorem isNumeralChar_iff : isNumeralChar c ↔ Text.isDecimalDigit c ∨ c = '_' := by
  rw [isNumeralChar, Bool.or_eq_true, decide_eq_true_eq]

theorem isNumeralChar_of_isMargin (h : isMargin c) : isNumeralChar c = false := by
  have hblank : Text.isBlank c := (Bool.and_eq_true_iff.mp h).1
  rw [← Bool.not_eq_true, isNumeralChar_iff, Text.isDecimalDigit_of_isBlank hblank]
  rintro (hfalse | rfl)
  · exact Bool.false_ne_true hfalse
  · exact absurd hblank (by decide)

theorem isMargin_of_isDecimalDigit (h : Text.isDecimalDigit c) : isMargin c = false := by
  rw [← Bool.not_eq_true]
  intro hmargin
  exact absurd (isNumeralChar_iff.mpr (.inl h))
    (Bool.eq_false_iff.mp (isNumeralChar_of_isMargin hmargin))

/-- The digits of a run are what its groups consist of. -/
theorem filter_isDecimalDigit (h : ∀ c ∈ run, isNumeralChar c) :
    run.filter Text.isDecimalDigit = (run.splitOn '_').flatten := by
  have hline : Text.isDecimalDigit '_' = false := by decide
  rw [Text.flatten_splitOn]
  refine List.filter_congr fun c hc => Bool.eq_iff_iff.mpr ?_
  rw [bne_iff_ne]
  constructor
  · rintro hdigit rfl
    exact Bool.false_ne_true (hline.symm.trans hdigit)
  · intro hne
    exact (isNumeralChar_iff.mp (h c hc)).resolve_right hne

/-- What is left of a text without its sign, and the sign itself. -/
theorem exists_sign (cs : List Char) : ∃ sign ∈ [[], ['+'], ['-']],
    cs = sign ++ (Text.splitSign cs).2 ∧ (Text.splitSign cs).1 = (sign == ['-']) := by
  rw [Text.splitSign.eq_def]
  split
  · exact ⟨['-'], by decide, rfl, rfl⟩
  · exact ⟨['+'], by decide, rfl, rfl⟩
  · exact ⟨[], by decide, rfl, rfl⟩

theorem splitSign_append {sign : List Char} (hsign : sign ∈ [[], ['+'], ['-']])
    (hc : Text.isDecimalDigit c) :
    Text.splitSign (sign ++ c :: rest) = (sign == ['-'], c :: rest) := by
  have hminus : c ≠ '-' := by
    rintro rfl
    exact absurd hc (by decide)
  have hplus : c ≠ '+' := by
    rintro rfl
    exact absurd hc (by decide)
  rcases List.mem_cons.mp hsign with rfl | hsign
  · rw [List.nil_append, Text.splitSign.eq_def]
    split
    · next h => exact absurd (List.cons.inj h).1 hminus
    · next h => exact absurd (List.cons.inj h).1 hplus
    · rfl
  rcases List.mem_cons.mp hsign with rfl | hsign
  · rfl
  · obtain rfl := List.mem_singleton.mp hsign
    rfl

/-! ### Texts -/

namespace Numeral

variable (m : Numeral)

theorem exists_body_eq_cons : ∃ c rest, m.body = c :: rest ∧ Text.isDecimalDigit c := by
  obtain ⟨group, groups, hgroups⟩ := List.exists_cons_of_ne_nil m.groups_ne_nil
  have hmem : group ∈ m.groups := hgroups ▸ List.mem_cons_self
  obtain ⟨c, rest, rfl⟩ := List.exists_cons_of_ne_nil (m.group_ne_nil group hmem)
  have hc := m.isDecimalDigit _ hmem c List.mem_cons_self
  cases groups with
  | nil =>
    have hbody : m.body = c :: rest := by rw [body, hgroups, List.intercalate_singleton]
    exact ⟨c, rest, hbody, hc⟩
  | cons next groups =>
    have hbody : m.body = c :: (rest ++ (['_'] ++ ['_'].intercalate (next :: groups))) := by
      rw [body, hgroups, List.intercalate_cons_cons, List.append_assoc, List.cons_append]
    exact ⟨c, _, hbody, hc⟩

theorem isNumeralChar_of_mem_body (hc : c ∈ m.body) : isNumeralChar c := by
  rcases Text.mem_intercalate hc with hc | ⟨group, hgroup, hc⟩
  · exact isNumeralChar_iff.mpr (.inr (List.mem_singleton.mp hc))
  · exact isNumeralChar_iff.mpr (.inl (m.isDecimalDigit group hgroup c hc))

theorem splitOn_body : m.body.splitOn '_' = m.groups := by
  refine List.splitOn_intercalate _ (fun group hgroup hline => ?_) m.groups_ne_nil
  exact absurd (m.isDecimalDigit group hgroup _ hline) (by decide)

theorem takeWhile_after : m.after.takeWhile isNumeralChar = [] ∧
    m.after.dropWhile isNumeralChar = m.after := by
  cases hafter : m.after with
  | nil => exact ⟨rfl, rfl⟩
  | cons c after =>
    have hc := isNumeralChar_of_isMargin (m.after_isMargin c (hafter ▸ List.mem_cons_self))
    exact ⟨List.takeWhile_cons_of_neg (Bool.eq_false_iff.mp hc),
      List.dropWhile_cons_of_neg (Bool.eq_false_iff.mp hc)⟩

/-- The sign and the digits are found behind the blanks. -/
theorem splitSign_chars : Text.splitSign (m.chars.dropWhile isMargin) =
    (m.sign == ['-'], m.body ++ m.after) := by
  obtain ⟨c, rest, hbody, hc⟩ := m.exists_body_eq_cons
  have hhead : (m.sign ++ (m.body ++ m.after)).dropWhile isMargin =
      m.sign ++ (m.body ++ m.after) := by
    have hsign := m.sign_mem
    rw [hbody, List.cons_append]
    simp only [List.mem_cons, List.not_mem_nil, or_false] at hsign
    rcases hsign with hsign | hsign | hsign
    · rw [hsign]
      exact List.dropWhile_cons_of_neg (Bool.eq_false_iff.mp (isMargin_of_isDecimalDigit hc))
    · rw [hsign]
      exact List.dropWhile_cons_of_neg (by decide)
    · rw [hsign]
      exact List.dropWhile_cons_of_neg (by decide)
  rw [chars, List.dropWhile_append_of_pos m.before_isMargin, hhead, hbody, List.cons_append,
    splitSign_append m.sign_mem hc]

theorem integerOfText_chars : integerOfText (String.ofList m.chars) = .ok m.value := by
  have hnumeral : ∀ c ∈ m.body, isNumeralChar c := fun c hc => m.isNumeralChar_of_mem_body hc
  have hrun : (m.body ++ m.after).takeWhile isNumeralChar = m.body := by
    rw [List.takeWhile_append_of_pos hnumeral, m.takeWhile_after.1, List.append_nil]
  have hrest : (m.body ++ m.after).dropWhile isNumeralChar = m.after := by
    rw [List.dropWhile_append_of_pos hnumeral, m.takeWhile_after.2]
  have hdigits : m.body.filter Text.isDecimalDigit = m.groups.flatten := by
    rw [filter_isDecimalDigit hnumeral, m.splitOn_body]
  have hgrouped : isGrouped m.body := by
    rw [isGrouped, m.splitOn_body, List.all_eq_true]
    intro group hgroup
    rw [Bool.not_eq_true', List.isEmpty_eq_false_iff]
    exact m.group_ne_nil group hgroup
  have hafter : m.after.all isMargin := List.all_eq_true.mpr m.after_isMargin
  rw [integerOfText, String.toList_ofList, m.splitSign_chars]
  simp only [hrun, hrest, hdigits, hgrouped, hafter, Bool.not_true, Bool.false_eq_true, if_false]
  rw [if_neg (Nat.not_lt.mpr m.length_le)]
  rfl

end Numeral

/-- A text that is read as an integer is a numeral of it. -/
theorem exists_numeral_of_integerOfText (h : integerOfText s = .ok n) :
    ∃ m : Numeral, s = String.ofList m.chars ∧ m.value = n := by
  obtain ⟨sign, hsign, hbody, hnegative⟩ := exists_sign (s.toList.dropWhile isMargin)
  set body := (Text.splitSign (s.toList.dropWhile isMargin)).2 with hbodydef
  set run := body.takeWhile isNumeralChar with hrundef
  have hnumeral : ∀ c ∈ run, isNumeralChar c := fun c hc => List.mem_takeWhile_imp hc
  rw [integerOfText] at h
  dsimp only at h
  rw [← hbodydef, ← hrundef] at h
  split_ifs at h with hgrouped hlength hafter
  rw [Bool.not_eq_true', Bool.not_eq_false, isGrouped, List.all_eq_true] at hgrouped
  rw [Bool.not_eq_true', Bool.not_eq_false, List.all_eq_true] at hafter
  rw [filter_isDecimalDigit hnumeral] at hlength h
  have hgroup : ∀ group ∈ run.splitOn '_', ∀ c ∈ group, Text.isDecimalDigit c := by
    intro group hmem c hc
    have hflat : c ∈ (run.splitOn '_').flatten := List.mem_flatten.mpr ⟨group, hmem, hc⟩
    rw [← filter_isDecimalDigit hnumeral] at hflat
    exact (List.mem_filter.mp hflat).2
  have hne : ∀ group ∈ run.splitOn '_', group ≠ [] := by
    intro group hmem
    have hempty := hgrouped group hmem
    rwa [Bool.not_eq_true', List.isEmpty_eq_false_iff] at hempty
  refine ⟨{
    before := s.toList.takeWhile isMargin
    sign := sign
    groups := run.splitOn '_'
    after := body.dropWhile isNumeralChar
    before_isMargin := fun c hc => List.mem_takeWhile_imp hc
    sign_mem := hsign
    groups_ne_nil := List.splitOn_ne_nil _ _
    group_ne_nil := hne
    isDecimalDigit := hgroup
    length_le := Nat.not_lt.mp hlength
    after_isMargin := hafter }, ?_, ?_⟩
  · rw [Numeral.chars, Numeral.body, List.intercalate_splitOn, List.takeWhile_append_dropWhile,
      ← hbody, List.takeWhile_append_dropWhile, String.ofList_toList]
  · rw [Numeral.value, ← hnegative]
    exact Except.ok.inj h

/-- When a text is read as an integer: it is a numeral of it. -/
theorem integerOfText_eq_ok_iff :
    integerOfText s = .ok n ↔ ∃ m : Numeral, s = String.ofList m.chars ∧ m.value = n := by
  constructor
  · exact exists_numeral_of_integerOfText
  · rintro ⟨m, rfl, rfl⟩
    exact m.integerOfText_chars

/-- A single low line separates digits, and two of them do not. -/
example : integerOfText " -1_0\n" = .ok (-10) ∧
    integerOfText "1__0" = .error (.notALiteral "1__0") := by
  constructor <;> rfl

/-! ### JSON values -/

namespace Json

/-- The integer as which a JSON value is read: an integer as it is written, a truth value as one or
zero, a floating-point number without its fraction, a text as the numeral that it is. -/
inductive ReadAs : Json → ℤ → Prop
  | integer (n : ℤ) : ReadAs (.int n) n
  | truthValue (b : Bool) : ReadAs (.bool b) (if b then 1 else 0)
  | number (negative : Bool) (significand : ℕ) (exponent : ℤ) :
    ReadAs (.float (.finite negative significand exponent))
      (Binary64.truncate negative significand exponent)
  | numeral (m : Numeral) : ReadAs (.str (String.ofList m.chars)) m.value

/-- **When a JSON value is read as an integer.** -/
theorem toInteger_eq_ok_iff {x : Json} : x.toInteger = .ok n ↔ x.ReadAs n := by
  constructor
  · intro h
    rw [toInteger.eq_def] at h
    split at h
    · cases h
      exact .truthValue _
    · cases h
      exact .integer _
    · cases h
      exact .number _ _ _
    · cases h
    · cases h
    · obtain ⟨m, rfl, rfl⟩ := integerOfText_eq_ok_iff.mp h
      exact .numeral m
    · cases h
  · intro h
    cases h with
    | integer | truthValue | number => rfl
    | numeral m => exact m.integerOfText_chars

end Json

end FlowAtlas
