import FlowAtlas.Proofs.Document.Writer

/-!
# Operands that are references

A text stands for the result of a statement or for an argument if it consists of a mark and the
digits of a number, and nothing stands before them. Behind them nothing stands but a line end, which
is passed over. The digits may be those of any script, so that many texts stand for one result; the
one that is written for it is the one in the digits of the Latin script that begins with no zero.
What does not stand for a result or an argument stands for itself.

## Main definitions

* `Refers`: the JSON values that stand for results and arguments.
* `referent`: the result or the argument of a number.

## Main results

* `operand_of_refers`, `operand_of_not_refers`: the operand that a JSON value stands for.
* `text_referent`: how results and arguments are written.
* `operand_recognises_references`: exactly the references are recognised, line ends passed over.
-/

namespace FlowAtlas.Document

variable {x : Json} {s : String} {mark : Char} {digits : List Char} {v : Value}

/-- A JSON value is a reference with a mark and digits. It is the text of the two, and a line end may
stand behind them. -/
structure Refers (x : Json) (mark : Char) (digits : List Char) : Prop where
  mark_eq : mark = '%' ∨ mark = '_'
  digits_ne_nil : digits ≠ []
  isDecimalDigit : ∀ c ∈ digits, Text.isDecimalDigit c
  eq_str : x = .str (String.ofList (mark :: digits)) ∨
    x = .str (String.ofList (mark :: (digits ++ ['\n'])))

/-- The result of the statement with a number, or the argument with the number. -/
def referent (mark : Char) (n : Value) : Value :=
  if mark = '%' then .ssa n else .arg n

theorem referent_inj {mark' : Char} {n n' : Value} (hmark : mark = '%' ∨ mark = '_')
    (hmark' : mark' = '%' ∨ mark' = '_') :
    referent mark n = referent mark' n' ↔ mark = mark' ∧ n = n' := by
  rcases hmark with rfl | rfl <;> rcases hmark' with rfl | rfl <;> simp [referent]

theorem toValue_ne_referent (x : Json) (mark : Char) (n : Value) :
    x.toValue ≠ referent mark n := by
  rw [referent]
  split_ifs <;> cases x <;> exact Value.noConfusion

theorem refers_str_iff : Refers (.str s) mark digits ↔ reference? s.toList = some (mark, digits) := by
  have hstr : ∀ cs : List Char, (.str s : Json) = .str (String.ofList cs) ↔ s.toList = cs := by
    intro cs
    rw [Json.str.injEq, ← String.toList_inj, String.toList_ofList]
  rw [reference?_eq_some_iff, ← hstr, ← hstr]
  constructor
  · exact fun h => ⟨h.mark_eq, h.digits_ne_nil, h.isDecimalDigit, h.eq_str⟩
  · exact fun ⟨hmark, hne, hdigits, hs⟩ => ⟨hmark, hne, hdigits, hs⟩

/-- A reference stands for the result or the argument of its number, unless it has too many
digits. -/
theorem operand_of_refers (h : Refers x mark digits) : operand x =
    if digitLimit < digits.length then .error (.tooManyDigits digits.length)
    else .ok (referent mark (.int (Text.decimalValue digits))) := by
  obtain ⟨s, rfl⟩ : ∃ s, x = .str s := h.eq_str.elim (⟨_, ·⟩) (⟨_, ·⟩)
  rw [operand, refers_str_iff.mp h]
  rfl

/-- What is no reference stands for itself. -/
theorem operand_of_not_refers (h : ∀ mark digits, ¬ Refers x mark digits) :
    operand x = .ok x.toValue := by
  cases x with
  | str s =>
    have hnone : reference? s.toList = none := by
      rw [Option.eq_none_iff_forall_ne_some]
      rintro ⟨mark, digits⟩ hsome
      exact h mark digits (refers_str_iff.mpr hsome)
    rw [operand, hnone, Json.toValue]
  | _ => rfl

theorem exists_refers_or (x : Json) :
    (∃ mark digits, Refers x mark digits) ∨ operand x = .ok x.toValue := by
  by_cases h : ∃ mark digits, Refers x mark digits
  · exact .inl h
  · exact .inr (operand_of_not_refers fun mark digits h' => h ⟨mark, digits, h'⟩)

/-- A JSON value stands for a result or an argument if it is a reference to it that has few enough
digits. -/
theorem operand_eq_referent_iff (hmark : mark = '%' ∨ mark = '_') :
    operand x = .ok (referent mark v) ↔ ∃ digits, Refers x mark digits ∧
      digits.length ≤ digitLimit ∧ v = .int (Text.decimalValue digits) := by
  constructor
  · intro h
    rcases exists_refers_or x with ⟨mark', digits, href⟩ | hself
    · rw [operand_of_refers href] at h
      split_ifs at h with hlimit
      obtain ⟨rfl, rfl⟩ := (referent_inj href.mark_eq hmark).mp (Except.ok.inj h)
      exact ⟨digits, href, Nat.not_lt.mp hlimit, rfl⟩
    · exact absurd (Except.ok.inj (hself.symm.trans h)) (toValue_ne_referent x mark v)
  · rintro ⟨digits, href, hlimit, rfl⟩
    rw [operand_of_refers href, if_neg (Nat.not_lt.mpr hlimit)]

theorem operand_eq_error_iff {flaw : NumeralFlaw} : operand x = .error flaw ↔
    ∃ mark digits, Refers x mark digits ∧ digitLimit < digits.length ∧
      flaw = .tooManyDigits digits.length := by
  constructor
  · intro h
    rcases exists_refers_or x with ⟨mark, digits, href⟩ | hself
    · rw [operand_of_refers href] at h
      split_ifs at h with hlimit
      exact ⟨mark, digits, href, hlimit, (Except.error.inj h).symm⟩
    · cases hself.symm.trans h
  · rintro ⟨mark, digits, href, hlimit, rfl⟩
    rw [operand_of_refers href, if_pos hlimit]

/-- Results and arguments are written with their marks in the digits of the Latin script. -/
theorem text_referent (hmark : mark = '%' ∨ mark = '_') (n : ℕ) :
    (referent mark (.int n)).text = String.ofList (mark :: Nat.toDigits 10 n) := by
  have hint : (Value.int n).text = String.ofList (Nat.toDigits 10 n) := by
    rw [← String.toList_inj, String.toList_ofList]
    exact Text.toList_toString n
  have hcons (c : Char) : String.ofList (c :: Nat.toDigits 10 n) =
      String.ofList [c] ++ String.ofList (Nat.toDigits 10 n) := by
    rw [← String.ofList_append, List.singleton_append]
  rcases hmark with rfl | rfl
  · rw [referent, if_pos rfl, Value.text, hint, hcons]
  · rw [referent, if_neg (by decide), Value.text, hint, hcons]

/-- **Exactly the references are recognised.** A JSON value stands for the result of a statement if
and only if it is the percent sign and the digits of a number, and for an argument if and only if it
is the underscore and the digits of a number; a line end behind the digits is passed over, and the
digits are no more than an integer may have, while a longer reference is refused. Every other value
stands for itself. A reference with the digits in which its number is written is written as it
stands, without the line end. -/
theorem operand_recognises_references (x : Json) :
    (∀ v, operand x = .ok (.ssa v) ↔ ∃ digits, Refers x '%' digits ∧
      digits.length ≤ digitLimit ∧ v = .int (Text.decimalValue digits)) ∧
    (∀ v, operand x = .ok (.arg v) ↔ ∃ digits, Refers x '_' digits ∧
      digits.length ≤ digitLimit ∧ v = .int (Text.decimalValue digits)) ∧
    (∀ flaw, operand x = .error flaw ↔ ∃ mark digits, Refers x mark digits ∧
      digitLimit < digits.length ∧ flaw = .tooManyDigits digits.length) ∧
    ((∀ mark digits, ¬ Refers x mark digits) → operand x = .ok x.toValue) ∧
    ∀ mark digits v, Refers x mark digits → operand x = .ok v →
      Nat.toDigits 10 (Text.decimalValue digits) = digits →
        v.text = String.ofList (mark :: digits) := by
  refine ⟨fun v => operand_eq_referent_iff (.inl rfl), fun v => operand_eq_referent_iff (.inr rfl),
    fun flaw => operand_eq_error_iff, operand_of_not_refers, fun mark digits v href hv hdigits => ?_⟩
  rw [operand_of_refers href] at hv
  split_ifs at hv
  rw [← Except.ok.inj hv, text_referent href.mark_eq, hdigits]

/-- A line end behind a reference is passed over. -/
example : operand (.str "%1\n") = .ok (.ssa (.int 1)) := by rfl

end FlowAtlas.Document
