import FlowAtlas.Proofs.Dot.Labels
import FlowAtlas.Proofs.Dot.Texts
import Mathlib.Algebra.Ring.Parity
import Mathlib.Data.List.DropRight

/-!
# Escaped texts

An escaped text has a unit for each character of the text: a special character stands behind a
backslash, any other one for itself. The units can be told apart from left to right, so that the
text is read back from them, and a special character of the result is always the second one of a
unit. That a quote is protected can also be seen from the right: the backslashes just before it are
odd in number, however many of them the text had there, since an even number of them stands for
backslashes of the text and the last one belongs to the quote.

## Main results

* `unescape_escape`: an escaped text is read back.
* `length_escape`: escaping adds a character for each special one.
* `Escaped.odd_before_quote`: before a quote of an escaped text there is an odd number of
  backslashes.
* `escape_pairs_specials`: all of this for the labels of a drawing.
-/

namespace FlowAtlas.Dot

variable {cs before after : List Char}

/-! ### Units -/

/-- Each character of a text is escaped to a unit. -/
theorem units_escape (t : String) : units (escape t).toList = t.toList.map escapeUnit := by
  have hunits := units_escapeChars_append t.toList []
  rwa [List.append_nil, units, List.append_nil, ← String.toList_ofList (l := escapeChars t.toList),
    ← escape] at hunits

/-- An escaped text is read back. -/
theorem unescape_escape (t : String) : unescape (escape t) = t := by
  rw [unescape_eq_unescapeUnits, units_escape, unescapeUnits, map_char_map_escapeUnit,
    String.ofList_toList]

/-- Escaping adds a character for each special one. -/
theorem length_escape (t : String) :
    (escape t).length = t.length + t.toList.countP specials.contains := by
  rw [escape, String.length_ofList, ← String.length_toList, escapeChars]
  induction t.toList with
  | nil => rfl
  | cons c cs ih =>
    rw [List.flatMap_cons, List.length_append, ih, List.countP_cons, List.length_cons, escapeChar]
    split_ifs <;> simp only [List.length_cons, List.length_nil] <;> omega

/-! ### Quotes -/

theorem endsOdd_iff_odd (cs : List Char) :
    endsOdd false cs = true ↔ Odd (cs.rtakeWhile (· = '\\')).length := by
  induction cs using List.reverseRecOn with
  | nil => simp [endsOdd]
  | append_singleton cs c ih =>
    rw [endsOdd_append, endsOdd, endsOdd]
    by_cases hc : c = '\\'
    · rw [List.rtakeWhile_concat_pos _ _ _ (by simpa using hc), List.length_append,
        List.length_singleton, Nat.odd_add_one, ← ih]
      simp [hc]
    · rw [List.rtakeWhile_concat_neg _ _ _ (by simpa using hc)]
      simp [hc]

/-- In an escaped text every quote is protected. The induction is on the units: what is before the
quote is empty, or ends within the first unit, or begins with all of it. -/
theorem Escaped.endsOdd_before_quote (h : Escaped cs) (heq : cs = before ++ '"' :: after) :
    endsOdd false before = true := by
  induction h generalizing before with
  | nil => exact absurd heq.symm (List.append_ne_nil_of_right_ne_nil before (List.cons_ne_nil _ _))
  | @plain c rest hc _ ih =>
    obtain ⟨hslash, hquote, -⟩ := isPlain_iff.mp hc
    cases before with
    | nil => exact absurd (List.cons.inj heq).1 hquote
    | cons d before =>
      obtain ⟨rfl, hrest⟩ := List.cons.inj heq
      rw [endsOdd, decide_eq_false hslash]
      exact ih hrest
  | @pair c rest _ ih =>
    rcases before with _ | ⟨d, _ | ⟨e, before⟩⟩
    · exact absurd (List.cons.inj heq).1 (by decide)
    · obtain ⟨rfl, -⟩ := List.cons.inj heq
      rfl
    · obtain ⟨rfl, hunit⟩ := List.cons.inj heq
      obtain ⟨rfl, hrest⟩ := List.cons.inj hunit
      have hends : endsOdd false ('\\' :: c :: before) = endsOdd false before := by
        simp [endsOdd]
      exact hends.trans (ih hrest)

/-- Before a quote of an escaped text there is an odd number of backslashes. -/
theorem Escaped.odd_before_quote (h : Escaped cs) (heq : cs = before ++ '"' :: after) :
    Odd (before.rtakeWhile (· = '\\')).length :=
  (endsOdd_iff_odd before).mp (h.endsOdd_before_quote heq)

/-- **Escaping is reversible and leaves no special character bare.** Without the backslashes that
begin its units, an escaped text is the text. In its units, which end where it ends, no special
character is bare; that includes the backslash. Before a quote there is an odd number of
backslashes. The length grows by the number of the special characters, and texts in a row are
escaped one by one. -/
theorem escape_pairs_specials (t : String) :
    unescape (escape t) = t ∧
    (∀ c ∈ specials, .bare c ∉ units (escape t).toList) ∧
    (∀ rest, units ((escape t).toList ++ rest) = units (escape t).toList ++ units rest) ∧
    (∀ before after, (escape t).toList = before ++ '"' :: after →
      Odd (before.rtakeWhile (· = '\\')).length) ∧
    (escape t).length = t.length + t.toList.countP specials.contains ∧
    ∀ s, escape (s ++ t) = escape s ++ escape t := by
  refine ⟨unescape_escape t, fun c hc => ?_, fun rest => ?_, fun before after heq => ?_,
    length_escape t, fun s => escape_append s t⟩
  · rw [units_escape]
    exact bare_not_mem_map_escapeUnit hc
  · rw [units_escape, escape, String.toList_ofList]
    exact units_escapeChars_append t.toList rest
  · exact (escaped_escape t).odd_before_quote heq

/-- A backslash before a quote, and one at the end. -/
example : escape "\\\"\\" = "\\\\\\\"\\\\" ∧ unescape "\\\\\\\"\\\\" = "\\\"\\" := by
  constructor <;> rfl

end FlowAtlas.Dot
