import Mathlib.Data.List.Basic
import Mathlib.Logic.Basic

/-!
# Texts made of pieces

Pieces are put together with a separator between them. A text of several lines is cut into them
again, since no line holds a line break.

## Main results

* `mem_intercalate`: what stands in a text made of pieces.
* `flatten_splitOn`: what stands in the pieces of a text.
* `splitOn_intercalate_lines`: lines are found again.
-/

namespace FlowAtlas.Text

/-- What stands in a text made of pieces stands in one of them or in the separator. -/
theorem mem_intercalate {α : Type} {x : α} {separator : List α} {pieces : List (List α)}
    (h : x ∈ separator.intercalate pieces) : x ∈ separator ∨ ∃ piece ∈ pieces, x ∈ piece := by
  induction pieces with
  | nil => exact absurd h List.not_mem_nil
  | cons piece pieces ih =>
    cases pieces with
    | nil =>
      rw [List.intercalate_singleton] at h
      exact .inr ⟨piece, List.mem_cons_self, h⟩
    | cons next pieces =>
      rw [List.intercalate_cons_cons, List.mem_append, List.mem_append] at h
      rcases h with (h | h) | h
      · exact .inr ⟨piece, List.mem_cons_self, h⟩
      · exact .inl h
      · exact (ih h).imp_right fun ⟨piece, hpiece, hx⟩ => ⟨piece, List.mem_cons_of_mem _ hpiece, hx⟩

/-- The pieces into which a text is cut are made of all that is no separator. -/
theorem flatten_splitOn {α : Type} [BEq α] [LawfulBEq α] (separator : α) (l : List α) :
    (l.splitOn separator).flatten = l.filter (· != separator) := by
  induction l with
  | nil => rfl
  | cons x l ih =>
    rw [List.splitOn_cons_eq_if_modifyHead, List.filter_cons]
    by_cases hx : x = separator
    · rw [hx, beq_self_eq_true, bne_self_eq_false, if_pos rfl, if_neg Bool.false_ne_true,
        List.flatten_cons, List.nil_append, ih]
    · obtain ⟨piece, pieces, hpieces⟩ :=
        List.exists_cons_of_ne_nil (List.splitOn_ne_nil separator l)
      rw [if_neg (beq_iff_eq.not.mpr hx), if_pos (bne_iff_ne.mpr hx), ← ih, hpieces]
      rfl

/-- **A text of several lines**, none of which holds a line break, is cut into them again. -/
theorem splitOn_intercalate_lines {lines : List String} (hne : lines ≠ [])
    (h : ∀ line ∈ lines, '\n' ∉ line.toList) :
    ("\n".intercalate lines).toList.splitOn '\n' = lines.map String.toList := by
  have hbreak : "\n".toList = ['\n'] := rfl
  rw [String.toList_intercalate, hbreak, List.splitOn_intercalate _ (List.forall_mem_map.mpr h)]
  exact List.map_eq_nil_iff.not.mpr hne

end FlowAtlas.Text
