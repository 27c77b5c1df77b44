import FlowAtlas.Dot.Flow
import FlowAtlas.Proofs.Dot.ReadBack
import FlowAtlas.Proofs.Text.Numeral

/-!
# The texts in drawings

The numbers of blocks, titles, tags and the lines of statements are escaped, so that they are read
from a drawing as they are. The mark of a task edge shows the text of a region as it is; it ends in
a bracket, so that its end is read as such.

## Main results

* `escaped_int`, `escaped_text_of_integer?`: the texts of the ends of edges.
* `reading_nodeAttributes?`: the attributes of nodes.
* `closed_label_of_mem_edgesOf`: the labels of edges.
-/

namespace FlowAtlas

open Dot
open Decimal (Binary64 Layout)

variable {c : Char} {cs digits : List Char}

/-! ### Numbers -/

theorem isPlain_of_mem_toDigits {n : ℕ} (hc : c ∈ Nat.toDigits 10 n) : isPlain c :=
  isPlain_of_isDigit (Nat.isDigit_of_mem_toDigits (by omega) (by omega) hc)

theorem isPlain_of_mem_nat {n : ℕ} (hc : c ∈ (toString n).toList) : isPlain c :=
  isPlain_of_mem_toDigits (Text.toList_toString n ▸ hc)

/-- The text of an integer is escaped. -/
theorem escaped_int (n : Int) : Escaped (toString n).toList := by
  refine escaped_of_isPlain fun c hc => ?_
  cases n with
  | ofNat n => exact isPlain_of_mem_nat hc
  | negSucc n =>
    have htext : (toString (Int.negSucc n)).toList = '-' :: (toString (n + 1)).toList :=
      String.toList_append
    rw [htext] at hc
    rcases List.mem_cons.mp hc with rfl | hc
    · decide
    · exact isPlain_of_mem_nat hc

theorem mem_positional {point : Int} (hc : c ∈ Decimal.positional digits point) :
    c ∈ digits ∨ c = '0' ∨ c = '.' := by
  rw [Decimal.positional] at hc
  split_ifs at hc
  · simp only [List.cons_append, List.mem_cons, List.mem_append, List.mem_replicate] at hc
    tauto
  · simp only [List.mem_cons, List.mem_append, List.mem_replicate, List.not_mem_nil] at hc
    tauto
  · simp only [List.mem_append, List.mem_cons] at hc
    rcases hc with hc | rfl | hc
    · exact .inl (List.mem_of_mem_take hc)
    · exact .inr (.inr rfl)
    · exact .inl (List.mem_of_mem_drop hc)

theorem mem_scientific {width : ℕ} {exponent : Int}
    (hc : c ∈ Decimal.scientific width digits exponent) :
    c ∈ digits ∨ c ∈ ['.', 'e', '-', '+', '0'] ∨ c ∈ Nat.toDigits 10 exponent.natAbs := by
  rw [Decimal.scientific.eq_def] at hc
  rcases List.mem_append.mp hc with hmantissa | hexponent
  · split at hmantissa
    · simp only [List.mem_cons] at hmantissa ⊢
      tauto
    · exact .inl hmantissa
  · simp only [List.mem_cons, Decimal.paddedDigits, List.mem_append, List.mem_replicate]
      at hexponent
    rcases hexponent with rfl | rfl | ⟨-, rfl⟩ | hdigits
    · exact .inr (.inl (by simp))
    · refine .inr (.inl ?_)
      split <;> simp
    · exact .inr (.inl (by simp))
    · exact .inr (.inr hdigits)

/-- The text of a finite number consists of plain characters. -/
theorem isPlain_of_mem_float {layout : Layout} {negative : Bool} {significand : ℕ} {exponent : Int}
    (hc : c ∈ ((Binary64.finite negative significand exponent).text layout).toList) :
    isPlain c := by
  have hmark : ∀ c ∈ ['.', 'e', '-', '+', '0'], isPlain c := List.all_eq_true.mp rfl
  have hpositional : ∀ digits point, (∀ c ∈ digits, isPlain c) →
      ∀ c ∈ Decimal.positional digits point, isPlain c := by
    intro digits point hdigits c hc
    rcases mem_positional hc with hc | rfl | rfl
    · exact hdigits c hc
    · exact hmark _ (by simp)
    · exact hmark _ (by simp)
  have hscientific : ∀ digits exponent, (∀ c ∈ digits, isPlain c) →
      ∀ c ∈ Decimal.scientific layout.exponentDigits digits exponent, isPlain c := by
    intro digits exponent hdigits c hc
    rcases mem_scientific hc with hc | hc | hc
    · exact hdigits c hc
    · exact hmark c hc
    · exact isPlain_of_mem_toDigits hc
  rw [Binary64.text, String.toList_ofList] at hc
  rcases List.mem_append.mp hc with hsign | hbody
  · split at hsign
    · exact hmark c (by simp [List.mem_singleton.mp hsign])
    · exact absurd hsign List.not_mem_nil
  · dsimp only at hbody
    split_ifs at hbody
    · exact hpositional _ _ (List.all_eq_true.mp rfl) c hbody
    · exact hpositional _ _ (fun _ => isPlain_of_mem_toDigits) c hbody
    · exact hscientific _ _ (fun _ => isPlain_of_mem_toDigits) c hbody

/-- The text of an operand that equals an integer is escaped. -/
theorem escaped_text_of_integer? {v : Value} {n : Int} (h : v.integer? = some n) :
    Escaped v.text.toList := by
  cases v with
  | bool b =>
    cases b <;> exact escaped_of_all rfl
  | int n =>
    rw [Value.text, Value.literal]
    · exact escaped_int n
    all_goals
      intro _ h
      cases h
  | float x =>
    cases x with
    | finite negative significand exponent =>
      refine escaped_of_isPlain fun c hc => ?_
      rw [Value.text, Value.literal] at hc
      · exact isPlain_of_mem_float hc
      all_goals
        intro _ h
        cases h
    | infinite | notANumber => cases h
  | _ => cases h

/-! ### Nodes -/

/-- Attributes whose values are escaped are read as they are. -/
theorem reading_eq_of_escaped {attributes : Attributes}
    (h : ∀ a ∈ attributes, Escaped a.2.toList) : attributes.reading = attributes := by
  rw [Attributes.reading]
  conv_rhs => rw [← List.map_id attributes]
  exact List.map_congr_left fun a ha => by rw [spelling_eq (h a ha)]; rfl

theorem escaped_escape (s : String) : Escaped (escape s).toList := by
  rw [escape, String.toList_ofList]
  exact escaped_escapeChars s.toList

theorem escaped_append {s t : String} (hs : Escaped s.toList) (ht : Escaped t.toList) :
    Escaped (s ++ t).toList :=
  String.toList_append ▸ hs.append ht

theorem escaped_join {l : List String} (h : ∀ s ∈ l, Escaped s.toList) :
    Escaped (String.join l).toList := by
  induction l with
  | nil => exact .nil
  | cons s l ih =>
    rw [List.forall_mem_cons] at h
    rw [String.join_cons]
    exact escaped_append h.1 (ih h.2)

/-- A line of a label is escaped, with the backslash of its end. -/
theorem escaped_labelLine (s : String) : Escaped (Graph.labelLine s).toList :=
  escaped_append (escaped_escape s) (.pair 'l' .nil)

/-- The names of the attributes of a node are words, and their values are escaped. -/
theorem escaped_nodeAttributes? {g : Graph} {i : Int} {tag : String} {includeCode : Bool}
    {attributes : Attributes} (h : g.nodeAttributes? i tag includeCode = some attributes) :
    ∀ a ∈ attributes, (isName a.1.toList ∧ isKeyword a.1.toList = false) ∧ Escaped a.2.toList := by
  obtain ⟨code, hcode, rfl⟩ := Option.map_eq_some_iff.mp h
  obtain ⟨stmts, -, rfl⟩ := Option.map_eq_some_iff.mp hcode
  have hcode :
      Escaped (String.join (stmts.map fun p => Graph.labelLine (p.2.line p.1))).toList := by
    refine escaped_join fun s hs => ?_
    obtain ⟨p, -, rfl⟩ := List.mem_map.mp hs
    exact escaped_labelLine _
  have hopen : Escaped "\x7b".toList := escaped_of_all rfl
  have hclose : Escaped "\x7d".toList := escaped_of_all rfl
  have htag : Escaped ":\\l".toList := .plain (by decide) (.pair 'l' .nil)
  have hopened := escaped_append hopen (escaped_escape tag)
  have hlabel : isName "label".toList ∧ isKeyword "label".toList = false := by decide
  have htooltip : isName "tooltip".toList ∧ isKeyword "tooltip".toList = false := by decide
  split
  · refine List.forall_mem_singleton.mpr ⟨hlabel, ?_⟩
    exact escaped_append (escaped_append (escaped_append hopened htag) hcode) hclose
  · exact List.forall_mem_cons.mpr ⟨⟨hlabel, escaped_append hopened hclose⟩,
      List.forall_mem_singleton.mpr ⟨htooltip, hcode⟩⟩

/-- The attributes of a node can be read, and are read as they are. -/
theorem reading_nodeAttributes? {g : Graph} {i : Int} {tag : String} {includeCode : Bool}
    {attributes : Attributes} (h : g.nodeAttributes? i tag includeCode = some attributes) :
    attributes.Readable ∧ attributes.reading = attributes := by
  have hescaped := escaped_nodeAttributes? h
  exact ⟨fun a ha => ⟨(hescaped a ha).1, (hescaped a ha).2.closed⟩,
    reading_eq_of_escaped fun a ha => (hescaped a ha).2⟩

/-! ### Edges -/

theorem closed_taskMark {letter : String} {d : Char} (hletter : letter.toList = [d]) (hd : d ≠ '<')
    (region : Value) : Closed (taskMark letter region).toList := by
  have hmark : (taskMark letter region).toList = d :: '(' :: region.text.toList ++ [')'] := by
    rw [taskMark, String.toList_append, String.toList_append, String.toList_append, hletter]
    rfl
  rw [hmark]
  refine ⟨?_, endsOdd_concat false _ (by decide)⟩
  rw [List.cons_append, isMarkup.eq_def]
  split
  · next heq => exact absurd (List.cons.inj heq).1 hd
  · rfl

variable {i : Int} {succs : List Int} {s : Stmt} {e : FlowEdge}

theorem exists_taskMark_of_mem {edges : List FlowEdge} (h : taskEdges? i succs s = some edges)
    (he : e ∈ edges) : ∃ letter region,
      letter ∈ ["C", "D", "R", "S"] ∧ e.label = some (taskMark letter region) := by
  rw [taskEdges?.eq_def] at h
  split at h
  · next region label =>
    split at h <;> cases h
    rcases List.mem_cons.mp he with rfl | he
    · exact ⟨"C", region, by decide, rfl⟩
    · obtain rfl := List.mem_singleton.mp he
      exact ⟨"D", region, by decide, rfl⟩
  · next region label =>
    split at h
    · split at h <;> cases h
      obtain rfl := List.mem_singleton.mp he
      exact ⟨"R", region, by decide, rfl⟩
    · cases h
  · next region =>
    split at h <;> cases h
    obtain rfl := List.mem_singleton.mp he
    exact ⟨"S", region, by decide, rfl⟩
  · cases h

/-- **The labels of edges end where they are read to end.** -/
theorem closed_label_of_mem_edgesOf {label : String} (he : e ∈ edgesOf i succs s)
    (hlabel : e.label = some label) : Closed label.toList := by
  rw [edgesOf] at he
  cases h : taskEdges? i succs s with
  | some edges =>
    rw [h, Option.getD_some] at he
    obtain ⟨letter, region, hletter, htask⟩ := exists_taskMark_of_mem h he
    obtain rfl := Option.some.inj (hlabel.symm.trans htask)
    simp only [List.mem_cons, List.not_mem_nil, or_false] at hletter
    rcases hletter with rfl | rfl | rfl | rfl <;> exact closed_taskMark rfl (by decide) region
  | none =>
    rw [h, Option.getD_none, List.mem_map] at he
    obtain ⟨m, -, rfl⟩ := he
    have hmark : label = "E" ∨ label = "L" := by
      rw [handlerMark?.eq_def] at hlabel
      split at hlabel <;> cases hlabel
      · exact .inl rfl
      · exact .inr rfl
    rcases hmark with rfl | rfl <;> exact (escaped_of_all rfl).closed

theorem readable_attributes (he : e ∈ edgesOf i succs s) : e.attributes.Readable := by
  have hname : isName "label".toList ∧ isKeyword "label".toList = false := by decide
  have hdir : isName "dir".toList ∧ isKeyword "dir".toList = false := by decide
  intro a ha
  rcases List.mem_append.mp ha with ha | ha
  · split at ha
    · exact absurd ha List.not_mem_nil
    · next label hlabel =>
      obtain rfl := List.mem_singleton.mp ha
      exact ⟨hname, closed_label_of_mem_edgesOf he hlabel⟩
  · split at ha
    · obtain rfl := List.mem_singleton.mp ha
      exact ⟨hdir, (escaped_of_all rfl).closed⟩
    · exact absurd ha List.not_mem_nil

end FlowAtlas
