import FlowAtlas.Proofs.Document.Trees

/-!
# Refused documents

A document that is not loaded is refused for its layout, with three exceptions. A text that refers
to a result or an argument by a number of too many digits is refused as an operand where it stands
alone as a statement. An integer that is infinite, or two of which the span between them cannot be
counted, make an overflow. What is written out of a document, such as its name, may be nested too
deeply.

Which part of the document is at fault is kept, so that a document without such parts is seen to be
loaded or refused for its layout.

## Main definitions

* `Json.Within`: a value is part of another one.
* `Json.Large`: a value stands for an infinite or a very large integer.
* `Document.Refusal`: why a document is refused.
* `Document.Fault`: what is wrong with a part of a document.
* `Document.WrittenOut`: a part of a document is written out as a text.
* `Document.IsRunEnd`: a value is an end of the run of a block.
* `Document.Reporting`: how the flaws of integers are reported.

## Main results

* `Document.failsOnly_statement`, `Document.failsOnly_block`, `Document.failsOnly_tree`: the parts
  of a document.
* `Document.failsOnly_view_fault`: why documents are refused, with the ends that are too far apart.
* `Document.failsOnly_view`: why documents are refused.
-/

namespace FlowAtlas

/-! ### Parts of values -/

namespace Json

/-- A JSON value is part of another one: it is that value itself, or part of an item or of a member
of it. -/
inductive Within (x : Json) : Json → Prop
  | self : Within x x
  | item {y j : Json} {items : List Json} (hitems : j.items? = some items) (hy : y ∈ items)
    (h : Within x y) : Within x j
  | member {y : Json} {members : List (String × Json)} {key : String}
    (hy : member? members key = some y) (h : Within x y) : Within x (.obj members)

theorem Within.trans {x y j : Json} (h : x.Within y) (h' : y.Within j) : x.Within j := by
  induction h' with
  | self => exact h
  | item hitems hy _ ih => exact .item hitems hy ih
  | member hy _ ih => exact .member hy ih

theorem within_of_mem {y j : Json} {items : List Json} (hitems : j.items? = some items)
    (hy : y ∈ items) : y.Within j :=
  .item hitems hy .self

theorem within_of_member? {y : Json} {members : List (String × Json)} {key : String}
    (hy : member? members key = some y) : y.Within (.obj members) :=
  .member hy .self

/-- A JSON value stands for an integer that is infinite, or so large that the span between two of
them cannot be counted. -/
def Large (x : Json) : Prop :=
  x.toInteger = .error .infinite ∨ ∃ n : Int, x.toInteger = .ok n ∧ 2 ^ 62 ≤ n.natAbs

end Json

namespace Document

open DomTree Json

variable {members : List (String × Json)} {kindName key : String} {j y : Json} {b : Block}
  {kind : Kind} {children : List (List Int)} {number count : ℕ} {failure : Failure}

/-- A part of a statement is written out: its head, or its kind if that is unknown. -/
def WrittenOutIn (statement x : Json) : Prop :=
  ∃ members, statement = .obj members ∧
    (member? members "head" = some x ∨ member? members "kind" = some x)

/-- A part of a document is written out as a text: its name, its signature, or a part of one of its
statements. -/
inductive WrittenOut : Json → Json → Prop
  | name {members : List (String × Json)} {x : Json} (h : member? members "name" = some x) :
    WrittenOut (.obj members) x
  | signature {members : List (String × Json)} {x : Json}
    (h : member? members "signature" = some x) : WrittenOut (.obj members) x
  | statement {members : List (String × Json)} {code : List Json} {y x : Json}
    (hcode : member? members "code" = some (.arr code)) (hy : y ∈ code) (h : WrittenOutIn y x) :
    WrittenOut (.obj members) x

theorem WrittenOut.within {x : Json} (h : WrittenOut j x) : x.Within j := by
  cases h with
  | name h | signature h => exact within_of_member? h
  | statement hcode hy h =>
    obtain ⟨members, rfl, h⟩ := h
    have hx : x.Within (.obj members) := h.elim within_of_member? within_of_member?
    exact (hx.trans (within_of_mem rfl hy)).trans (within_of_member? hcode)

/-- Why a document is refused: for its layout, for a text with too many digits that stands alone,
for an infinite or very large integer, or for a part that is written out and nested too deeply. -/
inductive Refusal (j : Json) : Failure → Prop
  | layout (flaw : DocumentFlaw) : Refusal j (.document flaw)
  | digits {x : Json} {count : ℕ} (hx : x.Within j)
    (h : operand x = .error (.tooManyDigits count)) :
    Refusal j (.request (.numeral (.tooManyDigits count)))
  | overflow {x : Json} (hx : x.Within j) (h : x.Large) : Refusal j .overflow
  | tooDeep {x : Json} (hx : WrittenOut j x) (h : levelLimit < x.depth) : Refusal j .tooDeep

/-- What is wrong with a part of a document: its layout, a text with too many digits that stands
alone, or an infinite integer. -/
inductive Fault (j : Json) : Failure → Prop
  | layout (flaw : DocumentFlaw) : Fault j (.document flaw)
  | digits {x : Json} {count : ℕ} (hx : x.Within j)
    (h : operand x = .error (.tooManyDigits count)) :
    Fault j (.request (.numeral (.tooManyDigits count)))
  | infinite {x : Json} (hx : x.Within j) (h : x.toInteger = .error .infinite) : Fault j .overflow

/-- What is wrong with a part of a document is wrong with the document. -/
theorem Fault.of_within (hy : y.Within j) (h : Fault y failure) : Fault j failure := by
  cases h with
  | layout flaw => exact .layout flaw
  | digits hx h => exact .digits (hx.trans hy) h
  | infinite hx h => exact .infinite (hx.trans hy) h

/-- A document with a fault is refused for it. -/
theorem Fault.refusal (h : Fault j failure) : Refusal j failure := by
  cases h with
  | layout flaw => exact .layout flaw
  | digits hx h => exact .digits hx h
  | infinite hx h => exact .overflow hx (.inl h)

/-! ### Numbers -/

/-- Only the number of a reference is read in an operand. -/
theorem failsOnly_operand (j : Json) :
    FailsOnly (fun flaw => ∃ count, flaw = .tooManyDigits count) (operand j) := by
  rw [operand.eq_def]
  split
  · split
    · exact .ok _
    · dsimp only
      split
      · exact .error ⟨_, rfl⟩
      · exact .ok _
  · exact .ok _

/-- The flaws of an integer are flaws of the layout, but for an infinite one, which is an
overflow. -/
def Reporting (toFailure : NumeralFlaw → Failure) : Prop :=
  ∀ flaw, (flaw = .infinite ∧ toFailure flaw = .overflow) ∨
    ∃ flaw', toFailure flaw = .document flaw'

/-- Why an integer in a document is refused. -/
theorem failsOnly_toInteger (hy : y.Within j) {toFailure : NumeralFlaw → Failure}
    (hreporting : Reporting toFailure) :
    FailsOnly (Fault j) (y.toInteger.mapError toFailure) := by
  refine .mapError fun flaw hflaw => ?_
  obtain ⟨rfl, hover⟩ | ⟨flaw', hlayout⟩ := hreporting flaw
  · rw [hover]
    exact .infinite hy hflaw
  · rw [hlayout]
    exact .layout flaw'

theorem reporting_fieldFailure (kindName : String) : Reporting (fieldFailure kindName)
  | .infinite => .inl ⟨rfl, rfl⟩
  | .notALiteral _ | .tooManyDigits _ | .notANumber | .wrongType _ => .inr ⟨_, rfl⟩

theorem reporting_blockFailure (number : ℕ) : Reporting (blockFailure number)
  | .infinite => .inl ⟨rfl, rfl⟩
  | .notALiteral _ | .tooManyDigits _ | .notANumber | .wrongType _ => .inr ⟨_, rfl⟩

theorem reporting_treeFailure : Reporting treeFailure
  | .infinite => .inl ⟨rfl, rfl⟩
  | .notALiteral _ | .tooManyDigits _ | .notANumber | .wrongType _ => .inr ⟨_, rfl⟩

/-! ### Statements -/

theorem failsOnly_field : FailsOnly (Fault j) (field kindName members key) := by
  rw [field]
  split
  · exact .ok _
  · exact .error (.layout _)

/-- An operand in a field is refused for its layout, since an operand is never infinite. -/
theorem failsOnly_fieldOperand (y : Json) :
    FailsOnly (Fault j) ((operand y).mapError (fieldFailure kindName)) := by
  refine .mapError fun flaw hflaw => ?_
  obtain ⟨count, rfl⟩ := failsOnly_operand y flaw hflaw
  exact .layout _

theorem failsOnly_operandField : FailsOnly (Fault j) (operandField kindName members key) :=
  failsOnly_field.bind fun y _ => failsOnly_fieldOperand y

theorem failsOnly_labelField :
    FailsOnly (Fault (.obj members)) (labelField kindName members key) := by
  refine failsOnly_field.bind fun y hy => ?_
  have hwithin : y.Within (.obj members) := within_of_member? (field_eq_ok_iff.mp hy)
  exact (failsOnly_toInteger hwithin (reporting_fieldFailure kindName)).bind fun n _ => .ok _

theorem failsOnly_arguments : FailsOnly (Fault j) (arguments kindName members) := by
  rw [arguments]
  split
  · exact .ok []
  · split
    · exact .error (.layout _)
    · exact .mapM fun y _ => failsOnly_fieldOperand y

theorem failsOnly_shown (text : Value → String) (y : Json) :
    FailsOnly (fun f => f = .tooDeep ∧ levelLimit < y.depth) (shown text y) := by
  rw [shown]
  split
  · exact .ok _
  · next h => exact .error ⟨rfl, Nat.lt_of_not_le h⟩

/-- What is wrong with a statement: a fault, or a part that is written out is nested too deeply. -/
def StatementFault (j : Json) (f : Failure) : Prop :=
  Fault j f ∨ f = .tooDeep ∧ ∃ x, WrittenOutIn j x ∧ levelLimit < x.depth

theorem failsOnly_kindOf : FailsOnly (StatementFault (.obj members)) (kindOf members) := by
  rw [kindOf]
  split
  · exact .ok _
  · split
    · exact .ok _
    · exact .error (.inl (.layout _))
  · next y _ hy =>
    refine ((failsOnly_shown _ y).mono ?_).bind fun literal _ => .error (.inl (.layout _))
    rintro f ⟨rfl, hdeep⟩
    exact .inr ⟨rfl, y, ⟨members, rfl, .inr hy⟩, hdeep⟩

theorem failsOnly_statementOf :
    FailsOnly (StatementFault (.obj members)) (statementOf members kind) := by
  have hfault : ∀ {α : Type} {x : Except Failure α}, FailsOnly (Fault (.obj members)) x →
      FailsOnly (StatementFault (.obj members)) x := fun h => h.mono fun _ => .inl
  cases kind with
  | goto => exact hfault (failsOnly_labelField.bind fun label _ => .ok _)
  | gotoIfNot =>
    exact hfault
      (failsOnly_operandField.bind fun cond _ => failsOnly_labelField.bind fun dest _ => .ok _)
  | ret =>
    rw [statementOf]
    split
    · exact hfault (failsOnly_operandField.bind fun val _ => .ok _)
    · exact .ok _
  | expr =>
    refine (hfault failsOnly_field).bind fun head hhead => ?_
    refine ((failsOnly_shown _ head).mono ?_).bind fun text _ =>
      hfault (failsOnly_arguments.bind fun args _ => .ok _)
    rintro f ⟨rfl, hdeep⟩
    exact .inr ⟨rfl, head, ⟨members, rfl, .inl (field_eq_ok_iff.mp hhead)⟩, hdeep⟩
  | detach | reattach =>
    exact hfault
      (failsOnly_operandField.bind fun region _ => failsOnly_labelField.bind fun label _ => .ok _)
  | sync => exact hfault (failsOnly_operandField.bind fun region _ => .ok _)

/-- Why statements are refused. -/
theorem failsOnly_statement (j : Json) : FailsOnly (StatementFault j) (statement j) := by
  rw [statement.eq_def]
  split
  · exact failsOnly_kindOf.bind fun kind _ => failsOnly_statementOf
  · refine FailsOnly.map (.mapError fun flaw hflaw => ?_) _
    obtain ⟨count, rfl⟩ := failsOnly_operand j flaw hflaw
    exact .inl (.digits .self hflaw)

/-! ### Blocks -/

theorem failsOnly_blockIntegers (hy : y.Within j) :
    FailsOnly (Fault j) (blockIntegers number y) := by
  rw [blockIntegers]
  split
  · exact .error (.layout _)
  · next items hitems =>
    exact .mapM fun x hx =>
      failsOnly_toInteger ((within_of_mem hitems hx).trans hy) (reporting_blockFailure number)

/-- A value is an end of the run of statements of a block. -/
def IsRunEnd (y x : Json) : Prop :=
  ∃ members items, y = .obj members ∧ (member? members "stmts").bind items? = some items ∧
    x ∈ items

theorem IsRunEnd.within {x : Json} (h : IsRunEnd y x) : x.Within y := by
  obtain ⟨members, items, rfl, hstmts, hx⟩ := h
  obtain ⟨stmts, hmember, hitems⟩ := Option.bind_eq_some_iff.mp hstmts
  exact (within_of_mem hitems hx).trans (within_of_member? hmember)

/-- The run of a block is given by two integers, its ends. -/
theorem exists_ends_of_block (h : block number j = .ok b) : ∃ first last : Json,
    IsRunEnd j first ∧ IsRunEnd j last ∧ first.toInteger = .ok b.stmts.first ∧
      last.toInteger = .ok b.stmts.last := by
  cases (block_eq_ok_iff.mp h).1 with
  | @object members _ hstmts _ =>
    obtain ⟨x, first, last, hx, hitems, hfirst, hlast⟩ := hstmts
    have hends : (member? members "stmts").bind items? = some [first, last] :=
      Option.bind_eq_some_iff.mpr ⟨x, hx, hitems⟩
    exact ⟨first, last, ⟨members, _, rfl, hends, by simp⟩, ⟨members, _, rfl, hends, by simp⟩,
      toInteger_eq_ok_iff.mpr hfirst, toInteger_eq_ok_iff.mpr hlast⟩

/-- Why blocks are refused. -/
theorem failsOnly_block (number : ℕ) (j : Json) : FailsOnly (Fault j) (block number j) := by
  rw [block.eq_def]
  split
  · next members =>
    split
    · next first last hstmts =>
      have hinteger : ∀ x ∈ [first, last],
          FailsOnly (Fault (.obj members)) (x.toInteger.mapError (blockFailure number)) :=
        fun x hx => failsOnly_toInteger (IsRunEnd.within ⟨members, _, rfl, hstmts, hx⟩)
          (reporting_blockFailure number)
      refine (hinteger first (by simp)).bind fun m _ => (hinteger last (by simp)).bind fun n _ => ?_
      dsimp only
      split
      · exact .ok _
      · next hsuccs =>
        exact (failsOnly_blockIntegers (within_of_member? hsuccs)).bind fun succs _ => .ok _
    · exact .error (.layout _)
  · exact .error (.layout _)

/-- A run that cannot be counted has an end that is very large. -/
theorem exists_large_of_block (h : block number j = .ok b) (hsize : greatestSpan < b.stmts.size) :
    ∃ (x : Json) (n : Int), IsRunEnd j x ∧ x.toInteger = .ok n ∧ 2 ^ 62 ≤ n.natAbs := by
  obtain ⟨first, last, hfirst, hlast, hm, hn⟩ := exists_ends_of_block h
  have hspan : greatestSpan = 2 ^ 63 - 1 := rfl
  rw [hspan, Span.size] at hsize
  by_cases hlarge : 2 ^ 62 ≤ b.stmts.first.natAbs
  · exact ⟨first, _, hfirst, hm, hlarge⟩
  · exact ⟨last, _, hlast, hn, by omega⟩

/-- Blocks of which one has a run with a very large end. -/
def FarApart (blocks : List Json) : Prop :=
  ∃ y ∈ blocks, ∃ (x : Json) (n : Int), IsRunEnd y x ∧ x.toInteger = .ok n ∧ 2 ^ 62 ≤ n.natAbs

/-- Why graphs are refused: for the layout of their documents, or for a run with a very large
end. -/
theorem failsOnly_validate {blocks : List Json} {blocks' : List Block} {stmts : List Stmt}
    (hblocks : List.Forall₂ (fun x b => block x.2 x.1 = .ok b) (blocks.zipIdx 1) blocks') :
    FailsOnly (fun f => (∃ flaw, f = .document flaw) ∨ f = .overflow ∧ FarApart blocks)
      ((Graph.linked ⟨blocks', stmts⟩).validate.mapError graphFailure) := by
  refine .mapError fun failure hfailure => ?_
  rw [Graph.validate] at hfailure
  split at hfailure
  · next found hfound =>
    obtain rfl := Except.error.inj hfailure
    rw [Graph.failure?] at hfound
    obtain ⟨⟨b, i⟩, hb, hbreaks⟩ := List.exists_of_findSome?_eq_some hfound
    obtain ⟨k, hk⟩ := List.getElem?_of_mem (List.fst_mem_of_mem_zipIdx hb)
    rw [Graph.linked, Graph.getElem?_link] at hk
    obtain ⟨b', hb', rfl⟩ := Option.map_eq_some_iff.mp hk
    obtain ⟨⟨y, number⟩, hy, hread⟩ :=
      exists_of_mem_right hblocks (List.mem_of_getElem? hb')
    dsimp only at hbreaks
    rw [Block.failure?] at hbreaks
    split_ifs at hbreaks with hsize
    · cases hbreaks
      exact .inr ⟨rfl, y, List.fst_mem_of_mem_zipIdx hy, exists_large_of_block hread hsize⟩
    · obtain ⟨flaw, -, rfl⟩ := Option.map_eq_some_iff.mp hbreaks
      exact .inl ⟨_, rfl⟩
  · cases hfailure

/-! ### Trees -/

theorem failsOnly_treeOfChildren : FailsOnly (Fault j) (treeOfChildren count children) :=
  (failsOnly_treeFlaw count children).mono fun _ h => h ▸ .layout _

/-- Why trees are refused. -/
theorem failsOnly_tree (count : ℕ) (j : Json) : FailsOnly (Fault j) (tree count j) := by
  rw [tree]
  split
  · exact .error (.layout _)
  · next lists hlists =>
    obtain rfl := arrayLists_eq_some_iff.mp hlists
    refine FailsOnly.bind (.mapM fun list hlist => .mapM fun c hc => ?_)
      fun children _ => failsOnly_treeOfChildren
    exact failsOnly_toInteger ((within_of_mem rfl hc).trans
      (within_of_mem rfl (List.mem_map_of_mem hlist))) reporting_treeFailure

/-! ### Documents -/

/-- The blocks of a document. -/
def blocksOf? : Json → Option (List Json)
  | .obj members => (member? members "blocks").bind arrayItems?
  | _ => none

theorem within_of_mem_blocksOf? {blocks : List Json} (hblocks : blocksOf? j = some blocks)
    (hy : y ∈ blocks) : y.Within j := by
  rw [blocksOf?.eq_def] at hblocks
  split at hblocks
  · obtain ⟨list, hmember, hlist⟩ := Option.bind_eq_some_iff.mp hblocks
    obtain rfl := arrayItems?_eq_some_iff.mp hlist
    exact (within_of_mem rfl hy).trans (within_of_member? hmember)
  · cases hblocks

theorem failsOnly_textField (hkey : ∀ y, member? members key = some y → WrittenOut (.obj members) y)
    (default : String) : FailsOnly (fun f => f = .tooDeep ∧
      ∃ x, WrittenOut (.obj members) x ∧ levelLimit < x.depth) (textField members key default) := by
  rw [textField]
  split
  · exact .ok _
  · next y hy =>
    exact (failsOnly_shown _ y).mono fun _ h => ⟨h.1, y, hkey y hy, h.2⟩

/-- The name and the signature of a document are written out, or one is nested too deeply. -/
theorem failsOnly_texts {α : Type} (k : String → String → α) : FailsOnly (fun f => f = .tooDeep ∧
    ∃ x, WrittenOut (.obj members) x ∧ levelLimit < x.depth) (do
      let name ← textField members "name" "f?"
      let signature ← textField members "signature" "(?)"
      pure (k name signature)) :=
  (failsOnly_textField (fun _ => .name) _).bind fun _ _ =>
    (failsOnly_textField (fun _ => .signature) _).bind fun _ _ => .ok _

/-- **Why documents are refused.** A JSON value is loaded as a view or refused for a fault, because
the ends of the run of a block are too far apart, or because a part that is written out is nested
too deeply. -/
theorem failsOnly_view_fault (j : Json) : FailsOnly (fun f => Fault j f ∨
    (f = .overflow ∧ ∃ blocks, blocksOf? j = some blocks ∧ FarApart blocks) ∨
    f = .tooDeep ∧ ∃ x, WrittenOut j x ∧ levelLimit < x.depth) (view j) := by
  rw [view.eq_def]
  split
  · next members =>
    split
    · next hcode hblocks =>
      split
      · next code blocks =>
        have hpart : ∀ {key items y}, member? members key = some (.arr items) → y ∈ items →
            y.Within (.obj members) :=
          fun hkey hy => (within_of_mem rfl hy).trans (within_of_member? hkey)
        have hfar : blocksOf? (.obj members) = some blocks := by
          rw [blocksOf?, hblocks]
          rfl
        -- Part by part, in the order in which a document is read.
        refine FailsOnly.bind (.mapM fun y hy => (failsOnly_statement y).mono ?_) fun stmts _ => ?_
        · rintro f (h | ⟨rfl, x, hx, hdeep⟩)
          · exact .inl (h.of_within (hpart hcode hy))
          · exact .inr (.inr ⟨rfl, x, .statement hcode hy hx, hdeep⟩)
        refine FailsOnly.bind (.mapM fun x hx => (failsOnly_block x.2 x.1).mono fun _ h =>
          .inl (h.of_within (hpart hblocks (List.fst_mem_of_mem_zipIdx hx))))
            fun blocks' hblocks' => ?_
        refine FailsOnly.bind ((failsOnly_validate (mapM_eq_ok_iff.mp hblocks')).mono ?_)
          fun _ hvalid => ?_
        · rintro f (⟨flaw, rfl⟩ | ⟨rfl, h⟩)
          · exact .inl (.layout flaw)
          · exact .inr (.inl ⟨rfl, blocks, hfar, h⟩)
        dsimp only
        split
        · next htree =>
          exact ((failsOnly_tree _ _).mono fun _ h =>
            .inl (h.of_within (within_of_member? htree))).bind fun t _ =>
              (failsOnly_texts _).mono fun _ h => .inr (.inr h)
        · -- The tree of a valid graph is always found.
          have hfitting := Graph.Fitting.of_validate (mapError_eq_ok_iff.mp hvalid)
          obtain ⟨t, ht, -⟩ := Dominance.exists_proper_tree? hfitting.succs_inside
          rw [ht]
          exact (failsOnly_texts _).mono fun _ h => .inr (.inr h)
      · exact .error (.inl (.layout _))
    · exact .error (.inl (.layout _))
  · exact .error (.inl (.layout _))

/-- A JSON value is loaded as a view or refused: for its layout, for a text with too many digits in
it, for an infinite or very large integer in it, or for a part that is nested too deeply to be
written out. -/
theorem failsOnly_view (j : Json) : FailsOnly (Refusal j) (view j) := by
  refine (failsOnly_view_fault j).mono ?_
  rintro f (h | ⟨rfl, blocks, hblocks, y, hy, x, n, hx, hn, hlarge⟩ | ⟨rfl, x, hx, hdeep⟩)
  · exact h.refusal
  · exact .overflow (hx.within.trans (within_of_mem_blocksOf? hblocks hy)) (.inr ⟨n, hn, hlarge⟩)
  · exact .tooDeep hx hdeep

/-- A jump to an infinite label is not refused for its layout. -/
example : view (.obj [("code", .arr [.obj [("kind", .str "goto"),
    ("label", .float (.infinite false))]]), ("blocks", .arr [])]) = .error .overflow := by
  rfl

end Document

end FlowAtlas
