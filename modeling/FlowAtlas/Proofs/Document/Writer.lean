import FlowAtlas.Proofs.Document.Layout

/-!
# Writing documents

A view is written as a document: a statement as an object of its kind and its fields, a result and
an argument as texts of their numbers, every other operand as itself, a run of statements by its
ends, and the tree by its lists of children. What is written of an operand or of a statement is read
back as the same, as long as no text among the operands looks like a result or an argument and no
operand that is used as a statement is an object.

## Main definitions

* `IsReference`: the texts that stand for results and arguments.
* `Value.Portable`, `Stmt.Portable`: the operands and the statements that a document can carry.
* `write?`: the document of a view.

## Main results

* `Json.ofValue?_toValue`: a JSON value that was made an operand is recovered.
* `reference?_eq_some_iff`, `reference?_eq_none_iff`: what is read as a reference.
* `exists_operand_eq`, `exists_statement_eq`: reading undoes writing.
-/

namespace FlowAtlas

/-! ### JSON values -/

namespace Json

mutual

/-- The JSON value that an operand was made from, if it was made from one. -/
def ofValue? : Value → Option Json
  | .null => some .null
  | .bool b => some (.bool b)
  | .int n => some (.int n)
  | .float x => some (.float x)
  | .str s => some (.str s)
  | .list items => (ofValues? items).map .arr
  | .dict entries => (ofEntries? entries).map .obj
  | _ => none

/-- The JSON values of the items of a list. -/
def ofValues? : List Value → Option (List Json)
  | [] => some []
  | v :: rest => do pure ((← ofValue? v) :: (← ofValues? rest))

/-- The members of the entries of a dictionary. -/
def ofEntries? : List (Value × Value) → Option (List (String × Json))
  | [] => some []
  | (.str key, v) :: rest => do pure ((key, ← ofValue? v) :: (← ofEntries? rest))
  | _ => none

end

mutual

/-- A JSON value that was made an operand is recovered. -/
theorem ofValue?_toValue : ∀ j : Json, ofValue? j.toValue = some j
  | .null | .bool _ | .int _ | .float _ | .str _ => rfl
  | .arr items => by
    rw [toValue, ofValue?, ofValues?_toValues items, Option.map_some]
  | .obj members => by
    rw [toValue, ofValue?, ofEntries?_toEntries members, Option.map_some]

theorem ofValues?_toValues : ∀ items : List Json, ofValues? (toValues items) = some items
  | [] => rfl
  | j :: rest => by
    rw [toValues, ofValues?, ofValue?_toValue j, ofValues?_toValues rest]
    rfl

theorem ofEntries?_toEntries : ∀ members : List (String × Json),
    ofEntries? (toEntries members) = some members
  | [] => rfl
  | (key, j) :: rest => by
    rw [toEntries, ofEntries?, ofValue?_toValue j, ofEntries?_toEntries rest]
    rfl

end

end Json

namespace Document

/-! ### The writer -/

/-- The JSON value that is written for an operand. -/
def writeOperand? : Value → Option Json
  | .ssa (.int n) => some (.str ("%" ++ toString n))
  | .arg (.int n) => some (.str ("_" ++ toString n))
  | v => Json.ofValue? v

/-- The object of a statement of a kind with the given fields. -/
def object (kind : Kind) (fields : List (String × Json)) : Json :=
  .obj (("kind", .str kind.name) :: fields)

/-- The JSON value that is written for a statement. A return that is unreachable has no operand. -/
def writeStatement? : Stmt → Option Json
  | .goto label => do pure (object .goto [("label", ← writeOperand? label)])
  | .gotoIfNot cond dest => do
    pure (object .gotoIfNot [("cond", ← writeOperand? cond), ("dest", ← writeOperand? dest)])
  | .ret .undef => some (object .ret [])
  | .ret val => do pure (object .ret [("val", ← writeOperand? val)])
  | .expr head args => do
    pure (object .expr [("head", .str head), ("args", .arr (← args.mapM writeOperand?))])
  | .detach region label => do
    pure (object .detach [("syncregion", ← writeOperand? region), ("label", ← writeOperand? label)])
  | .reattach region label => do
    pure (object .reattach
      [("syncregion", ← writeOperand? region), ("label", ← writeOperand? label)])
  | .sync region => do pure (object .sync [("syncregion", ← writeOperand? region)])
  | .value v => writeOperand? v

/-- The object of a block: the ends of its run of statements, and its successors. -/
def writeBlock (b : Block) : Json :=
  .obj [("stmts", .arr [.int b.stmts.first, .int b.stmts.last]),
    ("succs", .arr (b.succs.map .int))]

/-- The lists of children of a tree. -/
def writeTree (t : DomTree) : Json :=
  .arr (t.childLists.map fun children => .arr (children.map .int))

/-- The document of a view. -/
def write? (v : View) : Option Json := do
  let code ← v.graph.code.mapM writeStatement?
  let tree ← v.tree
  pure (.obj [
    ("name", ← Json.ofValue? v.name),
    ("signature", ← Json.ofValue? v.signature),
    ("rtype", ← Json.ofValue? v.resultType),
    ("code", .arr code),
    ("blocks", .arr (v.graph.blocks.map writeBlock)),
    ("domtree", writeTree tree)])

/-! ### References -/

/-- A text stands for a result or an argument: a mark, decimal digits, and possibly a line end. -/
def IsReference (s : String) : Prop :=
  ∃ mark digits, (mark = '%' ∨ mark = '_') ∧ digits ≠ [] ∧ (∀ c ∈ digits, Text.isDecimalDigit c) ∧
    (s.toList = mark :: digits ∨ s.toList = mark :: (digits ++ ['\n']))

variable {cs digits : List Char} {mark : Char} {s : String} {n : ℕ}

theorem referenceDigits?_eq_some_iff : referenceDigits? cs = some digits ↔
    digits ≠ [] ∧ (∀ c ∈ digits, Text.isDecimalDigit c) ∧
      (cs = digits ∨ cs = digits ++ ['\n']) := by
  have hbody : ∀ body : List Char, (if !body.isEmpty && body.all Text.isDecimalDigit then some body
      else none) = some digits ↔
        body = digits ∧ digits ≠ [] ∧ ∀ c ∈ digits, Text.isDecimalDigit c := by
    intro body
    rw [Option.ite_none_right_eq_some, Bool.and_eq_true, Bool.not_eq_true',
      List.isEmpty_eq_false_iff, List.all_eq_true, Option.some_inj]
    constructor
    · rintro ⟨h, rfl⟩
      exact ⟨rfl, h⟩
    · rintro ⟨rfl, h⟩
      exact ⟨h, rfl⟩
  rw [referenceDigits?, hbody]
  constructor
  · rintro ⟨rfl, hne, hdigits⟩
    refine ⟨hne, hdigits, ?_⟩
    split
    · next hlast => exact .inr (List.dropLast_append_getLast? _ hlast).symm
    · exact .inl rfl
  · rintro ⟨hne, hdigits, rfl | rfl⟩
    · have hlast : cs.getLast? ≠ some '\n' := fun hlast =>
        absurd (hdigits _ (List.mem_of_getLast? hlast))
          (by rw [Text.isDecimalDigit_newline]; decide)
      exact ⟨if_neg hlast, hne, hdigits⟩
    · exact ⟨by rw [if_pos List.getLast?_concat, List.dropLast_concat], hne, hdigits⟩

/-- What is read as a reference, with its mark and its digits. -/
theorem reference?_eq_some_iff : reference? cs = some (mark, digits) ↔
    (mark = '%' ∨ mark = '_') ∧ digits ≠ [] ∧ (∀ c ∈ digits, Text.isDecimalDigit c) ∧
      (cs = mark :: digits ∨ cs = mark :: (digits ++ ['\n'])) := by
  cases cs with
  | nil => simp [reference?]
  | cons c cs =>
    rw [reference?, Option.ite_none_right_eq_some, Bool.or_eq_true, decide_eq_true_eq,
      decide_eq_true_eq, Option.map_eq_some_iff]
    simp only [referenceDigits?_eq_some_iff, List.cons.injEq, Prod.mk.injEq]
    constructor
    · rintro ⟨hmark, _, ⟨hne, hdigits, hcs⟩, rfl, rfl⟩
      exact ⟨hmark, hne, hdigits, hcs.imp (⟨rfl, ·⟩) (⟨rfl, ·⟩)⟩
    · rintro ⟨hmark, hne, hdigits, ⟨rfl, rfl⟩ | ⟨rfl, rfl⟩⟩
      · exact ⟨hmark, _, ⟨hne, hdigits, .inl rfl⟩, rfl, rfl⟩
      · exact ⟨hmark, _, ⟨hne, hdigits, .inr rfl⟩, rfl, rfl⟩

theorem reference?_eq_none_iff : reference? s.toList = none ↔ ¬ IsReference s := by
  rw [← Option.not_isSome_iff_eq_none, Option.isSome_iff_exists, IsReference]
  simp only [Prod.exists, reference?_eq_some_iff]

theorem reference?_toString (hmark : mark = '%' ∨ mark = '_') (n : ℕ) :
    reference? (mark :: (toString n).toList) = some (mark, Nat.toDigits 10 n) := by
  refine reference?_eq_some_iff.mpr ⟨hmark, Nat.toDigits_ne_nil, fun c hc => ?_,
    .inl (by rw [Text.toList_toString])⟩
  exact Text.isDecimalDigit_of_isDigit (Nat.isDigit_of_mem_toDigits (by omega) (by omega) hc)

end Document

/-! ### What a document can carry -/

/-- An operand that a document can carry: a result or an argument with a number that has not too
many digits, or a JSON value that is no text of a reference. -/
inductive Value.Portable : Value → Prop
  | ssa {n : ℕ} (h : (toString n).length ≤ digitLimit) : Portable (.ssa (.int n))
  | arg {n : ℕ} (h : (toString n).length ≤ digitLimit) : Portable (.arg (.int n))
  | json (j : Json) (h : ∀ s, j = .str s → ¬ Document.IsReference s) : Portable j.toValue

/-- A statement that a document can carry. -/
inductive Stmt.Portable : Stmt → Prop
  | goto (n : Int) : Portable (.goto (.int n))
  | gotoIfNot {cond : Value} (h : cond.Portable) (n : Int) : Portable (.gotoIfNot cond (.int n))
  | ret {val : Value} (h : val.Portable) : Portable (.ret val)
  | unreachable : Portable (.ret .undef)
  | expr (head : String) {args : List Value} (h : ∀ arg ∈ args, arg.Portable) :
    Portable (.expr head args)
  | detach {region : Value} (h : region.Portable) (n : Int) : Portable (.detach region (.int n))
  | reattach {region : Value} (h : region.Portable) (n : Int) :
    Portable (.reattach region (.int n))
  | sync {region : Value} (h : region.Portable) : Portable (.sync region)
  | value {v : Value} (h : v.Portable) (hdict : ∀ entries, v ≠ .dict entries) : Portable (.value v)

namespace Document

variable {v : Value} {st : Stmt} {kind : Kind} {mark : Char} {s : String} {n : ℕ}

/-! ### Operands -/

theorem operand_reference (hmark : mark = '%' ∨ mark = '_')
    (hs : s.toList = mark :: (toString n).toList) (hn : (toString n).length ≤ digitLimit) :
    operand (.str s) = .ok (if mark = '%' then .ssa (.int n) else .arg (.int n)) := by
  have hlength : ¬ (Nat.toDigits 10 n).length > digitLimit := by
    rwa [← Text.toList_toString, String.length_toList, gt_iff_lt, Nat.not_lt]
  rw [operand]
  simp only [hs, reference?_toString hmark, if_neg hlength, Text.decimalValue_toDigits]

/-- Reading an operand undoes writing it, and only dictionaries are written as objects. -/
theorem exists_operand_eq (h : v.Portable) : ∃ j, writeOperand? v = some j ∧ operand j = .ok v ∧
    ∀ members, j = .obj members → ∃ entries, v = .dict entries := by
  cases h with
  | @ssa n hn =>
    refine ⟨.str ("%" ++ toString n), rfl, ?_, fun _ h => by cases h⟩
    exact operand_reference (.inl rfl) String.toList_append hn
  | @arg n hn =>
    refine ⟨.str ("_" ++ toString n), rfl, ?_, fun _ h => by cases h⟩
    exact operand_reference (.inr rfl) String.toList_append hn
  | json j hj =>
    refine ⟨j, ?_, ?_, fun members h => ⟨Json.toEntries members, by rw [h, Json.toValue]⟩⟩
    · rw [← Json.ofValue?_toValue j]
      cases j <;> rfl
    · cases j with
      | str s => rw [operand, reference?_eq_none_iff.mpr (hj s rfl), Json.toValue]
      | _ => rfl

/-! ### Statements -/

/-- An object with the fields of a kind is a statement of that kind. -/
theorem statement_object {fields : List (String × Json)}
    (h : Fields .lenient (("kind", .str kind.name) :: fields) kind st) :
    statement (object kind fields) = .ok st :=
  statement_eq_ok_iff.mpr (.object (.inl rfl) h)

theorem ne_undef (h : v.Portable) : v ≠ .undef := by
  cases h with
  | ssa | arg => exact Value.noConfusion
  | json j =>
    cases j <;> exact Value.noConfusion

/-- **Reading a statement undoes writing it.** -/
theorem exists_statement_eq (h : st.Portable) :
    ∃ j, writeStatement? st = some j ∧ statement j = .ok st := by
  cases h with
  | goto n =>
    exact ⟨object .goto [("label", .int n)], rfl, statement_object (.goto ⟨_, rfl, .integer n⟩)⟩
  | @gotoIfNot cond hcond n =>
    obtain ⟨j, hwrite, hj, -⟩ := exists_operand_eq hcond
    refine ⟨object .gotoIfNot [("cond", j), ("dest", .int n)], ?_,
      statement_object (.gotoIfNot ⟨j, rfl, hj⟩ ⟨_, rfl, .integer n⟩)⟩
    rw [writeStatement?, hwrite]
    rfl
  | @ret val hval =>
    obtain ⟨j, hwrite, hj, -⟩ := exists_operand_eq hval
    refine ⟨object .ret [("val", j)], ?_, statement_object (.ret ⟨j, rfl, hj⟩)⟩
    rw [writeStatement?, hwrite]
    · rfl
    · exact ne_undef hval
  | unreachable => exact ⟨object .ret [], rfl, statement_object (.unreachable rfl)⟩
  | @expr head args hargs =>
    obtain ⟨items, hitems⟩ := exists_forall₂ fun arg harg => exists_operand_eq (hargs arg harg)
    have hread : List.Forall₂ (fun x v => operand x = .ok v) items args :=
      hitems.flip.imp fun _ _ h => h.2.1
    -- The head is a text, and the text of a text is that text itself.
    have hfields : Fields .lenient (("kind", .str Kind.expr.name) ::
        [("head", .str head), ("args", .arr items)]) .expr
        (.expr (Json.str head).toValue.text args) :=
      .expr rfl (Nat.zero_le _) (.present rfl rfl hread)
    refine ⟨object .expr [("head", .str head), ("args", .arr items)], ?_,
      statement_object hfields⟩
    rw [writeStatement?, mapM_eq_some_iff.mpr (hitems.imp fun _ _ h => h.1)]
    rfl
  | @detach region hregion n =>
    obtain ⟨j, hwrite, hj, -⟩ := exists_operand_eq hregion
    refine ⟨object .detach [("syncregion", j), ("label", .int n)], ?_,
      statement_object (.detach ⟨j, rfl, hj⟩ ⟨_, rfl, .integer n⟩)⟩
    rw [writeStatement?, hwrite]
    rfl
  | @reattach region hregion n =>
    obtain ⟨j, hwrite, hj, -⟩ := exists_operand_eq hregion
    refine ⟨object .reattach [("syncregion", j), ("label", .int n)], ?_,
      statement_object (.reattach ⟨j, rfl, hj⟩ ⟨_, rfl, .integer n⟩)⟩
    rw [writeStatement?, hwrite]
    rfl
  | @sync region hregion =>
    obtain ⟨j, hwrite, hj, -⟩ := exists_operand_eq hregion
    refine ⟨object .sync [("syncregion", j)], ?_, statement_object (.sync ⟨j, rfl, hj⟩)⟩
    rw [writeStatement?, hwrite]
    rfl
  | @value v hv hdict =>
    obtain ⟨j, hwrite, hj, hobj⟩ := exists_operand_eq hv
    refine ⟨j, hwrite, statement_eq_ok_iff.mpr (.lone (fun members hmembers => ?_) hj)⟩
    obtain ⟨entries, hentries⟩ := hobj members hmembers
    exact hdict entries hentries

end Document

end FlowAtlas
