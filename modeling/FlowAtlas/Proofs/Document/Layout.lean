import FlowAtlas.Document.Load
import FlowAtlas.Proofs.Document.Integer
import FlowAtlas.Proofs.Outcome

/-!
# The layout of the parts of documents

A document gives a statement by the fields of its kind, a block by the two ends of its run and the
list of its successors, and a tree by the lists of children. The layout leaves open how integers and
lists are written. Strictly, they are written as integers and as arrays. Documents are read
leniently: whatever can be read as an integer is one, and, but for the lists of a tree, whatever has
items is a list. A part of a document that can be read strictly is not read in any other way.

## Main definitions

* `Document.Reading`: a way of reading integers and lists, with `Reading.strict` and
  `Reading.lenient`.
* `Document.DescribesStatement`, `Document.DescribesBlock`, `Document.DescribesTree`: what a JSON
  value describes by the layout.

## Main results

* `Document.statement_eq_ok_iff`, `Document.block_eq_ok_iff`, `Document.tree_eq_ok_iff`: documents
  are read leniently.
* `Document.DescribesStatement.strict_of_lenient`, `Document.DescribesBlock.strict_of_lenient`,
  `Document.DescribesTree.strict_of_lenient`: what can be read strictly is read as it is written.
-/

namespace FlowAtlas

namespace Document

open Json

variable {members : List (String × Json)} {kindName key : String} {j x : Json} {s s' : Stmt}
  {b b' : Block} {t t' : DomTree} {v label : Value} {args : List Value} {kind : Kind} {n m : ℤ}
  {number count : ℕ}

/-! ### Readings -/

/-- A way of reading documents: the integers and the lists that JSON values stand for. -/
structure Reading where
  integer : Json → ℤ → Prop
  list : Json → List Json → Prop

/-- Integers and lists are what is written as such. -/
def Reading.strict : Reading where
  integer x n := x = .int n
  list x items := x = .arr items

/-- Integers and lists are what can be read as such: truth values, numbers with a fraction and texts
of numerals are integers, the characters of a text and the keys of an object make lists. -/
def Reading.lenient : Reading where
  integer := ReadAs
  list x items := x.items? = some items

namespace Reading

theorem lenient_integer (h : strict.integer x n) : lenient.integer x n := by
  obtain rfl : x = .int n := h
  exact .integer n

theorem lenient_list {items : List Json} (h : strict.list x items) : lenient.list x items := by
  obtain rfl : x = .arr items := h
  rfl

/-- What is read as a list is the one that is written, if one is written. -/
theorem eq_of_list {items items' : List Json} (h : lenient.list x items)
    (h' : strict.list x items') : items = items' :=
  Option.some.inj (h.symm.trans (lenient_list h'))

theorem lenient_integer_iff : lenient.integer x n ↔ x.toInteger = .ok n :=
  toInteger_eq_ok_iff.symm

/-- What is read as an integer is the one that is written, if one is written. -/
theorem strict_integer (h : lenient.integer x n) (h' : strict.integer x m) :
    strict.integer x n := by
  have hm := lenient_integer_iff.mp (lenient_integer h')
  obtain rfl := Except.ok.inj (hm.symm.trans (lenient_integer_iff.mp h))
  exact h'

end Reading

/-! ### Members -/

section Members

variable (R : Reading) (members : List (String × Json)) (key : String)

/-- The member of an object with a given key is an integer. -/
def IntegerAt (n : ℤ) : Prop :=
  ∃ x, member? members key = some x ∧ R.integer x n

/-- The member of an object with a given key is an operand. -/
def OperandAt (v : Value) : Prop :=
  ∃ x, member? members key = some x ∧ operand x = .ok v

/-- The member of an object with a given key is a list of what each of its items describes. A
missing list is empty. -/
inductive ListAt {α : Type} (P : Json → α → Prop) : List α → Prop
  | missing (h : member? members key = none) : ListAt P []
  | present {x : Json} {items : List Json} {ys : List α} (h : member? members key = some x)
    (hitems : R.list x items) (hys : List.Forall₂ P items ys) : ListAt P ys

/-- The member of an object with a given key is a list of exactly two integers, the first and the
last number of a run. -/
def RunAt (run : Span) : Prop :=
  ∃ x first last, member? members key = some x ∧ R.list x [first, last] ∧
    R.integer first run.first ∧ R.integer last run.last

/-- An object is a statement of a kind. An expression need not say so. -/
def OfKind (kind : Kind) : Prop :=
  member? members "kind" = some (.str kind.name) ∨
    member? members "kind" = none ∧ kind = .expr

end Members

/-! ### The layout -/

/-- The fields of the statements of a kind. -/
inductive Fields (R : Reading) (members : List (String × Json)) : Kind → Stmt → Prop
  | goto {n : ℤ} (hlabel : IntegerAt R members "label" n) : Fields R members .goto (.goto (.int n))
  | gotoIfNot {cond : Value} {n : ℤ} (hcond : OperandAt members "cond" cond)
    (hdest : IntegerAt R members "dest" n) :
    Fields R members .gotoIfNot (.gotoIfNot cond (.int n))
  | ret {val : Value} (hval : OperandAt members "val" val) : Fields R members .ret (.ret val)
  | unreachable (hval : member? members "val" = none) : Fields R members .ret (.ret .undef)
  | expr {head : Json} {args : List Value} (hhead : member? members "head" = some head)
    (hdepth : head.depth ≤ levelLimit)
    (hargs : ListAt R members "args" (fun x v => operand x = .ok v) args) :
    Fields R members .expr (.expr head.toValue.text args)
  | detach {region : Value} {n : ℤ} (hregion : OperandAt members "syncregion" region)
    (hlabel : IntegerAt R members "label" n) :
    Fields R members .detach (.detach region (.int n))
  | reattach {region : Value} {n : ℤ} (hregion : OperandAt members "syncregion" region)
    (hlabel : IntegerAt R members "label" n) :
    Fields R members .reattach (.reattach region (.int n))
  | sync {region : Value} (hregion : OperandAt members "syncregion" region) :
    Fields R members .sync (.sync region)

/-- A JSON value describes a statement: it is an object with the fields of its kind, or an operand
that stands alone. -/
inductive DescribesStatement (R : Reading) : Json → Stmt → Prop
  | object {members : List (String × Json)} {kind : Kind} {s : Stmt} (hkind : OfKind members kind)
    (hfields : Fields R members kind s) : DescribesStatement R (.obj members) s
  | lone {x : Json} {v : Value} (hx : ∀ members, x ≠ .obj members) (hv : operand x = .ok v) :
    DescribesStatement R x (.value v)

/-- A JSON value describes the run and the successors of a block: it is an object with the two ends
of the run and the list of the successors. -/
inductive DescribesBlock (R : Reading) : Json → Block → Prop
  | object {members : List (String × Json)} {b : Block} (hstmts : RunAt R members "stmts" b.stmts)
    (hsuccs : ListAt R members "succs" R.integer b.succs) : DescribesBlock R (.obj members) b

/-- A JSON value describes the children in a tree: it is an array of arrays of integers. -/
def DescribesTree (R : Reading) (j : Json) (t : DomTree) : Prop :=
  ∃ lists : List (List Json), j = .arr (lists.map .arr) ∧
    List.Forall₂ (List.Forall₂ R.integer) lists t.childLists

/-! ### Members are read leniently -/

theorem shown_eq_ok_iff {toText : Value → String} {text : String} :
    shown toText x = .ok text ↔ x.depth ≤ levelLimit ∧ toText x.toValue = text := by
  rw [shown]
  split
  · next h => rw [Except.ok.injEq, and_iff_right h]
  · next h => exact ⟨fun h' => (by cases h'), fun h' => absurd h'.1 h⟩

theorem field_eq_ok_iff : field kindName members key = .ok x ↔ member? members key = some x := by
  rw [field]
  cases member? members key with
  | none => exact ⟨fun h => (by cases h), fun h => (by cases h)⟩
  | some y => rw [Except.ok.injEq, Option.some_inj]

theorem operandField_eq_ok_iff : operandField kindName members key = .ok v ↔
    OperandAt members key v := by
  rw [operandField, bind_eq_ok_iff]
  simp only [field_eq_ok_iff, mapError_eq_ok_iff, OperandAt]

theorem labelField_eq_ok_iff : labelField kindName members key = .ok label ↔
    ∃ n, IntegerAt .lenient members key n ∧ label = .int n := by
  rw [labelField, bind_eq_ok_iff]
  constructor
  · rintro ⟨x, hx, h⟩
    obtain ⟨n, hn, h⟩ := bind_eq_ok_iff.mp h
    exact ⟨n, ⟨x, field_eq_ok_iff.mp hx, toInteger_eq_ok_iff.mp (mapError_eq_ok_iff.mp hn)⟩,
      (Except.ok.inj h).symm⟩
  · rintro ⟨n, ⟨x, hx, hn⟩, rfl⟩
    exact ⟨x, field_eq_ok_iff.mpr hx, bind_eq_ok_iff.mpr
      ⟨n, mapError_eq_ok_iff.mpr (toInteger_eq_ok_iff.mpr hn), rfl⟩⟩

theorem arguments_eq_ok_iff : arguments kindName members = .ok args ↔
    ListAt .lenient members "args" (fun x v => operand x = .ok v) args := by
  rw [arguments]
  constructor
  · intro h
    split at h
    · next hnone =>
      cases h
      exact .missing hnone
    · next x hx =>
      split at h
      · cases h
      · next items hitems =>
        have hargs := mapM_eq_ok_iff.mp h
        exact .present hx hitems (hargs.imp fun _ _ => mapError_eq_ok_iff.mp)
  · intro h
    cases h with
    | missing hnone => rw [hnone]
    | @present x items _ hx hitems hargs =>
      have hitems : x.items? = some items := hitems
      rw [hx]
      dsimp only
      rw [hitems]
      exact mapM_eq_ok_iff.mpr (hargs.imp fun _ _ => mapError_eq_ok_iff.mpr)

theorem blockIntegers_eq_ok_iff {items : List ℤ} : blockIntegers number x = .ok items ↔
    ∃ xs, x.items? = some xs ∧ List.Forall₂ ReadAs xs items := by
  rw [blockIntegers]
  cases x.items? with
  | none => exact ⟨fun h => (by cases h), fun ⟨_, h, _⟩ => (by cases h)⟩
  | some xs =>
    rw [mapM_eq_ok_iff]
    simp only [mapError_eq_ok_iff, toInteger_eq_ok_iff, Option.some_inj, exists_eq_left']

theorem kindOf_eq_ok_iff : kindOf members = .ok kind ↔ OfKind members kind := by
  rw [kindOf, OfKind]
  cases member? members "kind" with
  | none =>
    constructor
    · rintro ⟨⟩
      exact .inr ⟨rfl, rfl⟩
    · rintro (h | ⟨-, rfl⟩)
      · cases h
      · rfl
  | some x =>
    cases x with
    | str name =>
      constructor
      · intro h
        dsimp only at h
        split at h
        · next hfind =>
          have hname := List.find?_some hfind
          cases h
          rw [← beq_iff_eq.mp hname]
          exact .inl rfl
        · cases h
      · rintro (h | ⟨h, -⟩)
        · cases h
          cases kind <;> rfl
        · cases h
    | null | bool | int | float | arr | obj =>
      constructor
      · intro h
        obtain ⟨_, -, h⟩ := bind_eq_ok_iff.mp h
        cases h
      · rintro (h | ⟨h, -⟩) <;> cases h

/-! ### Statements -/

theorem fields_of_statementOf (h : statementOf members kind = .ok s) :
    Fields .lenient members kind s := by
  cases kind with
  | goto =>
    obtain ⟨label, hlabel, h⟩ := bind_eq_ok_iff.mp h
    obtain ⟨n, hn, rfl⟩ := labelField_eq_ok_iff.mp hlabel
    cases h
    exact .goto hn
  | gotoIfNot =>
    obtain ⟨cond, hcond, h⟩ := bind_eq_ok_iff.mp h
    obtain ⟨label, hlabel, h⟩ := bind_eq_ok_iff.mp h
    obtain ⟨n, hn, rfl⟩ := labelField_eq_ok_iff.mp hlabel
    cases h
    exact .gotoIfNot (operandField_eq_ok_iff.mp hcond) hn
  | ret =>
    rw [statementOf] at h
    split at h
    · obtain ⟨val, hval, h⟩ := bind_eq_ok_iff.mp h
      cases h
      exact .ret (operandField_eq_ok_iff.mp hval)
    · next hnone =>
      cases h
      exact .unreachable (Option.not_isSome_iff_eq_none.mp hnone)
  | expr =>
    obtain ⟨head, hhead, h⟩ := bind_eq_ok_iff.mp h
    obtain ⟨text, htext, h⟩ := bind_eq_ok_iff.mp h
    obtain ⟨args, hargs, h⟩ := bind_eq_ok_iff.mp h
    obtain ⟨hdepth, rfl⟩ := shown_eq_ok_iff.mp htext
    cases h
    exact .expr (field_eq_ok_iff.mp hhead) hdepth (arguments_eq_ok_iff.mp hargs)
  | detach =>
    obtain ⟨region, hregion, h⟩ := bind_eq_ok_iff.mp h
    obtain ⟨label, hlabel, h⟩ := bind_eq_ok_iff.mp h
    obtain ⟨n, hn, rfl⟩ := labelField_eq_ok_iff.mp hlabel
    cases h
    exact .detach (operandField_eq_ok_iff.mp hregion) hn
  | reattach =>
    obtain ⟨region, hregion, h⟩ := bind_eq_ok_iff.mp h
    obtain ⟨label, hlabel, h⟩ := bind_eq_ok_iff.mp h
    obtain ⟨n, hn, rfl⟩ := labelField_eq_ok_iff.mp hlabel
    cases h
    exact .reattach (operandField_eq_ok_iff.mp hregion) hn
  | sync =>
    obtain ⟨region, hregion, h⟩ := bind_eq_ok_iff.mp h
    cases h
    exact .sync (operandField_eq_ok_iff.mp hregion)

theorem statementOf_of_fields (h : Fields .lenient members kind s) :
    statementOf members kind = .ok s := by
  cases h with
  | goto hlabel =>
    exact bind_eq_ok_iff.mpr ⟨_, labelField_eq_ok_iff.mpr ⟨_, hlabel, rfl⟩, rfl⟩
  | gotoIfNot hcond hdest =>
    exact bind_eq_ok_iff.mpr ⟨_, operandField_eq_ok_iff.mpr hcond,
      bind_eq_ok_iff.mpr ⟨_, labelField_eq_ok_iff.mpr ⟨_, hdest, rfl⟩, rfl⟩⟩
  | ret hval =>
    obtain ⟨x, hx, -⟩ := id hval
    rw [statementOf, if_pos (Option.isSome_iff_exists.mpr ⟨x, hx⟩)]
    exact bind_eq_ok_iff.mpr ⟨_, operandField_eq_ok_iff.mpr hval, rfl⟩
  | unreachable hval =>
    rw [statementOf, hval]
    rfl
  | expr hhead hdepth hargs =>
    exact bind_eq_ok_iff.mpr ⟨_, field_eq_ok_iff.mpr hhead,
      bind_eq_ok_iff.mpr ⟨_, shown_eq_ok_iff.mpr ⟨hdepth, rfl⟩,
        bind_eq_ok_iff.mpr ⟨_, arguments_eq_ok_iff.mpr hargs, rfl⟩⟩⟩
  | detach hregion hlabel | reattach hregion hlabel =>
    exact bind_eq_ok_iff.mpr ⟨_, operandField_eq_ok_iff.mpr hregion,
      bind_eq_ok_iff.mpr ⟨_, labelField_eq_ok_iff.mpr ⟨_, hlabel, rfl⟩, rfl⟩⟩
  | sync hregion =>
    exact bind_eq_ok_iff.mpr ⟨_, operandField_eq_ok_iff.mpr hregion, rfl⟩

/-- The fields of a statement are read leniently. -/
theorem statementOf_eq_ok_iff : statementOf members kind = .ok s ↔
    Fields .lenient members kind s :=
  ⟨fields_of_statementOf, statementOf_of_fields⟩

/-- Statements are read leniently. -/
theorem statement_eq_ok_iff : statement j = .ok s ↔ DescribesStatement .lenient j s := by
  rw [statement.eq_def]
  constructor
  · intro h
    split at h
    · obtain ⟨kind, hkind, h⟩ := bind_eq_ok_iff.mp h
      exact .object (kindOf_eq_ok_iff.mp hkind) (statementOf_eq_ok_iff.mp h)
    · next hobj =>
      obtain ⟨v, hv, rfl⟩ := map_eq_ok_iff.mp h
      exact .lone hobj (mapError_eq_ok_iff.mp hv)
  · intro h
    cases h with
    | object hkind hfields =>
      exact bind_eq_ok_iff.mpr ⟨_, kindOf_eq_ok_iff.mpr hkind, statementOf_eq_ok_iff.mpr hfields⟩
    | lone hx hv =>
      split
      · exact absurd rfl (hx _)
      · exact map_eq_ok_iff.mpr ⟨_, mapError_eq_ok_iff.mpr hv, rfl⟩

/-! ### Blocks -/

/-- Blocks are read leniently. Their predecessors are left open. -/
theorem block_eq_ok_iff : block number j = .ok b ↔ DescribesBlock .lenient j b ∧ b.preds = [] := by
  rw [block.eq_def]
  constructor
  · intro h
    split at h
    · next members =>
      split at h
      · next first last hstmts =>
        obtain ⟨x, hx, hitems⟩ := Option.bind_eq_some_iff.mp hstmts
        obtain ⟨m, hm, h⟩ := bind_eq_ok_iff.mp h
        obtain ⟨n, hn, h⟩ := bind_eq_ok_iff.mp h
        have hm := toInteger_eq_ok_iff.mp (mapError_eq_ok_iff.mp hm)
        have hn := toInteger_eq_ok_iff.mp (mapError_eq_ok_iff.mp hn)
        dsimp only at h
        split at h
        · next hnone =>
          obtain ⟨succs, hsuccs, h⟩ := bind_eq_ok_iff.mp h
          cases h
          cases hsuccs
          exact ⟨.object ⟨x, first, last, hx, hitems, hm, hn⟩ (.missing hnone), rfl⟩
        · next y hy =>
          obtain ⟨succs, hsuccs, h⟩ := bind_eq_ok_iff.mp h
          cases h
          obtain ⟨xs, hxs, hsuccs⟩ := blockIntegers_eq_ok_iff.mp hsuccs
          exact ⟨.object ⟨x, first, last, hx, hitems, hm, hn⟩ (.present hy hxs hsuccs), rfl⟩
      · cases h
    · cases h
  · rintro ⟨h, hpreds⟩
    obtain ⟨run, succs, preds⟩ := b
    cases hpreds
    cases h with
    | object hstmts hsuccs =>
      obtain ⟨x, first, last, hx, hitems, hfirst, hlast⟩ := hstmts
      dsimp only
      rw [Option.bind_eq_some_iff.mpr ⟨x, hx, hitems⟩]
      refine bind_eq_ok_iff.mpr ⟨_, mapError_eq_ok_iff.mpr (toInteger_eq_ok_iff.mpr hfirst),
        bind_eq_ok_iff.mpr ⟨_, mapError_eq_ok_iff.mpr (toInteger_eq_ok_iff.mpr hlast), ?_⟩⟩
      cases hsuccs with
      | missing hnone =>
        rw [hnone]
        rfl
      | present hy hxs hsuccs =>
        rw [hy]
        exact bind_eq_ok_iff.mpr ⟨_, blockIntegers_eq_ok_iff.mpr ⟨_, hxs, hsuccs⟩, rfl⟩

/-! ### Trees -/

theorem arrayItems?_eq_some_iff {items : List Json} :
    arrayItems? j = some items ↔ j = .arr items := by
  cases j with
  | arr => rw [arrayItems?, Option.some_inj, Json.arr.injEq]
  | null | bool | int | float | str | obj => exact ⟨fun h => (by cases h), fun h => (by cases h)⟩

theorem arrayLists_eq_some_iff {lists : List (List Json)} :
    (arrayItems? j).bind (·.mapM arrayItems?) = some lists ↔ j = .arr (lists.map .arr) := by
  have hitems : ∀ items : List Json,
      items.mapM arrayItems? = some lists ↔ items = lists.map .arr := by
    intro items
    rw [mapM_eq_some_iff, ← List.forall₂_eq_eq_eq, List.forall₂_map_right_iff]
    simp only [arrayItems?_eq_some_iff]
  rw [Option.bind_eq_some_iff]
  simp only [arrayItems?_eq_some_iff, hitems, exists_eq_right]

/-- Trees are read leniently, and their children are checked. -/
theorem tree_eq_ok_iff : tree count j = .ok t ↔ ∃ lists children, j = .arr (lists.map .arr) ∧
    List.Forall₂ (List.Forall₂ ReadAs) lists children ∧ treeOfChildren count children = .ok t := by
  rw [tree]
  constructor
  · intro h
    split at h
    · cases h
    · next lists hlists =>
      obtain ⟨children, hchildren, h⟩ := bind_eq_ok_iff.mp h
      refine ⟨lists, children, arrayLists_eq_some_iff.mp hlists, ?_, h⟩
      refine (mapM_eq_ok_iff.mp hchildren).imp fun _ _ hlist => ?_
      refine (mapM_eq_ok_iff.mp hlist).imp fun _ _ hchild => ?_
      exact toInteger_eq_ok_iff.mp (mapError_eq_ok_iff.mp hchild)
  · rintro ⟨lists, children, hj, hchildren, h⟩
    rw [arrayLists_eq_some_iff.mpr hj]
    refine bind_eq_ok_iff.mpr ⟨children, mapM_eq_ok_iff.mpr (hchildren.imp fun _ _ hlist => ?_), h⟩
    refine mapM_eq_ok_iff.mpr (hlist.imp fun _ _ hchild => ?_)
    exact mapError_eq_ok_iff.mpr (toInteger_eq_ok_iff.mpr hchild)

/-! ### What can be read strictly -/

theorem IntegerAt.strict_of_lenient (h : IntegerAt .lenient members key n)
    (h' : IntegerAt .strict members key m) : IntegerAt .strict members key n := by
  obtain ⟨x, hx, hn⟩ := h
  obtain ⟨y, hy, hm⟩ := h'
  obtain rfl := Option.some.inj (hx.symm.trans hy)
  exact ⟨x, hx, Reading.strict_integer hn hm⟩

theorem RunAt.strict_of_lenient {run run' : Span} (h : RunAt .lenient members key run)
    (h' : RunAt .strict members key run') : RunAt .strict members key run := by
  obtain ⟨x, first, last, hx, hitems, hfirst, hlast⟩ := h
  obtain ⟨y, first', last', hy, hitems', hfirst', hlast'⟩ := h'
  obtain rfl := Option.some.inj (hx.symm.trans hy)
  cases Reading.eq_of_list hitems hitems'
  exact ⟨x, first, last, hx, hitems', Reading.strict_integer hfirst hfirst',
    Reading.strict_integer hlast hlast'⟩

/-- A list that can be read strictly is read as it is written, if each of its items is. -/
theorem ListAt.strict_of_lenient {α β : Type} {P : Json → α → Prop} {Q : Json → β → Prop}
    {T : Json → α → Prop} {ys : List α} {zs : List β} (hPQ : ∀ x y z, P x y → Q x z → T x y)
    (h : ListAt .lenient members key P ys) (h' : ListAt .strict members key Q zs) :
    ListAt .strict members key T ys := by
  cases h with
  | missing hnone => exact .missing hnone
  | present hx hitems hys =>
    cases h' with
    | missing hnone => exact absurd (hx.symm.trans hnone) (Option.some_ne_none _)
    | present hy hitems' hzs =>
      obtain rfl := Option.some.inj (hx.symm.trans hy)
      obtain rfl := Reading.eq_of_list hitems hitems'
      exact .present hy hitems' (forall₂_transfer hPQ hys hzs)

/-- The fields of a statement that can be read strictly are read as they are written. -/
theorem Fields.strict_of_lenient (h : Fields .lenient members kind s)
    (h' : Fields .strict members kind s') : Fields .strict members kind s := by
  cases h with
  | goto hlabel =>
    cases h' with
    | goto hlabel' => exact .goto (hlabel.strict_of_lenient hlabel')
  | gotoIfNot hcond hdest =>
    cases h' with
    | gotoIfNot _ hdest' => exact .gotoIfNot hcond (hdest.strict_of_lenient hdest')
  | ret hval => exact .ret hval
  | unreachable hval => exact .unreachable hval
  | expr hhead hdepth hargs =>
    cases h' with
    | expr _ _ hargs' =>
      exact .expr hhead hdepth (hargs.strict_of_lenient (fun _ _ _ hv _ => hv) hargs')
  | detach hregion hlabel =>
    cases h' with
    | detach _ hlabel' => exact .detach hregion (hlabel.strict_of_lenient hlabel')
  | reattach hregion hlabel =>
    cases h' with
    | reattach _ hlabel' => exact .reattach hregion (hlabel.strict_of_lenient hlabel')
  | sync hregion => exact .sync hregion

/-- A statement that can be read strictly is read as it is written. -/
theorem DescribesStatement.strict_of_lenient (h : DescribesStatement .lenient j s)
    (h' : DescribesStatement .strict j s') : DescribesStatement .strict j s := by
  cases h with
  | object hkind hfields =>
    cases h' with
    | object hkind' hfields' =>
      obtain rfl := Except.ok.inj
        ((kindOf_eq_ok_iff.mpr hkind).symm.trans (kindOf_eq_ok_iff.mpr hkind'))
      exact .object hkind (hfields.strict_of_lenient hfields')
    | lone hx _ => exact absurd rfl (hx _)
  | lone hx hv => exact .lone hx hv

/-- A block that can be read strictly is read as it is written. -/
theorem DescribesBlock.strict_of_lenient (h : DescribesBlock .lenient j b)
    (h' : DescribesBlock .strict j b') : DescribesBlock .strict j b := by
  cases h with
  | object hstmts hsuccs =>
    cases h' with
    | object hstmts' hsuccs' =>
      exact .object (hstmts.strict_of_lenient hstmts')
        (hsuccs.strict_of_lenient (fun _ _ _ => Reading.strict_integer) hsuccs')

/-- **A tree that can be read strictly is read as it is written.** -/
theorem DescribesTree.strict_of_lenient (h : DescribesTree .lenient j t)
    (h' : DescribesTree .strict j t') : DescribesTree .strict j t := by
  obtain ⟨lists, rfl, hlists⟩ := h
  obtain ⟨lists', heq, hlists'⟩ := h'
  obtain rfl := List.map_injective_iff.mpr (fun _ _ => Json.arr.inj) (Json.arr.inj heq)
  refine ⟨lists, rfl, forall₂_transfer (fun _ _ _ hlist hlist' => ?_) hlists hlists'⟩
  exact forall₂_transfer (fun _ _ _ => Reading.strict_integer) hlist hlist'

end Document

end FlowAtlas
