import FlowAtlas.Bytecode.Object
import FlowAtlas.Proofs.View.Provided
import Mathlib.Logic.Relation

/-!
# What is shown of objects

A path of names leads from an object from attribute to attribute. It leads nowhere if an attribute
is missing, or if the object that should have it names another one that answers for it. What is
shown of a function, a method or a piece of code is always there. Its view fails only for a jump
with a target that cannot be looked up.

## Main definitions

* `Object.Reaches`: a path of attributes leads from one object to another.
* `Object.Missing`: why an attribute is missing on such a path.
* `Object.IsFunction`: functions, methods and pieces of code.
* `Object.Unshown`: why an object that is none of them cannot be shown.

## Main results

* `Object.failsOnly_follow`, `Object.failsOnly_hasCode`: why attributes are missing.
* `Object.failsOnly_presentation`: why an object cannot be shown.
* `Presentation.failsOnly_view`: why the view of a function fails.
-/

namespace FlowAtlas

open Relation

namespace Object

variable {o o' : Object} {name : String} {path : List String} {f : Failure}

/-! ### Attributes -/

/-- A path of attributes leads from one object to another. -/
def Reaches : Object → Object → Prop :=
  ReflTransGen fun o o' => ∃ name, o.member name = .ok o'

/-- Some object on the way names another one that answers for its missing attributes. -/
def Unanswered (o : Object) (f : Failure) : Prop :=
  f = .notCallable ∧ ∃ o', o.Reaches o' ∧ o'.answersForMissing = true

/-- Why an attribute is missing on a path from an object: no object answers for it, or one would
have to be called. -/
def Missing (o : Object) (f : Failure) : Prop :=
  f = .noAttribute ∨ o.Unanswered f

theorem reaches_of_member (h : o.member name = .ok o') : o.Reaches o' :=
  .single ⟨name, h⟩

theorem Unanswered.of_reaches (h : o.Reaches o') (hf : o'.Unanswered f) : o.Unanswered f := by
  obtain ⟨hf, answerer, hreaches, hanswers⟩ := hf
  exact ⟨hf, answerer, h.trans hreaches, hanswers⟩

theorem Missing.of_reaches (h : o.Reaches o') (hf : o'.Missing f) : o.Missing f :=
  hf.imp_right (.of_reaches h)

theorem failsOnly_member (o : Object) (name : String) : FailsOnly o.Missing (o.member name) := by
  rw [member]
  split
  · exact .ok _
  · refine .error ?_
    split
    · next hanswers => exact .inr ⟨rfl, o, .refl, hanswers⟩
    · exact .inl rfl

/-- Why a path of names leads nowhere. -/
theorem failsOnly_follow (o : Object) (path : List String) :
    FailsOnly o.Missing (o.follow path) := by
  induction path generalizing o with
  | nil => exact .ok o
  | cons name path ih =>
    rw [follow, List.foldlM_cons]
    exact (failsOnly_member o name).bind fun o' h =>
      (ih o').mono fun _ => .of_reaches (reaches_of_member h)

theorem reaches_of_follow (h : o.follow path = .ok o') : o.Reaches o' := by
  induction path generalizing o with
  | nil =>
    cases h
    exact .refl
  | cons name path ih =>
    rw [follow, List.foldlM_cons] at h
    obtain ⟨next, hmember, hrest⟩ := bind_eq_ok_iff.mp h
    exact (reaches_of_member hmember).trans (ih hrest)

theorem failsOnly_unlessMissing {α : Type} {x : Except Failure α} (default : α)
    (h : FailsOnly o.Missing x) : FailsOnly o.Unanswered (unlessMissing default x) := by
  rw [unlessMissing.eq_def]
  split
  · exact .ok default
  · next hother =>
    intro f hf
    exact (h f hf).resolve_left fun hmissing => hother (hmissing ▸ hf)

theorem failsOnly_behind (o : Object) : FailsOnly o.Unanswered o.behind :=
  failsOnly_unlessMissing o (failsOnly_member o "__func__")

theorem reaches_of_behind (h : o.behind = .ok o') : o.Reaches o' := by
  rw [behind, unlessMissing.eq_def] at h
  split at h
  · cases h
    exact .refl
  · exact reaches_of_member h

theorem failsOnly_hasCode (o : Object) : FailsOnly o.Unanswered o.hasCode := by
  refine (failsOnly_behind o).bind fun behind h => ?_
  exact (failsOnly_unlessMissing false ((failsOnly_member behind "__code__").map _)).mono
    fun _ => .of_reaches (reaches_of_behind h)

/-! ### Presentations -/

/-- Functions, methods and pieces of code. -/
def IsFunction : Object → Prop
  | function _ | method _ | code _ => True
  | _ => False

theorem exists_presentation (h : o.IsFunction) : ∃ p, o.presentation = .ok p := by
  cases o with
  | function f =>
    cases f with
    | plain | wrapper => exact ⟨_, rfl⟩
  | method | code => exact ⟨_, rfl⟩
  | holder | module | value | type | entry | signature | plain => exact h.elim

mutual

theorem failsOnly_unwrapped : ∀ o : Object, FailsOnly (· = .notCallable) o.unwrapped
  | function _ | method (.plain _) | method (.wrapper _ _) | code _ | value _ | type _
  | entry _ _ _ _ | signature _ | plain _ => .ok _
  | holder members => by
    rw [unwrapped]
    cases hwrapped : wrapped? members with
    | none => exact .ok _
    | some result => exact failsOnly_wrapped? members result hwrapped
  | module fromFile members => by
    rw [unwrapped]
    cases hwrapped : wrapped? members with
    | none =>
      rw [Option.getD_none]
      split
      · exact .error rfl
      · exact .ok _
    | some result => exact failsOnly_wrapped? members result hwrapped

theorem failsOnly_wrapped? : ∀ (members : Members) (result : Except Failure Object),
    wrapped? members = some result → FailsOnly (· = .notCallable) result
  | [], _, h => nomatch (show none = some _ from h)
  | (name, o) :: rest, result, h => by
    rw [wrapped?] at h
    split at h
    · exact Option.some.inj h ▸ failsOnly_unwrapped o
    · exact failsOnly_wrapped? rest result h

end

/-- What an object that is no function cannot do when it is to be shown as one. -/
inductive Unshown : Failure → Prop
  | notCallable : Unshown .notCallable
  | noAttribute : Unshown .noAttribute
  | unknownCode : Unshown .unknownCode

theorem unshown_of_unanswered (h : o.Unanswered f) : Unshown f :=
  h.1 ▸ .notCallable

theorem unshown_of_missing (h : o.Missing f) : Unshown f :=
  h.elim (fun h => h ▸ .noAttribute) unshown_of_unanswered

/-- Why an object cannot be shown: it is no function. A method behind it whose function takes no
object is refused by itself. -/
theorem failsOnly_presentation (o : Object) : FailsOnly
    (fun f => ¬ o.IsFunction ∧ (f = .request .noReceiver ∨ Unshown f)) o.presentation := by
  by_cases hfunction : o.IsFunction
  · obtain ⟨p, hp⟩ := exists_presentation hfunction
    exact hp ▸ .ok p
  · suffices h : FailsOnly (fun f => f = .request .noReceiver ∨ Unshown f) o.presentation from
      h.mono fun _ hf => ⟨hfunction, hf⟩
    rw [presentation.eq_def]
    split
    · exact .ok _
    · refine ((failsOnly_behind o).mono fun _ hf => .inr (unshown_of_unanswered hf)).bind
        fun behind _ => ?_
      refine ((failsOnly_unwrapped behind).mono fun _ hf => .inr (hf ▸ .notCallable)).bind
        fun inner _ => ?_
      split
      · exact .ok _
      · refine FailsOnly.map ?_ _
        rw [Definition.bound]
        split
        · exact .ok _
        · exact .error (.inl rfl)
      · exact .error (.inr .unknownCode)
      · exact .error (.inr .unknownCode)
      · exact .error (.inr .unknownCode)
      · refine ((failsOnly_member inner _).mono fun _ hf => .inr (unshown_of_missing hf)).bind
          fun code _ => FailsOnly.bind ?_ fun _ _ => .error (.inr .notCallable)
        exact ((failsOnly_member code _).mono fun _ hf => .inr (unshown_of_missing hf)).map _

end Object

/-! ### Views -/

/-- **Why the view of a function fails**: an instruction with a target has an operand that cannot be
looked up, or the graph is not valid, as it may be where offsets do not ascend. -/
theorem Presentation.failsOnly_view (p : Presentation) :
    FailsOnly (fun f => (f = .unhashable ∧
      ∃ ins ∈ p.code.instructions, ins.hasTarget = true ∧ ins.operand.isKey = false) ∨
        ∃ flaw, f = .graph flaw) p.view := by
  refine FailsOnly.bind ?_ fun g hg => ?_
  · obtain ⟨g, hg, -⟩ := Bytecode.exists_graph? p.code.instructions p.code.handlers
    rw [Bytecode.graphOf, hg]
    split
    · next hany =>
      obtain ⟨ins, hins, hkey⟩ := List.any_eq_true.mp hany
      refine .error (.inl ⟨rfl, ins, hins, ?_⟩)
      simpa using hkey
    · refine (FailsOnly.ok g).bind fun g _ => ?_
      split
      · exact .error (.inr ⟨_, rfl⟩)
      · exact .ok _
  · obtain ⟨t, ht, -⟩ := Dominance.exists_proper_tree?
      (Bytecode.fitting_of_graphOf hg).1.succs_inside
    rw [ht]
    exact .ok _

end FlowAtlas
