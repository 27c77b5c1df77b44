import FlowAtlas.Failure
import Mathlib.Data.List.Forall2

/-!
# Operations that may fail

An operation of several steps succeeds exactly if each step does, and an operation on a list exactly
if it does on each item. A look-up fails by having no value, other operations by giving a cause. The
causes of several steps are those of each of them.

## Main definitions

* `FailsOnly`: what the causes of a failed operation have in common.

## Main results

* `bind_eq_ok_iff`, `map_eq_ok_iff`, `mapError_eq_ok_iff`, `found_eq_ok_iff`: when one step
  succeeds.
* `mapM_eq_some_iff`, `mapM_eq_ok_iff`: when an operation on a list succeeds.
* `FailsOnly.bind`, `FailsOnly.mapM`: the causes of several steps.
-/

namespace FlowAtlas

variable {α β ε ε' : Type} {l : List α} {ys : List β}

theorem bind_eq_ok_iff {x : Except ε α} {f : α → Except ε β} {b : β} :
    x >>= f = .ok b ↔ ∃ a, x = .ok a ∧ f a = .ok b := by
  cases x with
  | error e => simp [bind, Except.bind]
  | ok a => simp [bind, Except.bind]

theorem map_eq_ok_iff {x : Except ε α} {f : α → β} {b : β} :
    x.map f = .ok b ↔ ∃ a, x = .ok a ∧ f a = b := by
  cases x with
  | error e => simp [Except.map]
  | ok a => simp [Except.map]

theorem mapError_eq_ok_iff {x : Except ε α} {f : ε → ε'} {a : α} :
    x.mapError f = .ok a ↔ x = .ok a := by
  cases x with
  | error e => simp [Except.mapError]
  | ok a => simp [Except.mapError]

theorem found_eq_ok_iff {x : Option α} {a : α} : found x = .ok a ↔ x = some a := by
  cases x with
  | none => simp [found]
  | some a => simp [found]

/-- In a monad where a sequence of steps succeeds exactly if each step does, an operation on a list
succeeds exactly if it does on each item. -/
theorem mapM_eq_pure_iff {m : Type → Type} [Monad m] [LawfulMonad m]
    (hpure : ∀ {γ : Type} {x y : γ}, (pure x : m γ) = pure y ↔ x = y)
    (hbind : ∀ {γ δ : Type} {x : m γ} {f : γ → m δ} {d : δ},
      x >>= f = pure d ↔ ∃ c, x = pure c ∧ f c = pure d) {f : α → m β} :
    l.mapM f = pure ys ↔ List.Forall₂ (fun x y => f x = pure y) l ys := by
  induction l generalizing ys with
  | nil => rw [List.mapM_nil, hpure, List.forall₂_nil_left_iff, eq_comm]
  | cons x l ih =>
    rw [List.mapM_cons, hbind, List.forall₂_cons_left_iff]
    simp only [hbind, hpure, ih]
    constructor
    · rintro ⟨y, hy, ys, hys, rfl⟩
      exact ⟨y, ys, hy, hys, rfl⟩
    · rintro ⟨y, ys, hy, hys, rfl⟩
      exact ⟨y, hy, ys, hys, rfl⟩

theorem mapM_eq_some_iff {f : α → Option β} :
    l.mapM f = some ys ↔ List.Forall₂ (fun x y => f x = some y) l ys :=
  mapM_eq_pure_iff (m := Option) Option.some_inj Option.bind_eq_some_iff

theorem mapM_eq_ok_iff {f : α → Except ε β} :
    l.mapM f = .ok ys ↔ List.Forall₂ (fun x y => f x = .ok y) l ys :=
  mapM_eq_pure_iff (m := Except ε) ⟨Except.ok.inj, congrArg Except.ok⟩ bind_eq_ok_iff

/-- If every item has a partner, the partners of the items make a list. -/
theorem exists_forall₂ {R : α → β → Prop} (h : ∀ x ∈ l, ∃ y, R x y) :
    ∃ ys, List.Forall₂ R l ys := by
  induction l with
  | nil => exact ⟨[], .nil⟩
  | cons x l ih =>
    rw [List.forall_mem_cons] at h
    obtain ⟨y, hy⟩ := h.1
    obtain ⟨ys, hys⟩ := ih h.2
    exact ⟨y :: ys, .cons hy hys⟩

/-- Every partner belongs to an item. -/
theorem exists_of_mem_right {R : α → β → Prop} (h : List.Forall₂ R l ys) {y : β} (hy : y ∈ ys) :
    ∃ x ∈ l, R x y := by
  induction h with
  | nil => exact absurd hy List.not_mem_nil
  | cons hxy _ ih =>
    rcases List.mem_cons.mp hy with rfl | hy
    · exact ⟨_, List.mem_cons_self, hxy⟩
    · obtain ⟨x, hx, hxy⟩ := ih hy
      exact ⟨x, List.mem_cons_of_mem _ hx, hxy⟩

/-- Items with the same partners are related through them. -/
theorem forall₂_of_forall₂ {γ : Type} {R : α → β → Prop} {S : γ → β → Prop} {l' : List γ}
    (h : List.Forall₂ R l ys) (h' : List.Forall₂ S l' ys) :
    List.Forall₂ (fun x x' => ∃ y, R x y ∧ S x' y) l l' := by
  induction h generalizing l' with
  | nil =>
    cases h'
    exact .nil
  | cons hxy _ ih =>
    cases h' with
    | cons hxy' h' => exact .cons ⟨_, hxy, hxy'⟩ (ih h')

/-- What a partner of each kind together say of the first of them, item by item. -/
theorem forall₂_transfer {γ : Type} {R : α → β → Prop} {S : α → γ → Prop} {T : α → β → Prop}
    {zs : List γ} (hRS : ∀ x y z, R x y → S x z → T x y) (h : List.Forall₂ R l ys)
    (h' : List.Forall₂ S l zs) : List.Forall₂ T l ys := by
  induction h generalizing zs with
  | nil => exact .nil
  | cons hxy _ ih =>
    cases h' with
    | cons hxz h' => exact .cons (hRS _ _ _ hxy hxz) (ih h')

/-! ### Causes -/

/-- An operation fails only for causes of one kind. -/
def FailsOnly (P : ε → Prop) (x : Except ε α) : Prop :=
  ∀ e, x = .error e → P e

namespace FailsOnly

variable {P Q : ε → Prop} {x : Except ε α}

theorem ok (a : α) : FailsOnly P (.ok a) :=
  nofun

theorem error {e : ε} (h : P e) : FailsOnly P (.error e : Except ε α) := by
  rintro _ ⟨⟩
  exact h

theorem mono (h : FailsOnly P x) (hPQ : ∀ e, P e → Q e) : FailsOnly Q x :=
  fun e he => hPQ e (h e he)

/-- The causes of two steps are those of the first, and those of the second after any result of
the first. -/
theorem bind {f : α → Except ε β} (h : FailsOnly P x) (hf : ∀ a, x = .ok a → FailsOnly P (f a)) :
    FailsOnly P (x >>= f) := by
  cases x with
  | error e => exact error (h e rfl)
  | ok a => exact hf a rfl

theorem map (h : FailsOnly P x) (f : α → β) : FailsOnly P (x.map f) := by
  cases x with
  | error e => exact error (h e rfl)
  | ok a => exact ok (f a)

theorem mapError {P : ε' → Prop} {f : ε → ε'} (h : FailsOnly (fun e => P (f e)) x) :
    FailsOnly P (x.mapError f) := by
  cases x with
  | error e => exact error (h e rfl)
  | ok a => exact ok a

/-- **The causes of an operation on a list** are those on its items. -/
theorem mapM {f : α → Except ε β} (h : ∀ x ∈ l, FailsOnly P (f x)) : FailsOnly P (l.mapM f) := by
  induction l with
  | nil => exact ok []
  | cons x l ih =>
    rw [List.forall_mem_cons] at h
    rw [List.mapM_cons]
    exact h.1.bind fun y _ => (ih h.2).bind fun ys _ => ok (y :: ys)

end FailsOnly

end FlowAtlas
