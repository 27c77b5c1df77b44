import Mathlib.Logic.Relation
import Mathlib.Order.Nat

/-!
# Walks and domination

A walk follows a relation step by step and lists all that it goes through. One element dominates
another, seen from an entry, if every walk from the entry to the other goes through it. Domination
is then expressed without walks: the other cannot be reached by steps that all avoid the first.

## Main definitions

* `Walk`, `Dominates`.

## Main results

* `exists_walk_iff`: walks lead to what can be reached.
* `not_dominates_iff`: what an element does not dominate is reached around it.
* `Walk.descend`: along a walk of ascending numbers a property is carried back to any number on it.
-/

namespace FlowAtlas

open Relation

variable {α : Type*} {R : α → α → Prop} {a b c d e : α} {via : List α}

/-- A walk along a relation, with all that it goes through in order, both ends included. -/
inductive Walk (R : α → α → Prop) (a : α) : α → List α → Prop
  | here : Walk R a a [a]
  | step {b c : α} {via : List α} (p : Walk R a b via) (h : R b c) : Walk R a c (via ++ [c])

/-- Every walk from the entry `e` to `b` goes through `d`. -/
def Dominates (R : α → α → Prop) (e d b : α) : Prop :=
  ∀ via, Walk R e b via → d ∈ via

namespace Walk

theorem start_mem (p : Walk R a b via) : a ∈ via := by
  induction p with
  | here => exact List.mem_singleton_self a
  | step p h ih => exact List.mem_append_left _ ih

theorem end_mem (p : Walk R a b via) : b ∈ via := by
  cases p with
  | here => exact List.mem_singleton_self a
  | step p h => exact List.mem_append_right _ (List.mem_singleton_self b)

/-- A walk can be cut off at everything that it goes through. -/
theorem cut (p : Walk R a b via) (hc : c ∈ via) : ∃ via', Walk R a c via' ∧ via' ⊆ via := by
  induction p with
  | here =>
    obtain rfl := List.mem_singleton.mp hc
    exact ⟨_, .here, List.Subset.refl _⟩
  | step p h ih =>
    rcases List.mem_append.mp hc with hc | hc
    · obtain ⟨via', hp, hsub⟩ := ih hc
      exact ⟨via', hp, fun x hx => List.mem_append_left _ (hsub hx)⟩
    · obtain rfl := List.mem_singleton.mp hc
      exact ⟨_, .step p h, List.Subset.refl _⟩

theorem reflTransGen (p : Walk R a b via) : ReflTransGen R a b := by
  induction p with
  | here => exact .refl
  | step p h ih => exact ih.tail h

section Ascending

variable {S : ℕ → ℕ → Prop} {i m n : ℕ} {via : List ℕ}

theorem le_end (hlt : ∀ k l, S k l → k < l) (p : Walk S m n via) (hi : i ∈ via) : i ≤ n := by
  induction p with
  | here => exact (List.mem_singleton.mp hi).le
  | @step k l via p h ih =>
    rcases List.mem_append.mp hi with hi | hi
    · exact (ih hi).trans (hlt k l h).le
    · exact (List.mem_singleton.mp hi).le

/-- Along an ascending walk, a property of the end that every step after a number carries back holds
of that number. -/
theorem descend {Q : ℕ → Prop} (hlt : ∀ k l, S k l → k < l) (p : Walk S m n via) (hi : i ∈ via)
    (hback : ∀ k l, S k l → i < l → l ≤ n → Q l → Q k) (hn : Q n) : Q i := by
  induction p with
  | here => exact List.mem_singleton.mp hi ▸ hn
  | @step k l via p h ih =>
    have hkl := hlt k l h
    rcases List.mem_append.mp hi with hi | hi
    · have hik : i ≤ k := p.le_end hlt hi
      have hk : Q k := hback k l h (hik.trans_lt hkl) le_rfl hn
      exact ih hi (fun k' l' h' hil hl => hback k' l' h' hil (hl.trans hkl.le)) hk
    · exact List.mem_singleton.mp hi ▸ hn

end Ascending

end Walk

theorem exists_walk_iff : (∃ via, Walk R a b via) ↔ ReflTransGen R a b := by
  constructor
  · rintro ⟨via, p⟩
    exact p.reflTransGen
  · intro h
    induction h with
    | refl => exact ⟨[a], .here⟩
    | tail _ h ih =>
      obtain ⟨via, p⟩ := ih
      exact ⟨_, .step p h⟩

/-- What can be reached by steps that avoid an element is reached by a walk that avoids it. -/
theorem exists_walk_avoiding (hne : e ≠ d)
    (h : ReflTransGen (fun x y => R x y ∧ y ≠ d) e b) : ∃ via, Walk R e b via ∧ d ∉ via := by
  induction h with
  | refl => exact ⟨[e], .here, fun hd => hne (List.mem_singleton.mp hd).symm⟩
  | tail _ h ih =>
    obtain ⟨via, p, hd⟩ := ih
    refine ⟨_, .step p h.1, fun hmem => ?_⟩
    rcases List.mem_append.mp hmem with hmem | hmem
    · exact hd hmem
    · exact h.2 (List.mem_singleton.mp hmem).symm

theorem Walk.avoiding (p : Walk R e b via) (hd : d ∉ via) :
    ReflTransGen (fun x y => R x y ∧ y ≠ d) e b := by
  induction p with
  | here => exact .refl
  | step p h ih =>
    rw [List.mem_append, not_or, List.mem_singleton] at hd
    exact (ih hd.1).tail ⟨h, Ne.symm hd.2⟩

/-- An element does not dominate what is reached by steps that avoid it. -/
theorem not_dominates_iff :
    ¬ Dominates R e d b ↔ e ≠ d ∧ ReflTransGen (fun x y => R x y ∧ y ≠ d) e b := by
  constructor
  · intro h
    obtain ⟨via, hvia⟩ := not_forall.mp h
    obtain ⟨p, hd⟩ := Classical.not_imp.mp hvia
    exact ⟨fun he => hd (he ▸ p.start_mem), p.avoiding hd⟩
  · rintro ⟨hne, h⟩ hdom
    obtain ⟨via, p, hd⟩ := exists_walk_avoiding hne h
    exact hd (hdom via p)

namespace Dominates

@[simp] theorem refl (e b : α) : Dominates R e b b := fun _ p => p.end_mem

@[simp] theorem entry (e b : α) : Dominates R e e b := fun _ p => p.start_mem

/-- What dominates an element that can be reached can be reached. -/
theorem reachable (hd : Dominates R e d b) (hb : ReflTransGen R e b) : ReflTransGen R e d := by
  obtain ⟨via, p⟩ := exists_walk_iff.mpr hb
  obtain ⟨via', p', -⟩ := p.cut (hd via p)
  exact p'.reflTransGen

theorem trans (hab : Dominates R e a b) (hbc : Dominates R e b c) : Dominates R e a c := by
  intro via p
  obtain ⟨via', p', hsub⟩ := p.cut (hbc via p)
  exact hsub (hab via' p')

/-- What dominates an element and differs from it dominates all that lead to it. -/
theorem of_step (hd : Dominates R e d c) (h : R b c) (hne : d ≠ c) : Dominates R e d b := by
  intro via p
  rcases List.mem_append.mp (hd _ (.step p h)) with hmem | hmem
  · exact hmem
  · exact absurd (List.mem_singleton.mp hmem) hne

/-- What dominates all that lead to an element dominates the element, unless that is the entry. -/
theorem of_forall_step (hne : b ≠ e) (h : ∀ c, R c b → Dominates R e d c) :
    Dominates R e d b := by
  intro via p
  cases p with
  | here => exact absurd rfl hne
  | step p hstep => exact List.mem_append_left _ (h _ hstep _ p)

end Dominates

end FlowAtlas
