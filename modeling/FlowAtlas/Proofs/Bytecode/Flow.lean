import FlowAtlas.Bytecode.Instruction
import FlowAtlas.Proofs.Dominance.Search
import FlowAtlas.Proofs.Numbering
import FlowAtlas.Proofs.Walks
import Mathlib.Data.Int.Init
import Mathlib.Data.Int.Order.Basic

/-!
# Flow between instructions

From an instruction control may pass to the next one, to the one at its target, to both or to none.
When a list of blocks divides the instructions so that control enters a block only at its first
instruction and leaves it only at its last, the walks between instructions are the walks between
blocks.

## Main definitions

* `Flows`: control may pass from an instruction to another.
* `Owns`: an instruction belongs to a block.
* `Divided`: blocks divide the instructions, and follow each other as the instructions do.
* `Agree`: a property of instructions and one of blocks say the same.

## Main results

* `Divided.reachable_iff`: instructions are reached as their blocks are, also when some
  instructions and the blocks that begin with them are avoided.
* `Divided.dominates_iff`: domination between blocks and between their first instructions.
-/

namespace FlowAtlas

open Relation
open Dominance (Follows)

namespace Control

/-- Control may pass to the next instruction. -/
def passesOn : Control → Bool
  | enter | leave | branch => true
  | jump | ret | throw => false

end Control

/-- Control may pass to the next instruction. -/
def Instruction.passesOn (ins : Instruction) : Bool :=
  ins.control?.all Control.passesOn

namespace Bytecode

/-- Control may pass from the instruction at a position to that at another, positions counted from
one: to the next one, or to the one whose offset is the operand. -/
inductive Flows (code : List Instruction) : Int → Int → Prop
  | next {p : Int} {ins : Instruction} (hins : counted? code p = some ins)
      (hpasses : ins.passesOn) (hnext : (counted? code (p + 1)).isSome) : Flows code p (p + 1)
  | jump {p q : Int} {ins target : Instruction} (hins : counted? code p = some ins)
      (hjump : ins.hasTarget) (htarget : counted? code q = some target)
      (hoffset : ins.operand = .int target.offset) : Flows code p q

/-- The instruction at a position belongs to the block with a number. -/
def Owns (blocks : List Block) (b p : Int) : Prop :=
  ∃ block, counted? blocks b = some block ∧ block.stmts.first ≤ p ∧ p ≤ block.stmts.last

/-- Blocks divide the instructions. Control leaves a block only at its last instruction and then
enters another at its first one, and those that it may enter are the successors. -/
structure Divided (code : List Instruction) (blocks : List Block) : Prop where
  owned : ∀ {p : Int}, 1 ≤ p → p ≤ code.length → ∃ b, Owns blocks b p
  unique : ∀ {b c p}, Owns blocks b p → Owns blocks c p → b = c
  first_le_last : ∀ {b block}, counted? blocks b = some block →
    block.stmts.first ≤ block.stmts.last
  entry : ∀ {block}, counted? blocks 1 = some block → block.stmts.first = 1
  inner : ∀ {b block p q}, counted? blocks b = some block → block.stmts.first ≤ p →
    p < block.stmts.last → (Flows code p q ↔ q = p + 1)
  succs_iff : ∀ {b c block block'}, counted? blocks b = some block →
    counted? blocks c = some block' →
    (c ∈ block.succs ↔ Flows code block.stmts.last block'.stmts.first)
  arrives : ∀ {b block q}, counted? blocks b = some block → Flows code block.stmts.last q →
    ∃ c block', counted? blocks c = some block' ∧ block'.stmts.first = q
  inside : ∀ {b block s}, counted? blocks b = some block → s ∈ block.succs →
    1 ≤ s ∧ s ≤ blocks.length

/-- A property of instructions and one of blocks say the same: the first instruction of a block has
the one exactly if the block has the other, and all further instructions have it. -/
structure Agree (blocks : List Block) (P Q : Int → Prop) : Prop where
  first : ∀ {b block}, counted? blocks b = some block → (P block.stmts.first ↔ Q b)
  inner : ∀ {b block p}, counted? blocks b = some block → block.stmts.first < p →
    p ≤ block.stmts.last → P p

variable {code : List Instruction} {blocks : List Block} {block : Block} {b p q : Int}

theorem Flows.start_mem (h : Flows code p q) : 1 ≤ p ∧ p ≤ code.length := by
  refine counted?_isSome_iff.mp ?_
  cases h with
  | next hins => exact hins ▸ rfl
  | jump hins => exact hins ▸ rfl

theorem flows_iff {ins : Instruction} (hp : counted? code p = some ins) : Flows code p q ↔
    (ins.passesOn ∧ q = p + 1 ∧ (counted? code (p + 1)).isSome) ∨
      ∃ target, ins.hasTarget ∧ counted? code q = some target ∧
        ins.operand = .int target.offset := by
  constructor
  · intro h
    cases h with
    | next hins hpasses hnext =>
      obtain rfl := Option.some.inj (hp.symm.trans hins)
      exact .inl ⟨hpasses, rfl, hnext⟩
    | jump hins hjump htarget hoffset =>
      obtain rfl := Option.some.inj (hp.symm.trans hins)
      exact .inr ⟨_, hjump, htarget, hoffset⟩
  · rintro (⟨hpasses, rfl, hnext⟩ | ⟨target, hjump, htarget, hoffset⟩)
    · exact .next hp hpasses hnext
    · exact .jump hp hjump htarget hoffset

theorem Owns.inside (h : Owns blocks b p) : 1 ≤ b ∧ b ≤ blocks.length := by
  obtain ⟨block, hblock, -⟩ := h
  exact counted?_isSome_iff.mp (hblock ▸ rfl)

namespace Divided

variable (h : Divided code blocks)
include h

theorem owns_first (hb : counted? blocks b = some block) : Owns blocks b block.stmts.first :=
  ⟨block, hb, le_rfl, h.first_le_last hb⟩

theorem valid : ∀ block ∈ blocks, ∀ s ∈ block.succs, 1 ≤ s ∧ s ≤ blocks.length := by
  intro block hblock s hs
  obtain ⟨i, hi⟩ := List.getElem?_of_mem hblock
  exact h.inside ((counted?_succ i).trans hi) hs

theorem eq_one_of_owns (hb : Owns blocks b 1) : b = 1 := by
  obtain ⟨block, hblock⟩ := exists_counted? le_rfl (hb.inside.1.trans hb.inside.2)
  have howns := h.owns_first hblock
  rw [h.entry hblock] at howns
  exact h.unique hb howns

variable {P Q : Int → Prop} (hPQ : Agree blocks P Q)

include hPQ in
/-- The blocks of a walk between instructions make a walk. Within a block the walk goes on to the
next instruction, at its end to the first one of a successor. -/
theorem reachable_block (hp : ReflTransGen (fun p q => Flows code p q ∧ P q) 1 p)
    (hb : Owns blocks b p) : ReflTransGen (fun b c => Follows blocks b c ∧ Q c) 1 b := by
  induction hp generalizing b with
  | refl => exact h.eq_one_of_owns hb ▸ .refl
  | @tail p q _ hstep ih =>
    obtain ⟨hflow, hq⟩ := hstep
    obtain ⟨c, hc⟩ := h.owned hflow.start_mem.1 hflow.start_mem.2
    have hreach := ih hc
    obtain ⟨block, hblock, hle, hlast⟩ := hc
    rcases hlast.lt_or_eq with hlt | rfl
    · obtain rfl := (h.inner hblock hle hlt).mp hflow
      rwa [h.unique hb ⟨block, hblock, by omega, by omega⟩]
    · obtain ⟨d, block', hblock', rfl⟩ := h.arrives hblock hflow
      obtain rfl := h.unique hb (h.owns_first hblock')
      have hfollows : Follows blocks c b :=
        ⟨block, numbered?_of_counted? hblock, (h.succs_iff hblock hblock').mpr hflow⟩
      exact hreach.tail ⟨hfollows, (hPQ.first hblock').mp hq⟩

include hPQ in
/-- From the first instruction of a block control goes on to all others. -/
theorem reachable_inside (hb : counted? blocks b = some block)
    (hreach : ReflTransGen (fun p q => Flows code p q ∧ P q) 1 block.stmts.first)
    (hle : block.stmts.first ≤ p) (hlast : p ≤ block.stmts.last) :
    ReflTransGen (fun p q => Flows code p q ∧ P q) 1 p := by
  induction p, hle using Int.leInduction with
  | base => exact hreach
  | succ p hle ih =>
    have hflow : Flows code p (p + 1) := (h.inner hb hle (by omega)).mpr rfl
    exact (ih (by omega)).tail ⟨hflow, hPQ.inner hb (by omega) hlast⟩

theorem one_le_of_reachable (hb : ReflTransGen (fun b c => Follows blocks b c ∧ Q c) 1 b) :
    1 ≤ b := by
  induction hb with
  | refl => exact le_rfl
  | tail _ hstep ih =>
    obtain ⟨⟨block, hblock, hs⟩, -⟩ := hstep
    exact (h.inside (counted?_of_numbered? ih hblock) hs).1

include hPQ in
/-- A walk between blocks gives one between their first instructions, which goes through all of the
instructions of the blocks that it leaves. -/
theorem reachable_first (hreach : ReflTransGen (fun b c => Follows blocks b c ∧ Q c) 1 b)
    (hb : counted? blocks b = some block) :
    ReflTransGen (fun p q => Flows code p q ∧ P q) 1 block.stmts.first := by
  induction hreach generalizing block with
  | refl => rw [h.entry hb]
  | @tail c b hreach hstep ih =>
    obtain ⟨⟨block', hblock', hs⟩, hq⟩ := hstep
    have hblock' := counted?_of_numbered? (h.one_le_of_reachable hreach) hblock'
    have hlast := h.reachable_inside hPQ hblock' (ih hblock') (h.first_le_last hblock') le_rfl
    exact hlast.tail ⟨(h.succs_iff hblock' hb).mp hs, (hPQ.first hb).mpr hq⟩

include hPQ in
/-- An instruction is reached as its block is, also when some instructions are avoided. -/
theorem reachable_iff (hb : Owns blocks b p) :
    ReflTransGen (fun p q => Flows code p q ∧ P q) 1 p ↔
      ReflTransGen (fun b c => Follows blocks b c ∧ Q c) 1 b := by
  refine ⟨fun hp => h.reachable_block hPQ hp hb, fun hreach => ?_⟩
  obtain ⟨block, hblock, hle, hlast⟩ := hb
  exact h.reachable_inside hPQ hblock (h.reachable_first hPQ hreach hblock) hle hlast

theorem flow_reachable_iff (hb : Owns blocks b p) :
    ReflTransGen (Flows code) 1 p ↔ ReflTransGen (Follows blocks) 1 b := by
  have hall : Agree blocks (fun _ => True) fun _ => True := ⟨fun _ => Iff.rfl, fun _ _ _ => trivial⟩
  simpa only [and_true] using h.reachable_iff hall hb

/-- **Domination between blocks is domination between their first instructions.** -/
theorem dominates_iff {a : Int} {block' : Block} (ha : counted? blocks a = some block')
    (hb : counted? blocks b = some block) :
    Dominates (Flows code) 1 block'.stmts.first block.stmts.first ↔
      Dominates (Follows blocks) 1 a b := by
  have hentry : 1 = block'.stmts.first ↔ 1 = a := by
    constructor
    · intro h1
      have howns := h.owns_first ha
      rw [← h1] at howns
      exact (h.eq_one_of_owns howns).symm
    · rintro rfl
      exact (h.entry ha).symm
  have hunique : ∀ {c block''}, counted? blocks c = some block'' →
      block''.stmts.first ≤ block'.stmts.first → block'.stmts.first ≤ block''.stmts.last → c = a :=
    fun hc hle hlast => h.unique ⟨_, hc, hle, hlast⟩ (h.owns_first ha)
  have havoid : Agree blocks (· ≠ block'.stmts.first) (· ≠ a) := by
    refine ⟨fun {c block''} hc => not_congr ⟨fun heq => ?_, ?_⟩, fun {c block'' p} hc hlt hle => ?_⟩
    · exact hunique hc heq.le (heq ▸ h.first_le_last hc)
    · rintro rfl
      rw [Option.some.inj (hc.symm.trans ha)]
    · -- The avoided instruction begins a block, so it lies inside of no other.
      rintro rfl
      obtain rfl := hunique hc hlt.le hle
      rw [Option.some.inj (hc.symm.trans ha)] at hlt
      exact absurd hlt (lt_irrefl _)
  rw [← not_iff_not, not_dominates_iff, not_dominates_iff, h.reachable_iff havoid (h.owns_first hb),
    Ne, hentry]

end Divided

end Bytecode

end FlowAtlas
