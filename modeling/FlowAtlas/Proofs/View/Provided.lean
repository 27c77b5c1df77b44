import FlowAtlas.Bytecode.Function
import FlowAtlas.Proofs.Bytecode.Blocks
import FlowAtlas.Proofs.Document.Loaded

/-!
# The views that are provided

A view is read from a document or from the instructions of a function. A document is checked while
it is loaded; the graph of instructions is valid by its construction, since the runs between the
starts of blocks are not empty and cover the statements, and since only starts are looked up as
targets. Either way the view can be shown in every form.

## Main definitions

* `View.Provided`: the views that are read from a document or from a function.

## Main results

* `Bytecode.fitting_of_graphOf`: the graph of a list of instructions is valid.
* `View.showable_of_provided`: a view that is provided can be shown in every form.
-/

namespace FlowAtlas

namespace Bytecode

variable {code : List Instruction} {handlers leaders : List Int} {ins : Instruction}

/-- The graph of a list of instructions is valid, and its statements are what the instructions
become, whatever their offsets. -/
theorem fitting_of_graphOf {g : Graph} (h : graphOf code handlers = .ok g) :
    g.Fitting ∧ ∃ leaders, g.code = code.map (statement leaders) := by
  obtain ⟨g', hg', hcode⟩ := exists_graph? code handlers
  rw [graphOf, hg'] at h
  split at h
  · cases h
  · simp only [found, bind, Except.bind] at h
    split at h
    · cases h
    · next hnone =>
      cases h
      exact ⟨Graph.Fitting.of_breach? hnone, hcode⟩

theorem labelled_statement (leaders : List Int) (ins : Instruction) :
    (statement leaders ins).Labelled := by
  intro region label hs
  rw [statement.eq_def] at hs
  split at hs
  all_goals try split at hs
  all_goals
    rcases hs with hs | hs <;> cases hs

end Bytecode

/-- The view of a function is sound. -/
theorem Presentation.view_sound {p : Presentation} {v : View} (h : p.view = .ok v) :
    ∃ t, v.Sound t := by
  obtain ⟨g, hg, h⟩ := bind_eq_ok_iff.mp h
  obtain ⟨t, ht, h⟩ := bind_eq_ok_iff.mp h
  cases h
  obtain ⟨hfitting, leaders, hcode⟩ := Bytecode.fitting_of_graphOf hg
  obtain ⟨t', ht', hproper, hlength⟩ := Dominance.exists_proper_tree? hfitting.succs_inside
  obtain rfl := Option.some.inj (ht'.symm.trans (found_eq_ok_iff.mp ht))
  refine ⟨t', hfitting, fun s hs => ?_, rfl, hproper, hlength⟩
  obtain ⟨ins, -, rfl⟩ := List.mem_map.mp (hcode ▸ hs)
  exact Bytecode.labelled_statement leaders ins

namespace View

/-- The views that are provided: those that documents describe, and those of functions the
instructions of which have ascending offsets. -/
inductive Provided : View → Prop
  | document {j : Json} {v : View} (h : Document.view j = .ok v) : Provided v
  | function {p : Presentation} {v : View}
      (hasc : (p.code.instructions.map Instruction.offset).Pairwise (· < ·))
      (h : p.view = .ok v) : Provided v

/-- **A view that is provided can be shown in every form.** Its listing, the sources of its drawings
and their descriptions are texts. Every statement that is looked up for them has a number that
counts from the front. The view has a tree with one node for each block, going down which from block
one never comes back, and all edges of the drawings connect blocks. -/
theorem showable_of_provided (v : View) (h : v.Provided) : v.Showable := by
  cases h with
  | document h =>
    obtain ⟨t, hsound⟩ := Document.view_sound h
    exact hsound.showable
  | function _ h =>
    obtain ⟨t, hsound⟩ := Presentation.view_sound h
    exact hsound.showable

/-- A document of a fork whose task joins in block three, without a tree. -/
def forkDocument : Json :=
  .obj [("code", .arr [
      .obj [("head", .str "syncregion")],
      .obj [("kind", .str "detach"), ("syncregion", .str "%1"), ("label", .int 3)],
      .obj [("kind", .str "reattach"), ("syncregion", .str "%1"), ("label", .int 3)],
      .obj [("kind", .str "sync"), ("syncregion", .str "%1")],
      .obj [("kind", .str "return"), ("val", .str "_2")]]),
    ("blocks", .arr [
      .obj [("stmts", .arr [.int 1, .int 2]), ("succs", .arr [.int 2, .int 3])],
      .obj [("stmts", .arr [.int 3, .int 3]), ("succs", .arr [.int 3])],
      .obj [("stmts", .arr [.int 4, .int 4]), ("succs", .arr [.int 4])],
      .obj [("stmts", .arr [.int 5, .int 5])]]),
    ("name", .str "fork")]

/-- The statements of the fork. -/
def forkCode : List Stmt :=
  [.expr "syncregion" [], .detach (.ssa (.int 1)) (.int 3), .reattach (.ssa (.int 1)) (.int 3),
    .sync (.ssa (.int 1)), .ret (.arg (.int 2))]

/-- The blocks of the fork. -/
def forkBlocks : List Block :=
  [⟨⟨1, 2⟩, [2, 3], []⟩, ⟨⟨3, 3⟩, [3], []⟩, ⟨⟨4, 4⟩, [4], []⟩, ⟨⟨5, 5⟩, [], []⟩]

theorem fork_showable : ∃ v, Document.view forkDocument = .ok v ∧ v.Showable := by
  have hinside : ∀ b ∈ Graph.link forkBlocks, ∀ s ∈ b.succs,
      1 ≤ s ∧ s ≤ (Graph.link forkBlocks).length := by
    decide
  obtain ⟨t, ht, -⟩ := Dominance.exists_proper_tree? hinside
  have hview := Document.view_eq_ok_iff.mpr ⟨_, _, _, forkCode, forkBlocks, t, _, _,
    (rfl : forkDocument = _), rfl, rfl, mapM_eq_ok_iff.mp rfl, mapM_eq_ok_iff.mp rfl, rfl,
    found_eq_ok_iff.mpr ht, rfl, rfl, rfl⟩
  exact ⟨_, hview, showable_of_provided _ (.document hview)⟩

end View

end FlowAtlas
