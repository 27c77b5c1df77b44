import FlowAtlas.Proofs.Document.Loaded
import FlowAtlas.Proofs.Graph.Links

/-!
# What a loaded document describes

The statements and the blocks of a loaded view are those that its document describes by the layout,
one by one, and so are the children in its tree, if the document gives one. The document is read
leniently, so a number with a fraction, a truth value or a text may become an integer that is
written nowhere in it. A document that gives all its integers and lists as such is read as it is
written.

## Main definitions

* `Document.Describes`: what a document describes by the layout.
* `Document.IsStrict`: a document can be read strictly.

## Main results

* `Document.describesTree_of_tree`: the children in a loaded tree are described by its document.
* `Document.Describes.strict_of_lenient`: a view of a document that can be read strictly has the
  integers that are written in it.
* `Document.describes_of_view`: a loaded view is described by its document.
-/

namespace FlowAtlas

namespace Document

open Json DomTree

variable {members : List (String × Json)} {j : Json} {v : View} {t : DomTree} {count : ℕ}

/-! ### Trees -/

/-- A tree that passes the checks has the children that its document describes. -/
theorem describesTree_of_tree (h : tree count j = .ok t) : DescribesTree .lenient j t := by
  obtain ⟨lists, children, rfl, hlists, h⟩ := tree_eq_ok_iff.mp h
  obtain ⟨-, hh, ht, -⟩ := treeOfChildren_eq_ok_iff.mp h
  obtain ⟨-, rfl⟩ := hh.proper ht
  exact ⟨lists, rfl, hlists⟩

/-! ### Views -/

/-- An object describes the statements and the blocks of a view, one by one, and the children in its
tree, if it gives them. -/
structure Describes (R : Reading) (members : List (String × Json)) (v : View) : Prop where
  code : ∃ code, member? members "code" = some (.arr code) ∧
    List.Forall₂ (DescribesStatement R) code v.graph.code
  blocks : ∃ blocks, member? members "blocks" = some (.arr blocks) ∧
    List.Forall₂ (DescribesBlock R) blocks v.graph.blocks
  tree : ∀ j, member? members "domtree" = some j → ∃ t, v.tree = some t ∧ DescribesTree R j t

/-- An object can be read strictly: all integers and lists that the layout asks for are written as
such. -/
def IsStrict (members : List (String × Json)) : Prop :=
  ∃ v, Describes .strict members v

/-- A document that can be read strictly is read as it is written. -/
theorem Describes.strict_of_lenient (h : Describes .lenient members v)
    (hstrict : IsStrict members) : Describes .strict members v := by
  obtain ⟨v', h'⟩ := hstrict
  obtain ⟨code, hcode, hstmts⟩ := h.code
  obtain ⟨code', hcode', hstmts'⟩ := h'.code
  obtain ⟨blocks, hblocks, hbs⟩ := h.blocks
  obtain ⟨blocks', hblocks', hbs'⟩ := h'.blocks
  cases hcode.symm.trans hcode'
  cases hblocks.symm.trans hblocks'
  refine ⟨⟨code, hcode, ?_⟩, ⟨blocks, hblocks, ?_⟩, fun j hj => ?_⟩
  · exact forall₂_transfer (fun _ _ _ => DescribesStatement.strict_of_lenient) hstmts hstmts'
  · exact forall₂_transfer (fun _ _ _ => DescribesBlock.strict_of_lenient) hbs hbs'
  · obtain ⟨t, ht, htree⟩ := h.tree j hj
    obtain ⟨t', -, htree'⟩ := h'.tree j hj
    exact ⟨t, ht, htree.strict_of_lenient htree'⟩

theorem describesBlock_unlinked_iff {R : Reading} {b : Block} :
    DescribesBlock R j { b with preds := [] } ↔ DescribesBlock R j b :=
  ⟨fun ⟨hstmts, hsuccs⟩ => ⟨hstmts, hsuccs⟩, fun ⟨hstmts, hsuccs⟩ => ⟨hstmts, hsuccs⟩⟩

theorem forall₂_describesBlock_link_iff {R : Reading} {blocks : List Json} {bs : List Block} :
    List.Forall₂ (DescribesBlock R) blocks (Graph.link bs) ↔
      List.Forall₂ (DescribesBlock R) blocks bs := by
  have hunlinked : ∀ bs : List Block, List.Forall₂ (DescribesBlock R) blocks bs ↔
      List.Forall₂ (DescribesBlock R) blocks (bs.map fun b => { b with preds := [] }) := by
    intro bs
    rw [List.forall₂_map_right_iff]
    simp only [describesBlock_unlinked_iff]
  rw [hunlinked, Graph.map_link (fun _ _ => rfl), ← hunlinked]

theorem forall₂_describesBlock {blocks : List Json} {bs : List Block}
    (h : List.Forall₂ (fun x b => block x.2 x.1 = .ok b) (blocks.zipIdx 1) bs) :
    List.Forall₂ (DescribesBlock .lenient) blocks bs := by
  rw [← List.zipIdx_map_fst 1 blocks, List.forall₂_map_left_iff]
  exact h.imp fun _ _ hb => (block_eq_ok_iff.mp hb).1

/-- **A loaded view is described by its document**, which is read leniently; if it can be read
strictly, it is read as it is written. -/
theorem describes_of_view (h : view j = .ok v) : ∃ members, j = .obj members ∧
    Describes .lenient members v ∧ (IsStrict members → Describes .strict members v) := by
  obtain ⟨members, code, blocks, stmts, blocks', t, name, signature, rfl, hcode, hblocks, hstmts,
    hblocks', -, ht, -, -, hv⟩ := view_eq_ok_iff.mp h
  have hdescribes : Describes .lenient members v := by
    subst hv
    refine ⟨⟨code, hcode, hstmts.imp fun _ _ => statement_eq_ok_iff.mp⟩, ⟨blocks, hblocks, ?_⟩,
      fun j hj => ⟨t, rfl, ?_⟩⟩
    · exact forall₂_describesBlock_link_iff.mpr (forall₂_describesBlock hblocks')
    · rw [hj] at ht
      exact describesTree_of_tree ht
  exact ⟨members, rfl, hdescribes, hdescribes.strict_of_lenient⟩

/-- A document with fractions, texts and an object in the places of integers and lists. -/
def looseMembers : List (String × Json) :=
  [("code", .arr [
      .obj [("kind", .str "gotoifnot"), ("cond", .str "_1"),
        ("dest", .float (.finite false 5 (-1)))],
      .obj [("kind", .str "return"), ("val", .bool true)]]),
    ("blocks", .arr [
      .obj [("stmts", .str "11"), ("succs", .obj [("2", .null)])],
      .obj [("stmts", .arr [.int 2, .str " +2"])]]),
    ("domtree", .arr [.arr [.float (.finite false 5 (-1))], .arr []])]

/-- The statements of the view of that document. -/
def looseCode : List Stmt :=
  [.gotoIfNot (.arg (.int 1)) (.int 2), .ret (.bool true)]

/-- The blocks of that view, before they are linked. -/
def looseBlocks : List Block :=
  [⟨⟨1, 1⟩, [2], []⟩, ⟨⟨2, 2⟩, [], []⟩]

theorem treeOfChildren_loose : treeOfChildren 2 [[2], []] = .ok ⟨[⟨1, [2]⟩, ⟨2, []⟩]⟩ := by
  refine treeOfChildren_eq_ok_iff.mpr ⟨rfl, ⟨by decide, by decide, by decide⟩, ?_, by decide⟩
  simp [ofChildren?, levelsFrom?, descend?, numbered?, position?]

theorem looseMembers_describe_view : ∃ v, view (.obj looseMembers) = .ok v ∧
    ∃ members, Json.obj looseMembers = .obj members ∧ Describes .lenient members v ∧
      (IsStrict members → Describes .strict members v) := by
  have hview := view_eq_ok_iff.mpr ⟨_, _, _, looseCode, looseBlocks, ⟨[⟨1, [2]⟩, ⟨2, []⟩]⟩, _, _,
    (rfl : Json.obj looseMembers = _), rfl, rfl, mapM_eq_ok_iff.mp rfl, mapM_eq_ok_iff.mp rfl, rfl,
    treeOfChildren_loose, rfl, rfl, rfl⟩
  exact ⟨_, hview, describes_of_view hview⟩

/-- The integers in the view of that document are not written in it. -/
example : ¬ IsStrict looseMembers := by
  rintro ⟨v, -, ⟨blocks, hblocks, hbs⟩, -⟩
  cases hblocks
  obtain ⟨b, -, ⟨hstmts, -⟩, -⟩ := List.forall₂_cons_left_iff.mp hbs
  obtain ⟨x, first, last, hx, hitems, -⟩ := hstmts
  cases hx
  cases hitems

end Document

end FlowAtlas
