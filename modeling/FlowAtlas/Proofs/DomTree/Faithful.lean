import FlowAtlas.Proofs.DomTree.Outline
import FlowAtlas.Proofs.DomTree.Preorder

/-!
# Faithful drawings of trees

A line of a drawing consists of three columns for each step on the way down to its block, and of the
number of the block. The columns of the last step connect the block to its parent; those of the
steps before show where further children are still to come. So the drawing shows all that hangs
below block one, and the lists of children there can be read from it.

## Main definitions

* `IsPath`: the way down from block one to a block.
* `ShowsPath`, `IsMarginOf`: the line of the block at the end of a way down, and what stands before
  the connectors of its children.
* `Draws`: a text shows the blocks that hang below block one.

## Main results

* `IsMarginOf.concat`, `IsMarginOf.showsPath`: one step further down.
* `Proper.showsBlock_drawnBelow`: the lines below a block show the blocks below it.
* `Proper.childrenOf_eq_of_drawing_eq`: the children are the same in trees with the same drawing.
* `exists_draws`: the drawing of a tree whose lists of children hang together is faithful.
-/

namespace FlowAtlas.DomTree

open Relation

variable {t t' : DomTree} {f : Int → List Int} {levels k : ℕ} {margin text : String}
  {path : List Int} {i b c p : Int} {cs ds : List Char}

/-! ### The way down to a block -/

/-- The way from block one down to a block. -/
structure IsPath (f : Int → List Int) (path : List Int) (b : Int) : Prop where
  head : path.head? = some 1
  last : path.getLast? = some b
  chain : path.IsChain fun p c => c ∈ f p

theorem isPath_singleton (f : Int → List Int) : IsPath f [1] 1 :=
  ⟨rfl, rfl, .singleton 1⟩

theorem IsPath.concat (h : IsPath f path p) (hc : c ∈ f p) : IsPath f (path ++ [c]) c where
  head := by rw [List.head?_append, h.head, Option.some_or]
  last := List.getLast?_concat
  chain := by
    refine List.isChain_append.mpr ⟨h.chain, .singleton c, ?_⟩
    rintro p' hp' c' hc'
    rw [h.last] at hp'
    cases hp'
    cases hc'
    exact hc

/-! ### Columns -/

/-- The three columns of a line that belong to a level. -/
def columns (cs : List Char) (k : ℕ) : List Char :=
  (cs.drop (3 * k)).take 3

theorem columns_append_left (h : 3 * k + 3 ≤ cs.length) (ds : List Char) :
    columns (cs ++ ds) k = columns cs k := by
  rw [columns, List.drop_append_of_le_length (by omega),
    List.take_append_of_le_length (by rw [List.length_drop]; omega), columns]

theorem columns_append_right (h : cs.length = 3 * k) (hds : ds.length = 3) (rest : List Char) :
    columns (cs ++ ds ++ rest) k = ds := by
  rw [columns, List.append_assoc, List.drop_left' h, List.take_left' hds]

/-- What stands at a level on the lines below the blocks of a way down: blanks below the last child
of a block, and a bar below another. -/
def passageOf (f : Int → List Int) (p c : Int) : List Char :=
  if (f p).getLast? = some c then "   ".toList else "│  ".toList

/-- What connects a block to its parent: a corner for the last child, and a tee for another. -/
def connectorOf (f : Int → List Int) (p c : Int) : List Char :=
  if (f p).getLast? = some c then "└─ ".toList else "├─ ".toList

/-- The line of the block at the end of a way down. -/
structure ShowsPath (f : Int → List Int) (path : List Int) (line : String) : Prop where
  passages : ∀ k p c, k + 2 < path.length → path[k]? = some p → path[k + 1]? = some c →
    columns line.toList k = passageOf f p c
  connector : ∀ k p c, k + 2 = path.length → path[k]? = some p → path[k + 1]? = some c →
    columns line.toList k = connectorOf f p c
  number : ∀ b, path.getLast? = some b →
    line.toList.drop (3 * (path.length - 1)) = (toString b).toList

/-- What stands before the connectors of the children of the block at the end of a way down. -/
structure IsMarginOf (f : Int → List Int) (path : List Int) (margin : String) : Prop where
  length_eq : margin.toList.length = 3 * (path.length - 1)
  passages : ∀ k p c, path[k]? = some p → path[k + 1]? = some c →
    columns margin.toList k = passageOf f p c

/-! ### Margins -/

/-- Two blocks that follow each other on a way down do so before its last step, or are the ends of
that step. -/
theorem getElem?_concat_cases {k : ℕ} {p' c' : Int} (hlast : path.getLast? = some p)
    (hp : (path ++ [c])[k]? = some p') (hc : (path ++ [c])[k + 1]? = some c') :
    (k + 2 ≤ path.length ∧ path[k]? = some p' ∧ path[k + 1]? = some c') ∨
      (k + 1 = path.length ∧ p' = p ∧ c' = c) := by
  have hlt := (List.getElem?_eq_some_iff.mp hc).1
  rw [List.length_append, List.length_singleton] at hlt
  rcases Nat.lt_or_ge (k + 1) path.length with hk | hk
  · rw [List.getElem?_append_left (by omega)] at hp hc
    exact .inl ⟨hk, hp, hc⟩
  · obtain rfl : k = path.length - 1 := by omega
    have hlength : path.length - 1 + 1 = path.length := by omega
    rw [hlength, List.getElem?_concat_length] at hc
    rw [List.getElem?_append_left (by omega), ← List.getLast?_eq_getElem?, hlast] at hp
    exact .inr ⟨hlength, (Option.some.inj hp).symm, (Option.some.inj hc).symm⟩

theorem eq_true_iff_of_mem_markLast {l : List Int} {last : Bool} (hnodup : l.Nodup)
    (h : (c, last) ∈ markLast l) : last = true ↔ l.getLast? = some c := by
  fun_induction markLast l with
  | case1 => exact absurd h List.not_mem_nil
  | case2 x =>
    cases List.mem_singleton.mp h
    exact iff_of_true rfl rfl
  | case3 x rest hrest ih =>
    obtain ⟨hx, hnodup⟩ := List.nodup_cons.mp hnodup
    have hlast : (x :: rest).getLast? = rest.getLast? := by
      obtain ⟨y, rest, rfl⟩ := List.exists_cons_of_ne_nil hrest
      exact List.getLast?_cons_cons
    rw [hlast]
    rcases List.mem_cons.mp h with h | h
    · cases h
      exact iff_of_false Bool.false_ne_true fun h => hx (List.mem_of_getLast? h)
    · exact ih hnodup h

theorem toList_passage {last : Bool} (h : last = true ↔ (f p).getLast? = some c) :
    (passage last).toList = passageOf f p c := by
  simp only [passageOf, ← h]
  cases last <;> rfl

theorem toList_connector {last : Bool} (h : last = true ↔ (f p).getLast? = some c) :
    (connector last).toList = connectorOf f p c := by
  simp only [connectorOf, ← h]
  cases last <;> rfl

namespace IsMarginOf

variable {last : Bool} (h : IsMarginOf f path margin) (hlast : path.getLast? = some p)
include h hlast

/-- A margin and one level more come up to what is below the next block. -/
theorem length_append {piece : String} (hpiece : IsMargin 1 piece) (c : Int) :
    (margin.toList ++ piece.toList).length = 3 * ((path ++ [c]).length - 1) := by
  have hpos := List.length_pos_of_mem (List.mem_of_getLast? hlast)
  rw [List.length_append, h.length_eq, hpiece.length_eq, List.length_append, List.length_singleton]
  omega

variable (hc : last = true ↔ (f p).getLast? = some c)
include hc

/-- The margin below a child. -/
theorem concat : IsMarginOf f (path ++ [c]) (margin ++ passage last) where
  length_eq := by
    rw [String.toList_append, h.length_append hlast (isMargin_passage last)]
  passages k p' c' hp' hc' := by
    rw [String.toList_append]
    rcases getElem?_concat_cases hlast hp' hc' with ⟨hk, hp', hc'⟩ | ⟨hk, rfl, rfl⟩
    · rw [columns_append_left (by rw [h.length_eq]; omega)]
      exact h.passages k p' c' hp' hc'
    · have hlength : margin.toList.length = 3 * k := by rw [h.length_eq]; omega
      rw [← List.append_nil (margin.toList ++ _),
        columns_append_right hlength (isMargin_passage last).length_eq, toList_passage hc]

/-- The line of a child. -/
theorem showsPath : ShowsPath f (path ++ [c]) (margin ++ connector last ++ toString c) where
  passages k p' c' hk hp' hc' := by
    rw [List.length_append, List.length_singleton] at hk
    rcases getElem?_concat_cases hlast hp' hc' with ⟨hk', hp', hc'⟩ | ⟨hk', -⟩
    · rw [String.append_assoc, String.toList_append,
        columns_append_left (by rw [h.length_eq]; omega)]
      exact h.passages k p' c' hp' hc'
    · omega
  connector k p' c' hk hp' hc' := by
    rw [List.length_append, List.length_singleton] at hk
    rcases getElem?_concat_cases hlast hp' hc' with ⟨hk', -⟩ | ⟨hk', rfl, rfl⟩
    · omega
    · have hlength : margin.toList.length = 3 * k := by rw [h.length_eq]; omega
      rw [String.toList_append, String.toList_append,
        columns_append_right hlength (isMargin_connector last).length_eq, toList_connector hc]
  number b hb := by
    rw [List.getLast?_concat, Option.some.injEq] at hb
    rw [String.toList_append, String.toList_append, ← hb,
      List.drop_left' (h.length_append hlast (isMargin_connector last) c)]

end IsMarginOf

theorem showsPath_entry (f : Int → List Int) : ShowsPath f [1] (toString (1 : Int)) where
  passages k _ _ hk := absurd hk (Nat.not_lt.mpr (Nat.le_add_left 1 (k + 1)))
  connector k _ _ hk := absurd hk (Nat.ne_of_gt (Nat.le_add_left 2 k))
  number b hb := by
    cases hb
    rfl

theorem isMarginOf_entry (f : Int → List Int) : IsMarginOf f [1] "" where
  length_eq := rfl
  passages _ _ _ _ hc := by cases hc

/-! ### The lines of a drawing -/

/-- A line shows a block: there is a way down to the block, as long as its level in a tree, and the
line is that of the way. -/
def ShowsBlock (t : DomTree) (f : Int → List Int) (b : Int) (line : String) : Prop :=
  ∃ path, IsPath f path b ∧ t.levelOf? b = some (path.length : Int) ∧ ShowsPath f path line

/-- The lines below a block show the blocks below it in order. -/
theorem Proper.showsBlock_drawnBelow (h : t.Proper) (hpath : IsPath t.childrenOf path i)
    (hlevel : t.levelOf? i = some (path.length : Int))
    (hmargin : IsMarginOf t.childrenOf path margin) :
    List.Forall₂ (ShowsBlock t t.childrenOf) (t.passed levels i)
      (t.drawnBelow levels margin i) := by
  -- A step down makes the way and the margin longer at the same time.
  induction levels generalizing path margin i with
  | zero => exact .nil
  | succ levels ih =>
    rw [passed, drawnBelow]
    refine List.rel_flatMap (forall₂_markLast (t.childrenOf i)).flip ?_
    rintro _ ⟨c, last⟩ ⟨rfl, hmem⟩
    have hc := fst_mem_of_mem_markLast hmem
    have hlast := eq_true_iff_of_mem_markLast (h.nodup_childrenOf i) hmem
    have hne : path.length ≠ 0 :=
      (List.length_pos_of_mem (List.mem_of_getLast? hpath.last)).ne'
    have hlength : (path ++ [c]).length = path.length + 1 := List.length_append
    have hlevel' := h.levelOf?_child hne hlevel (mem_childrenOf_iff.mp hc)
    rw [← hlength] at hlevel'
    exact .cons ⟨_, hpath.concat hc, hlevel', hmargin.showsPath hpath.last hlast⟩
      (ih (hpath.concat hc) hlevel' (hmargin.concat hpath.last hlast))

/-! ### Trees from drawings -/

/-- The drawing of a tree that has nodes ends, and it consists of the lines of the blocks. -/
theorem ends_of_drawing (hne : t.nodes ≠ []) (h : t.drawing = .ok text) :
    t.Ends t.nodes.length 1 ∧
      "\n".intercalate (toString (1 : Int) :: t.drawnBelow t.nodes.length "" 1) = text := by
  rwa [drawing, drawingWithin_eq_ok_iff, if_neg hne] at h

/-- Proper trees with the same drawing have the same children at every block that hangs below
block one. -/
theorem Proper.childrenOf_eq_of_drawing_eq (h : t.Proper) (h' : t'.Proper) (hne : t.nodes ≠ [])
    (hne' : t'.nodes ≠ []) (htext : t.drawing = .ok text) (htext' : t'.drawing = .ok text)
    (hb : ReflTransGen t.IsChild 1 b) :
    ReflTransGen t'.IsChild 1 b ∧ t'.childrenOf b = t.childrenOf b := by
  have hpairs : (t'.linksBelow t'.nodes.length 0 1).map Link.pair =
      (t.linksBelow t.nodes.length 0 1).map Link.pair :=
    Option.some.inj ((outline?_drawingWithin h'.one_le_of_isChild htext').symm.trans
      (outline?_drawingWithin h.one_le_of_isChild htext))
  have htargets : ∀ b, targets b (t'.linksBelow t'.nodes.length 0 1) =
      targets b (t.linksBelow t.nodes.length 0 1) := by
    intro b
    have hheads := congrArg (heads (toString b)) hpairs
    rw [heads_map_pair, heads_map_pair] at hheads
    exact List.map_injective_iff.mpr (fun _ _ => Text.toString_inj.mp) hheads
  have hchildren : ∀ {b}, ReflTransGen t.IsChild 1 b → ReflTransGen t'.IsChild 1 b →
      t'.childrenOf b = t.childrenOf b := by
    intro b hb hb'
    rw [← h'.targets_linksBelow .refl (ends_of_drawing hne' htext').1 hb', htargets,
      h.targets_linksBelow .refl (ends_of_drawing hne htext).1 hb]
  -- Block by block, what hangs below block one in one tree does so in the other.
  suffices hb' : ReflTransGen t'.IsChild 1 b from ⟨hb', hchildren hb hb'⟩
  induction hb with
  | refl => exact .refl
  | tail hp hpb ih =>
    rw [← mem_childrenOf_iff, ← hchildren hp ih, mem_childrenOf_iff] at hpb
    exact ih.tail hpb

/-! ### Faithful drawings -/

/-- A text draws the blocks that hang below block one, by their children. Its lines show these
blocks, each once and in order, with the levels that a tree gives them. -/
structure Draws (text : String) (f : Int → List Int) (t : DomTree) (order : List Int)
    (lines : List String) : Prop where
  lines_eq : text.toList.splitOn '\n' = lines.map String.toList
  traversal : Traversal f 1 order
  nodup : order.Nodup
  mem_iff : ∀ b, b ∈ order ↔ ReflTransGen (fun p c => c ∈ f p) 1 b
  shows : List.Forall₂ (ShowsBlock t f) order lines

namespace Proper

variable (h : t.Proper)
include h

theorem newline_not_mem :
    ∀ line ∈ toString (1 : Int) :: t.drawnBelow levels "" 1, '\n' ∉ line.toList := by
  intro line hline
  rcases List.mem_cons.mp hline with rfl | hline
  · decide
  · have hmargin : IsMargin 0 "" := ⟨rfl, List.nil_subset rules⟩
    obtain ⟨l, -, hreads⟩ :=
      exists_of_mem_right (reads_drawnBelow h.one_le_of_isChild hmargin).flip hline
    exact hreads.2

/-- The drawing of a proper tree shows its blocks. -/
theorem draws (hne : t.nodes ≠ []) (htext : t.drawing = .ok text) :
    Draws text t.childrenOf t (1 :: t.passed t.nodes.length 1)
      (toString (1 : Int) :: t.drawnBelow t.nodes.length "" 1) := by
  obtain ⟨hends, rfl⟩ := ends_of_drawing hne htext
  have hentry := h.levelOf?_entry hne
  have hchild : (fun p c => c ∈ t.childrenOf p) = t.IsChild :=
    funext₂ fun p c => propext mem_childrenOf_iff
  exact
    { lines_eq := Text.splitOn_intercalate_lines (List.cons_ne_nil _ _) h.newline_not_mem
      traversal := traversal_passed hends
      nodup := h.nodup_passed .refl
      mem_iff := fun b => hchild ▸ mem_passed_iff hends
      shows := .cons ⟨[1], isPath_singleton _, hentry, showsPath_entry _⟩
        (h.showsBlock_drawnBelow (isPath_singleton _) hentry (isMarginOf_entry _)) }

end Proper

theorem Hanging.exists_levelled (hh : Hanging t.childLists) : ∃ levelled,
    ofChildren? t.childLists = some levelled ∧ levelled.Proper ∧
      levelled.childLists = t.childLists ∧ (t.nodes ≠ [] → levelled.nodes ≠ []) := by
  obtain ⟨levelled, hlevelled⟩ := hh.exists_ofChildren?
  obtain ⟨hproper, hlists⟩ := hh.proper hlevelled
  refine ⟨levelled, hlevelled, hproper, hlists, fun hne hnil => hne ?_⟩
  rw [← List.length_eq_zero_iff, ← length_childLists, ← hlists, length_childLists, hnil,
    List.length_nil]

/-- **The drawing of a tree whose lists of children hang together is faithful.** It shows the blocks
that hang below block one with the levels that the walk down gives them, and another tree with the
same drawing has the same children there. -/
theorem exists_draws (hne : t.nodes ≠ []) (hh : Hanging t.childLists) :
    ∃ levelled text order lines, ofChildren? t.childLists = some levelled ∧
      t.drawing = .ok text ∧ Draws text t.childrenOf levelled order lines ∧
      ∀ t' : DomTree, t'.nodes ≠ [] → Hanging t'.childLists → t'.drawing = .ok text →
        ∀ b, ReflTransGen t.IsChild 1 b → t'.childrenOf b = t.childrenOf b := by
  obtain ⟨levelled, hlevelled, hproper, hlists, hnodes⟩ := hh.exists_levelled
  obtain ⟨text, htext⟩ := hproper.exists_drawing
  refine ⟨levelled, text, _, _, hlevelled, (drawing_eq_ok_iff_of_childLists_eq hlists).mp htext,
    childrenOf_congr hlists ▸ hproper.draws (hnodes hne) htext, fun t' hne' hh' htext' b hb => ?_⟩
  obtain ⟨levelled', -, hproper', hlists', hnodes'⟩ := hh'.exists_levelled
  rw [← childrenOf_congr hlists', ← childrenOf_congr hlists]
  rw [← isChild_congr hlists] at hb
  exact (hproper.childrenOf_eq_of_drawing_eq hproper' (hnodes hne) (hnodes' hne') htext
    ((drawing_eq_ok_iff_of_childLists_eq hlists').mpr htext') hb).2

/-- A tree with levels that are not its own, and with two blocks that hang below each other only. -/
def looseTree : DomTree :=
  ⟨[⟨0, [3, 2]⟩, ⟨7, [4]⟩, ⟨1, []⟩, ⟨0, []⟩, ⟨2, [6]⟩, ⟨2, [5]⟩]⟩

theorem looseTree_draws : looseTree.nodes ≠ [] ∧ Hanging looseTree.childLists ∧
    ∃ levelled text order lines, ofChildren? looseTree.childLists = some levelled ∧
      looseTree.drawing = .ok text ∧ Draws text looseTree.childrenOf levelled order lines ∧
      ∀ t' : DomTree, t'.nodes ≠ [] → Hanging t'.childLists → t'.drawing = .ok text →
        ∀ b, ReflTransGen looseTree.IsChild 1 b → t'.childrenOf b = looseTree.childrenOf b := by
  have hne : looseTree.nodes ≠ [] := by decide
  have hh : Hanging looseTree.childLists := ⟨by decide, by decide, by decide⟩
  exact ⟨hne, hh, exists_draws hne hh⟩

example : looseTree.drawing = .ok "1\n├─ 3\n└─ 2\n   └─ 4" := by
  rfl

end FlowAtlas.DomTree
