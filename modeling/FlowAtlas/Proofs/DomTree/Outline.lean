import FlowAtlas.Proofs.DomTree.Descent
import FlowAtlas.Proofs.Text.Lines
import FlowAtlas.Proofs.Text.Numeral
import Mathlib.Data.Int.Init
import Mathlib.Data.List.TakeWhile

/-!
# Reading the drawing of a tree

The drawing of a tree is an outline: every line ends in the number of a block, and a block stands
three columns to the right of its parent, which is the nearest earlier line that stands there.
Reading the drawing in this way, without regard to what is drawn between the lines, gives the steps
on the way down from block one.

## Main definitions

* `outline?`: the pairs of parents and children that an outline shows.
* `heads`: the second items of the pairs with a given first one.

## Main results

* `pairsAfter_linksBelow`: the lines of the blocks below a block are read as the steps to them.
* `outline?_drawingWithin`: the drawing of a tree is read as the way down from block one.
-/

namespace FlowAtlas.DomTree

/-! ### Outlines -/

/-- A line of an outline: the numeral that it ends in and the column where that begins. -/
structure OutlineLine where
  column : ℕ
  name : String
  deriving DecidableEq, Repr

/-- Reads a line of an outline, in which there is no digit before the numeral. -/
def outlineLine? (cs : List Char) : Option OutlineLine :=
  let numeral := cs.dropWhile (!·.isDigit)
  if numeral ≠ [] ∧ numeral.all Char.isDigit then
    some ⟨(cs.takeWhile (!·.isDigit)).length, String.ofList numeral⟩
  else none

/-- The nearest earlier line that is three columns to the left of a column. The latest comes
first. -/
def parent? (earlier : List OutlineLine) (column : ℕ) : Option OutlineLine :=
  earlier.find? (·.column + 3 = column)

/-- The pairs of the names of lines with those of their parents, in the order of the lines. Earlier
lines are given, the latest first. -/
def pairsAfter : (earlier : List OutlineLine) → List OutlineLine → List (String × String)
  | _, [] => []
  | earlier, line :: rest =>
    ((parent? earlier line.column).map fun parent => (parent.name, line.name)).toList ++
      pairsAfter (line :: earlier) rest

/-- The pairs of parents and children that the text of an outline shows. An empty text has no
lines. -/
def outline? (text : String) : Option (List (String × String)) :=
  if text = "" then some []
  else ((text.toList.splitOn '\n').mapM outlineLine?).map (pairsAfter [])

/-- The second items of the pairs with a given first one. -/
def heads (name : String) (pairs : List (String × String)) : List String :=
  (pairs.filter (·.1 = name)).map (·.2)

variable {t : DomTree} {levels depth : ℕ} {i : Int} {l : Link} {margin text : String}
  {cs : List Char} {c : Char} {earlier : List OutlineLine}

/-! ### Reading lines -/

/-- The characters that are drawn to the left of the numbers. -/
def rules : List Char :=
  [' ', '│', '├', '└', '─']

theorem not_isDigit_of_mem_rules (h : c ∈ rules) : (!c.isDigit) = true :=
  List.all_eq_true.mp (by decide : rules.all (!·.isDigit)) c h

theorem newline_not_mem_rules : '\n' ∉ rules := by
  decide

/-- The line of the child of a step is at a column that the depth of the step gives. -/
def Link.line (l : Link) : OutlineLine :=
  ⟨3 * l.depth + 3, toString l.child⟩

@[simp]
theorem Link.column_line (l : Link) : l.line.column = 3 * l.depth + 3 :=
  rfl

/-- The names of the blocks that a step connects. -/
def Link.pair (l : Link) : String × String :=
  (toString l.parent, toString l.child)

/-- A line is read as that of a step, and it is one line only. -/
def Reads (line : List Char) (outlineLine : OutlineLine) : Prop :=
  outlineLine? line = some outlineLine ∧ '\n' ∉ line

/-- A line consists of a margin and a number. -/
theorem reads_append (hcs : cs ⊆ rules) (hi : 0 ≤ i) :
    Reads (cs ++ (toString i).toList) ⟨cs.length, toString i⟩ := by
  obtain ⟨n, rfl⟩ := Int.eq_ofNat_of_zero_le hi
  have hname : (toString (n : Int)).toList = Nat.toDigits 10 n := Text.toList_toString n
  have hdigits : ∀ c ∈ Nat.toDigits 10 n, c.isDigit = true := fun c hc =>
    Nat.isDigit_of_mem_toDigits (by omega) (by omega) hc
  have hmargin : ∀ c ∈ cs, (!c.isDigit) = true := fun c hc => not_isDigit_of_mem_rules (hcs hc)
  have hfirst : ∀ h : 0 < (Nat.toDigits 10 n).length,
      ¬ (!(Nat.toDigits 10 n)[0].isDigit) = true := fun h => by
    simp [hdigits _ (List.getElem_mem h)]
  rw [hname]
  constructor
  · rw [outlineLine?, List.dropWhile_append_of_pos hmargin, List.takeWhile_append_of_pos hmargin,
      List.dropWhile_eq_self_iff.mpr hfirst, List.takeWhile_eq_nil_iff.mpr hfirst, List.append_nil,
      if_pos ⟨Nat.toDigits_ne_nil, List.all_eq_true.mpr hdigits⟩, ← hname, String.ofList_toList]
  · rw [List.mem_append, not_or]
    refine ⟨fun h => newline_not_mem_rules (hcs h), fun h => ?_⟩
    exact absurd (hdigits _ h) (by decide)

/-- What stands to the left of a number at a depth: three columns for each level above it. -/
structure IsMargin (depth : ℕ) (margin : String) : Prop where
  length_eq : margin.toList.length = 3 * depth
  subset_rules : margin.toList ⊆ rules

theorem IsMargin.append {piece : String} (h : IsMargin depth margin) (hpiece : IsMargin 1 piece) :
    IsMargin (depth + 1) (margin ++ piece) where
  length_eq := by
    rw [String.toList_append, List.length_append, h.length_eq, hpiece.length_eq, Nat.mul_add]
  subset_rules := by
    rw [String.toList_append]
    exact List.append_subset.mpr ⟨h.subset_rules, hpiece.subset_rules⟩

theorem isMargin_connector (last : Bool) : IsMargin 1 (connector last) := by
  cases last <;> exact ⟨rfl, by decide⟩

theorem isMargin_passage (last : Bool) : IsMargin 1 (passage last) := by
  cases last <;> exact ⟨rfl, by decide⟩

theorem forall₂_markLast {α : Type} (l : List α) :
    List.Forall₂ (fun x a => x.1 = a ∧ x ∈ markLast l) (markLast l) l := by
  have h : List.Forall₂ (fun x a => x.1 = a ∧ x ∈ markLast l) (markLast l)
      ((markLast l).map Prod.fst) :=
    List.forall₂_map_right_iff.mpr (List.forall₂_same.mpr fun _ hx => ⟨rfl, hx⟩)
  rwa [map_fst_markLast] at h

/-- The lines below a block are read as those of the steps to them. -/
theorem reads_drawnBelow (hone : ∀ {p c}, t.IsChild p c → 1 ≤ c) (hmargin : IsMargin depth margin) :
    List.Forall₂ (fun line l => Reads line.toList l.line) (t.drawnBelow levels margin i)
      (t.linksBelow levels depth i) := by
  induction levels generalizing margin depth i with
  | zero => exact .nil
  | succ levels ih =>
    rw [drawnBelow, linksBelow]
    refine List.rel_flatMap (forall₂_markLast (t.childrenOf i)) ?_
    rintro ⟨_, last⟩ c ⟨rfl, hc⟩
    refine .cons ?_ (ih (hmargin.append (isMargin_passage last)))
    have hconnector := hmargin.append (isMargin_connector last)
    have hline := reads_append hconnector.subset_rules
      (Int.le_of_lt (hone (mem_childrenOf_iff.mp (fst_mem_of_mem_markLast hc))))
    rwa [← String.toList_append, hconnector.length_eq] at hline

/-! ### Reading steps -/

theorem pairsAfter_append (earlier lines lines' : List OutlineLine) :
    pairsAfter earlier (lines ++ lines') =
      pairsAfter earlier lines ++ pairsAfter (lines.reverse ++ earlier) lines' := by
  induction lines generalizing earlier with
  | nil => rfl
  | cons line lines ih =>
    rw [List.cons_append, pairsAfter, ih, pairsAfter, List.append_assoc, List.reverse_cons,
      List.append_assoc, List.singleton_append]

/-- The nearest earlier line in the column to the left is that of the block. -/
def Opens (depth : ℕ) (i : Int) (earlier : List OutlineLine) : Prop :=
  (parent? earlier (3 * depth + 3)).map (·.name) = some (toString i)

theorem opens_cons_self (depth : ℕ) (i c : Int) (earlier : List OutlineLine) :
    Opens (depth + 1) c (Link.line ⟨depth, i, c⟩ :: earlier) := by
  rw [Opens, parent?, List.find?_cons_of_pos (by simp; omega)]
  rfl

/-- Lines further right do not come between a block and its children. -/
theorem Opens.append {lines : List OutlineLine} (h : Opens depth i earlier)
    (hlines : ∀ line ∈ lines, 3 * depth < line.column) : Opens depth i (lines ++ earlier) := by
  rw [Opens, parent?, List.find?_append, List.find?_eq_none.mpr, Option.none_or]
  · exact h
  · intro line hline
    have := hlines line hline
    simp
    omega

theorem pairsAfter_line (h : Opens depth i earlier) (c : Int) (rest : List OutlineLine) :
    pairsAfter earlier (Link.line ⟨depth, i, c⟩ :: rest) =
      Link.pair ⟨depth, i, c⟩ :: pairsAfter (Link.line ⟨depth, i, c⟩ :: earlier) rest := by
  obtain ⟨parent, hparent, hname⟩ := Option.map_eq_some_iff.mp h
  rw [pairsAfter, Link.line, hparent, Option.map_some, hname]
  rfl

/-- The lines below a block are read as the steps to them. -/
theorem pairsAfter_linksBelow (h : Opens depth i earlier) :
    pairsAfter earlier ((t.linksBelow levels depth i).map Link.line) =
      (t.linksBelow levels depth i).map Link.pair := by
  induction levels generalizing depth i earlier with
  | zero => rfl
  | succ levels ih =>
    rw [linksBelow]
    induction t.childrenOf i generalizing earlier with
    | nil => rfl
    | cons c cs ihcs =>
      have hright : ∀ line ∈ (t.linksBelow levels (depth + 1) c).map Link.line,
          3 * depth < line.column := by
        intro line hline
        obtain ⟨l, hl, rfl⟩ := List.mem_map.mp hline
        have := depth_le_of_mem hl
        rw [Link.column_line]
        omega
      rw [List.flatMap_cons, List.cons_append, List.map_cons, List.map_cons, List.map_append,
        List.map_append, pairsAfter_line h, pairsAfter_append,
        ih (opens_cons_self depth i c earlier), ihcs]
      rw [← List.singleton_append, ← List.append_assoc]
      refine h.append fun line hline => ?_
      rcases List.mem_append.mp hline with hline | hline
      · exact hright line (List.mem_reverse.mp hline)
      · obtain rfl := List.mem_singleton.mp hline
        exact Nat.lt_add_of_pos_right (Nat.zero_lt_succ 2)

/-! ### Reading the drawing -/

/-- The outline of a number and lines below it. -/
theorem outline?_intercalate {i : Int} (hi : 0 ≤ i) {below : List String}
    {lines : List OutlineLine}
    (h : List.Forall₂ (fun line l => Reads line.toList l) below lines) :
    outline? ("\n".intercalate (toString i :: below)) =
      some (pairsAfter [] (⟨0, toString i⟩ :: lines)) := by
  have hroot : Reads (toString i).toList ⟨0, toString i⟩ :=
    reads_append (List.nil_subset rules) hi
  have hall : List.Forall₂ Reads ((toString i :: below).map String.toList)
      (⟨0, toString i⟩ :: lines) :=
    .cons hroot (List.forall₂_map_left_iff.mpr h)
  have hbreaks : ∀ line ∈ toString i :: below, '\n' ∉ line.toList := by
    intro line hline
    obtain ⟨l, -, hl⟩ := exists_of_mem_right hall.flip (List.mem_map_of_mem hline)
    exact hl.2
  have hsplit := Text.splitOn_intercalate_lines (List.cons_ne_nil _ _) hbreaks
  have hne : "\n".intercalate (toString i :: below) ≠ "" := by
    intro hempty
    rw [hempty, String.toList_empty, List.splitOn_nil, List.map_cons, List.cons.injEq] at hsplit
    have hnone : outlineLine? [] = none := by decide
    rw [← hsplit.1] at hroot
    exact absurd (hnone.symm.trans hroot.1) (Option.some_ne_none _).symm
  rw [outline?, if_neg hne, hsplit, mapM_eq_some_iff.mpr (hall.imp fun _ _ h => h.1),
    Option.map_some]

/-- The drawing of a tree is read as the way down from block one. -/
theorem outline?_drawingWithin (hone : ∀ {p c}, t.IsChild p c → 1 ≤ c)
    (h : t.drawingWithin levels = .ok text) :
    outline? text = some ((t.linksBelow levels 0 1).map Link.pair) := by
  rw [drawingWithin_eq_ok_iff] at h
  split at h
  · next hnil =>
    obtain rfl := h
    rw [linksBelow_of_nodes_eq_nil hnil]
    rfl
  · obtain ⟨-, rfl⟩ := h
    have hmargin : IsMargin 0 "" := ⟨rfl, List.nil_subset rules⟩
    have hopens : Opens 0 1 [⟨0, toString (1 : Int)⟩] := rfl
    rw [outline?_intercalate Int.one_nonneg
      (List.forall₂_map_right_iff.mpr (reads_drawnBelow hone hmargin)), pairsAfter,
      pairsAfter_linksBelow hopens]
    rfl

example : outline? "1\n├─ 3\n└─ 2\n   └─ 4" = some [("1", "3"), ("1", "2"), ("2", "4")] := by
  rfl

/-! ### Pairs by their first items -/

theorem heads_append (name : String) (pairs pairs' : List (String × String)) :
    heads name (pairs ++ pairs') = heads name pairs ++ heads name pairs' := by
  rw [heads, List.filter_append, List.map_append]
  rfl

theorem heads_flatMap {α : Type} (name : String) (l : List α) (f : α → List (String × String)) :
    heads name (l.flatMap f) = l.flatMap fun x => heads name (f x) := by
  induction l with
  | nil => rfl
  | cons x l ih => rw [List.flatMap_cons, heads_append, ih, List.flatMap_cons]

theorem heads_eq_nil {name : String} {pairs : List (String × String)}
    (h : ∀ pair ∈ pairs, pair.1 ≠ name) : heads name pairs = [] := by
  rw [heads, List.map_eq_nil_iff, List.filter_eq_nil_iff]
  exact fun pair hpair hname => h pair hpair (of_decide_eq_true hname)

/-- The pairs of a block with its children. -/
theorem heads_map_mk (name : String) (l : List String) : heads name (l.map (name, ·)) = l := by
  rw [heads, List.filter_map, List.map_map]
  simp [Function.comp_def]

/-- The steps from a block lead to the children that are read with it. -/
theorem heads_map_pair (b : Int) (links : List Link) :
    heads (toString b) (links.map Link.pair) = (targets b links).map toString := by
  rw [heads, targets, List.filter_map, List.map_map, List.map_map]
  refine congrArg₂ _ rfl (List.filter_congr fun l _ => ?_)
  exact decide_eq_decide.mpr Text.toString_inj

theorem count_heads (name : String) (pairs : List (String × String)) (head : String) :
    (heads name pairs).count head = pairs.count (name, head) := by
  induction pairs with
  | nil => rfl
  | cons pair pairs ih =>
    obtain ⟨first, second⟩ := pair
    rw [heads] at ih ⊢
    by_cases hname : first = name
    · simp [hname, List.count_cons, ih]
    · simp [hname, ih]

/-- **Lists of pairs that agree on every first item agree up to order.** -/
theorem perm_of_heads_eq {pairs pairs' : List (String × String)}
    (h : ∀ name, heads name pairs = heads name pairs') : pairs.Perm pairs' := by
  refine List.perm_iff_count.mpr fun pair => ?_
  rw [← count_heads, h, count_heads]

end FlowAtlas.DomTree
