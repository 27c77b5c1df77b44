import FlowAtlas.Numbering

/-!
# Dominator trees

A tree gives every block its children and its level. The entry block is block one and has level
one; a block that is not in the tree has level zero.
-/

namespace FlowAtlas

/-- The place of a block in a tree. -/
structure DomNode where
  level : Int
  children : List Int
  deriving DecidableEq, Repr

/-- A tree over the blocks of a graph. -/
structure DomTree where
  nodes : List DomNode
  deriving DecidableEq, Repr

namespace DomTree

/-- The place of the block with a number. -/
def node? (t : DomTree) (i : Int) : Option DomNode :=
  numbered? t.nodes i

/-- The lists of children of all blocks. -/
def childLists (t : DomTree) : List (List Int) :=
  t.nodes.map (·.children)

/-! ## Levels -/

/-- The children of a block that have no level yet get the level below it. Returns the new levels
and, the latest first, the children that got one; a child that is no block is an error. -/
def descend? (below : Nat) : List Int → List Nat → Option (List Nat × List Int)
  | [], levels => some (levels, [])
  | c :: rest, levels =>
    match position? levels.length c with
    | none => none
    | some k =>
      if levels[k]? = some 0 then
        (descend? below rest (levels.set k (below + 1))).map fun (levels, found) =>
          (levels, found ++ [c])
      else descend? below rest levels

/-- Each child that gets a level leaves one block less without. -/
theorem count_descend? {below : Nat} {children : List Int} {levels levels' : List Nat}
    {found : List Int} (h : descend? below children levels = some (levels', found)) :
    levels'.count 0 + found.length = levels.count 0 := by
  induction children generalizing levels levels' found with
  | nil => grind [descend?]
  | cons c rest ih =>
    rw [descend?] at h
    split at h
    · simp at h
    · next k hk =>
      have lt := position?_lt hk
      split at h
      · next zero =>
        obtain ⟨⟨levels'', found'⟩, eq, pair⟩ := Option.map_eq_some_iff.1 h
        simp only [Prod.mk.injEq] at pair
        obtain ⟨rfl, rfl⟩ := pair
        have one : 0 < levels.count 0 := List.count_pos_iff.2 (List.mem_of_getElem? zero)
        have was : levels[k] = 0 := by simpa [List.getElem?_eq_getElem lt] using zero
        have fewer : (levels.set k (below + 1)).count 0 = levels.count 0 - 1 := by
          simp [List.count_set lt, was]
        have rest_count := ih eq
        simp only [List.length_append, List.length_singleton]
        omega
      · exact ih h

set_option linter.unusedVariables false in
/-- Walks down from the blocks on a stack, the top of which comes first, until it is empty. -/
def levelsFrom? (children : List (List Int)) (levels : List Nat) : List Int → Option (List Nat)
  | [] => some levels
  | i :: stack =>
    match numbered? children i, numbered? levels i with
    | some below, some level =>
      match h : descend? level below levels with
      | none => none
      | some (levels', found) => levelsFrom? children levels' (found ++ stack)
    | _, _ => none
  termination_by stack => (levels.count 0, stack.length)
  decreasing_by
    have := count_descend? h
    cases found with
    | nil => simp_all [Prod.lex_def]
    | cons c rest => simp_all [Prod.lex_def]; omega

/-- The tree with the given lists of children, rooted at block one; a child that is no block is an
error. -/
def ofChildren? (children : List (List Int)) : Option DomTree :=
  match children with
  | [] => some ⟨[]⟩
  | _ :: others =>
    (levelsFrom? children (1 :: others.map fun _ => 0) [1]).map fun levels =>
      ⟨List.zipWith (fun (level : Nat) below => ⟨level, below⟩) levels children⟩

end DomTree

end FlowAtlas
