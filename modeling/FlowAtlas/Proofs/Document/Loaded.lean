import FlowAtlas.Proofs.Document.Layout
import FlowAtlas.Proofs.View.Sound

/-!
# Loaded documents

What a document must satisfy to be loaded is what its view can rely on: the graph is valid, the
labels of its statements are numbers, and the tree, whether it was given or computed, is proper and
has a node for each block.

## Main results

* `Document.treeOfChildren_eq_ok_iff`: what a tree must satisfy to pass the checks.
* `Document.view_eq_ok_iff`: when a document is loaded.
* `Document.view_sound`: a loaded view is sound.
-/

namespace FlowAtlas

namespace Document

open DomTree

variable {members : List (String × Json)} {j : Json} {s : Stmt} {v : View} {t : DomTree}
  {children : List (List Int)} {kind : Kind} {count : ℕ}

/-! ### Statements -/

theorem Fields.labelled {R : Reading} (h : Fields R members kind s) : s.Labelled := by
  intro region label hs
  cases h with
  | detach | reattach =>
    rcases hs with hs | hs <;> cases hs
    exact ⟨_, rfl⟩
  | goto | gotoIfNot | ret | unreachable | expr | sync => rcases hs with hs | hs <;> cases hs

theorem labelled_of_statement (h : statement j = .ok s) : s.Labelled := by
  cases statement_eq_ok_iff.mp h with
  | object _ hfields => exact hfields.labelled
  | lone =>
    intro region label hs
    rcases hs with hs | hs <;> cases hs

/-! ### Trees -/

theorem length_eraseDups_le (l : List Int) : l.eraseDups.length ≤ l.length := by
  induction hn : l.length using Nat.strongRecOn generalizing l with
  | ind n ih =>
    cases l with
    | nil => exact Nat.zero_le n
    | cons a l =>
      have hfilter := List.length_filter_le (fun b => !b == a) l
      rw [List.length_cons] at hn
      rw [List.eraseDups_cons, List.length_cons]
      have hrest := ih _ (Nat.lt_of_le_of_lt hfilter (by omega)) _ rfl
      omega

/-- Dropping what is listed again drops nothing exactly if nothing is listed twice. -/
theorem length_eraseDups_eq_iff {l : List Int} : l.eraseDups.length = l.length ↔ l.Nodup := by
  induction l with
  | nil => exact iff_of_true rfl List.nodup_nil
  | cons a l ih =>
    have hfilter := List.length_filter_le (fun b => !b == a) l
    have hle := length_eraseDups_le (l.filter fun b => !b == a)
    have hall : (l.filter fun b => !b == a) = l ↔ a ∉ l := by
      rw [List.filter_eq_self, ← List.forall_mem_ne']
      simp only [Bool.not_eq_true', beq_eq_false_iff_ne, ne_eq]
    rw [List.eraseDups_cons, List.length_cons, List.length_cons, Nat.add_right_cancel_iff,
      List.nodup_cons, ← ih, ← hall]
    constructor
    · intro h
      have heq := List.filter_sublist.eq_of_length (le_antisymm hfilter (h ▸ hle))
      rw [heq] at h
      exact ⟨heq, h⟩
    · rintro ⟨heq, h⟩
      rwa [heq]

theorem any_outside_iff : (children.flatten.any fun c => !(1 ≤ c && c ≤ (count : Int))) = true ↔
    ¬ ∀ c ∈ children.flatten, 1 ≤ c ∧ c ≤ count := by
  rw [← Bool.not_eq_false, List.any_eq_false]
  simp only [Bool.not_eq_true', Bool.not_eq_false, Bool.and_eq_true, decide_eq_true_eq]

theorem twice_iff : (children.flatten.contains 1 ||
    children.flatten.eraseDups.length ≠ children.flatten.length) = true ↔
      ¬ (1 ∉ children.flatten ∧ children.flatten.Nodup) := by
  rw [Bool.or_eq_true, List.contains_iff_mem, decide_eq_true_eq, ne_eq, length_eraseDups_eq_iff,
    not_and_or, not_not]

/-- What a tree must satisfy to pass the checks: its lists of children hang together, there are
as many as asked for, and the walk down from block one gives every child a level. -/
theorem treeOfChildren_eq_ok_iff : treeOfChildren count children = .ok t ↔
    children.length = count ∧ Hanging children ∧ ofChildren? children = some t ∧
      ∀ c ∈ children.flatten, ∀ node, t.node? c = some node → node.level ≠ 0 := by
  have hlevel : ∀ t : DomTree,
      (children.flatten.any fun c => (t.node? c).any (·.level = 0)) = true ↔
        ¬ ∀ c ∈ children.flatten, ∀ node, t.node? c = some node → node.level ≠ 0 := by
    intro t
    rw [← Bool.not_eq_false, List.any_eq_false]
    simp only [Option.any_eq_true, decide_eq_true_eq, not_exists, not_and, ne_eq]
  rw [treeOfChildren]
  constructor
  · intro h
    split_ifs at h with hlength hout htwice
    obtain ⟨t', ht, h⟩ := bind_eq_ok_iff.mp h
    split_ifs at h with hdown
    cases h
    rw [any_outside_iff, not_not] at hout
    rw [twice_iff, not_not] at htwice
    rw [hlevel, not_not] at hdown
    rw [ne_eq, not_not] at hlength
    exact ⟨hlength, ⟨hlength ▸ hout, htwice.2, htwice.1⟩, found_eq_ok_iff.mp ht, hdown⟩
  · rintro ⟨rfl, hh, ht, hdown⟩
    rw [if_neg (not_not.mpr rfl), if_neg (any_outside_iff.not.mpr (not_not.mpr hh.inside)),
      if_neg (twice_iff.not.mpr (not_not.mpr ⟨hh.entry, hh.nodup⟩))]
    refine bind_eq_ok_iff.mpr ⟨t, found_eq_ok_iff.mpr ht, ?_⟩
    rw [if_neg ((hlevel t).not.mpr (not_not.mpr hdown))]
    rfl

/-- A tree that passes the checks is proper, and it has as many nodes as asked for. -/
theorem treeOfChildren_proper (h : treeOfChildren count children = .ok t) :
    t.Proper ∧ t.nodes.length = count := by
  obtain ⟨rfl, hh, ht, -⟩ := treeOfChildren_eq_ok_iff.mp h
  obtain ⟨hproper, rfl⟩ := hh.proper ht
  exact ⟨hproper, (length_childLists t).symm⟩

theorem tree_proper (h : tree count j = .ok t) : t.Proper ∧ t.nodes.length = count := by
  obtain ⟨lists, children, -, -, h⟩ := tree_eq_ok_iff.mp h
  exact treeOfChildren_proper h

/-! ### Views -/

/-- When a document is loaded: it is an object with lists of statements and of blocks that can
all be read, the graph is valid, and the tree that is given passes the checks. -/
theorem view_eq_ok_iff : view j = .ok v ↔ ∃ members code blocks stmts blocks' t name signature,
    j = .obj members ∧ Json.member? members "code" = some (.arr code) ∧
    Json.member? members "blocks" = some (.arr blocks) ∧
    List.Forall₂ (fun x s => statement x = .ok s) code stmts ∧
    List.Forall₂ (fun x b => block x.2 x.1 = .ok b) (blocks.zipIdx 1) blocks' ∧
    (Graph.linked ⟨blocks', stmts⟩).validate = .ok () ∧
    (match Json.member? members "domtree" with
      | some j => tree blocks'.length j
      | none => found (Dominance.tree? (Graph.link blocks'))) = .ok t ∧
    textField members "name" "f?" = .ok name ∧
    textField members "signature" "(?)" = .ok signature ∧
    v = {
      graph := Graph.linked ⟨blocks', stmts⟩
      name := .str name
      signature := .str signature
      resultType := ((Json.member? members "rtype").map Json.toValue).getD .null
      tree := some t } := by
  constructor
  · intro h
    rw [view.eq_def] at h
    split at h <;> try cases h
    split at h <;> try cases h
    split at h <;> try cases h
    next members _ _ _ _ code blocks hcode hblocks =>
    obtain ⟨stmts, hstmts, h⟩ := bind_eq_ok_iff.mp h
    obtain ⟨blocks', hblocks', h⟩ := bind_eq_ok_iff.mp h
    obtain ⟨⟨⟩, hvalid, h⟩ := bind_eq_ok_iff.mp h
    have hblocks' := mapM_eq_ok_iff.mp hblocks'
    have hvalid := mapError_eq_ok_iff.mp hvalid
    refine ⟨members, code, blocks, stmts, blocks', ?_⟩
    -- Only where the tree comes from differs between a document with a tree and one without.
    cases hdomtree : Json.member? members "domtree" with
    | some j | none =>
      rw [hdomtree] at h
      obtain ⟨t, ht, h⟩ := bind_eq_ok_iff.mp h
      obtain ⟨name, hname, h⟩ := bind_eq_ok_iff.mp h
      obtain ⟨signature, hsignature, h⟩ := bind_eq_ok_iff.mp h
      cases h
      exact ⟨t, name, signature, rfl, hcode, hblocks, mapM_eq_ok_iff.mp hstmts, hblocks', hvalid,
        ht, hname, hsignature, rfl⟩
  · rintro ⟨members, code, blocks, stmts, blocks', t, name, signature, rfl, hcode, hblocks, hstmts,
      hblocks', hvalid, ht, hname, hsignature, rfl⟩
    rw [view.eq_def]
    simp only [hcode, hblocks]
    refine bind_eq_ok_iff.mpr ⟨stmts, mapM_eq_ok_iff.mpr hstmts,
      bind_eq_ok_iff.mpr ⟨blocks', mapM_eq_ok_iff.mpr hblocks',
        bind_eq_ok_iff.mpr ⟨(), mapError_eq_ok_iff.mpr hvalid, ?_⟩⟩⟩
    cases hdomtree : Json.member? members "domtree" with
    | some j | none =>
      rw [hdomtree] at ht
      exact bind_eq_ok_iff.mpr ⟨t, ht, bind_eq_ok_iff.mpr ⟨name, hname,
        bind_eq_ok_iff.mpr ⟨signature, hsignature, rfl⟩⟩⟩

/-- **A loaded view is sound.** -/
theorem view_sound (h : view j = .ok v) : ∃ t, v.Sound t := by
  obtain ⟨members, code, blocks, stmts, blocks', t, name, signature, -, -, -, hstmts, -, hvalid, ht,
    -, -, rfl⟩ := view_eq_ok_iff.mp h
  have hfitting := Graph.Fitting.of_validate hvalid
  have htree : t.Proper ∧ t.nodes.length = (Graph.link blocks').length := by
    split at ht
    · rw [Graph.length_link]
      exact tree_proper ht
    · obtain ⟨t', ht', hproper⟩ := Dominance.exists_proper_tree? hfitting.succs_inside
      obtain rfl := Option.some.inj (ht'.symm.trans (found_eq_ok_iff.mp ht))
      exact hproper
  refine ⟨t, hfitting, fun s hs => ?_, rfl, htree.1, htree.2⟩
  obtain ⟨x, -, hx⟩ := exists_of_mem_right hstmts hs
  exact labelled_of_statement hx

end Document

end FlowAtlas
