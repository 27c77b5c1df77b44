import FlowAtlas.Dot.Dominators
import FlowAtlas.Dot.Flow
import FlowAtlas.Graph.Valid
import FlowAtlas.Proofs.Graph.Links
import FlowAtlas.Proofs.Outcome
import Mathlib.Data.Int.Order.Basic

/-!
# Look-ups in valid graphs

In a valid graph every block holds a run of statements that is not empty and lies inside of the
table, and every successor is a block. All that a listing or a drawing looks up is then there, under
numbers that count from the front.

## Main definitions

* `Block.Fits`, `Graph.Fitting`: the rules of a valid graph.

## Main results

* `Graph.Fitting.of_validate`, `Graph.Fitting.validate_eq`: what passes the check keeps the rules,
  and the other way round.
* `Graph.Fitting.exists_stmtsOf?`, `Graph.Fitting.exists_terminator?`: the look-ups of statements.
* `Graph.Fitting.exists_listing?`, `Graph.Fitting.exists_flowDigraph?`,
  `Graph.Fitting.exists_treeDigraph`: the listing and the drawings are there.
* `exists_head_of_mem_edgesOf`: an edge leads to a successor.
-/

namespace FlowAtlas

/-- A block keeps the rules of a graph with given counts of statements and of blocks. -/
structure Block.Fits (size count : ℕ) (b : Block) : Prop where
  one_le_first : 1 ≤ b.stmts.first
  first_le_last : b.stmts.first ≤ b.stmts.last
  last_le : b.stmts.last ≤ size
  inside : ∀ s ∈ b.succs, 1 ≤ s ∧ s ≤ count

/-- All blocks of a graph keep the rules. -/
def Graph.Fitting (g : Graph) : Prop :=
  ∀ b ∈ g.blocks, b.Fits g.code.length g.blocks.length

variable {g : Graph} {b : Block} {i : Int} {size count k : ℕ}

theorem Block.fits_of_breach? (h : b.breach? size count k = none) : b.Fits size count := by
  rw [Block.breach?] at h
  split_ifs at h with hempty hout
  rw [Bool.or_eq_true, decide_eq_true_eq, decide_eq_true_eq, not_or] at hout
  rw [Span.size] at hempty
  refine ⟨by omega, by omega, by omega, fun s hs => ?_⟩
  have hs := List.find?_eq_none.mp (Option.map_eq_none_iff.mp h) s hs
  simpa using hs

theorem Block.fits_of_failure? (h : b.failure? size count k = none) : b.Fits size count := by
  rw [Block.failure?] at h
  split_ifs at h with hgreat
  exact Block.fits_of_breach? (Option.map_eq_none_iff.mp h)

theorem Block.Fits.size_ne_zero (h : b.Fits size count) : b.stmts.size ≠ 0 := by
  have := h.first_le_last
  rw [Span.size]
  omega

/-- What passes the check keeps the rules. -/
theorem Graph.Fitting.of_validate (h : g.validate = .ok ()) : g.Fitting := by
  intro b hb
  obtain ⟨k, hk⟩ := List.getElem?_of_mem hb
  have hnone : g.failure? = none := by
    rw [Graph.validate] at h
    split at h
    · cases h
    · assumption
  rw [Graph.failure?, List.findSome?_eq_none_iff] at hnone
  exact Block.fits_of_failure?
    (hnone (b, k + 1) (mem_zipIdx_one_iff.mpr ((counted?_succ k).trans hk)))

theorem Graph.Fitting.of_breach? (h : g.breach? = none) : g.Fitting := by
  intro b hb
  obtain ⟨k, hk⟩ := List.getElem?_of_mem hb
  rw [Graph.breach?, List.findSome?_eq_none_iff] at h
  exact Block.fits_of_breach?
    (h (b, k + 1) (mem_zipIdx_one_iff.mpr ((counted?_succ k).trans hk)))

theorem Block.Fits.breach?_eq_none (h : b.Fits size count) : b.breach? size count k = none := by
  have hone := h.one_le_first
  have hlast := h.last_le
  rw [breach?, if_neg h.size_ne_zero, if_neg, Option.map_eq_none_iff, List.find?_eq_none]
  · intro s hs
    simp [h.inside s hs]
  · rw [Bool.or_eq_true, decide_eq_true_eq, decide_eq_true_eq, not_or]
    exact ⟨by omega, by omega⟩

theorem Graph.Fitting.breach?_eq_none (h : g.Fitting) : g.breach? = none := by
  rw [breach?, List.findSome?_eq_none_iff]
  rintro ⟨b, k⟩ hb
  exact (h b (List.fst_mem_of_mem_zipIdx hb)).breach?_eq_none

theorem Block.Fits.failure?_eq_none (h : b.Fits size count) (hgreat : size ≤ greatestSpan) :
    b.failure? size count k = none := by
  have hone := h.one_le_first
  have hlast := h.last_le
  have hsize : b.stmts.size ≤ size := by
    rw [Span.size]
    omega
  have hcount : ¬ b.stmts.size > greatestSpan := Nat.not_lt.mpr (Nat.le_trans hsize hgreat)
  rw [failure?, if_neg hcount, h.breach?_eq_none]
  rfl

/-- What keeps the rules passes the check, if the statements can be counted. -/
theorem Graph.Fitting.validate_eq (h : g.Fitting) (hgreat : g.code.length ≤ greatestSpan) :
    g.validate = .ok () := by
  have hnone : g.failure? = none := by
    rw [failure?, List.findSome?_eq_none_iff]
    rintro ⟨b, k⟩ hb
    have hb := List.fst_mem_of_mem_zipIdx hb
    exact (h b hb).failure?_eq_none hgreat
  rw [validate, hnone]

theorem mem_of_counted? {α : Type} {xs : List α} {x : α} (h : counted? xs i = some x) : x ∈ xs :=
  mem_of_numbered? (numbered?_of_counted? h)

namespace Graph.Fitting

variable (h : g.Fitting)
include h

theorem succs_inside : ∀ b ∈ g.blocks, ∀ s ∈ b.succs, 1 ≤ s ∧ s ≤ g.blocks.length :=
  fun b hb => (h b hb).inside

/-! ### Statements -/

/-- The statements of a block are there, each under its number counted from the front. -/
theorem exists_stmtsIn? (hb : b ∈ g.blocks) : ∃ stmts, g.stmtsIn? b.stmts = some stmts ∧
    stmts.map Prod.fst = b.stmts.toList ∧ ∀ p ∈ stmts, counted? g.code p.1 = some p.2 := by
  have hfits := h b hb
  have hstmt : ∀ k ∈ b.stmts.toList, ∃ s, counted? g.code k = some s ∧ g.stmt? k = some s := by
    intro k hk
    have hk := Span.mem_toList_iff.mp hk
    have hone := hfits.one_le_first
    have hlast := hfits.last_le
    obtain ⟨s, hs⟩ := exists_counted? (by omega : 1 ≤ k) (by omega : k ≤ g.code.length)
    exact ⟨s, hs, numbered?_of_counted? hs⟩
  have hends : ∀ k, b.stmts.first ≤ k → k ≤ b.stmts.last → (g.stmt? k).isSome := by
    intro k hk hk'
    obtain ⟨s, -, hs⟩ := hstmt k (Span.mem_toList_iff.mpr ⟨hk, hk'⟩)
    exact hs ▸ rfl
  obtain ⟨stmts, hstmts⟩ : ∃ stmts, List.Forall₂ (fun k (p : Int × Stmt) => k = p.1 ∧
      counted? g.code p.1 = some p.2 ∧ g.stmt? p.1 = some p.2) b.stmts.toList stmts := by
    refine exists_forall₂ fun k hk => ?_
    obtain ⟨s, hcounted, hs⟩ := hstmt k hk
    exact ⟨(k, s), rfl, hcounted, hs⟩
  refine ⟨stmts, ?_, ?_, fun p hp => ?_⟩
  · rw [stmtsIn?, if_neg hfits.size_ne_zero, hends _ le_rfl hfits.first_le_last,
      hends _ hfits.first_le_last le_rfl, Bool.and_self, if_pos rfl, mapM_eq_some_iff]
    refine hstmts.imp fun k p hp => ?_
    rw [hp.1, hp.2.2]
    rfl
  · rw [eq_comm, ← List.forall₂_eq_eq_eq, List.forall₂_map_right_iff]
    exact hstmts.imp fun k p hp => hp.1
  · obtain ⟨k, -, -, hcounted, -⟩ := exists_of_mem_right hstmts hp
    exact hcounted

theorem exists_stmtsOf? (hb : counted? g.blocks i = some b) : ∃ stmts, g.stmtsOf? i = some stmts ∧
    stmts.map Prod.fst = b.stmts.toList ∧ ∀ p ∈ stmts, counted? g.code p.1 = some p.2 := by
  obtain ⟨stmts, hstmts, h⟩ := h.exists_stmtsIn? (mem_of_counted? hb)
  refine ⟨stmts, ?_, h⟩
  rw [stmtsOf?, block?, numbered?_of_counted? hb, Option.bind_some, hstmts]

/-- The terminator of a block is there, under its number counted from the front. -/
theorem exists_terminator? (hb : counted? g.blocks i = some b) :
    ∃ s, g.terminator? i = some s ∧ counted? g.code b.stmts.last = some s := by
  have hfits := h b (mem_of_counted? hb)
  have hone := hfits.one_le_first
  have hle := hfits.first_le_last
  obtain ⟨s, hs⟩ := exists_counted? (le_trans hone hle) hfits.last_le
  refine ⟨s, ?_, hs⟩
  rw [terminator?, block?, numbered?_of_counted? hb, Option.bind_some, lastStmt?,
    if_neg hfits.size_ne_zero, stmt?, numbered?_of_counted? hs]

/-! ### Listings and drawings -/

/-- The listing of a valid graph is there. -/
theorem exists_listing? : ∃ text, g.listing? = some text := by
  have hlines : ∀ p ∈ g.blocks.zipIdx 1, ∃ lines, g.blockLines? p.2 p.1 = some lines := by
    rintro ⟨b, k⟩ hp
    obtain ⟨stmts, hstmts, -⟩ := h.exists_stmtsIn? (mem_of_counted? (mem_zipIdx_one_iff.mp hp))
    exact ⟨_, by rw [blockLines?, hstmts, Option.map_some]⟩
  obtain ⟨lines, hlines⟩ := exists_forall₂ hlines
  exact ⟨_, by rw [listing?, listingLines?, mapM_eq_some_iff.mpr hlines]; rfl⟩

variable (hb : counted? g.blocks i = some b)
include hb

theorem exists_nodeAttributes? (tag : String) (includeCode : Bool) :
    ∃ attributes, g.nodeAttributes? i tag includeCode = some attributes := by
  obtain ⟨stmts, hstmts, -⟩ := h.exists_stmtsOf? hb
  exact ⟨_, by rw [nodeAttributes?, codeLabel?, hstmts]; rfl⟩

theorem exists_tag? : ∃ tag, g.tag? i = some tag := by
  obtain ⟨s, hs, -⟩ := h.exists_terminator? hb
  obtain ⟨stmts, hstmts, -⟩ := h.exists_stmtsOf? hb
  obtain ⟨regions, hregions⟩ : ∃ regions, g.regionsOf? i = some regions :=
    ⟨_, by rw [regionsOf?, hstmts, Option.map_some]⟩
  rw [tag?, hs, Option.bind_eq_bind, Option.bind_some]
  split
  · exact ⟨_, rfl⟩
  · exact ⟨_, rfl⟩
  · rw [hregions, Option.bind_eq_bind, Option.bind_some]
    split
    · exact ⟨_, rfl⟩
    · exact ⟨_, rfl⟩

theorem exists_edges? : ∃ s, counted? g.code b.stmts.last = some s ∧
    g.edges? i = some (edgesOf i b.succs s) := by
  obtain ⟨s, hs, hcounted⟩ := h.exists_terminator? hb
  refine ⟨s, hcounted, ?_⟩
  rw [edges?, block?, numbered?_of_counted? hb, hs]
  rfl

/-- The node and the edges of a block are there. -/
theorem exists_blockItems? (includeCode : Bool) : ∃ tag attributes edges,
    g.tag? i = some tag ∧ g.nodeAttributes? i tag includeCode = some attributes ∧
    g.edges? i = some edges ∧
    g.blockItems? includeCode i =
      some (.node (toString i) attributes :: edges.map FlowEdge.item) := by
  obtain ⟨tag, htag⟩ := h.exists_tag? hb
  obtain ⟨attributes, hattributes⟩ := h.exists_nodeAttributes? hb tag includeCode
  obtain ⟨s, -, hedges⟩ := h.exists_edges? hb
  refine ⟨tag, attributes, _, htag, hattributes, hedges, ?_⟩
  rw [blockItems?, htag, Option.bind_eq_bind, Option.bind_some, hattributes, Option.bind_eq_bind,
    Option.bind_some, hedges]
  rfl

end Graph.Fitting

/-! ### Whole drawings -/

namespace Graph

variable {t : DomTree} {title : String} {includeCode : Bool} {attributes : ℕ → Dot.Attributes}

theorem mem_blockNumbers_iff : i ∈ g.blockNumbers ↔ ∃ b, counted? g.blocks i = some b := by
  rw [← Option.isSome_iff_exists, counted?_isSome_iff, blockNumbers, List.mem_map]
  constructor
  · rintro ⟨k, hk, rfl⟩
    have := List.mem_range.mp hk
    omega
  · rintro ⟨h1, hn⟩
    exact ⟨(i - 1).toNat, List.mem_range.mpr (by omega), by omega⟩

/-- The drawing of a graph consists of the items of its blocks, one block after another. -/
theorem flowDigraph?_eq {f : Int → List Dot.Item}
    (h : ∀ i ∈ g.blockNumbers, g.blockItems? includeCode i = some (f i)) :
    g.flowDigraph? title includeCode = some ⟨Dot.escape title, g.blockNumbers.flatMap f⟩ := by
  have hitems : g.blockNumbers.mapM (g.blockItems? includeCode) = some (g.blockNumbers.map f) := by
    rw [mapM_eq_some_iff, List.forall₂_map_right_iff]
    exact List.forall₂_same.mpr h
  rw [flowDigraph?, hitems, Option.map_some, List.flatMap_def]

/-- The node of a block with given attributes, and the edges to its children. -/
def treePart (attributes : ℕ → Dot.Attributes) (x : DomNode × ℕ) : List Dot.Item :=
  .node (toString x.2) (attributes x.2) ::
    x.1.children.map fun c => .edge (toString x.2) (toString c) []

theorem inside_of_mem_zipIdx {α : Type} {xs : List α} {x : α × ℕ} (hx : x ∈ xs.zipIdx 1) :
    1 ≤ x.2 ∧ x.2 ≤ xs.length := by
  have hx := counted?_isSome_iff.mp (mem_zipIdx_one_iff.mp hx ▸ rfl : (counted? xs x.2).isSome)
  exact ⟨by omega, by omega⟩

theorem treeDigraph_eq (hlength : t.nodes.length = g.blocks.length)
    (h : ∀ i : ℕ, 1 ≤ i → i ≤ g.blocks.length →
      g.nodeAttributes? i (toString i) includeCode = some (attributes i)) :
    g.treeDigraph t title includeCode =
      .ok ⟨Dot.escape title, (t.nodes.zipIdx 1).flatMap (treePart attributes)⟩ := by
  have hitems : (t.nodes.zipIdx 1).mapM (fun x => g.treeItems? includeCode x.2 x.1) =
      some ((t.nodes.zipIdx 1).map (treePart attributes)) := by
    rw [mapM_eq_some_iff, List.forall₂_map_right_iff]
    refine List.forall₂_same.mpr fun x hx => ?_
    obtain ⟨h1, hn⟩ := inside_of_mem_zipIdx hx
    rw [treeItems?, h x.2 h1 (hlength ▸ hn), Option.map_some, treePart]
  rw [treeDigraph, if_pos hlength, List.flatMap_def]
  exact map_eq_ok_iff.mpr ⟨_, found_eq_ok_iff.mpr hitems, rfl⟩

namespace Fitting

variable (h : g.Fitting)
include h

/-- The drawing of a valid graph is there. -/
theorem exists_flowDigraph? (title : String) (includeCode : Bool) : ∃ items : Int → List Dot.Item,
    (∀ i ∈ g.blockNumbers, g.blockItems? includeCode i = some (items i)) ∧
    g.flowDigraph? title includeCode = some ⟨Dot.escape title, g.blockNumbers.flatMap items⟩ := by
  have hblock : ∀ i ∈ g.blockNumbers, ∃ items, g.blockItems? includeCode i = some items := by
    intro i hi
    obtain ⟨b, hb⟩ := mem_blockNumbers_iff.mp hi
    obtain ⟨tag, attributes, edges, -, -, -, hitems⟩ := h.exists_blockItems? hb includeCode
    exact ⟨_, hitems⟩
  choose! items hitems using hblock
  exact ⟨items, hitems, flowDigraph?_eq hitems⟩

/-- The drawing of a tree over a valid graph is there, if it has a node for each block. -/
theorem exists_treeDigraph (hlength : t.nodes.length = g.blocks.length) (title : String)
    (includeCode : Bool) : ∃ attributes : ℕ → Dot.Attributes,
    (∀ i : ℕ, 1 ≤ i → i ≤ g.blocks.length →
      g.nodeAttributes? i (toString i) includeCode = some (attributes i)) ∧
    g.treeDigraph t title includeCode =
      .ok ⟨Dot.escape title, (t.nodes.zipIdx 1).flatMap (treePart attributes)⟩ := by
  have hnode : ∀ i : ℕ, 1 ≤ i → i ≤ g.blocks.length →
      ∃ attributes, g.nodeAttributes? i (toString i) includeCode = some attributes := by
    intro i h1 hn
    obtain ⟨b, hb⟩ := exists_counted? (Int.ofNat_le.mpr h1) (Int.ofNat_le.mpr hn)
    exact h.exists_nodeAttributes? hb (toString i) includeCode
  choose! attributes hattributes using hnode
  exact ⟨attributes, hattributes, treeDigraph_eq hlength hattributes⟩

end Fitting

end Graph

/-! ### Edges -/

variable {succs : List Int} {s : Stmt} {e : FlowEdge}

/-- A task edge comes from the block and leads to a successor. Its head is either written as a
number or as the label of the terminator. -/
theorem exists_head_of_mem_taskEdges? {edges : List FlowEdge}
    (h : taskEdges? i succs s = some edges) (he : e ∈ edges) :
    e.tail = i ∧ ∃ m ∈ succs, e.head.integer? = some m ∧
      (e.head = .int m ∨ ∃ region, s = .detach region e.head ∨ s = .reattach region e.head) := by
  rw [taskEdges?.eq_def] at h
  split at h
  · next region label =>
    split at h
    · next x y other hfilter =>
      have hother : other ∈ [x, y] :=
        (List.mem_filter.mp (hfilter ▸ List.mem_singleton_self other)).1
      -- The filter dropped a successor, which the label equals.
      obtain ⟨m, hm, hlabel⟩ : ∃ m ∈ [x, y], label.isNumber m := by
        by_contra hnone
        have hall : [x, y].filter (fun s => !label.isNumber s) = [x, y] :=
          List.filter_eq_self.mpr fun m hm => by simpa using fun hlabel => hnone ⟨m, hm, hlabel⟩
        rw [hall] at hfilter
        cases hfilter
      cases h
      rcases List.mem_cons.mp he with rfl | he
      · exact ⟨rfl, m, hm, beq_iff_eq.mp hlabel, .inr ⟨region, .inl rfl⟩⟩
      · obtain rfl := List.mem_singleton.mp he
        exact ⟨rfl, other, hother, rfl, .inl rfl⟩
    · cases h
  · next region label =>
    split at h
    · next m =>
      split at h
      · next hlabel =>
        cases h
        obtain rfl := List.mem_singleton.mp he
        exact ⟨rfl, m, List.mem_singleton_self m, beq_iff_eq.mp hlabel, .inr ⟨region, .inr rfl⟩⟩
      · cases h
    · cases h
  · next region =>
    split at h
    · next m =>
      cases h
      obtain rfl := List.mem_singleton.mp he
      exact ⟨rfl, m, List.mem_singleton_self m, rfl, .inl rfl⟩
    · cases h
  · cases h

/-- **An edge comes from its block and leads to a successor.** -/
theorem exists_head_of_mem_edgesOf (he : e ∈ edgesOf i succs s) :
    e.tail = i ∧ ∃ m ∈ succs, e.head.integer? = some m ∧
      (e.head = .int m ∨ ∃ region, s = .detach region e.head ∨ s = .reattach region e.head) := by
  rw [edgesOf] at he
  cases h : taskEdges? i succs s with
  | some edges =>
    rw [h] at he
    exact exists_head_of_mem_taskEdges? h he
  | none =>
    rw [h, Option.getD_none, List.mem_map] at he
    obtain ⟨m, hm, rfl⟩ := he
    exact ⟨rfl, m, hm, rfl, .inl rfl⟩

end FlowAtlas
