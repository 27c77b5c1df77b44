import FlowAtlas.Proofs.DomTree.Hanging

/-!
# Going down a dominator tree

The drawing of a tree goes down from a block to its children, one after another, and from each child
further down before it turns to the next. It succeeds exactly if going down ends within the levels
that it is given, and then its lines do not depend on their count. In a proper tree every block that
is reached is passed once, so that its children come up together with it once and in their order.

## Main definitions

* `childrenOf`: the children of a block.
* `Ends`: going down from a block ends within so many levels.
* `drawnBelow`: the lines below a block.
* `Link`, `linksBelow`: the steps on the way down from a block, in order.
* `Rooted`: the proper trees in which all that is listed hangs below block one.

## Main results

* `linesBelow_eq_ok_iff`, `drawingWithin_eq_ok_iff`: when lines are drawn, and which they are.
* `drawingWithin_mono`: a drawing does not depend on the levels it is given.
* `Proper.failsOnly_boundedDrawing`: when a tree is too deep to be gone through.
* `Proper.sibling_unique`: a block is below one child of another only.
* `Proper.targets_linksBelow`: the way down passes every block once, with its children in order.
* `Rooted.targets_eq`: from block one it passes all children.
-/

namespace FlowAtlas.DomTree

open Relation

variable {t : DomTree} {levels more depth : ℕ} {margin : String} {lines : List String}
  {i b c c' p q : Int}

/-! ### Going down ends -/

/-- The children of a block; a number of no block has none. -/
def childrenOf (t : DomTree) (i : Int) : List Int :=
  ((t.node? i).map (·.children)).getD []

theorem mem_childrenOf_iff : c ∈ t.childrenOf i ↔ t.IsChild i c := by
  rw [childrenOf, IsChild]
  cases t.node? i with
  | none => simp
  | some node => simp

/-- Going down from a block ends within so many levels. -/
def Ends (t : DomTree) : ℕ → Int → Prop
  | 0, _ => False
  | levels + 1, i => (t.node? i).isSome ∧ ∀ c ∈ t.childrenOf i, t.Ends levels c

theorem Ends.mono (h : t.Ends levels i) (hle : levels ≤ more) : t.Ends more i := by
  induction levels generalizing more i with
  | zero => exact absurd h id
  | succ levels ih =>
    obtain ⟨more, rfl⟩ : ∃ k, more = k + 1 := ⟨more - 1, by omega⟩
    exact ⟨h.1, fun c hc => ih (h.2 c hc) (by omega)⟩

/-- The lines below a block, each after the same margin. -/
def drawnBelow (t : DomTree) : (levels : ℕ) → (margin : String) → Int → List String
  | 0, _, _ => []
  | levels + 1, margin, i => (markLast (t.childrenOf i)).flatMap fun (c, last) =>
    (margin ++ connector last ++ toString c) :: t.drawnBelow levels (margin ++ passage last) c

/-- When the lines below a block are drawn: exactly if going down from it ends. -/
theorem linesBelow_eq_ok_iff : t.linesBelow levels margin i = .ok lines ↔
    t.Ends levels i ∧ t.drawnBelow levels margin i = lines := by
  induction levels generalizing margin i lines with
  | zero =>
    rw [linesBelow]
    refine iff_of_false ?_ fun h => h.1
    split <;> exact fun h => by cases h
  | succ levels ih =>
    rw [linesBelow, Ends, drawnBelow]
    cases hnode : t.node? i with
    | none => exact iff_of_false (fun h => by cases h) fun h => Bool.noConfusion h.1.1
    | some node =>
      have hchildren : t.childrenOf i = node.children := by
        rw [childrenOf, hnode]
        rfl
      -- The part of one child: the induction hypothesis, as it stands under `mapM`.
      have hpart : ∀ (x : Int × Bool) (part : List String), (do
            let below ← t.linesBelow levels (margin ++ passage x.2) x.1
            pure ((margin ++ connector x.2 ++ toString x.1) :: below)) =
              (.ok part : Except Failure (List String)) ↔
          t.Ends levels x.1 ∧ (margin ++ connector x.2 ++ toString x.1) ::
            t.drawnBelow levels (margin ++ passage x.2) x.1 = part := by
        intro x part
        rw [bind_eq_ok_iff]
        simp only [ih]
        constructor
        · rintro ⟨_, ⟨hends, rfl⟩, h⟩
          exact ⟨hends, Except.ok.inj h⟩
        · rintro ⟨hends, rfl⟩
          exact ⟨_, ⟨hends, rfl⟩, rfl⟩
      have hends : (∀ x ∈ markLast node.children, t.Ends levels x.1) ↔
          ∀ c ∈ node.children, t.Ends levels c := by
        conv_rhs => rw [← map_fst_markLast node.children, List.forall_mem_map]
      rw [hchildren, bind_eq_ok_iff]
      simp only [mapM_eq_ok_iff, hpart, List.forall₂_and_left, hends]
      constructor
      · rintro ⟨parts, ⟨hall, hparts⟩, h⟩
        rw [← Except.ok.inj h, ← List.forall₂_map_left_iff, List.forall₂_eq_eq_eq] at *
        exact ⟨⟨rfl, hall⟩, by rw [List.flatMap_def, hparts]⟩
      · rintro ⟨⟨-, hall⟩, rfl⟩
        refine ⟨_, ⟨hall, ?_⟩, congrArg Except.ok (List.flatMap_def ..).symm⟩
        rw [← List.forall₂_map_left_iff, List.forall₂_eq_eq_eq]

/-- The lines below a block do not depend on how many levels more there are. -/
theorem Ends.drawnBelow_eq (h : t.Ends levels i) (hle : levels ≤ more) :
    t.drawnBelow more margin i = t.drawnBelow levels margin i := by
  induction levels generalizing more margin i with
  | zero => exact absurd h id
  | succ levels ih =>
    obtain ⟨more, rfl⟩ : ∃ k, more = k + 1 := ⟨more - 1, by omega⟩
    rw [drawnBelow, drawnBelow]
    refine List.flatMap_congr ?_
    rintro ⟨c, last⟩ hx
    exact congrArg _ (ih (h.2 c (fst_mem_of_mem_markLast hx)) (by omega))

/-- When a tree is drawn: if it has nodes, going down from block one ends. -/
theorem drawingWithin_eq_ok_iff {text : String} : t.drawingWithin levels = .ok text ↔
    if t.nodes = [] then text = "" else
      t.Ends levels 1 ∧
        "\n".intercalate (toString (1 : Int) :: t.drawnBelow levels "" 1) = text := by
  by_cases hnil : t.nodes = []
  · rw [drawingWithin, if_pos (List.isEmpty_iff.mpr hnil), if_pos hnil]
    exact ⟨fun h => (Except.ok.inj h).symm, fun h => congrArg _ h.symm⟩
  · rw [drawingWithin, if_neg (List.isEmpty_iff.not.mpr hnil), if_neg hnil, map_eq_ok_iff]
    constructor
    · rintro ⟨lines, hlines, rfl⟩
      obtain ⟨below, hbelow, hlines⟩ := bind_eq_ok_iff.mp hlines
      cases hlines
      obtain ⟨hends, rfl⟩ := linesBelow_eq_ok_iff.mp hbelow
      exact ⟨hends, rfl⟩
    · rintro ⟨hends, rfl⟩
      exact ⟨_, bind_eq_ok_iff.mpr ⟨_, linesBelow_eq_ok_iff.mpr ⟨hends, rfl⟩, rfl⟩, rfl⟩

/-- The drawing of a tree is the same within more levels. -/
theorem drawingWithin_mono {text : String} (h : t.drawingWithin levels = .ok text)
    (hle : levels ≤ more) : t.drawingWithin more = .ok text := by
  rw [drawingWithin_eq_ok_iff] at h ⊢
  split at h
  · rwa [if_pos ‹_›]
  · rw [if_neg ‹_›, h.1.drawnBelow_eq hle]
    exact ⟨h.1.mono hle, h.2⟩

/-! ### Going down too far -/

namespace Proper

variable (h : t.Proper)
include h

theorem isSome_node? (hi : i ∈ t.childLists.flatten) : (t.node? i).isSome := by
  obtain ⟨hone, hlast⟩ := h.inside i hi
  obtain ⟨node, hnode⟩ := exists_counted? hone hlast
  rw [node?, numbered?_of_counted? hnode]
  rfl

/-- All that can go wrong below a block is that there are too many levels. -/
theorem failsOnly_linesBelow (hi : (t.node? i).isSome) (levels : ℕ) (margin : String) :
    FailsOnly (· = .tooDeep) (t.linesBelow levels margin i) := by
  induction levels generalizing margin i with
  | zero =>
    rw [linesBelow, if_pos hi]
    exact .error rfl
  | succ levels ih =>
    obtain ⟨node, hnode⟩ := Option.isSome_iff_exists.mp hi
    rw [linesBelow, hnode]
    refine FailsOnly.bind (.mapM fun x hx => ?_) fun parts _ => .ok _
    have hc : x.1 ∈ t.childLists.flatten := List.mem_flatten.mpr
      ⟨_, List.mem_map_of_mem (mem_of_numbered? hnode), fst_mem_of_mem_markLast hx⟩
    exact (ih (h.isSome_node? hc) _).bind fun below _ => .ok _

theorem failsOnly_drawingWithin (levels : ℕ) :
    FailsOnly (· = .tooDeep) (t.drawingWithin levels) := by
  rw [drawingWithin]
  split
  · exact .ok ""
  · next hnil =>
    have hpos := List.length_pos_iff.mpr (List.isEmpty_iff.not.mp hnil)
    have hone : (t.node? 1).isSome := Option.isSome_of_eq_some (numbered?_succ hpos)
    refine FailsOnly.map ?_ _
    exact (h.failsOnly_linesBelow hone levels "").bind fun below _ => .ok _

/-- A proper tree is drawn if going down from block one ends within the levels that there may
be. -/
theorem exists_boundedDrawing (hends : t.nodes ≠ [] → t.Ends levelLimit 1) :
    ∃ text, t.boundedDrawing = .ok text := by
  rcases le_total t.nodes.length levelLimit with hfew | hmany
  · rw [boundedDrawing_eq_drawing hfew]
    exact h.exists_drawing
  · rw [boundedDrawing, Nat.min_eq_left hmany]
    by_cases hnil : t.nodes = []
    · exact ⟨_, drawingWithin_eq_ok_iff.mpr (by rw [if_pos hnil])⟩
    · exact ⟨_, drawingWithin_eq_ok_iff.mpr (by rw [if_neg hnil]; exact ⟨hends hnil, rfl⟩)⟩

/-- A proper tree is too deep to be gone through if going down from block one does not end
within the levels that there may be, and nothing else can go wrong. -/
theorem failsOnly_boundedDrawing :
    FailsOnly (fun f => f = .tooDeep ∧ ¬ t.Ends levelLimit 1) t.boundedDrawing := by
  intro f hf
  refine ⟨h.failsOnly_drawingWithin _ f hf, fun hends => ?_⟩
  obtain ⟨text, htext⟩ := h.exists_boundedDrawing fun _ => hends
  cases htext.symm.trans hf

end Proper

/-! ### The order of going down -/

/-- A step on the way down from a block to one of its children. The depth is that of the block. -/
structure Link where
  depth : ℕ
  parent : Int
  child : Int
  deriving DecidableEq, Repr

/-- The steps on the way down from a block, in order. -/
def linksBelow (t : DomTree) : (levels depth : ℕ) → Int → List Link
  | 0, _, _ => []
  | levels + 1, depth, i => (t.childrenOf i).flatMap fun c =>
    ⟨depth, i, c⟩ :: t.linksBelow levels (depth + 1) c

theorem linksBelow_of_nodes_eq_nil (h : t.nodes = []) : t.linksBelow levels depth i = [] := by
  have hnil : t.childrenOf i = [] := by
    refine List.eq_nil_iff_forall_not_mem.mpr fun c hc => ?_
    obtain ⟨node, hnode, -⟩ := mem_childrenOf_iff.mp hc
    exact List.not_mem_nil (h ▸ mem_of_numbered? hnode)
  cases levels with
  | zero => rfl
  | succ levels =>
    rw [linksBelow, hnil]
    rfl

theorem depth_le_of_mem {l : Link} (hl : l ∈ t.linksBelow levels depth i) : depth ≤ l.depth := by
  induction levels generalizing depth i with
  | zero => exact absurd hl List.not_mem_nil
  | succ levels ih =>
    obtain ⟨c, -, hl⟩ := List.mem_flatMap.mp hl
    rcases List.mem_cons.mp hl with rfl | hl
    · exact le_rfl
    · exact (Nat.le_succ depth).trans (ih hl)

/-- A step on the way down leads from a block below to a child of it. -/
theorem reaches_of_mem {l : Link} (hl : l ∈ t.linksBelow levels depth i) :
    ReflTransGen t.IsChild i l.parent ∧ t.IsChild l.parent l.child := by
  induction levels generalizing depth i with
  | zero => exact absurd hl List.not_mem_nil
  | succ levels ih =>
    obtain ⟨c, hc, hl⟩ := List.mem_flatMap.mp hl
    have hc := mem_childrenOf_iff.mp hc
    rcases List.mem_cons.mp hl with rfl | hl
    · exact ⟨.refl, hc⟩
    · exact ⟨.head hc (ih hl).1, (ih hl).2⟩

/-- The children that steps from a block lead to, in order. -/
def targets (b : Int) (links : List Link) : List Int :=
  (links.filter (·.parent = b)).map (·.child)

theorem targets_append (b : Int) (links links' : List Link) :
    targets b (links ++ links') = targets b links ++ targets b links' := by
  rw [targets, List.filter_append, List.map_append]
  rfl

theorem targets_flatMap {α : Type} (b : Int) (cs : List α) (f : α → List Link) :
    targets b (cs.flatMap f) = cs.flatMap fun c => targets b (f c) := by
  induction cs with
  | nil => rfl
  | cons c cs ih => rw [List.flatMap_cons, targets_append, ih, List.flatMap_cons]

theorem targets_cons_self (depth : ℕ) (i c : Int) (links : List Link) :
    targets i (⟨depth, i, c⟩ :: links) = c :: targets i links := by
  rw [targets, List.filter_cons_of_pos (by simp), List.map_cons]
  rfl

theorem targets_cons_of_ne (hne : i ≠ b) (depth : ℕ) (c : Int) (links : List Link) :
    targets b (⟨depth, i, c⟩ :: links) = targets b links := by
  rw [targets, List.filter_cons_of_neg (by simp [hne])]
  rfl

theorem targets_linksBelow_of_not (hb : ¬ ReflTransGen t.IsChild i b) :
    targets b (t.linksBelow levels depth i) = [] := by
  rw [targets, List.map_eq_nil_iff, List.filter_eq_nil_iff]
  intro l hl hparent
  exact hb (of_decide_eq_true hparent ▸ (reaches_of_mem hl).1)

/-! ### Proper trees -/

theorem IsChild.mem_flatten (hpc : t.IsChild p c) : c ∈ t.childLists.flatten := by
  obtain ⟨node, hnode, hc⟩ := hpc
  exact List.mem_flatten.mpr ⟨_, List.mem_map_of_mem (mem_of_numbered? hnode), hc⟩

namespace Proper

variable (h : t.Proper)
include h

theorem hanging : Hanging t.childLists := by
  cases h with
  | empty => exact ⟨fun c hc => absurd hc List.not_mem_nil, List.nodup_nil, List.not_mem_nil⟩
  | hung hh h => rwa [childLists_ofLevels h.length_eq]

theorem one_le_of_isChild (hpc : t.IsChild p c) : 1 ≤ c :=
  (h.inside c hpc.mem_flatten).1

theorem one_le_of_reaches (hi : 1 ≤ i) (hib : ReflTransGen t.IsChild i b) : 1 ≤ b := by
  rcases hib.cases_tail with rfl | ⟨p, -, hpb⟩
  · exact hi
  · exact h.one_le_of_isChild hpb

/-- Every block is a child of one block at most. -/
theorem parent_unique (hp : 1 ≤ p) (hq : 1 ≤ q) (hpc : t.IsChild p c) (hqc : t.IsChild q c) :
    p = q := by
  cases h with
  | empty =>
    obtain ⟨node, hnode, -⟩ := hpc
    exact absurd (mem_of_numbered? hnode) List.not_mem_nil
  | hung hh h =>
    obtain ⟨k, j, hk, hj, hbelow⟩ := exists_below_of_isChild h.length_eq hh.inside hpc
    obtain ⟨k', j', hk', hj', hbelow'⟩ := exists_below_of_isChild h.length_eq hh.inside hqc
    obtain rfl := Option.some.inj (hj.symm.trans hj')
    obtain rfl := hh.parent_unique hbelow hbelow'
    exact position?_inj hp hq hk hk'

theorem nodup_childrenOf (i : Int) : (t.childrenOf i).Nodup := by
  rw [childrenOf]
  cases hnode : t.node? i with
  | none => exact List.nodup_nil
  | some node =>
    exact (List.nodup_flatten.mp h.hanging.nodup).1 _ (List.mem_map_of_mem (mem_of_numbered? hnode))

/-- A block is below one child of another only. -/
theorem sibling_unique (hi : ReflTransGen t.IsChild 1 i) (hc : t.IsChild i c)
    (hc' : t.IsChild i c') (hb : ReflTransGen t.IsChild c b) (hb' : ReflTransGen t.IsChild c' b) :
    c = c' := by
  have hi1 : 1 ≤ i := h.one_le_of_reaches le_rfl hi
  have hone : ∀ {d p}, t.IsChild i d → ReflTransGen t.IsChild d p → 1 ≤ p := fun hd =>
    h.one_le_of_reaches (h.one_le_of_isChild hd)
  -- A child that is also below another one makes going down from the block come back.
  have hcycle : ∀ {d d' p}, t.IsChild i d → t.IsChild i d' → ReflTransGen t.IsChild d p →
      ¬ t.IsChild p d' := by
    intro d d' p hd hd' hp hpd'
    obtain rfl := h.parent_unique (hone hd hp) hi1 hpd' hd'
    exact h.not_transGen hi (.head' hd hp)
  induction hb with
  | refl =>
    rcases hb'.cases_tail with rfl | ⟨p, hp, hpc⟩
    · rfl
    · exact absurd hpc (hcycle hc' hc hp)
  | tail hp hpb ih =>
    rcases hb'.cases_tail with rfl | ⟨q, hq, hqb⟩
    · exact absurd hpb (hcycle hc hc' hp)
    · exact ih (h.parent_unique (hone hc hp) (hone hc' hq) hpb hqb ▸ hq)

/-- The way down passes every block below once, with its children in their order. -/
theorem targets_linksBelow (hi : ReflTransGen t.IsChild 1 i) (hends : t.Ends levels i)
    (hb : ReflTransGen t.IsChild i b) :
    targets b (t.linksBelow levels depth i) = t.childrenOf b := by
  induction levels generalizing depth i with
  | zero => exact absurd hends id
  | succ levels ih =>
    rw [linksBelow, targets_flatMap]
    rcases hb.cases_head with rfl | ⟨c, hc, hcb⟩
    · have hback : ∀ c ∈ t.childrenOf i,
          targets i (⟨depth, i, c⟩ :: t.linksBelow levels (depth + 1) c) = [c] := by
        intro c hc
        rw [targets_cons_self, targets_linksBelow_of_not]
        exact fun hci => h.not_transGen hi (.head' (mem_childrenOf_iff.mp hc) hci)
      rw [List.flatMap_congr hback, List.flatMap_singleton']
    · have hne : i ≠ b := by
        rintro rfl
        exact h.not_transGen hi (.head' hc hcb)
      simp only [targets_cons_of_ne hne]
      -- Only one child leads on to the block.
      obtain ⟨before, after, hsplit⟩ := List.append_of_mem (mem_childrenOf_iff.mpr hc)
      have hnodup := h.nodup_childrenOf i
      have hother : ∀ d ∈ t.childrenOf i, d ≠ c →
          targets b (t.linksBelow levels (depth + 1) d) = [] := fun d hd hdc =>
        targets_linksBelow_of_not fun hdb =>
          hdc (h.sibling_unique hi (mem_childrenOf_iff.mp hd) hc hdb hcb)
      have hone : targets b (t.linksBelow levels (depth + 1) c) = t.childrenOf b :=
        ih (hi.tail hc) (hends.2 c (mem_childrenOf_iff.mpr hc)) hcb
      rw [hsplit] at hnodup hother ⊢
      obtain ⟨-, hafter, hbefore⟩ := List.nodup_append.mp hnodup
      rw [List.flatMap_append, List.flatMap_cons, hone,
        List.flatMap_eq_nil_iff.mpr fun d hd => hother d (by simp [hd])
          (hbefore d hd c List.mem_cons_self),
        List.flatMap_eq_nil_iff.mpr fun d hd => hother d (by simp [hd]) ?_,
        List.nil_append, List.append_nil]
      rintro rfl
      exact (List.nodup_cons.mp hafter).1 hd

end Proper

/-! ### Rooted trees -/

/-- A proper tree in which all that is listed as a child hangs below block one. -/
structure Rooted (t : DomTree) : Prop where
  proper : t.Proper
  reached : ∀ c ∈ t.childLists.flatten, ReflTransGen t.IsChild 1 c

/-- Children along the positions of blocks are children along their numbers. -/
theorem isChild_of_below {children : List (List Int)} {levels : List ℕ} {k l : ℕ}
    (hlength : levels.length = children.length)
    (hin : ∀ c ∈ children.flatten, 1 ≤ c ∧ c ≤ children.length) (hbelow : Below children k l)
    (hi : 1 ≤ i) (hl : position? children.length i = some l) :
    (ofLevels levels children).IsChild (k + 1) i := by
  obtain ⟨cs, hcs, j, hj, hjl⟩ := hbelow
  have hj1 := (hin j (List.mem_flatten.mpr ⟨cs, List.mem_of_getElem? hcs, hj⟩)).1
  obtain rfl := position?_inj hj1 hi hjl hl
  have hpos : position? children.length (k + 1) = some k :=
    position?_succ (List.getElem?_eq_some_iff.mp hcs).1
  have hlisted : children.getD k [] = cs := by
    rw [List.getD_eq_getElem?_getD, hcs, Option.getD_some]
  exact ⟨_, node?_ofLevels hlength hpos, hlisted ▸ hj⟩

theorem Levelled.reaches_of_level {children : List (List Int)} {levels : List ℕ} {k : ℕ}
    (h : Levelled children levels [])
    (hin : ∀ c ∈ children.flatten, 1 ≤ c ∧ c ≤ children.length) (hi : 1 ≤ i)
    (hk : position? children.length i = some k) (hlevel : levels.getD k 0 ≠ 0) :
    ReflTransGen (ofLevels levels children).IsChild 1 i := by
  induction h.level_ne_zero_iff.mp hlevel generalizing i with
  | refl =>
    obtain rfl := position?_inj le_rfl hi (position?_succ (position?_lt hk)) hk
    exact .refl
  | @tail p k hp hstep ih =>
    obtain ⟨cs, hcs, -⟩ := id hstep
    have hpos : position? children.length (p + 1) = some p :=
      position?_succ (List.getElem?_eq_some_iff.mp hcs).1
    exact (ih (by omega) hpos (h.level_ne_zero_iff.mpr hp)).tail
      (isChild_of_below h.length_eq hin hstep hi hk)

namespace Rooted

variable (h : t.Rooted)
include h

theorem reaches_of_isChild (hb : 1 ≤ b) (hbc : t.IsChild b c) : ReflTransGen t.IsChild 1 b := by
  rcases (h.reached c hbc.mem_flatten).cases_tail with rfl | ⟨p, hp, hpc⟩
  · exact absurd hbc.mem_flatten h.proper.hanging.entry
  · obtain rfl := h.proper.parent_unique hb (h.proper.one_le_of_reaches le_rfl hp) hbc hpc
    exact hp

/-- **The way down from block one passes all children**, those of each block in their order. -/
theorem targets_eq (hends : t.Ends levels 1) (hb : 1 ≤ b) :
    targets b (t.linksBelow levels depth 1) = t.childrenOf b := by
  by_cases hreach : ReflTransGen t.IsChild 1 b
  · exact h.proper.targets_linksBelow .refl hends hreach
  · rw [targets_linksBelow_of_not hreach, eq_comm, List.eq_nil_iff_forall_not_mem]
    exact fun c hc => hreach (h.reaches_of_isChild hb (mem_childrenOf_iff.mp hc))

end Rooted

end FlowAtlas.DomTree
