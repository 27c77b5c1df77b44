import FlowAtlas.Proofs.View.Sound
import Mathlib.Data.List.Permutation

/-!
# The edges of the flow graph

The edges of a block lead to its successors, one edge to each. Where the terminator begins a task,
ends one or waits for tasks, and the successors fit to it, the edges bear the region of the task.
All other edges bear the mark of the handler that the terminator enters or leaves, if it does, and
point back where they lead to the block itself.

## Main definitions

* `Stmt.Forks`, `Stmt.Joins`, `Stmt.Waits`: a terminator and the successors fit together.
* `EdgeMark`: the mark of the edge from a block to a successor.
* `DrawsSuccessors`: what the edges of a block show.

## Main results

* `edgesOf_of_forks`, `edgesOf_of_joins`, `edgesOf_of_waits`, `edgesOf_of_not_handlesTasks`: the
  edges of a block in each of the four cases.
* `mark?_iff_edgeMark`: the edges of a block bear the marks that they should.
* `Graph.edges?_drawsSuccessors`: the edges of the blocks of valid graphs.
-/

namespace FlowAtlas

variable {g : Graph} {s : Stmt} {succs : List Int} {region : Value} {i next task head : Int}
  {edges : List FlowEdge} {e : FlowEdge} {mark : String}

/-! ### Terminators and successors -/

namespace Stmt

/-- A terminator begins a task. Of the two blocks that follow, one is the continuation, which is its
label, and the task begins at the other. -/
structure Forks (s : Stmt) (succs : List Int) (region : Value) (next task : Int) : Prop where
  eq_detach : s = .detach region (.int next)
  ne : next ≠ task
  perm : succs.Perm [next, task]

/-- A terminator ends a task. The only block that follows is its label. -/
structure Joins (s : Stmt) (succs : List Int) (region : Value) (next : Int) : Prop where
  eq_reattach : s = .reattach region (.int next)
  succs_eq : succs = [next]

/-- A terminator waits for tasks. One block follows. -/
structure Waits (s : Stmt) (succs : List Int) (region : Value) (next : Int) : Prop where
  eq_sync : s = .sync region
  succs_eq : succs = [next]

/-- A terminator begins a task, ends one or waits for tasks. -/
inductive HandlesTasks (s : Stmt) (succs : List Int) : Prop
  | fork {region : Value} {next task : Int} (h : s.Forks succs region next task)
  | join {region : Value} {next : Int} (h : s.Joins succs region next)
  | wait {region : Value} {next : Int} (h : s.Waits succs region next)

end Stmt

open Stmt

/-- The mark of the edge from a block to a successor. -/
inductive EdgeMark (s : Stmt) (succs : List Int) : Int → String → Prop
  | continuation {region : Value} {next task : Int} (h : s.Forks succs region next task) :
    EdgeMark s succs next (taskMark "C" region)
  | task {region : Value} {next task : Int} (h : s.Forks succs region next task) :
    EdgeMark s succs task (taskMark "D" region)
  | join {region : Value} {next : Int} (h : s.Joins succs region next) :
    EdgeMark s succs next (taskMark "R" region)
  | wait {region : Value} {next : Int} (h : s.Waits succs region next) :
    EdgeMark s succs next (taskMark "S" region)
  | enter {head : Int} (h : ¬ s.HandlesTasks succs) (henter : s.head? = some "enter") :
    EdgeMark s succs head "E"
  | leave {head : Int} (h : ¬ s.HandlesTasks succs) (hleave : s.head? = some "leave") :
    EdgeMark s succs head "L"

namespace FlowEdge

/-- The mark that an edge is drawn with. -/
def mark? (e : FlowEdge) : Option String :=
  e.attributes.lookup "label"

/-- The direction that an edge is drawn with. -/
def direction? (e : FlowEdge) : Option String :=
  e.attributes.lookup "dir"

@[simp]
theorem mark?_eq (e : FlowEdge) : e.mark? = e.label := by
  rw [mark?, attributes]
  cases e.label <;> cases e.back <;> rfl

@[simp]
theorem direction?_eq (e : FlowEdge) : e.direction? = if e.back then some "back" else none := by
  rw [direction?, attributes]
  cases e.label <;> cases e.back <;> rfl

end FlowEdge

/-! ### The four cases -/

theorem edgesOf_of_forks (h : s.Forks succs region next task) : edgesOf i succs s =
    [⟨i, .int next, some (taskMark "C" region), false⟩,
      ⟨i, .int task, some (taskMark "D" region), false⟩] := by
  have hne := h.ne
  obtain rfl | rfl := List.perm_pair.mp h.perm
  · simp [edgesOf, taskEdges?, h.eq_detach, Value.isNumber, Value.integer?, hne]
  · simp [edgesOf, taskEdges?, h.eq_detach, Value.isNumber, Value.integer?, hne]

theorem edgesOf_of_joins (h : s.Joins succs region next) :
    edgesOf i succs s = [⟨i, .int next, some (taskMark "R" region), false⟩] := by
  simp [edgesOf, taskEdges?, h.eq_reattach, h.succs_eq, Value.isNumber, Value.integer?]

theorem edgesOf_of_waits (h : s.Waits succs region next) :
    edgesOf i succs s = [⟨i, .int next, some (taskMark "S" region), false⟩] := by
  simp [edgesOf, taskEdges?, h.eq_sync, h.succs_eq]

/-- Task edges are drawn only where the successors fit to the terminator. -/
theorem handlesTasks_of_taskEdges? (h : s.Labelled) (hedges : taskEdges? i succs s = some edges) :
    s.HandlesTasks succs := by
  rw [taskEdges?.eq_def] at hedges
  split at hedges
  · next region label =>
    obtain ⟨next, rfl⟩ := h region label (.inl rfl)
    split at hedges
    · next x y task hfilter =>
      simp only [Value.isNumber, Value.integer?, Option.some_beq_some] at hfilter
      -- The filter leaves one successor only if the label is one of the two and not both.
      by_cases hx : next = x
      · subst hx
        by_cases hy : next = y
        · simp [hy] at hfilter
        · obtain rfl : y = task := by simpa [hy] using hfilter
          exact .fork ⟨rfl, hy, .refl _⟩
      · by_cases hy : next = y
        · subst hy
          obtain rfl : x = task := by simpa [hx] using hfilter
          exact .fork ⟨rfl, hx, .swap _ _ _⟩
        · simp [hx, hy] at hfilter
    · cases hedges
  · next region label =>
    obtain ⟨next, rfl⟩ := h region label (.inr rfl)
    split at hedges
    · next x =>
      split at hedges
      · next hx =>
        obtain rfl : next = x := by simpa [Value.isNumber, Value.integer?] using hx
        exact .join ⟨rfl, rfl⟩
      · cases hedges
    · cases hedges
  · split at hedges
    · exact .wait ⟨rfl, rfl⟩
    · cases hedges
  · cases hedges

/-- All other blocks have an edge in order for each successor, those included whose successors
only nearly fit to the terminator. -/
theorem edgesOf_of_not_handlesTasks (h : s.Labelled) (hnone : ¬ s.HandlesTasks succs) :
    edgesOf i succs s = succs.map fun m => ⟨i, .int m, handlerMark? s, m = i⟩ := by
  have htask : taskEdges? i succs s = none :=
    Option.eq_none_iff_forall_ne_some.mpr fun _ hedges =>
      hnone (handlesTasks_of_taskEdges? h hedges)
  rw [edgesOf, htask, Option.getD_none]

example : edgesOf 1 [2, 2] (.detach (.ssa (.int 1)) (.int 2)) =
    [⟨1, .int 2, none, false⟩, ⟨1, .int 2, none, false⟩] := by
  rfl

/-! ### Marks -/

theorem handlerMark?_eq_some_iff : handlerMark? s = some mark ↔
    s.head? = some "enter" ∧ mark = "E" ∨ s.head? = some "leave" ∧ mark = "L" := by
  rw [handlerMark?.eq_def]
  split
  · simp [head?, eq_comm]
  · simp [head?, eq_comm]
  · next henter hleave =>
    cases s with
    | expr head args =>
      have hne : head ≠ "enter" ∧ head ≠ "leave" :=
        ⟨fun h => henter args (h ▸ rfl), fun h => hleave args (h ▸ rfl)⟩
      simp [head?, hne]
    | _ => simp [head?]

/-- The mark that an edge bears is one that it should. -/
theorem edgeMark_of_mark? (h : s.Labelled) (he : e ∈ edgesOf i succs s) (hhead : e.head = .int head)
    (hmark : e.mark? = some mark) : EdgeMark s succs head mark := by
  rw [FlowEdge.mark?_eq] at hmark
  by_cases htasks : s.HandlesTasks succs
  · cases htasks with
    | fork hfork =>
      rw [edgesOf_of_forks hfork] at he
      rcases List.mem_pair.mp he with rfl | rfl
      · cases hhead
        cases hmark
        exact .continuation hfork
      · cases hhead
        cases hmark
        exact .task hfork
    | join hjoin =>
      rw [edgesOf_of_joins hjoin, List.mem_singleton] at he
      subst he
      cases hhead
      cases hmark
      exact .join hjoin
    | wait hwait =>
      rw [edgesOf_of_waits hwait, List.mem_singleton] at he
      subst he
      cases hhead
      cases hmark
      exact .wait hwait
  · rw [edgesOf_of_not_handlesTasks h htasks] at he
    obtain ⟨m, -, rfl⟩ := List.mem_map.mp he
    rcases handlerMark?_eq_some_iff.mp hmark with ⟨henter, rfl⟩ | ⟨hleave, rfl⟩
    · exact .enter htasks henter
    · exact .leave htasks hleave

/-- An edge bears the mark that it should. -/
theorem EdgeMark.mark?_eq (hmark : EdgeMark s succs head mark) (h : s.Labelled)
    (he : e ∈ edgesOf i succs s) (hhead : e.head = .int head) : e.mark? = some mark := by
  rw [FlowEdge.mark?_eq]
  cases hmark with
  | continuation hfork =>
    rw [edgesOf_of_forks hfork] at he
    rcases List.mem_pair.mp he with rfl | rfl
    · rfl
    · exact absurd (Value.int.inj hhead).symm hfork.ne
  | task hfork =>
    rw [edgesOf_of_forks hfork] at he
    rcases List.mem_pair.mp he with rfl | rfl
    · exact absurd (Value.int.inj hhead) hfork.ne
    · rfl
  | join hjoin =>
    rw [edgesOf_of_joins hjoin, List.mem_singleton] at he
    exact he ▸ rfl
  | wait hwait =>
    rw [edgesOf_of_waits hwait, List.mem_singleton] at he
    exact he ▸ rfl
  | enter htasks henter =>
    rw [edgesOf_of_not_handlesTasks h htasks] at he
    obtain ⟨m, -, rfl⟩ := List.mem_map.mp he
    exact handlerMark?_eq_some_iff.mpr (.inl ⟨henter, rfl⟩)
  | leave htasks hleave =>
    rw [edgesOf_of_not_handlesTasks h htasks] at he
    obtain ⟨m, -, rfl⟩ := List.mem_map.mp he
    exact handlerMark?_eq_some_iff.mpr (.inr ⟨hleave, rfl⟩)

/-- The edges of a block bear the marks that they should. -/
theorem mark?_iff_edgeMark (h : s.Labelled) (he : e ∈ edgesOf i succs s)
    (hhead : e.head = .int head) : e.mark? = some mark ↔ EdgeMark s succs head mark :=
  ⟨edgeMark_of_mark? h he hhead, fun hmark => hmark.mark?_eq h he hhead⟩

theorem letter_eq_of_taskMark_eq {letter letter' : String} {region' : Value}
    (hlength : letter.toList.length = letter'.toList.length)
    (h : taskMark letter region = taskMark letter' region') : letter = letter' := by
  have hlist := congrArg String.toList h
  simp only [taskMark, String.toList_append, List.append_assoc] at hlist
  exact String.toList_injective (List.append_inj_left hlist hlength)

theorem length_taskMark {letter : String} (hletter : letter.toList.length = 1) :
    1 < (taskMark letter region).toList.length := by
  have hbracket : "(".toList.length = 1 := rfl
  simp only [taskMark, String.toList_append, List.length_append]
  omega

/-- A letter before a region tells the terminators apart. -/
theorem EdgeMark.of_taskMark {letter : String} (hletter : letter.toList.length = 1)
    (h : EdgeMark s succs head (taskMark letter region)) :
    letter = "C" ∧ (∃ region task, s.Forks succs region head task) ∨
    letter = "D" ∧ (∃ region next, s.Forks succs region next head) ∨
    letter = "R" ∧ (∃ region, s.Joins succs region head) ∨
    letter = "S" ∧ ∃ region, s.Waits succs region head := by
  have hlength : 1 < (taskMark letter region).toList.length := length_taskMark hletter
  generalize hmark : taskMark letter region = mark at h hlength
  cases h with
  | continuation h => exact .inl ⟨letter_eq_of_taskMark_eq hletter hmark, _, _, h⟩
  | task h => exact .inr (.inl ⟨letter_eq_of_taskMark_eq hletter hmark, _, _, h⟩)
  | join h => exact .inr (.inr (.inl ⟨letter_eq_of_taskMark_eq hletter hmark, _, h⟩))
  | wait h => exact .inr (.inr (.inr ⟨letter_eq_of_taskMark_eq hletter hmark, _, h⟩))
  -- The mark of a handler is a letter without a region.
  | enter => exact absurd hlength (by decide)
  | leave => exact absurd hlength (by decide)

/-! ### What edges show -/

/-- Some edge bears a letter and a region. -/
def ShowsTask (edges : List FlowEdge) (letter : String) : Prop :=
  ∃ e ∈ edges, ∃ region, e.mark? = some (taskMark letter region)

/-- The edges of a block lead to its successors, one edge to each, and are marked by the
terminator. -/
structure DrawsSuccessors (i : Int) (succs : List Int) (s : Stmt) (edges : List FlowEdge) :
    Prop where
  tail_eq : ∀ e ∈ edges, e.tail = i
  heads_perm : (edges.map (·.head)).Perm (succs.map .int)
  heads_eq : (¬ ∃ region next task, s.Forks succs region next task) →
    edges.map (·.head) = succs.map .int
  heads_fork : ∀ region next task, s.Forks succs region next task →
    edges.map (·.head) = [.int next, .int task]
  mark_iff : ∀ e ∈ edges, ∀ head, e.head = .int head →
    ∀ mark, e.mark? = some mark ↔ EdgeMark s succs head mark
  shows_continuation : ShowsTask edges "C" ↔ ∃ region next task, s.Forks succs region next task
  shows_task : ShowsTask edges "D" ↔ ∃ region next task, s.Forks succs region next task
  shows_join : ShowsTask edges "R" ↔ ∃ region next, s.Joins succs region next
  shows_wait : ShowsTask edges "S" ↔ ∃ region next, s.Waits succs region next
  direction_eq_none : s.HandlesTasks succs → ∀ e ∈ edges, e.direction? = none
  direction_iff : ¬ s.HandlesTasks succs →
    ∀ e ∈ edges, e.direction? = some "back" ↔ e.head = .int i

theorem map_head_edgesOf_of_forks (h : s.Forks succs region next task) :
    (edgesOf i succs s).map (·.head) = [.int next, .int task] := by
  rw [edgesOf_of_forks h]
  rfl

theorem map_head_edgesOf (h : s.Labelled)
    (hfork : ¬ ∃ region next task, s.Forks succs region next task) :
    (edgesOf i succs s).map (·.head) = succs.map .int := by
  by_cases htasks : s.HandlesTasks succs
  · cases htasks with
    | fork h => exact absurd ⟨_, _, _, h⟩ hfork
    | join h =>
      rw [edgesOf_of_joins h, h.succs_eq]
      rfl
    | wait h =>
      rw [edgesOf_of_waits h, h.succs_eq]
      rfl
  · rw [edgesOf_of_not_handlesTasks h htasks, List.map_map]
    rfl

/-- An edge for each successor. -/
theorem perm_map_head_edgesOf (h : s.Labelled) :
    ((edgesOf i succs s).map (·.head)).Perm (succs.map .int) := by
  by_cases hfork : ∃ region next task, s.Forks succs region next task
  · obtain ⟨region, next, task, hfork⟩ := hfork
    rw [map_head_edgesOf_of_forks hfork]
    exact (hfork.perm.map Value.int).symm
  · rw [map_head_edgesOf h hfork]

theorem exists_head_eq_int (h : s.Labelled) (he : e ∈ edgesOf i succs s) :
    ∃ head, e.head = .int head := by
  have hhead := (perm_map_head_edgesOf h).mem_iff.mp (List.mem_map_of_mem he)
  obtain ⟨head, -, heq⟩ := List.mem_map.mp hhead
  exact ⟨head, heq.symm⟩

/-- Which letters the edges of a block bear. -/
theorem showsTask_iff (h : s.Labelled) {letter : String} (hletter : letter.toList.length = 1) :
    ShowsTask (edgesOf i succs s) letter ↔
      (letter = "C" ∨ letter = "D") ∧ (∃ region next task, s.Forks succs region next task) ∨
      letter = "R" ∧ (∃ region next, s.Joins succs region next) ∨
      letter = "S" ∧ ∃ region next, s.Waits succs region next := by
  constructor
  · rintro ⟨e, he, region, hmark⟩
    obtain ⟨head, hhead⟩ := exists_head_eq_int h he
    have hmark := edgeMark_of_mark? h he hhead hmark
    obtain ⟨hletter, region, task, hfork⟩ | ⟨hletter, region, next, hfork⟩ |
      ⟨hletter, region, hjoin⟩ | ⟨hletter, region, hwait⟩ := hmark.of_taskMark hletter
    · exact .inl ⟨.inl hletter, region, head, task, hfork⟩
    · exact .inl ⟨.inr hletter, region, next, head, hfork⟩
    · exact .inr (.inl ⟨hletter, region, head, hjoin⟩)
    · exact .inr (.inr ⟨hletter, region, head, hwait⟩)
  · rintro (⟨rfl | rfl, region, next, task, hfork⟩ | ⟨rfl, region, next, hjoin⟩ |
      ⟨rfl, region, next, hwait⟩)
    · exact ⟨_, edgesOf_of_forks hfork ▸ List.mem_cons_self, region, by simp⟩
    · exact ⟨_, edgesOf_of_forks hfork ▸ List.mem_cons_of_mem _ List.mem_cons_self, region, by simp⟩
    · exact ⟨_, edgesOf_of_joins hjoin ▸ List.mem_cons_self, region, by simp⟩
    · exact ⟨_, edgesOf_of_waits hwait ▸ List.mem_cons_self, region, by simp⟩

theorem direction?_eq_none (htasks : s.HandlesTasks succs) (he : e ∈ edgesOf i succs s) :
    e.direction? = none := by
  cases htasks with
  | fork h =>
    rw [edgesOf_of_forks h] at he
    rcases List.mem_pair.mp he with rfl | rfl <;> simp
  | join h =>
    rw [edgesOf_of_joins h] at he
    simp [List.mem_singleton.mp he]
  | wait h =>
    rw [edgesOf_of_waits h] at he
    simp [List.mem_singleton.mp he]

theorem direction?_eq_back_iff (h : s.Labelled) (htasks : ¬ s.HandlesTasks succs)
    (he : e ∈ edgesOf i succs s) : e.direction? = some "back" ↔ e.head = .int i := by
  rw [edgesOf_of_not_handlesTasks h htasks] at he
  obtain ⟨m, -, rfl⟩ := List.mem_map.mp he
  simp

/-- The edges of a block show its successors and its terminator. -/
theorem drawsSuccessors_edgesOf (h : s.Labelled) (i : Int) (succs : List Int) :
    DrawsSuccessors i succs s (edgesOf i succs s) where
  tail_eq _ he := (exists_head_of_mem_edgesOf he).1
  heads_perm := perm_map_head_edgesOf h
  heads_eq := map_head_edgesOf h
  heads_fork _ _ _ := map_head_edgesOf_of_forks
  mark_iff _ he _ hhead _ := mark?_iff_edgeMark h he hhead
  shows_continuation := (showsTask_iff h rfl).trans (by simp)
  shows_task := (showsTask_iff h rfl).trans (by simp)
  shows_join := (showsTask_iff h rfl).trans (by simp)
  shows_wait := (showsTask_iff h rfl).trans (by simp)
  direction_eq_none htasks _ he := direction?_eq_none htasks he
  direction_iff htasks _ he := direction?_eq_back_iff h htasks he

/-- **The edges of a block of a valid graph show its successors and its terminator**, if the labels
of statements are numbers. -/
theorem Graph.edges?_drawsSuccessors (hvalid : g.validate = .ok ())
    (hlabelled : ∀ s ∈ g.code, s.Labelled) (hi : 1 ≤ i) (hn : i ≤ g.blocks.length) :
    ∃ b s edges, g.block? i = some b ∧ g.terminator? i = some s ∧ g.edges? i = some edges ∧
      DrawsSuccessors i b.succs s edges := by
  have hfitting := Fitting.of_validate hvalid
  obtain ⟨b, hb⟩ := exists_counted? hi hn
  obtain ⟨s, hs, hcounted⟩ := hfitting.exists_terminator? hb
  obtain ⟨s', hcounted', hedges⟩ := hfitting.exists_edges? hb
  obtain rfl := Option.some.inj (hcounted.symm.trans hcounted')
  exact ⟨b, s, _, numbered?_of_counted? hb, hs, hedges,
    drawsSuccessors_edgesOf (hlabelled s (mem_of_counted? hcounted)) i b.succs⟩

/-- A graph whose first block begins a task at the second one. The task ends there, and the third
block waits for it and then comes back to itself. -/
def forkingGraph : Graph where
  blocks := [⟨⟨1, 2⟩, [2, 3], []⟩, ⟨⟨3, 3⟩, [3], []⟩, ⟨⟨4, 4⟩, [3], []⟩]
  code := [.expr "syncregion" [], .detach (.ssa (.int 1)) (.int 3),
    .reattach (.ssa (.int 1)) (.int 3), .sync (.ssa (.int 1))]

theorem forkingGraph_drawsSuccessors : forkingGraph.validate = .ok () ∧
    (∀ s ∈ forkingGraph.code, s.Labelled) ∧ 1 ≤ (1 : Int) ∧
    (1 : Int) ≤ forkingGraph.blocks.length ∧
    ∃ b s edges, forkingGraph.block? 1 = some b ∧ forkingGraph.terminator? 1 = some s ∧
      forkingGraph.edges? 1 = some edges ∧ DrawsSuccessors 1 b.succs s edges := by
  have hvalid : forkingGraph.validate = .ok () := rfl
  have hlabelled : ∀ s ∈ forkingGraph.code, s.Labelled := by
    intro s hs region label hlabel
    simp only [forkingGraph, List.mem_cons, List.not_mem_nil, or_false] at hs
    rcases hs with rfl | rfl | rfl | rfl <;> rcases hlabel with hlabel | hlabel <;> cases hlabel <;>
      exact ⟨3, rfl⟩
  exact ⟨hvalid, hlabelled, le_rfl, by decide,
    Graph.edges?_drawsSuccessors hvalid hlabelled le_rfl (by decide)⟩

end FlowAtlas
