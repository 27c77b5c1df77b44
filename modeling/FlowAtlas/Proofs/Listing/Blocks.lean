import FlowAtlas.Listing
import FlowAtlas.Proofs.Graph.Valid
import FlowAtlas.Proofs.Text.Lines
import FlowAtlas.Proofs.Text.Numeral
import Mathlib.Data.List.SplitBy

/-!
# Reading the listing of a graph

The lines of a listing that begin with the mark of a block number begin a block; the others belong
to the block that has begun. So the blocks are found again whatever the statements look like, since
their lines are indented. Of a heading the numbers after the marks are read, of the line of a
statement the number and all that follows the sign.

The text of a statement must be one line. No other condition on it is needed: it may look like a
heading, or like the line of another statement.

## Main definitions

* `ListedBlock`: what a listing shows of a block.
* `readListing`: the blocks that a listing shows.
* `Graph.Shows`: what is shown of a block of a graph.
* `Graph.ListedAlike`: two graphs of which a listing shows the same.

## Main results

* `marksOf_heading`, `statementOf_line`: the lines are read as they were written.
* `Graph.readListing_listing?`: the listing of a graph shows its blocks.
* `Graph.listedAlike_of_listing?`: the listing of a graph determines its blocks.
-/

namespace FlowAtlas

/-- What a listing shows of a block: its successors, and its statements by number and text. -/
structure ListedBlock where
  succs : List Int
  stmts : List (Int × String)
  deriving DecidableEq, Repr

/-! ### The reader -/

/-- The number that the digits at the head of a text write. -/
def numberOf (cs : List Char) : Int :=
  Text.decimalValue (cs.takeWhile Char.isDigit)

/-- The numbers after the marks of a line. -/
def marksOf : List Char → List Int
  | [] => []
  | '#' :: cs => numberOf cs :: marksOf cs
  | _ :: cs => marksOf cs

/-- The number and the text of a statement: the number follows the indentation and a mark, and the
text follows the sign behind the number. -/
def statementOf (line : List Char) : Int × String :=
  (numberOf (line.drop 3), String.ofList (((line.drop 3).dropWhile Char.isDigit).drop 3))

/-- The block that lines show. The first number in its heading is its own. -/
def blockOf : List (List Char) → ListedBlock
  | [] => ⟨[], []⟩
  | heading :: lines => ⟨(marksOf heading).tail, lines.map statementOf⟩

/-- A line begins a block. -/
def beginsBlock (line : List Char) : Bool :=
  line.head? == some '#'

/-- The blocks that a listing shows. An empty listing has no lines. -/
def readListing (text : String) : List ListedBlock :=
  if text = "" then []
  else ((text.toList.splitOn '\n').splitBy fun _ line => !beginsBlock line).map blockOf

variable {g g' : Graph} {b : Block} {s : Stmt} {c : Char} {cs rest : List Char} {succs : List Int}
  {text : String} {n : Int}

/-! ### Reading lines -/

theorem numberOf_append (hn : 0 ≤ n) (hrest : ∀ c ∈ rest.head?, ¬ c.isDigit) :
    numberOf ((toString n).toList ++ rest) = n := by
  obtain ⟨n, rfl⟩ := Int.eq_ofNat_of_zero_le hn
  have htext : (toString (n : Int)).toList = Nat.toDigits 10 n := Text.toList_toString n
  have hrest : rest.takeWhile Char.isDigit = [] := by
    cases rest with
    | nil => rfl
    | cons c rest => exact List.takeWhile_cons_of_neg (hrest c rfl)
  rw [numberOf, htext, List.takeWhile_append_of_pos fun c hc =>
    Nat.isDigit_of_mem_toDigits (by omega) (by omega) hc, hrest, List.append_nil,
    Text.decimalValue_toDigits]

theorem isDigit_of_mem_toString (hn : 0 ≤ n) (hc : c ∈ (toString n).toList) : c.isDigit := by
  obtain ⟨n, rfl⟩ := Int.eq_ofNat_of_zero_le hn
  have htext : (toString (n : Int)).toList = Nat.toDigits 10 n := Text.toList_toString n
  exact Nat.isDigit_of_mem_toDigits (by omega) (by omega) (htext ▸ hc)

theorem marksOf_append (h : '#' ∉ cs) (rest : List Char) : marksOf (cs ++ rest) = marksOf rest := by
  induction cs with
  | nil => rfl
  | cons c cs ih =>
    rw [List.mem_cons, not_or] at h
    rw [List.cons_append, marksOf, ih h.2]
    exact fun hc => h.1 hc.symm

theorem marksOf_blockMark_append (hn : 0 ≤ n) (hrest : ∀ c ∈ rest.head?, ¬ c.isDigit) :
    marksOf ((blockMark n).toList ++ rest) = n :: marksOf rest := by
  have hmark : (blockMark n).toList = '#' :: (toString n).toList := String.toList_append
  have hdigits : '#' ∉ (toString n).toList := fun h =>
    absurd (isDigit_of_mem_toString hn h) (by decide)
  rw [hmark, List.cons_append, marksOf, numberOf_append hn hrest, marksOf_append hdigits]

theorem marksOf_blockMark (hn : 0 ≤ n) : marksOf (blockMark n).toList = [n] := by
  have h : marksOf ((blockMark n).toList ++ []) = [n] := marksOf_blockMark_append hn nofun
  rwa [List.append_nil] at h

/-- The numbers of several blocks are read one after another. -/
theorem marksOf_blockMarks (h : ∀ n ∈ succs, 0 ≤ n) :
    marksOf (", ".intercalate (succs.map blockMark)).toList = succs := by
  induction succs with
  | nil => rfl
  | cons n succs ih =>
    rw [List.forall_mem_cons] at h
    cases succs with
    | nil => exact marksOf_blockMark h.1
    | cons m succs =>
      have ih := ih h.2
      rw [List.map_cons] at ih
      rw [List.map_cons, List.map_cons, String.intercalate_cons_cons, String.toList_append,
        String.toList_append, List.append_assoc,
        marksOf_blockMark_append h.1 (by rintro _ ⟨⟩; decide), marksOf_append (by decide), ih]

/-- A heading is read as the numbers of its block and of the successors. -/
theorem marksOf_heading (h : ∀ n ∈ b.succs, 0 ≤ n) (i : ℕ) :
    marksOf (b.heading i).toList = (i : Int) :: b.succs := by
  rw [Block.heading]
  split
  · next hnone => rw [marksOf_blockMark (Int.natCast_nonneg i), List.isEmpty_iff.mp hnone]
  · rw [String.toList_append, String.toList_append, List.append_assoc,
      marksOf_blockMark_append (Int.natCast_nonneg i) (by rintro _ ⟨⟩; decide),
      marksOf_append (by decide),
      marksOf_blockMarks h]

/-- The line of a statement is read as its number and its text. -/
theorem statementOf_line (hn : 0 ≤ n) (s : Stmt) :
    statementOf ("  " ++ s.line n).toList = (n, s.format) := by
  have hline : ("  " ++ s.line n).toList.drop 3 =
      (toString n).toList ++ (' ' :: '=' :: ' ' :: s.format.toList) := by
    simp [Stmt.line]
  have hrest : ((toString n).toList ++ (' ' :: '=' :: ' ' :: s.format.toList)).dropWhile
      Char.isDigit = ' ' :: '=' :: ' ' :: s.format.toList := by
    rw [List.dropWhile_append_of_pos fun c hc => isDigit_of_mem_toString hn hc]
    rfl
  rw [statementOf, hline, numberOf_append hn (by rintro _ ⟨⟩; decide), hrest]
  exact congrArg _ String.ofList_toList

/-! ### Cutting into lines and blocks -/

theorem newline_not_mem_blockMark (hn : 0 ≤ n) : '\n' ∉ (blockMark n).toList := by
  rw [blockMark, String.toList_append, List.mem_append, not_or]
  exact ⟨by decide, fun h => absurd (isDigit_of_mem_toString hn h) (by decide)⟩

theorem newline_not_mem_heading (h : ∀ n ∈ b.succs, 0 ≤ n) (i : ℕ) :
    '\n' ∉ (b.heading i).toList := by
  have hown : '\n' ∉ (blockMark i).toList := newline_not_mem_blockMark (Int.natCast_nonneg i)
  have hsuccs : '\n' ∉ (", ".intercalate (b.succs.map blockMark)).toList := by
    rw [String.toList_intercalate]
    intro hmem
    rcases Text.mem_intercalate hmem with hmem | ⟨piece, hpiece, hmem⟩
    · exact absurd hmem (by decide)
    · simp only [List.mem_map, exists_exists_and_eq_and] at hpiece
      obtain ⟨n, hn, rfl⟩ := hpiece
      exact newline_not_mem_blockMark (h n hn) hmem
  rw [Block.heading]
  split
  · exact hown
  · simp only [String.toList_append, List.mem_append, not_or]
    exact ⟨⟨hown, by decide⟩, hsuccs⟩

theorem newline_not_mem_line (hn : 0 ≤ n) (hs : '\n' ∉ s.format.toList) :
    '\n' ∉ ("  " ++ s.line n).toList := by
  simp only [Stmt.line, String.toList_append, List.mem_append, not_or]
  exact ⟨by decide, ⟨⟨by decide, fun h => absurd (isDigit_of_mem_toString hn h) (by decide)⟩,
    by decide⟩, hs⟩

theorem beginsBlock_heading (b : Block) (i : ℕ) : beginsBlock (b.heading i).toList := by
  have hmark : (blockMark i).toList = '#' :: (toString (i : Int)).toList := String.toList_append
  rw [Block.heading]
  split
  · rw [hmark]
    rfl
  · rw [String.toList_append, String.toList_append, hmark]
    rfl

theorem not_beginsBlock_line (n : Int) (s : Stmt) :
    beginsBlock ("  " ++ s.line n).toList = false := by
  rw [String.toList_append]
  rfl

/-- The lines of one block: a heading, and lines that begin no block. -/
def IsBlockText (lines : List (List Char)) : Prop :=
  ∃ heading rest, lines = heading :: rest ∧ beginsBlock heading ∧
    ∀ line ∈ rest, beginsBlock line = false

/-- The lines of blocks are cut where a block begins. -/
theorem splitBy_flatten_of_isBlockText {blocks : List (List (List Char))}
    (h : ∀ lines ∈ blocks, IsBlockText lines) :
    blocks.flatten.splitBy (fun _ line => !beginsBlock line) = blocks := by
  refine List.splitBy_flatten (fun hnil => ?_) (fun lines hlines => ?_)
    (List.pairwise_of_forall_mem_list fun lines hlines next hnext => ?_).isChain
  · obtain ⟨heading, rest, hcons, -⟩ := h [] hnil
    exact absurd hcons (List.cons_ne_nil heading rest).symm
  · obtain ⟨heading, rest, rfl, -, hrest⟩ := h lines hlines
    refine (List.pairwise_cons.mpr ⟨fun line hline => ?_, ?_⟩).isChain
    · rw [hrest line hline, Bool.not_false]
    · exact List.pairwise_of_forall_mem_list fun _ _ line hline => by
        rw [hrest line hline, Bool.not_false]
  · obtain ⟨heading, rest, rfl, -⟩ := h lines hlines
    obtain ⟨heading', rest', rfl, hbegins, -⟩ := h next hnext
    refine ⟨List.cons_ne_nil _ _, List.cons_ne_nil _ _, ?_⟩
    rw [List.head_cons, hbegins, Bool.not_true]

/-! ### Reading graphs -/

namespace Graph

/-- The texts of the statements in the blocks of a graph are lines. -/
def OneLiners (g : Graph) : Prop :=
  ∀ b ∈ g.blocks, ∀ k ∈ b.stmts.toList, ∀ s ∈ g.stmt? k, '\n' ∉ s.format.toList

instance (g : Graph) : Decidable g.OneLiners :=
  inferInstanceAs (Decidable (∀ b ∈ g.blocks, ∀ k ∈ b.stmts.toList, ∀ s ∈ g.stmt? k,
    '\n' ∉ s.format.toList))

/-- What is shown of a block of a graph: its successors, and the numbers and the texts of its
statements. -/
structure Shows (g : Graph) (b : Block) (l : ListedBlock) : Prop where
  succs_eq : l.succs = b.succs
  numbers_eq : l.stmts.map Prod.fst = b.stmts.toList
  texts : ∀ p ∈ l.stmts, ∃ s, counted? g.code p.1 = some s ∧ s.format = p.2

/-- The lines of a block of a valid graph are lines of one block, which show it. -/
theorem shows_blockLines? (h : g.Fitting) (hlines : g.OneLiners) (hb : b ∈ g.blocks) {i : ℕ}
    {lines : List String} (hl : g.blockLines? i b = some lines) :
    (∀ line ∈ lines, '\n' ∉ line.toList) ∧ IsBlockText (lines.map String.toList) ∧
      g.Shows b (blockOf (lines.map String.toList)) := by
  have hfits := h b hb
  have hsuccs : ∀ n ∈ b.succs, 0 ≤ n := fun n hn => by
    have := hfits.inside n hn
    omega
  obtain ⟨stmts, hstmts, hnumbers, hcounted⟩ := h.exists_stmtsIn? hb
  have hnumber : ∀ p ∈ stmts, p.1 ∈ b.stmts.toList := fun p hp =>
    hnumbers ▸ List.mem_map_of_mem hp
  have hnonneg : ∀ p ∈ stmts, 0 ≤ p.1 := fun p hp => by
    have := Span.mem_toList_iff.mp (hnumber p hp)
    have := hfits.one_le_first
    omega
  have hone : ∀ p ∈ stmts, '\n' ∉ p.2.format.toList := fun p hp =>
    hlines b hb p.1 (hnumber p hp) p.2 (numbered?_of_counted? (hcounted p hp))
  rw [blockLines?, hstmts, Option.map_some, Option.some_inj] at hl
  subst hl
  refine ⟨?_, ?_, ?_⟩
  · simp only [List.forall_mem_cons, List.forall_mem_map]
    exact ⟨newline_not_mem_heading hsuccs i,
      fun p hp => newline_not_mem_line (hnonneg p hp) (hone p hp)⟩
  · refine ⟨_, _, List.map_cons, beginsBlock_heading b i, ?_⟩
    simp only [List.map_map, List.forall_mem_map]
    exact fun p _ => not_beginsBlock_line p.1 p.2
  · have hread : blockOf ((b.heading i :: stmts.map fun p => "  " ++ p.2.line p.1).map
        String.toList) = ⟨b.succs, stmts.map fun p => (p.1, p.2.format)⟩ := by
      rw [List.map_cons, blockOf, marksOf_heading hsuccs, List.map_map, List.map_map]
      refine congrArg _ (List.map_congr_left fun p hp => ?_)
      exact statementOf_line (hnonneg p hp) p.2
    refine (congrArg (g.Shows b) hread).mpr ?_
    refine ⟨rfl, ?_, ?_⟩
    · rw [List.map_map, ← hnumbers]
      rfl
    · simp only [List.forall_mem_map]
      exact fun p hp => ⟨p.2, hcounted p hp, rfl⟩

/-- Texts of blocks are cut into lines and blocks again. -/
theorem readListing_intercalate {texts : List (List String)}
    (hlines : ∀ lines ∈ texts, ∀ line ∈ lines, '\n' ∉ line.toList)
    (hblocks : ∀ lines ∈ texts, IsBlockText (lines.map String.toList)) :
    readListing ("\n".intercalate texts.flatten) = texts.map fun lines =>
      blockOf (lines.map String.toList) := by
  have hcut : (texts.map (·.map String.toList)).flatten.splitBy (fun _ line => !beginsBlock line) =
      texts.map (·.map String.toList) :=
    splitBy_flatten_of_isBlockText (List.forall_mem_map.mpr hblocks)
  cases texts with
  | nil => rfl
  | cons lines texts =>
    obtain ⟨heading, rest, hcons, hbegins, -⟩ := hblocks lines List.mem_cons_self
    have hflat : (lines :: texts).flatten.map String.toList =
        heading :: (rest ++ texts.flatten.map String.toList) := by
      rw [List.flatten_cons, List.map_append, hcons, List.cons_append]
    have hsplit := Text.splitOn_intercalate_lines
      (fun hnil : (lines :: texts).flatten = [] => by
        rw [hnil, List.map_nil] at hflat
        cases hflat)
      fun line hline => by
        obtain ⟨lines', hlines', hline⟩ := List.mem_flatten.mp hline
        exact hlines lines' hlines' line hline
    have hne : "\n".intercalate (lines :: texts).flatten ≠ "" := by
      intro hempty
      rw [hempty, hflat, String.toList_empty, List.splitOn_nil, List.cons.injEq] at hsplit
      rw [← hsplit.1] at hbegins
      cases hbegins
    rw [readListing, if_neg hne, hsplit, List.map_flatten, hcut, List.map_map]
    rfl

/-- The listing of a valid graph shows its blocks. -/
theorem readListing_listing? (h : g.Fitting) (hlines : g.OneLiners)
    (htext : g.listing? = some text) :
    List.Forall₂ g.Shows g.blocks (readListing text) := by
  obtain ⟨flat, hflat, rfl⟩ := Option.map_eq_some_iff.mp htext
  obtain ⟨texts, htexts, rfl⟩ := Option.map_eq_some_iff.mp hflat
  have hshows : List.Forall₂ (fun b lines => (∀ line ∈ lines, '\n' ∉ line.toList) ∧
      IsBlockText (lines.map String.toList) ∧ g.Shows b (blockOf (lines.map String.toList)))
      g.blocks texts := by
    rw [← List.zipIdx_map_fst 1 g.blocks, List.forall₂_map_left_iff]
    have hread := (List.forall₂_and_left _ _).mpr
      ⟨fun x hx => List.fst_mem_of_mem_zipIdx hx, mapM_eq_some_iff.mp htexts⟩
    exact hread.imp fun x lines hx => shows_blockLines? h hlines hx.1 hx.2
  rw [readListing_intercalate, List.forall₂_map_right_iff]
  · exact hshows.imp fun _ _ hb => hb.2.2
  · intro lines hl
    obtain ⟨b, -, hone, -⟩ := exists_of_mem_right hshows hl
    exact hone
  · intro lines hl
    obtain ⟨b, -, -, hblock, -⟩ := exists_of_mem_right hshows hl
    exact hblock

/-! ### Graphs with the same listing -/

/-- Two graphs are listed alike: they have as many blocks, and block by block the same successors,
the same run of statements and, number by number, statements with the same text. -/
def ListedAlike (g g' : Graph) : Prop :=
  List.Forall₂ (fun b b' => b.succs = b'.succs ∧ b.stmts = b'.stmts ∧ ∀ k ∈ b.stmts.toList,
    ∃ s s', counted? g.code k = some s ∧ counted? g'.code k = some s' ∧ s.format = s'.format)
    g.blocks g'.blocks

/-- A run that is not empty is determined by its numbers. -/
theorem span_eq_of_toList_eq {a a' : Span} (ha : a.first ≤ a.last) (ha' : a'.first ≤ a'.last)
    (h : a.toList = a'.toList) : a = a' := by
  have hmem : ∀ i, a.first ≤ i ∧ i ≤ a.last ↔ a'.first ≤ i ∧ i ≤ a'.last := fun i => by
    rw [← Span.mem_toList_iff, h, Span.mem_toList_iff]
  have h1 := (hmem a.first).mp ⟨Int.le_refl _, ha⟩
  have h2 := (hmem a'.first).mpr ⟨Int.le_refl _, ha'⟩
  have h3 := (hmem a.last).mp ⟨ha, Int.le_refl _⟩
  have h4 := (hmem a'.last).mpr ⟨ha', Int.le_refl _⟩
  obtain ⟨first, last⟩ := a
  obtain ⟨first', last'⟩ := a'
  simp only [Span.mk.injEq] at *
  omega

theorem Shows.alike {b' : Block} {l : ListedBlock} {size count size' count' : ℕ}
    (h : g.Shows b l) (h' : g'.Shows b' l) (hb : b.Fits size count) (hb' : b'.Fits size' count') :
    b.succs = b'.succs ∧ b.stmts = b'.stmts ∧ ∀ k ∈ b.stmts.toList,
      ∃ s s', counted? g.code k = some s ∧ counted? g'.code k = some s' ∧ s.format = s'.format := by
  refine ⟨h.succs_eq.symm.trans h'.succs_eq, ?_, fun k hk => ?_⟩
  · exact span_eq_of_toList_eq hb.first_le_last hb'.first_le_last
      (h.numbers_eq.symm.trans h'.numbers_eq)
  · rw [← h.numbers_eq] at hk
    obtain ⟨p, hp, rfl⟩ := List.mem_map.mp hk
    obtain ⟨s, hs, hformat⟩ := h.texts p hp
    obtain ⟨s', hs', hformat'⟩ := h'.texts p hp
    exact ⟨s, s', hs, hs', hformat.trans hformat'.symm⟩

/-- **The listing of a valid graph determines its blocks**: graphs with the same listing are listed
alike. -/
theorem listedAlike_of_listing? (hvalid : g.validate = .ok ()) (hvalid' : g'.validate = .ok ())
    (hlines : g.OneLiners) (hlines' : g'.OneLiners) (htext : g.listing? = some text)
    (htext' : g'.listing? = some text) : g.ListedAlike g' := by
  have hfitting := Fitting.of_validate hvalid
  have hfitting' := Fitting.of_validate hvalid'
  have hshows := (List.forall₂_and_left _ _).mpr
    ⟨hfitting, readListing_listing? hfitting hlines htext⟩
  have hshows' := (List.forall₂_and_left _ _).mpr
    ⟨hfitting', readListing_listing? hfitting' hlines' htext'⟩
  exact (forall₂_of_forall₂ hshows hshows').imp fun b b' ⟨l, h, h'⟩ => h.2.alike h'.2 h.1 h'.1

/-- A graph with a statement that looks like a heading; two of its blocks overlap. -/
def misleadingGraph : Graph :=
  ⟨[⟨⟨1, 2⟩, [2, 2], []⟩, ⟨⟨2, 2⟩, [1], []⟩], [.goto (.int 2), .value (.str "#2 → #1")]⟩

/-- Another graph with the same listing: a text stands in the place of a jump, and predecessors and
a statement of no block are not listed. -/
def lookalikeGraph : Graph :=
  ⟨[⟨⟨1, 2⟩, [2, 2], [2]⟩, ⟨⟨2, 2⟩, [1], [1]⟩],
    [.value (.str "goto #2"), .value (.str "#2 → #1"), .ret .undef]⟩

theorem misleadingGraph_listedAlike : misleadingGraph.validate = .ok () ∧
    lookalikeGraph.validate = .ok () ∧ misleadingGraph.listing? = lookalikeGraph.listing? ∧
    misleadingGraph.ListedAlike lookalikeGraph := by
  have hvalid : misleadingGraph.validate = .ok () := by rfl
  have hvalid' : lookalikeGraph.validate = .ok () := by rfl
  have htext : misleadingGraph.listing? =
    some "#1 → #2, #2\n  %1 = goto #2\n  %2 = #2 → #1\n#2 → #1\n  %2 = #2 → #1" := by rfl
  have htext' : lookalikeGraph.listing? =
    some "#1 → #2, #2\n  %1 = goto #2\n  %2 = #2 → #1\n#2 → #1\n  %2 = #2 → #1" := by rfl
  exact ⟨hvalid, hvalid', htext.trans htext'.symm,
    listedAlike_of_listing? hvalid hvalid' (by decide) (by decide) htext htext'⟩

end Graph

end FlowAtlas
