import FlowAtlas.Proofs.Graph.Valid

/-!
# Reading labels

A label is read from left to right in units: a backslash belongs to the character after it, and any
other character stands for itself. So read, a line ends only where a line of the block ends,
whatever the characters of the tag and of the statements are. The attributes of a node thus tell its
tag and the lines of its block.

## Main definitions

* `Dot.LabelUnit`, `Dot.units`: the units of a label.
* `Dot.ShowsLines`, `Dot.ShowsBlock`: the lines that units show, the tag and the lines that the
  attributes of a node show.
* `Graph.HasLines`: the lines of a run of statements.

## Main results

* `Dot.units_join_labelLine`, `Dot.showsLines_lineUnits`: a label of lines shows them.
* `Dot.ShowsBlock.unique`: attributes show one tag and one list of lines.
* `Graph.nodeAttributes?_showsBlock`: the attributes of a node show its tag and the lines of its
  block, and no other node of another tag or of other lines has the same.
-/

namespace FlowAtlas

variable {c : Char} {cs rest : List Char} {tag tag' : String} {lines lines' : List String}
  {includeCode : Bool}

namespace Dot

/-! ### Units -/

/-- A unit of a label: a character, or a backslash with the character after it. -/
inductive LabelUnit where
  | bare (c : Char)
  | pair (c : Char)
  deriving DecidableEq, Repr

/-- The character that a unit stands for. -/
def LabelUnit.char : LabelUnit → Char
  | .bare c => c
  | .pair c => c

/-- The units of a label, read from left to right. -/
def units : List Char → List LabelUnit
  | '\\' :: c :: rest => .pair c :: units rest
  | c :: rest => .bare c :: units rest
  | [] => []

/-- The text that units stand for. -/
def unescapeUnits (us : List LabelUnit) : String :=
  String.ofList (us.map LabelUnit.char)

theorem unescape_eq_unescapeUnits (s : String) : unescape s = unescapeUnits (units s.toList) := by
  rw [unescape, unescapeUnits]
  congr 1
  fun_induction unescapeChars s.toList with
  | case1 c rest ih => rw [units, List.map_cons, ih, LabelUnit.char]
  | case2 c rest h ih =>
    rw [units, List.map_cons, ih, LabelUnit.char]
    exact h
  | case3 => rfl

theorem units_cons (h : c ≠ '\\') : units (c :: rest) = .bare c :: units rest := by
  rw [units]
  rintro c' rest' rfl
  exact absurd rfl h

/-- The unit that a character is escaped to. -/
def escapeUnit (c : Char) : LabelUnit :=
  if specials.contains c then .pair c else .bare c

@[simp]
theorem char_escapeUnit (c : Char) : (escapeUnit c).char = c := by
  rw [escapeUnit]
  split <;> rfl

@[simp]
theorem map_char_map_escapeUnit (cs : List Char) :
    (cs.map escapeUnit).map LabelUnit.char = cs := by
  rw [List.map_map]
  exact List.map_id'' char_escapeUnit cs

/-- No special character of an escaped text is bare. -/
theorem bare_not_mem_map_escapeUnit (h : c ∈ specials) : .bare c ∉ cs.map escapeUnit := by
  intro hmem
  obtain ⟨c', -, hunit⟩ := List.mem_map.mp hmem
  rw [escapeUnit] at hunit
  split at hunit
  · cases hunit
  · next hspecial =>
    cases hunit
    exact hspecial (List.contains_iff_mem.mpr h)

/-- No character of an escaped text ends a line. -/
theorem pair_not_mem_map_escapeUnit : .pair 'l' ∉ cs.map escapeUnit := by
  intro hmem
  obtain ⟨c, -, hunit⟩ := List.mem_map.mp hmem
  rw [escapeUnit] at hunit
  split at hunit
  · next hspecial =>
    cases hunit
    exact absurd hspecial (by decide)
  · cases hunit

theorem units_escapeChars_append (cs rest : List Char) :
    units (escapeChars cs ++ rest) = cs.map escapeUnit ++ units rest := by
  induction cs with
  | nil => rfl
  | cons c cs ih =>
    rw [escapeChars, List.flatMap_cons, List.map_cons, List.append_assoc, List.cons_append, ← ih,
      escapeChars, escapeChar, escapeUnit]
    split
    · rfl
    · next h =>
      refine units_cons ?_
      rintro rfl
      exact h (by decide)

/-! ### Lines -/

/-- The units of a label that consists of lines. -/
def lineUnits (lines : List String) : List LabelUnit :=
  lines.flatMap fun line => line.toList.map escapeUnit ++ [.pair 'l']

/-- The units of lines. -/
theorem units_join_labelLine (lines : List String) (rest : List Char) :
    units ((String.join (lines.map Graph.labelLine)).toList ++ rest) =
      lineUnits lines ++ units rest := by
  induction lines with
  | nil => rfl
  | cons line lines ih =>
    -- The backslash at the end of a line takes the letter after it, whatever comes next.
    have hend : units ('\\' :: 'l' :: ((String.join (lines.map Graph.labelLine)).toList ++ rest)) =
        .pair 'l' :: (lineUnits lines ++ units rest) := by
      rw [units, ih]
    rw [List.map_cons, String.join_cons, String.toList_append, Graph.labelLine,
      String.toList_append, escape, String.toList_ofList, List.append_assoc, List.append_assoc,
      units_escapeChars_append, lineUnits, List.flatMap_cons, List.append_assoc, List.append_assoc]
    exact congrArg _ hend

/-- Units show lines: each line ends in a pair of a backslash and the letter `l`, and before the end
no special character is bare. -/
structure ShowsLines (us : List LabelUnit) (lines : List String) : Prop where
  clean : ∀ c ∈ specials, .bare c ∉ us
  pieces : (us.splitOn (.pair 'l')).map unescapeUnits = lines ++ [""]

theorem showsLines_lineUnits (lines : List String) : ShowsLines (lineUnits lines) lines where
  clean c hc hmem := by
    obtain ⟨line, -, hmem⟩ := List.mem_flatMap.mp hmem
    rcases List.mem_append.mp hmem with hmem | hmem
    · exact bare_not_mem_map_escapeUnit hc hmem
    · cases List.mem_singleton.mp hmem
  pieces := by
    induction lines with
    | nil => rfl
    | cons line lines ih =>
      -- Nothing that a text is escaped to ends a line, so the first piece is the first line.
      rw [lineUnits, List.flatMap_cons, List.append_assoc, List.singleton_append,
        List.splitOn_append_cons_self_of_not_mem pair_not_mem_map_escapeUnit, List.map_cons,
        unescapeUnits, map_char_map_escapeUnit, String.ofList_toList, List.cons_append]
      exact congrArg _ ih

/-- Units show at most one list of lines. -/
theorem ShowsLines.unique {us : List LabelUnit} (h : ShowsLines us lines)
    (h' : ShowsLines us lines') : lines = lines' :=
  List.append_cancel_right (h.pieces.symm.trans h'.pieces)

/-! ### Nodes -/

/-- The units of a label between bare braces. -/
def Encloses (label : String) (body : List LabelUnit) : Prop :=
  units label.toList = .bare '\x7b' :: (body ++ [.bare '\x7d'])

theorem encloses_braced {s : String} {body : List LabelUnit}
    (h : ∀ rest, units (s.toList ++ rest) = body ++ units rest) :
    Encloses ("\x7b" ++ s ++ "\x7d") body := by
  have hlist : ("\x7b" ++ s ++ "\x7d").toList = '\x7b' :: (s.toList ++ ['\x7d']) := by
    rw [String.append_assoc, String.toList_append, String.toList_append]
    rfl
  rw [Encloses, hlist, units_cons (by decide), h]
  rfl

theorem Encloses.unique {label : String} {body body' : List LabelUnit} (h : Encloses label body)
    (h' : Encloses label body') : body = body' :=
  List.append_cancel_right (List.cons.inj (h.symm.trans h')).2

/-- The attributes of a node show a tag and the lines of a block. If the label includes the code,
the tag is its first line. Otherwise the label is the tag, and the lines are those of the
tooltip. -/
inductive ShowsBlock : Bool → Attributes → String → List String → Prop
  | label {label tag : String} {lines : List String} {body : List LabelUnit}
    (hlabel : Encloses label body) (hlines : ShowsLines body ((tag ++ ":") :: lines)) :
    ShowsBlock true [("label", label)] tag lines
  | tooltip {label tooltip tag : String} {lines : List String} {body : List LabelUnit}
    (hlabel : Encloses label body) (heq : label = "\x7b" ++ escape tag ++ "\x7d")
    (hclean : ∀ c ∈ specials, .bare c ∉ body) (htag : unescapeUnits body = tag)
    (hlines : ShowsLines (units tooltip.toList) lines) :
    ShowsBlock false [("label", label), ("tooltip", tooltip)] tag lines

/-- Attributes show one tag and one list of lines. -/
theorem ShowsBlock.unique {attributes : Attributes}
    (h : ShowsBlock includeCode attributes tag lines)
    (h' : ShowsBlock includeCode attributes tag' lines') : tag = tag' ∧ lines = lines' := by
  cases h with
  | label hlabel hlines =>
    obtain ⟨hlabel', hlines'⟩ := h'
    obtain rfl := hlabel.unique hlabel'
    obtain ⟨htag, hlines⟩ := List.cons.inj (hlines.unique hlines')
    exact ⟨String.append_left_inj _ |>.mp htag, hlines⟩
  | tooltip hlabel _ _ htag hlines =>
    obtain _ | ⟨hlabel', _, _, htag', hlines'⟩ := h'
    obtain rfl := hlabel.unique hlabel'
    exact ⟨htag.symm.trans htag', hlines.unique hlines'⟩

end Dot

namespace Graph

open Dot

variable {g : Graph} {b : Block} {i : Int} {s : Span} {stmts : List (Int × Stmt)} {code : String}
  {attributes : Attributes}

/-- The lines of a run of statements, one for each of its numbers in order. -/
def HasLines (g : Graph) (s : Span) (lines : List String) : Prop :=
  List.Forall₂ (fun k line => ∃ stmt, g.stmt? k = some stmt ∧ line = stmt.line k) s.toList lines

theorem forall₂_of_stmtsIn? (h : g.stmtsIn? s = some stmts) :
    List.Forall₂ (fun k p => g.stmt? k = some p.2 ∧ p.1 = k) s.toList stmts := by
  rw [stmtsIn?] at h
  split_ifs at h with hsize
  · cases h
    rw [List.eq_nil_of_length_eq_zero (s.length_toList.trans hsize)]
    exact .nil
  · refine (mapM_eq_some_iff.mp h).imp fun k p hp => ?_
    obtain ⟨stmt, hstmt, rfl⟩ := Option.map_eq_some_iff.mp hp
    exact ⟨hstmt, rfl⟩

/-- The lines of a run are those of its statements. -/
theorem hasLines_iff (h : g.stmtsIn? s = some stmts) :
    g.HasLines s lines ↔ lines = stmts.map fun p => p.2.line p.1 := by
  have hstmts := forall₂_of_stmtsIn? h
  constructor
  · intro hlines
    clear h
    rw [HasLines] at hlines
    generalize s.toList = numbers at hlines hstmts
    induction hstmts generalizing lines with
    | nil =>
      cases hlines
      rfl
    | cons hp _ ih =>
      obtain _ | ⟨⟨stmt, hstmt, hline⟩, hrest⟩ := hlines
      obtain rfl := Option.some.inj (hp.1.symm.trans hstmt)
      rw [List.map_cons, ← ih hrest, hline, hp.2]
  · rintro rfl
    refine List.forall₂_map_right_iff.mpr (hstmts.imp fun k p hp => ⟨p.2, hp.1, ?_⟩)
    rw [hp.2]

theorem codeLabel?_eq (hb : g.block? i = some b) (hlines : g.HasLines b.stmts lines)
    (h : g.codeLabel? i = some code) : code = String.join (lines.map labelLine) := by
  obtain ⟨stmts, hstmts, rfl⟩ := Option.map_eq_some_iff.mp h
  rw [stmtsOf?, hb, Option.bind_some] at hstmts
  rw [(hasLines_iff hstmts).mp hlines, List.map_map]
  rfl

theorem join_labelLine_cons (tag : String) (lines : List String) :
    String.join (((tag ++ ":") :: lines).map labelLine) =
      escape tag ++ ":\\l" ++ String.join (lines.map labelLine) := by
  have hcolon : escape ":" ++ "\\l" = ":\\l" := rfl
  rw [List.map_cons, String.join_cons, labelLine, escape_append, ← hcolon]
  simp only [String.append_assoc]

/-- The attributes of a node show its tag and the lines of its block. -/
theorem showsBlock_of_nodeAttributes? (hb : g.block? i = some b)
    (hlines : g.HasLines b.stmts lines)
    (h : g.nodeAttributes? i tag includeCode = some attributes) :
    ShowsBlock includeCode attributes tag lines := by
  obtain ⟨code, hcode, rfl⟩ := Option.map_eq_some_iff.mp h
  obtain rfl := codeLabel?_eq hb hlines hcode
  cases includeCode with
  | true =>
    have hlabel : "\x7b" ++ escape tag ++ ":\\l" ++ String.join (lines.map labelLine) ++ "\x7d" =
        "\x7b" ++ String.join (((tag ++ ":") :: lines).map labelLine) ++ "\x7d" := by
      rw [join_labelLine_cons]
      simp only [String.append_assoc]
    refine .label ?_ (showsLines_lineUnits _)
    rw [hlabel]
    exact encloses_braced fun rest => units_join_labelLine _ rest
  | false =>
    have hlabel : Encloses ("\x7b" ++ escape tag ++ "\x7d") (tag.toList.map escapeUnit) :=
      encloses_braced fun rest => by
        rw [escape, String.toList_ofList, units_escapeChars_append]
    have htag : unescapeUnits (tag.toList.map escapeUnit) = tag := by
      rw [unescapeUnits, map_char_map_escapeUnit, String.ofList_toList]
    have hcode : units (String.join (lines.map labelLine)).toList = lineUnits lines := by
      simpa [units] using units_join_labelLine lines []
    exact .tooltip hlabel rfl (fun _ => bare_not_mem_map_escapeUnit) htag
      (hcode ▸ showsLines_lineUnits lines)

/-- **The attributes of a node of a valid graph show its tag and the lines of its block**, and a
node with another tag or other lines has other attributes. -/
theorem nodeAttributes?_showsBlock (hvalid : g.validate = .ok ()) (hi : 1 ≤ i)
    (hn : i ≤ g.blocks.length) (tag : String) (includeCode : Bool) :
    ∃ b lines attributes, g.block? i = some b ∧ g.HasLines b.stmts lines ∧
      g.nodeAttributes? i tag includeCode = some attributes ∧
      ShowsBlock includeCode attributes tag lines ∧
      ∀ (g' : Graph) (i' : Int) (b' : Block) (tag' : String) (lines' : List String),
        g'.block? i' = some b' → g'.HasLines b'.stmts lines' →
        g'.nodeAttributes? i' tag' includeCode = some attributes → tag' = tag ∧ lines' = lines := by
  have hfitting := Fitting.of_validate hvalid
  obtain ⟨b, hb⟩ := exists_counted? hi hn
  obtain ⟨stmts, hstmts, -⟩ := hfitting.exists_stmtsIn? (mem_of_counted? hb)
  obtain ⟨attributes, hattributes⟩ := hfitting.exists_nodeAttributes? hb tag includeCode
  have hlines := (hasLines_iff hstmts).mpr rfl
  have hshows := showsBlock_of_nodeAttributes? (numbered?_of_counted? hb) hlines hattributes
  refine ⟨b, _, attributes, numbered?_of_counted? hb, hlines, hattributes, hshows, ?_⟩
  intro g' i' b' tag' lines' hb' hlines' hattributes'
  exact (showsBlock_of_nodeAttributes? hb' hlines' hattributes').unique hshows

/-- A block whose statements hold what ends a line in a label and what encloses one. -/
def oddlyLabelledGraph : Graph where
  blocks := [⟨⟨1, 2⟩, [], []⟩]
  code := [.value (.str "\\l\x7d"), .value (.str "\\\n|")]

theorem oddlyLabelledGraph_showsBlock : oddlyLabelledGraph.validate = .ok () ∧ 1 ≤ (1 : Int) ∧
    (1 : Int) ≤ oddlyLabelledGraph.blocks.length ∧
    ∃ b lines attributes, oddlyLabelledGraph.block? 1 = some b ∧
      oddlyLabelledGraph.HasLines b.stmts lines ∧
      oddlyLabelledGraph.nodeAttributes? 1 "#1\\" true = some attributes ∧
      ShowsBlock true attributes "#1\\" lines ∧
      ∀ (g' : Graph) (i' : Int) (b' : Block) (tag' : String) (lines' : List String),
        g'.block? i' = some b' → g'.HasLines b'.stmts lines' →
        g'.nodeAttributes? i' tag' true = some attributes → tag' = "#1\\" ∧ lines' = lines :=
  ⟨rfl, le_rfl, by decide, nodeAttributes?_showsBlock rfl le_rfl (by decide) "#1\\" true⟩

example : oddlyLabelledGraph.nodeAttributes? 1 "#1\\" true =
    some [("label", "\x7b#1\\\\:\\l%1 = \\\\l\\\x7d\\l%2 = \\\\\\\n\\|\\l\x7d")] := by
  rfl

end Graph

end FlowAtlas
