import FlowAtlas.Proofs.Listing.Extents

/-!
# The runs of a listing

A scan of a text marks at each position the run of the first kind that fits, and leaves a character
over where no kind fits. Nothing is ever left over: the runs of a text are all that a scan marks. No
run is empty, and only blank runs go over the end of a line. So the tokens of a listing are parts of
its lines, and nothing but blanks lies between them.

## Main definitions

* `Scan`: the runs that are marked in a text, and the characters that are left over.
* `Token.Sound`: a token is not empty, and it is blank or a part of a line.
* `Spaced`: a text consists of some pieces with blanks around them.

## Main results

* `scan_iff`: a scan marks the runs of a text and leaves nothing over.
* `Token.flatMap_lexeme_runsFrom`: the runs of a text make up the text.
* `listingTokens_spaced`: the tokens of a listing make up its text but for blanks.
-/

namespace FlowAtlas

open Text TokenKind

variable {before : Option Char} {c : Char} {cs ds rest : List Char} {kind : TokenKind} {n : ℕ}
  {pieces : List (Option TokenKind × List Char)} {run t : Token}

/-! ### Scans -/

/-- A scan of a text from left to right, where `before` is the character before the text. A run is
marked with its kind, and a character that no kind fits is left over without one. -/
inductive Scan : Option Char → List Char → List (Option TokenKind × List Char) → Prop
  | done (before : Option Char) : Scan before [] []
  | run {before : Option Char} {c : Char} {rest : List Char} {kind : TokenKind} {n : ℕ}
      {pieces : List (Option TokenKind × List Char)} (hfit : FirstFit before c rest kind n)
      (h : Scan (c :: rest.take n).getLast? (rest.drop n) pieces) :
      Scan before (c :: rest) ((some kind, c :: rest.take n) :: pieces)
  | leftOver {before : Option Char} {c : Char} {rest : List Char}
      {pieces : List (Option TokenKind × List Char)}
      (hfits : ∀ kind ∈ precedence, kind.extent? before c rest = none)
      (h : Scan (some c) rest pieces) : Scan before (c :: rest) ((none, [c]) :: pieces)

/-- What a scan notes of a run. -/
def Token.marked (run : Token) : Option TokenKind × List Char :=
  (some run.kind, run.lexeme)

theorem Token.runsFrom_cons (hfit : FirstFit before c rest kind n) :
    runsFrom before (c :: rest) =
      ⟨kind, c :: rest.take n⟩ :: runsFrom (c :: rest.take n).getLast? (rest.drop n) := by
  rw [runsFrom, firstRun_eq_iff.mpr hfit]

/-- A scan marks the runs of a text and leaves nothing over. -/
theorem scan_iff :
    Scan before cs pieces ↔ pieces = (Token.runsFrom before cs).map Token.marked := by
  constructor
  · intro h
    induction h with
    | done before =>
      rw [Token.runsFrom]
      rfl
    | run hfit _ ih =>
      rw [Token.runsFrom_cons hfit, List.map_cons, ← ih]
      rfl
    | @leftOver before c rest pieces hfits _ _ =>
      obtain ⟨kind, hkind, hfit⟩ := exists_fit before c rest
      rw [hfits kind hkind] at hfit
      cases hfit
  · rintro rfl
    fun_induction Token.runsFrom before cs with
    | case1 before => exact .done before
    | case2 before c rest kind n hrun lexeme ih => exact .run (firstRun_eq_iff.mp hrun) ih

/-! ### Runs -/

namespace Token

/-- A token is not empty. It consists of blanks if it is blank, and is a part of a line
otherwise. -/
structure Sound (t : Token) : Prop where
  ne_nil : t.lexeme ≠ []
  blanks : t.kind = .blank → ∀ c ∈ t.lexeme, isBlank c
  line : t.kind ≠ .blank → '\n' ∉ t.lexeme

/-- The runs of a text make up the text. -/
theorem flatMap_lexeme_runsFrom (before : Option Char) (cs : List Char) :
    (runsFrom before cs).flatMap (·.lexeme) = cs := by
  fun_induction runsFrom before cs with
  | case1 before => rfl
  | case2 before c rest kind n hrun lexeme ih =>
    rw [List.flatMap_cons, ih, List.cons_append, List.take_append_drop]

end Token

theorem TokenKind.FirstFit.ne_newline (hfit : FirstFit before c rest kind n)
    (hkind : kind ≠ blank) : c ≠ '\n' := by
  rintro rfl
  have hblank := firstRun_of_isBlank (by decide : isBlank '\n') before rest
  rw [firstRun_eq_iff.mpr hfit] at hblank
  exact hkind (congrArg Prod.fst hblank)

/-- The run of the first kind that fits is sound. -/
theorem TokenKind.FirstFit.sound (hfit : FirstFit before c rest kind n) :
    Token.Sound ⟨kind, c :: rest.take n⟩ where
  ne_nil := List.cons_ne_nil _ _
  blanks := by
    rintro rfl
    obtain ⟨hc, rfl⟩ := Option.ite_some_none_eq_some.mp hfit.extent?_eq
    rw [← List.prefix_iff_eq_take.mp (List.takeWhile_prefix isBlank)]
    intro d hd
    rcases List.mem_cons.mp hd with rfl | hd
    · exact hc
    · exact List.mem_takeWhile_imp hd
  line hkind := by
    rw [← take_lineOf (le_length_lineOf hkind hfit.extent?_eq), List.mem_cons, not_or]
    exact ⟨(hfit.ne_newline hkind).symm,
      fun h => newline_not_mem_lineOf rest (List.mem_of_mem_take h)⟩

namespace Token

theorem sound_of_mem_runsFrom (ht : t ∈ runsFrom before cs) : t.Sound := by
  fun_induction runsFrom before cs with
  | case1 before => exact absurd ht List.not_mem_nil
  | case2 before c rest kind n hrun lexeme ih =>
    rcases List.mem_cons.mp ht with rfl | ht
    · exact (firstRun_eq_iff.mp hrun).sound
    · exact ih ht

/-! ### Parts of runs -/

theorem flatMap_lexeme_parts (run : Token) : run.parts.flatMap (·.lexeme) = run.lexeme := by
  have hheadings : ∀ lexemes : List (List Char), (lexemes.filterMap fun lexeme =>
      if lexeme.isEmpty then none else some (⟨.heading, lexeme⟩ : Token)).flatMap (·.lexeme) =
        lexemes.flatten := by
    intro lexemes
    induction lexemes with
    | nil => rfl
    | cons lexeme lexemes ih =>
      cases lexeme with
      | nil => exact ih
      | cons c cs => exact congrArg ((c :: cs) ++ ·) ih
  rw [parts]
  split
  · rw [hheadings, List.flatten_cons, List.flatten_singleton, List.take_append_drop]
  · exact List.flatMap_singleton _ run

theorem of_mem_parts (ht : t ∈ run.parts) (hrun : run.lexeme ≠ []) :
    t.kind = run.kind ∧ t.lexeme ≠ [] ∧ t.lexeme ⊆ run.lexeme := by
  rw [parts] at ht
  split at ht
  · next hkind =>
    obtain ⟨lexeme, hlexeme, heq⟩ := List.mem_filterMap.mp ht
    obtain ⟨hne, heq⟩ := Option.ite_none_left_eq_some.mp heq
    obtain rfl := Option.some.inj heq
    refine ⟨hkind.symm, List.isEmpty_iff.not.mp hne, ?_⟩
    rcases List.mem_pair.mp hlexeme with rfl | rfl
    · exact List.take_subset _ _
    · exact List.drop_subset _ _
  · obtain rfl := List.mem_singleton.mp ht
    exact ⟨rfl, hrun, fun _ h => h⟩

theorem Sound.of_mem_parts (h : run.Sound) (ht : t ∈ run.parts) : t.Sound := by
  obtain ⟨hkind, hne, hsub⟩ := Token.of_mem_parts ht h.ne_nil
  exact ⟨hne, fun hblank c hc => h.blanks (hkind ▸ hblank) c (hsub hc),
    fun hblank hnewline => h.line (hkind ▸ hblank) (hsub hnewline)⟩

/-! ### Tokens -/

/-- All tokens of a text together make up the text. -/
theorem flatMap_lexeme_allOf (cs : List Char) : (allOf cs).flatMap (·.lexeme) = cs := by
  rw [allOf, List.flatMap_assoc]
  simp only [flatMap_lexeme_parts, flatMap_lexeme_runsFrom]

theorem sound_of_mem_allOf (ht : t ∈ allOf cs) : t.Sound := by
  obtain ⟨run, hrun, ht⟩ := List.mem_flatMap.mp ht
  exact (sound_of_mem_runsFrom hrun).of_mem_parts ht

end Token

/-- A text consists of pieces in their order, with blanks before, between and after them. -/
inductive Spaced : List (List Char) → List Char → Prop
  | blanks {ws : List Char} (hws : ∀ c ∈ ws, isBlank c) : Spaced [] ws
  | piece {ws piece rest : List Char} {pieces : List (List Char)} (hws : ∀ c ∈ ws, isBlank c)
      (h : Spaced pieces rest) : Spaced (piece :: pieces) (ws ++ piece ++ rest)

theorem Spaced.blanks_append {pieces : List (List Char)} (hds : ∀ c ∈ ds, isBlank c)
    (h : Spaced pieces cs) : Spaced pieces (ds ++ cs) := by
  have hboth : ∀ {ws}, (∀ c ∈ ws, isBlank c) → ∀ c ∈ ds ++ ws, isBlank c := fun hws c hc =>
    (List.mem_append.mp hc).elim (hds c) (hws c)
  cases h with
  | blanks hws => exact .blanks (hboth hws)
  | piece hws h =>
    rw [← List.append_assoc, ← List.append_assoc]
    exact .piece (hboth hws) h

/-- The tokens that are not blank make up a text but for blanks. -/
theorem spaced_filter {ts : List Token} (h : ∀ t ∈ ts, t.Sound) :
    Spaced ((ts.filter (·.kind ≠ .blank)).map (·.lexeme)) (ts.flatMap (·.lexeme)) := by
  induction ts with
  | nil => exact .blanks (List.forall_mem_nil _)
  | cons t ts ih =>
    obtain ⟨ht, hts⟩ := List.forall_mem_cons.mp h
    rw [List.flatMap_cons]
    by_cases hkind : t.kind = .blank
    · rw [List.filter_cons_of_neg (by simp [hkind])]
      exact (ih hts).blanks_append (ht.blanks hkind)
    · rw [List.filter_cons_of_pos (by simp [hkind])]
      exact Spaced.piece (List.forall_mem_nil _) (ih hts)

/-- **The tokens of a listing make up its text but for blanks**, and none of them is empty or goes
over the end of a line. They are parts of runs, and a scan of the text marks the runs and leaves
nothing over. -/
theorem listingTokens_spaced (cs : List Char) :
    ∃ runs : List Token,
      (∀ pieces, Scan none (normalListing cs) pieces ↔ pieces = runs.map Token.marked) ∧
      listingTokens cs = (runs.flatMap Token.parts).filter (·.kind ≠ .blank) ∧
      (∀ t ∈ listingTokens cs, t.lexeme ≠ [] ∧ '\n' ∉ t.lexeme) ∧
      Spaced ((listingTokens cs).map (·.lexeme)) (normalListing cs) := by
  refine ⟨Token.runsFrom none (normalListing cs), fun pieces => scan_iff, rfl, fun t ht => ?_, ?_⟩
  · obtain ⟨ht, hkind⟩ := List.mem_filter.mp ht
    have hsound := Token.sound_of_mem_allOf ht
    exact ⟨hsound.ne_nil, hsound.line (of_decide_eq_true hkind)⟩
  · have hsound : ∀ t ∈ Token.allOf (normalListing cs), t.Sound := fun t => Token.sound_of_mem_allOf
    have hspaced := spaced_filter hsound
    rwa [Token.flatMap_lexeme_allOf] at hspaced

end FlowAtlas
