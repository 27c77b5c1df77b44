import FlowAtlas.Listing.Colour
import FlowAtlas.Proofs.Listing.Lines

/-!
# Colours of a listing

Colours are switched on and off by escape sequences. A listing in colour is the listing again once
the sequences are left out, as long as no sequence begins in its text: every token is cut into
pieces that make it up again, and a piece in colour stands between two sequences.

## Main definitions

* `withoutSequences`: a text without its escape sequences.

## Main results

* `withoutSequences_colourSequence`, `withoutSequences_coloured`: a colour adds sequences only.
* `withoutSequences_colouredListing`: a listing in colour is the listing but for sequences.
-/

namespace FlowAtlas

open Text

variable {c : Char} {cs rest after : List Char} {colour : Option String}

/-! ### Escape sequences -/

/-- A character that may stand in the parameters of an escape sequence. -/
def isParameter (c : Char) : Bool :=
  c.isDigit || c = ';'

/-- What follows an escape sequence, of which the escape character has been read: a bracket, the
parameters and the letter m. -/
def afterSequence? : List Char → Option (List Char)
  | '[' :: rest =>
    match rest.dropWhile isParameter with
    | 'm' :: after => some after
    | _ => none
  | _ => none

theorem length_lt_of_afterSequence? (h : afterSequence? cs = some after) :
    after.length < cs.length := by
  unfold afterSequence? at h
  split at h
  · next rest =>
    have hle : (rest.dropWhile isParameter).length ≤ rest.length :=
      (List.dropWhile_suffix isParameter).length_le
    split at h
    · next hdrop =>
      rw [hdrop, List.length_cons, Option.some.inj h] at hle
      exact Nat.lt_succ_of_lt hle
    · cases h
  · cases h

/-- A text without its escape sequences. -/
def withoutSequences : List Char → List Char
  | [] => []
  | c :: rest =>
    if c = '\x1b' then
      match _hafter : afterSequence? rest with
      | some after => withoutSequences after
      | none => c :: withoutSequences rest
    else c :: withoutSequences rest
  termination_by cs => cs.length
  decreasing_by
    · exact Nat.lt_succ_of_lt (length_lt_of_afterSequence? ‹_›)
    · exact Nat.lt_succ_self _
    · exact Nat.lt_succ_self _

/-- No sequence begins in a text without the escape character. -/
theorem withoutSequences_append (h : '\x1b' ∉ cs) (rest : List Char) :
    withoutSequences (cs ++ rest) = cs ++ withoutSequences rest := by
  induction cs with
  | nil => rfl
  | cons c cs ih =>
    rw [List.mem_cons, not_or] at h
    rw [List.cons_append, withoutSequences, if_neg (Ne.symm h.1), ih h.2, List.cons_append]

/-- A sequence that sets a colour is left out. -/
theorem withoutSequences_colourSequence {parameters : String}
    (h : parameters.toList.all isParameter) (rest : List Char) :
    withoutSequences (colourSequence parameters ++ rest) = withoutSequences rest := by
  have hafter : afterSequence? ('[' :: parameters.toList ++ ['m'] ++ rest) = some rest := by
    have hdrop : (parameters.toList ++ ['m'] ++ rest).dropWhile isParameter = 'm' :: rest := by
      rw [List.append_assoc, List.dropWhile_append_of_pos (List.all_eq_true.mp h)]
      rfl
    rw [List.cons_append, List.cons_append, afterSequence?, hdrop]
    rfl
  rw [colourSequence, List.cons_append, List.cons_append, withoutSequences, if_pos rfl]
  split
  · next after hafter' =>
    rw [Option.some.inj (hafter.symm.trans hafter')]
  · next hnone => cases hafter.symm.trans hnone

theorem isParameter_of_colour? {kind : TokenKind} {code : String} (h : kind.colour? = some code) :
    code.toList.all isParameter := by
  cases kind <;> cases h <;> decide

/-- A colour adds sequences only. -/
theorem withoutSequences_coloured (hcolour : ∀ code ∈ colour, code.toList.all isParameter)
    (h : '\x1b' ∉ cs) (rest : List Char) :
    withoutSequences (coloured colour cs ++ rest) = cs ++ withoutSequences rest := by
  cases colour with
  | none => exact withoutSequences_append h rest
  | some code =>
    have hoff : "39;49;00".toList.all isParameter := by decide
    rw [coloured, List.append_assoc, List.append_assoc,
      withoutSequences_colourSequence (hcolour code rfl), withoutSequences_append h,
      withoutSequences_colourSequence hoff]

/-! ### Tokens in colour -/

theorem withoutSequences_colouredPiece (hcolour : ∀ code ∈ colour, code.toList.all isParameter)
    (h : '\x1b' ∉ cs) (rest : List Char) :
    withoutSequences (Token.colouredPiece colour cs ++ rest) = cs ++ withoutSequences rest := by
  rw [Token.colouredPiece]
  split
  · next hlast =>
    have hinit : '\x1b' ∉ cs.dropLast := fun hmem => h (List.dropLast_subset cs hmem)
    have hnewline : '\x1b' ∉ ['\n'] := by decide
    rw [List.append_assoc, withoutSequences_coloured hcolour hinit,
      withoutSequences_append hnewline, ← List.append_assoc, List.dropLast_append_getLast?]
    exact hlast
  · exact withoutSequences_coloured hcolour h rest

/-- What leaves each of several texts leaves all of them in a row. -/
theorem withoutSequences_flatMap {α : Type} {f g : α → List Char} {xs : List α}
    (h : ∀ x ∈ xs, ∀ rest, withoutSequences (f x ++ rest) = g x ++ withoutSequences rest)
    (rest : List Char) :
    withoutSequences (xs.flatMap f ++ rest) = xs.flatMap g ++ withoutSequences rest := by
  induction xs with
  | nil => rfl
  | cons x xs ih =>
    obtain ⟨hx, hxs⟩ := List.forall_mem_cons.mp h
    rw [List.flatMap_cons, List.append_assoc, hx, ih hxs, List.flatMap_cons, List.append_assoc]

theorem Token.withoutSequences_inColour {t : Token} (h : '\x1b' ∉ t.lexeme) (rest : List Char) :
    withoutSequences (t.inColour ++ rest) = t.lexeme ++ withoutSequences rest := by
  have hpiece : ∀ piece ∈ pieces t.lexeme, '\x1b' ∉ piece := fun piece hpiece hmem =>
    h (flatten_pieces t.lexeme ▸ List.mem_flatten.mpr ⟨piece, hpiece, hmem⟩)
  have hpieces : withoutSequences (t.inColour ++ rest) =
      (pieces t.lexeme).flatMap id ++ withoutSequences rest :=
    withoutSequences_flatMap (fun piece hmem => withoutSequences_colouredPiece
      (fun code => isParameter_of_colour?) (hpiece piece hmem)) rest
  rwa [List.flatMap_id, flatten_pieces] at hpieces

/-! ### Listings in colour -/

theorem mem_of_mem_unifyLineEnds (h : c ∈ unifyLineEnds cs) : c = '\n' ∨ c ∈ cs := by
  fun_induction unifyLineEnds cs with
  | case1 => exact .inr h
  | case2 rest ih => grind
  | case3 d rest hpair ih => grind

theorem mem_of_mem_withoutMark (h : c ∈ withoutMark cs) : c ∈ cs := by
  unfold withoutMark at h
  split at h
  · exact List.mem_cons_of_mem _ h
  · exact h

theorem mem_of_mem_normalListing (h : c ∈ normalListing cs) : c = '\n' ∨ c ∈ cs := by
  rw [normalListing_eq, List.mem_append, List.mem_singleton] at h
  rcases h with h | rfl
  · rw [trimList, List.mem_reverse] at h
    have h := List.mem_reverse.mp ((List.dropWhile_sublist _).subset h)
    exact (mem_of_mem_unifyLineEnds ((List.dropWhile_sublist _).subset h)).imp_right
      mem_of_mem_withoutMark
  · exact .inl rfl

/-- **A listing in colour is the listing but for escape sequences**, if the listing has no escape
character. -/
theorem withoutSequences_colouredListing (h : '\x1b' ∉ cs) :
    withoutSequences (colouredListing cs) = normalListing cs := by
  have hnormal : '\x1b' ∉ normalListing cs := fun hmem =>
    (mem_of_mem_normalListing hmem).elim (by decide) h
  have hlexeme : ∀ t ∈ Token.allOf (normalListing cs), '\x1b' ∉ t.lexeme := fun t ht hmem =>
    hnormal (Token.flatMap_lexeme_allOf (normalListing cs) ▸ List.mem_flatMap.mpr ⟨t, ht, hmem⟩)
  have htokens : withoutSequences (colouredListing cs ++ []) =
      (Token.allOf (normalListing cs)).flatMap (·.lexeme) ++ withoutSequences [] :=
    withoutSequences_flatMap (fun t ht => Token.withoutSequences_inColour (hlexeme t ht)) []
  rwa [List.append_nil, Token.flatMap_lexeme_allOf, withoutSequences, List.append_nil] at htokens

/-- A listing in CR LF with a heading that is followed by nothing, a line separator between quotes,
and blanks that go over a form feed and the end of a line. -/
def separatedLines : List Char :=
  "CFG of\r\n  'a\u2028b' \x0c\r\n  %1 = f(_2)".toList

theorem withoutSequences_separatedLines : '\x1b' ∉ separatedLines ∧
    withoutSequences (colouredListing separatedLines) = normalListing separatedLines :=
  ⟨by decide, withoutSequences_colouredListing (by decide)⟩

end FlowAtlas
