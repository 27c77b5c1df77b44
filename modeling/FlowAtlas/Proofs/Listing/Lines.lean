import FlowAtlas.Proofs.Listing.Runs

/-!
# Listings line by line

What one line of a listing contains never changes how another line is cut. Blanks can be passed one
by one, since only the tokens that are not blank count, and a line feed is a blank that has the same
effect on the next line as the beginning of the text. All else follows from one equation: the tokens
of two texts with a line feed between them are those of the first and those of the second.

## Main definitions

* `tokensFrom`: the tokens of a text that are not blank.

## Main results

* `tokensFrom_cons_of_isBlank`: a blank is passed alone.
* `tokensFrom_append_newline`: a line feed separates tokens.
* `listingTokens_eq`: empty lines do not matter at the ends of a listing.
* `listingTokens_append_newline`: the tokens of a listing are found line by line.
-/

namespace FlowAtlas

open Text TokenKind

variable {before : Option Char} {c : Char} {cs ds rest : List Char} {kind : TokenKind} {n : ℕ}

/-- The tokens of a text that are not blank, where `before` is the character before it. -/
def tokensFrom (before : Option Char) (cs : List Char) : List Token :=
  ((Token.runsFrom before cs).flatMap Token.parts).filter (·.kind ≠ .blank)

@[simp] theorem tokensFrom_nil (before : Option Char) : tokensFrom before [] = [] := by
  rw [tokensFrom, Token.runsFrom]
  rfl

/-! ### Runs and blanks -/

theorem tokensFrom_of_blank (hfit : FirstFit before c rest .blank n) :
    tokensFrom before (c :: rest) = tokensFrom (c :: rest.take n).getLast? (rest.drop n) := by
  rw [tokensFrom, Token.runsFrom_cons hfit, List.flatMap_cons, List.filter_append]
  rfl

theorem tokensFrom_of_ne_blank (hfit : FirstFit before c rest kind n) (hkind : kind ≠ blank) :
    tokensFrom before (c :: rest) = Token.parts ⟨kind, c :: rest.take n⟩ ++
      tokensFrom (c :: rest.take n).getLast? (rest.drop n) := by
  have hparts : (Token.parts ⟨kind, c :: rest.take n⟩).filter (·.kind ≠ .blank) =
      Token.parts ⟨kind, c :: rest.take n⟩ := by
    refine List.filter_eq_self.mpr fun t ht => decide_eq_true ?_
    rw [(Token.of_mem_parts ht (List.cons_ne_nil _ _)).1]
    exact hkind
  rw [tokensFrom, Token.runsFrom_cons hfit, List.flatMap_cons, List.filter_append, hparts,
    tokensFrom]

/-- A blank is passed alone, however many blanks follow. -/
theorem tokensFrom_cons_of_isBlank (hc : isBlank c) (before : Option Char) (rest : List Char) :
    tokensFrom before (c :: rest) = tokensFrom (some c) rest := by
  have hfit := firstRun_eq_iff.mp (firstRun_of_isBlank hc before rest)
  rw [tokensFrom_of_blank hfit]
  cases rest with
  | nil => rfl
  | cons d rest =>
    by_cases hd : isBlank d
    · have hfit' := firstRun_eq_iff.mp (firstRun_of_isBlank hd (some c) rest)
      rw [tokensFrom_of_blank hfit', List.takeWhile_cons_of_pos hd, List.length_cons,
        List.take_succ_cons, List.drop_succ_cons, List.getLast?_cons_cons]
    · rw [List.takeWhile_cons_of_neg hd]
      rfl

/-! ### Line feeds -/

/-- A line feed has the effect of the beginning of a text. -/
theorem TokenKind.extent?_newline (kind : TokenKind) (c : Char) (rest : List Char) :
    kind.extent? (some '\n') c rest = kind.extent? none c rest := by
  have hends : endsWord (some '\n') = endsWord none := (endsWord_filter (some '\n')).symm
  cases kind <;> simp [extent?, hends]

theorem tokensFrom_newline (cs : List Char) : tokensFrom (some '\n') cs = tokensFrom none cs := by
  have hfirst : ∀ c rest, firstRun (some '\n') c rest = firstRun none c rest := by
    intro c rest
    simp only [firstRun, extent?_newline]
  cases cs with
  | nil => rw [tokensFrom_nil, tokensFrom_nil]
  | cons c rest => rw [tokensFrom, Token.runsFrom, hfirst, ← Token.runsFrom, tokensFrom]

/-- A run at a character that is not blank is the same in front of a line feed. -/
theorem TokenKind.FirstFit.append_newline (hfit : FirstFit before c cs kind n)
    (hc : isBlank c = false) (ds : List Char) : FirstFit before c (cs ++ '\n' :: ds) kind n := by
  rw [← firstRun_eq_iff] at hfit ⊢
  rw [← firstRun_lineOf hc, lineOf_append_newline, firstRun_lineOf hc, hfit]

theorem TokenKind.FirstFit.ne_blank (hfit : FirstFit before c cs kind n) (hc : isBlank c = false) :
    kind ≠ blank := by
  rintro rfl
  have hblank := (Option.ite_some_none_eq_some.mp hfit.extent?_eq).1
  rw [hc] at hblank
  cases hblank

/-- The run at a character that is not blank leaves the same behind it, whether a line feed follows
the text or not. -/
theorem exists_tokensFrom_cons (hc : isBlank c = false) (before : Option Char) (rest : List Char) :
    ∃ (ts : List Token) (last : Option Char) (after : List Char), after.length ≤ rest.length ∧
      tokensFrom before (c :: rest) = ts ++ tokensFrom last after ∧
      ∀ ds, tokensFrom before (c :: (rest ++ '\n' :: ds)) =
        ts ++ tokensFrom last (after ++ '\n' :: ds) := by
  obtain ⟨kind, n, hfit⟩ := exists_firstFit before c rest
  have hkind := hfit.ne_blank hc
  have hn := le_length_of_extent? hfit.extent?_eq
  refine ⟨_, _, rest.drop n, (List.drop_sublist n rest).length_le,
    tokensFrom_of_ne_blank hfit hkind, fun ds => ?_⟩
  rw [tokensFrom_of_ne_blank (hfit.append_newline hc ds) hkind, List.take_append_of_le_length hn,
    List.drop_append_of_le_length hn]

/-- A line feed separates tokens. The tokens of two texts with a line feed between them are
those of the first and those of the second. -/
theorem tokensFrom_append_newline (before : Option Char) (cs ds : List Char) :
    tokensFrom before (cs ++ '\n' :: ds) = tokensFrom before cs ++ tokensFrom none ds := by
  -- The first text gets shorter by a blank or by a run, which ends before the line feed.
  induction hlength : cs.length using Nat.strongRecOn generalizing before cs with
  | ind length ih =>
    subst hlength
    cases cs with
    | nil =>
      rw [List.nil_append, tokensFrom_cons_of_isBlank (by decide), tokensFrom_newline,
        tokensFrom_nil, List.nil_append]
    | cons c rest =>
      rw [List.cons_append]
      cases hc : isBlank c with
      | true =>
        rw [tokensFrom_cons_of_isBlank hc, tokensFrom_cons_of_isBlank hc,
          ih _ (Nat.lt_succ_self _) _ _ rfl]
      | false =>
        obtain ⟨ts, last, after, hafter, hrest, happend⟩ := exists_tokensFrom_cons hc before rest
        rw [happend, hrest, ih _ (Nat.lt_succ_of_le hafter) _ _ rfl, List.append_assoc]

theorem tokensFrom_none_newline (cs : List Char) :
    tokensFrom none ('\n' :: cs) = tokensFrom none cs := by
  rw [← List.nil_append ('\n' :: cs), tokensFrom_append_newline, tokensFrom_nil, List.nil_append]

theorem tokensFrom_concat_newline (before : Option Char) (cs : List Char) :
    tokensFrom before (cs ++ ['\n']) = tokensFrom before cs := by
  rw [tokensFrom_append_newline, tokensFrom_nil, List.append_nil]

/-! ### The ends of a listing -/

/-- What ignores a line feed in front ignores all that are dropped there. -/
theorem apply_dropWhile_newline {α : Type} {f : List Char → α} (h : ∀ cs, f ('\n' :: cs) = f cs)
    (cs : List Char) : f (cs.dropWhile (· = '\n')) = f cs := by
  induction cs with
  | nil => rfl
  | cons c cs ih =>
    by_cases hc : c = '\n'
    · rw [List.dropWhile_cons_of_pos (by simpa using hc), ih, hc, h]
    · rw [List.dropWhile_cons_of_neg (by simpa using hc)]

theorem tokensFrom_trimList (cs : List Char) :
    tokensFrom none (trimList (· = '\n') cs) = tokensFrom none cs := by
  have hback : ∀ cs : List Char,
      tokensFrom none ('\n' :: cs).reverse = tokensFrom none cs.reverse := by
    intro cs
    rw [List.reverse_cons, tokensFrom_concat_newline]
  rw [trimList, apply_dropWhile_newline (f := fun cs => tokensFrom none cs.reverse) hback,
    List.reverse_reverse, apply_dropWhile_newline tokensFrom_none_newline]

/-- A text without the byte order mark at its head. -/
def withoutMark : List Char → List Char
  | '\ufeff' :: rest => rest
  | cs => cs

theorem normalListing_eq (cs : List Char) : normalListing cs =
    trimList (· = '\n') (unifyLineEnds (withoutMark cs)) ++ ['\n'] :=
  rfl

/-- Empty lines at the ends of a listing do not matter. -/
theorem listingTokens_eq (cs : List Char) :
    listingTokens cs = tokensFrom none (unifyLineEnds (withoutMark cs)) := by
  rw [listingTokens, Token.allOf, ← tokensFrom, normalListing_eq, tokensFrom_concat_newline,
    tokensFrom_trimList]

theorem withoutMark_of_head? (h : cs.head? ≠ some '\ufeff') : withoutMark cs = cs := by
  rw [withoutMark]
  rintro rest rfl
  exact h rfl

theorem withoutMark_append_newline (cs ds : List Char) :
    withoutMark (cs ++ '\n' :: ds) = withoutMark cs ++ '\n' :: ds := by
  cases cs with
  | nil => rfl
  | cons c rest =>
    by_cases hc : c = '\ufeff'
    · rw [hc]
      rfl
    · have hhead : ∀ tail : List Char, (c :: tail).head? ≠ some '\ufeff' := fun tail h =>
        hc (Option.some.inj h)
      rw [List.cons_append, withoutMark_of_head? (hhead _), withoutMark_of_head? (hhead _),
        List.cons_append]

/-! ### Line ends -/

/-- A line feed in front of a text ends a line of its own, or one with a CR before it. -/
theorem unifyLineEnds_append_newline (cs ds : List Char) :
    unifyLineEnds (cs ++ '\n' :: ds) = unifyLineEnds cs ++ '\n' :: unifyLineEnds ds ∨
      ∃ line, unifyLineEnds cs = line ++ ['\n'] ∧
        unifyLineEnds (cs ++ '\n' :: ds) = line ++ '\n' :: unifyLineEnds ds := by
  fun_induction unifyLineEnds cs with
  | case1 => exact .inl rfl
  | case2 rest ih =>
    rw [List.cons_append, List.cons_append, unifyLineEnds]
    rcases ih with ih | ⟨line, hline, ih⟩
    · exact .inl (congrArg _ ih)
    · exact .inr ⟨'\n' :: line, congrArg _ hline, congrArg _ ih⟩
  | case3 c rest hpair ih =>
    by_cases hlast : c = '\r' ∧ rest = []
    · obtain ⟨rfl, rfl⟩ := hlast
      exact .inr ⟨[], rfl, rfl⟩
    · have hpair' : ∀ tail, c = '\r' → rest ++ '\n' :: ds = '\n' :: tail → False := by
        rintro tail rfl htail
        cases rest with
        | nil => exact hlast ⟨rfl, rfl⟩
        | cons d rest => exact hpair rest rfl (by rw [(List.cons.inj htail).1])
      rw [List.cons_append, unifyLineEnds.eq_3 _ _ hpair']
      rcases ih with ih | ⟨line, hline, ih⟩
      · exact .inl (congrArg _ ih)
      · exact .inr ⟨_ :: line, congrArg _ hline, congrArg _ ih⟩

theorem tokensFrom_unifyLineEnds (cs ds : List Char) :
    tokensFrom none (unifyLineEnds (cs ++ '\n' :: ds)) =
      tokensFrom none (unifyLineEnds cs) ++ tokensFrom none (unifyLineEnds ds) := by
  rcases unifyLineEnds_append_newline cs ds with h | ⟨line, hline, h⟩
  · rw [h, tokensFrom_append_newline]
  · rw [h, hline, tokensFrom_append_newline, tokensFrom_concat_newline]

/-- **The tokens of a listing are found line by line**, unless a byte order mark that would be
dropped follows the line feed. -/
theorem listingTokens_append_newline (h : ds.head? ≠ some '\ufeff') :
    listingTokens (cs ++ '\n' :: ds) = listingTokens cs ++ listingTokens ds := by
  rw [listingTokens_eq, listingTokens_eq, listingTokens_eq, withoutMark_append_newline,
    tokensFrom_unifyLineEnds, withoutMark_of_head? h]

/-- A heading with an open quote, and a line that ends in CR LF once they are joined. -/
def openQuote : List Char :=
  "CFG of 'f on (x\n  %1 = 'goto\r".toList

/-- An empty line and an indented one, on which the quote would be closed. -/
def closingQuote : List Char :=
  "\n  ' if not _2".toList

theorem openQuote_append_newline : closingQuote.head? ≠ some '\ufeff' ∧
    listingTokens (openQuote ++ '\n' :: closingQuote) =
      listingTokens openQuote ++ listingTokens closingQuote :=
  ⟨by decide, listingTokens_append_newline (by decide)⟩

end FlowAtlas
