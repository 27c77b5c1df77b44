import FlowAtlas.Listing.Token
import FlowAtlas.Proofs.Text.Numeral
import Mathlib.Data.List.Basic
import Mathlib.Data.List.TakeWhile

/-!
# How far the runs of a listing go

At each position of a listing the first kind that fits gives the run. A run that is not blank stays
on its line, and what follows the line has no influence on it. At a blank only blanks fit, and some
kind fits everywhere.

## Main definitions

* `lineOf`: the rest of a line.
* `TokenKind.FirstFit`: a kind is the first that fits at the head of a text.

## Main results

* `TokenKind.firstRun_eq_iff`: the run at the head of a text is that of the first kind that fits.
* `TokenKind.extent?_lineOf`, `TokenKind.firstRun_lineOf`: what follows the line does not matter.
* `TokenKind.le_length_lineOf`: a run that is not blank ends with its line at the latest.
* `TokenKind.firstRun_of_isBlank`: at a blank the run is blank.
-/

namespace FlowAtlas

open Text

variable {before : Option Char} {c quote : Char} {cs rest word : List Char} {p : Char → Bool}
  {kind : TokenKind} {n : ℕ}

/-! ### Lines -/

/-- The rest of a line, without the line feed. -/
def lineOf (cs : List Char) : List Char :=
  cs.takeWhile (· ≠ '\n')

@[simp] theorem lineOf_nil : lineOf [] = [] := rfl

@[simp] theorem lineOf_newline (cs : List Char) : lineOf ('\n' :: cs) = [] := rfl

theorem lineOf_cons (hc : c ≠ '\n') (cs : List Char) : lineOf (c :: cs) = c :: lineOf cs := by
  rw [lineOf, List.takeWhile_cons, if_pos (decide_eq_true hc), lineOf]

theorem lineOf_append_newline (cs ds : List Char) : lineOf (cs ++ '\n' :: ds) = lineOf cs := by
  induction cs with
  | nil => rfl
  | cons c cs ih =>
    by_cases hc : c = '\n'
    · rw [hc, List.cons_append, lineOf_newline, lineOf_newline]
    · rw [List.cons_append, lineOf_cons hc, ih, lineOf_cons hc]

theorem lineOf_isPrefix (cs : List Char) : lineOf cs <+: cs :=
  List.takeWhile_prefix _

theorem length_lineOf_le (cs : List Char) : (lineOf cs).length ≤ cs.length :=
  (lineOf_isPrefix cs).length_le

theorem newline_not_mem_lineOf (cs : List Char) : '\n' ∉ lineOf cs := by
  intro h
  have hne := List.mem_takeWhile_imp h
  simp at hne

/-- What is taken up to a line feed at the latest is on the line. -/
theorem takeWhile_lineOf (hp : p '\n' = false) (cs : List Char) :
    (lineOf cs).takeWhile p = cs.takeWhile p := by
  rw [lineOf, List.takeWhile_takeWhile]
  refine congrArg (List.takeWhile · cs) (funext fun c => ?_)
  by_cases hc : c = '\n'
  · simp [hc, hp]
  · simp [hc]

theorem length_takeWhile_le_lineOf (hp : p '\n' = false) (cs : List Char) :
    (cs.takeWhile p).length ≤ (lineOf cs).length :=
  takeWhile_lineOf hp cs ▸ (List.takeWhile_prefix p).length_le

theorem take_lineOf (hn : n ≤ (lineOf cs).length) : (lineOf cs).take n = cs.take n := by
  obtain ⟨ds, hds⟩ := lineOf_isPrefix cs
  have htake : (lineOf cs ++ ds).take n = (lineOf cs).take n := List.take_append_of_le_length hn
  rw [← htake, hds]

theorem drop_lineOf (hn : n ≤ (lineOf cs).length) : (lineOf cs).drop n = lineOf (cs.drop n) := by
  induction cs generalizing n with
  | nil => simp
  | cons c cs ih =>
    cases n with
    | zero => rfl
    | succ n =>
      by_cases hc : c = '\n'
      · simp [hc] at hn
      · rw [lineOf_cons hc, List.length_cons, Nat.add_le_add_iff_right] at hn
        rw [lineOf_cons hc, List.drop_succ_cons, List.drop_succ_cons, ih hn]

/-- The character after a part of the line; the line feed is not on it. -/
theorem getElem?_lineOf (hn : n ≤ (lineOf cs).length) :
    (lineOf cs)[n]? = cs[n]?.filter (· ≠ '\n') := by
  rw [← List.head?_drop, drop_lineOf hn, ← List.head?_drop]
  cases cs.drop n with
  | nil => rfl
  | cons c cs =>
    by_cases hc : c = '\n'
    · rw [hc, lineOf_newline]
      rfl
    · rw [lineOf_cons hc, List.head?_cons, List.head?_cons, Option.filter_some,
        if_pos (decide_eq_true hc)]

theorem isPrefixOf_lineOf (hword : '\n' ∉ word) (cs : List Char) :
    word.isPrefixOf (lineOf cs) = word.isPrefixOf cs := by
  rw [Bool.eq_iff_iff, List.isPrefixOf_iff_prefix, List.isPrefixOf_iff_prefix]
  refine ⟨fun h => h.trans (lineOf_isPrefix cs), fun ⟨ds, hds⟩ => ?_⟩
  have hline : ∀ c ∈ word, decide (c ≠ '\n') = true := fun c hc =>
    decide_eq_true fun h => hword (h ▸ hc)
  rw [← hds, lineOf, List.takeWhile_append_of_pos hline]
  exact List.prefix_append _ _

theorem isPrefixOf_cons_lineOf (hword : '\n' ∉ word) (c : Char) (cs : List Char) :
    word.isPrefixOf (c :: lineOf cs) = word.isPrefixOf (c :: cs) := by
  cases word with
  | nil => rfl
  | cons d word =>
    rw [List.isPrefixOf_cons_cons, List.isPrefixOf_cons_cons,
      isPrefixOf_lineOf fun h => hword (List.mem_cons_of_mem d h)]

namespace TokenKind

/-! ### What follows a line -/

theorem isWord_newline : isWord '\n' = false := by decide +kernel

/-- A line feed ends a word just as the end of the text does. -/
theorem endsWord_filter (o : Option Char) : endsWord (o.filter (· ≠ '\n')) = endsWord o := by
  cases o with
  | none => rfl
  | some c =>
    by_cases hc : c = '\n'
    · rw [hc, endsWord, endsWord, Option.any_some, isWord_newline]
      rfl
    · rw [Option.filter_some, if_pos (decide_eq_true hc)]

theorem endsWord_lineOf (hn : n ≤ (lineOf cs).length) :
    endsWord (lineOf cs)[n]? = endsWord cs[n]? := by
  rw [getElem?_lineOf hn, endsWord_filter]

/-- A character other than a line feed stands on the line if it stands in the text there. -/
theorem getElem?_lineOf_eq_some_iff (hn : n ≤ (lineOf cs).length) (hc : c ≠ '\n') :
    (lineOf cs)[n]? = some c ↔ cs[n]? = some c := by
  rw [getElem?_lineOf hn, Option.filter_eq_some_iff]
  simp [hc]

theorem digitCount?_lineOf (cs : List Char) : digitCount? (lineOf cs) = digitCount? cs := by
  rw [digitCount?, takeWhile_lineOf isDecimalDigit_newline, digitCount?]

theorem numberExtent_lineOf (cs : List Char) : numberExtent (lineOf cs) = numberExtent cs := by
  rw [numberExtent, numberExtent, takeWhile_lineOf isDecimalDigit_newline,
    drop_lineOf (length_takeWhile_le_lineOf isDecimalDigit_newline cs)]
  -- Only a full stop right after the digits leads further, and it is on the line.
  cases cs.drop (cs.takeWhile isDecimalDigit).length with
  | nil => rfl
  | cons c decimals =>
    by_cases hc : c = '\n'
    · rw [hc]
      rfl
    · rw [lineOf_cons hc]
      by_cases hstop : c = '.'
      · simp only [hstop, digitCount?_lineOf]
      · split
        · simp_all
        · split
          · simp_all
          · rfl

theorem stringExtent?_lineOf (hquote : quote ≠ '\n') (cs : List Char) :
    stringExtent? quote (lineOf cs) = stringExtent? quote cs := by
  have hinside : (decide ('\n' ≠ quote) && decide ('\n' ≠ '\n')) = false := by simp
  rw [stringExtent?, stringExtent?, takeWhile_lineOf hinside]
  refine if_congr ?_ rfl rfl
  exact getElem?_lineOf_eq_some_iff (length_takeWhile_le_lineOf hinside cs) hquote

theorem newline_not_mem_headingWords : ∀ word ∈ headingWords, '\n' ∉ word := by decide

theorem newline_not_mem_keywords : ∀ word ∈ keywords, '\n' ∉ word := by decide

/-- The count of the digits is that of a part of the text. -/
theorem length_of_digitCount? (h : digitCount? cs = some n) :
    n = (cs.takeWhile isDecimalDigit).length := by
  rw [digitCount?] at h
  split at h
  · cases h
  · exact (Option.some.inj h).symm

theorem le_length_lineOf_of_digitCount? (h : digitCount? cs = some n) :
    n ≤ (lineOf cs).length :=
  length_of_digitCount? h ▸ length_takeWhile_le_lineOf isDecimalDigit_newline cs

theorem le_length_lineOf_of_isPrefixOf (hword : '\n' ∉ word)
    (h : word.isPrefixOf (c :: cs) = true) : word.length - 1 ≤ (lineOf cs).length := by
  rw [← isPrefixOf_cons_lineOf hword, List.isPrefixOf_iff_prefix] at h
  have hle := h.length_le
  rw [List.length_cons] at hle
  omega

/-- What follows the line has no influence on a run that is not blank. -/
theorem extent?_lineOf (hkind : kind ≠ blank) (before : Option Char) (c : Char)
    (rest : List Char) : kind.extent? before c (lineOf rest) = kind.extent? before c rest := by
  -- By the kinds that `extent?` tells apart: how far one looks ahead, and that a line feed stops it.
  cases kind with
  | heading =>
    have hwords : headingWords.any (·.isPrefixOf (c :: lineOf rest)) =
        headingWords.any (·.isPrefixOf (c :: rest)) := by
      rw [Bool.eq_iff_iff, List.any_eq_true, List.any_eq_true]
      refine exists_congr fun word => and_congr_right fun hword => ?_
      rw [isPrefixOf_cons_lineOf (newline_not_mem_headingWords word hword)]
    rw [extent?, extent?, hwords, takeWhile_lineOf rfl]
  | operator => rfl
  | label => rw [extent?, extent?, digitCount?_lineOf]
  | result => rw [extent?, extent?, digitCount?_lineOf]
  | argument =>
    have hdigits : (digitCount? rest).filter (fun n => endsWord (lineOf rest)[n]?) =
        (digitCount? rest).filter fun n => endsWord rest[n]? := by
      cases hn : digitCount? rest with
      | none => rfl
      | some n =>
        simp only [Option.filter_some, endsWord_lineOf (le_length_lineOf_of_digitCount? hn)]
    rw [extent?, extent?, digitCount?_lineOf, hdigits]
  | keyword =>
    rw [extent?, extent?]
    refine if_congr Iff.rfl ?_ rfl
    rw [← List.head?_filterMap, ← List.head?_filterMap]
    refine congrArg _ (List.filterMap_congr fun word hword => ?_)
    have hnewline := newline_not_mem_keywords word hword
    rw [isPrefixOf_cons_lineOf hnewline]
    cases hprefix : word.isPrefixOf (c :: rest) with
    | false => rfl
    | true => rw [endsWord_lineOf (le_length_lineOf_of_isPrefixOf hnewline hprefix)]
  | function =>
    have hname : inName '\n' = false := by decide
    rw [extent?, extent?, takeWhile_lineOf hname]
    refine if_congr Iff.rfl (if_congr ?_ rfl rfl) rfl
    exact getElem?_lineOf_eq_some_iff (length_takeWhile_le_lineOf hname rest) (by decide)
  | number => rw [extent?, extent?, numberExtent_lineOf]
  | string =>
    rw [extent?, extent?]
    split
    · next hquote =>
      have hne : c ≠ '\n' := by
        rintro rfl
        exact absurd hquote (by decide)
      rw [stringExtent?_lineOf hne]
    · rfl
  | punctuation => rfl
  | blank => exact absurd rfl hkind
  | text => rfl

/-! ### Where runs end -/

theorem numberExtent_le (cs : List Char) : numberExtent cs ≤ cs.length := by
  have hwhole : (cs.takeWhile isDecimalDigit).length ≤ cs.length :=
    (List.takeWhile_prefix _).length_le
  rw [numberExtent]
  split
  · next decimals hdecimals =>
    have hlength := congrArg List.length hdecimals
    rw [List.length_drop, List.length_cons] at hlength
    split
    · next n hn =>
      have hle := (le_length_lineOf_of_digitCount? hn).trans (length_lineOf_le decimals)
      omega
    · exact hwhole
  · exact hwhole

theorem le_length_of_stringExtent? (h : stringExtent? quote cs = some n) : n ≤ cs.length := by
  obtain ⟨hquote, rfl⟩ := Option.ite_some_none_eq_some.mp h
  exact (List.getElem?_eq_some_iff.mp hquote).1

/-- A run does not go further than the text. -/
theorem le_length_of_extent? (h : kind.extent? before c rest = some n) : n ≤ rest.length := by
  have hdigits : ∀ {n}, digitCount? rest = some n → n ≤ rest.length := fun h =>
    (le_length_lineOf_of_digitCount? h).trans (length_lineOf_le rest)
  have htake : ∀ p : Char → Bool, (rest.takeWhile p).length ≤ rest.length := fun p =>
    (List.takeWhile_prefix p).length_le
  cases kind with
  | heading =>
    obtain ⟨-, rfl⟩ := Option.ite_some_none_eq_some.mp h
    exact htake _
  | operator =>
    obtain ⟨-, rfl⟩ := Option.ite_some_none_eq_some.mp h
    exact Nat.zero_le _
  | label => exact hdigits (Option.ite_none_right_eq_some.mp h).2
  | result => exact hdigits (Option.ite_none_right_eq_some.mp h).2
  | argument =>
    exact hdigits (Option.filter_eq_some_iff.mp (Option.ite_none_right_eq_some.mp h).2).1
  | keyword =>
    obtain ⟨word, hword, hn⟩ :=
      List.exists_of_findSome?_eq_some (Option.ite_none_right_eq_some.mp h).2
    obtain ⟨hfits, rfl⟩ := Option.ite_some_none_eq_some.mp hn
    have hprefix := (Bool.and_eq_true_iff.mp hfits).1
    exact (le_length_lineOf_of_isPrefixOf (newline_not_mem_keywords word hword) hprefix).trans
      (length_lineOf_le rest)
  | function =>
    obtain ⟨-, hn⟩ := Option.ite_none_right_eq_some.mp h
    obtain ⟨-, rfl⟩ := Option.ite_some_none_eq_some.mp hn
    exact htake _
  | number =>
    obtain ⟨-, rfl⟩ := Option.ite_some_none_eq_some.mp h
    exact numberExtent_le rest
  | string => exact le_length_of_stringExtent? (Option.ite_none_right_eq_some.mp h).2
  | punctuation =>
    obtain ⟨-, rfl⟩ := Option.ite_some_none_eq_some.mp h
    exact Nat.zero_le _
  | blank =>
    obtain ⟨-, rfl⟩ := Option.ite_some_none_eq_some.mp h
    exact htake _
  | text =>
    obtain ⟨-, h⟩ := Option.ite_none_left_eq_some.mp h
    obtain rfl := Option.some.inj h
    exact Nat.zero_le _

/-- A run that is not blank ends with its line at the latest. -/
theorem le_length_lineOf (hkind : kind ≠ blank) (h : kind.extent? before c rest = some n) :
    n ≤ (lineOf rest).length :=
  le_length_of_extent? ((extent?_lineOf hkind before c rest).trans h)

/-! ### The first kind that fits -/

/-- A kind is the first in the order of the kinds that fits at the head of a text, and its run has
so many further characters. -/
def FirstFit (before : Option Char) (c : Char) (rest : List Char) (kind : TokenKind) (n : ℕ) :
    Prop :=
  ∃ earlier later, precedence = earlier ++ kind :: later ∧
    (∀ k ∈ earlier, k.extent? before c rest = none) ∧ kind.extent? before c rest = some n

/-- Some kind fits everywhere. -/
theorem exists_fit (before : Option Char) (c : Char) (rest : List Char) :
    ∃ kind ∈ precedence, (kind.extent? before c rest).isSome := by
  by_cases hc : c = '\n'
  · exact ⟨blank, by decide, by rw [extent?, hc]; rfl⟩
  · exact ⟨text, by decide, by rw [extent?, if_neg hc]; rfl⟩

/-- The run at the head of a text is that of the first kind that fits. -/
theorem firstRun_eq_iff : firstRun before c rest = (kind, n) ↔ FirstFit before c rest kind n := by
  have hsome : (precedence.findSome? fun kind =>
      (kind.extent? before c rest).map (kind, ·)).isSome := by
    obtain ⟨kind, hkind, hfit⟩ := exists_fit before c rest
    exact List.findSome?_isSome_iff.mpr ⟨kind, hkind, by rwa [Option.isSome_map]⟩
  obtain ⟨run, hrun⟩ := Option.isSome_iff_exists.mp hsome
  have hfirst : firstRun before c rest = (kind, n) ↔ precedence.findSome? (fun kind =>
      (kind.extent? before c rest).map (kind, ·)) = some (kind, n) := by
    rw [firstRun, hrun, Option.getD_some, Option.some.injEq]
  rw [hfirst, List.findSome?_eq_some_iff]
  simp only [Option.map_eq_some_iff, Option.map_eq_none_iff, Prod.mk.injEq]
  constructor
  · rintro ⟨earlier, _, later, hsplit, ⟨_, hn, rfl, rfl⟩, hearlier⟩
    exact ⟨earlier, later, hsplit, hearlier, hn⟩
  · rintro ⟨earlier, later, hsplit, hearlier, hn⟩
    exact ⟨earlier, kind, later, hsplit, ⟨n, hn, rfl, rfl⟩, hearlier⟩

theorem exists_firstFit (before : Option Char) (c : Char) (rest : List Char) :
    ∃ kind n, FirstFit before c rest kind n :=
  ⟨_, _, firstRun_eq_iff.mp rfl⟩

theorem FirstFit.extent?_eq (h : FirstFit before c rest kind n) :
    kind.extent? before c rest = some n := by
  obtain ⟨-, -, -, -, hn⟩ := h
  exact hn

/-- What follows the line has no influence on the run at a character that is not blank. -/
theorem firstRun_lineOf (hc : isBlank c = false) (before : Option Char) (rest : List Char) :
    firstRun before c (lineOf rest) = firstRun before c rest := by
  have hextent : ∀ kind : TokenKind,
      kind.extent? before c (lineOf rest) = kind.extent? before c rest := by
    intro kind
    by_cases hkind : kind = blank
    · rw [hkind, extent?, extent?, hc]
      rfl
    · exact extent?_lineOf hkind before c rest
  simp only [firstRun, hextent]

/-! ### Blanks -/

theorem beginsName_of_isBlank (hc : isBlank c) : beginsName c = false := by
  have hletter : ¬ (65 ≤ c.toNat ∧ c.toNat ≤ 122) := not_mem_range_of_isBlank hc (by decide)
  rw [← Bool.not_eq_true]
  intro hname
  rcases Bool.or_eq_true_iff.mp hname with hname | hname
  · refine hletter ?_
    rcases Bool.or_eq_true_iff.mp hname with hupper | hlower
    · obtain ⟨hfirst, hlast⟩ := of_decide_eq_true hupper
      exact ⟨hfirst, hlast.trans (by decide : 'Z'.toNat ≤ 122)⟩
    · obtain ⟨hfirst, hlast⟩ := Bool.and_eq_true_iff.mp hlower
      exact ⟨(by decide : 65 ≤ 'a'.toNat).trans (of_decide_eq_true hfirst),
        of_decide_eq_true hlast⟩
  · obtain rfl := of_decide_eq_true hname
    exact absurd hc (by decide)

/-- No word of a listing begins with a blank. -/
theorem isPrefixOf_cons_of_isBlank (hc : isBlank c)
    (hword : word.head?.any (fun d => !isBlank d) = true) :
    word.isPrefixOf (c :: rest) = false := by
  cases word with
  | nil => cases hword
  | cons d word =>
    have hne : d ≠ c := by
      rintro rfl
      simp [hc] at hword
    rw [List.isPrefixOf_cons_cons, beq_false_of_ne hne, Bool.false_and]

/-- At a blank no kind fits that is tried before the blanks. -/
theorem extent?_of_isBlank (hc : isBlank c) (hkind : kind ≠ blank) (htext : kind ≠ text) :
    kind.extent? before c rest = none := by
  have hne : ∀ d, isBlank d = false → c ≠ d := by
    rintro d hd rfl
    rw [hd] at hc
    cases hc
  cases kind with
  | heading =>
    have hwords : ∀ word ∈ headingWords, word.head?.any (fun d => !isBlank d) = true := by decide
    have hnone : headingWords.any (·.isPrefixOf (c :: rest)) = false := by
      rw [List.any_eq_false]
      intro word hword
      rw [isPrefixOf_cons_of_isBlank hc (hwords word hword)]
      exact Bool.false_ne_true
    rw [extent?, hnone, Bool.and_false]
    rfl
  | operator => simp [extent?, hne '→' (by decide), hne '⇒' (by decide)]
  | label => rw [extent?, if_neg (hne '#' (by decide))]
  | result => rw [extent?, if_neg (hne '%' (by decide))]
  | argument => simp [extent?, hne '_' (by decide)]
  | keyword =>
    have hwords : ∀ word ∈ keywords, word.head?.any (fun d => !isBlank d) = true := by decide
    have hnone : (keywords.findSome? fun word =>
        if word.isPrefixOf (c :: rest) && endsWord rest[word.length - 1]? then
          some (word.length - 1)
        else none) = none := by
      refine List.findSome?_eq_none_iff.mpr fun word hword => ?_
      rw [isPrefixOf_cons_of_isBlank hc (hwords word hword)]
      rfl
    rw [extent?, hnone, ite_self]
  | function =>
    rw [extent?, beginsName_of_isBlank hc]
    rfl
  | number =>
    rw [extent?, isDecimalDigit_of_isBlank hc]
    rfl
  | string => simp [extent?, hne '\'' (by decide), hne '"' (by decide)]
  | punctuation =>
    simp [extent?, hne '(' (by decide), hne ')' (by decide), hne ',' (by decide),
      hne '=' (by decide)]
  | blank => exact absurd rfl hkind
  | text => exact absurd rfl htext

/-- **At a blank the run is blank.** -/
theorem firstRun_of_isBlank (hc : isBlank c) (before : Option Char) (rest : List Char) :
    firstRun before c rest = (blank, (rest.takeWhile isBlank).length) := by
  refine firstRun_eq_iff.mpr ⟨precedence.take 10, [text], rfl, fun kind hkind => ?_, ?_⟩
  · have hearlier : kind ≠ blank ∧ kind ≠ text := by
      revert kind
      decide
    exact extent?_of_isBlank hc hearlier.1 hearlier.2
  · rw [extent?, if_pos hc]

end TokenKind

end FlowAtlas
