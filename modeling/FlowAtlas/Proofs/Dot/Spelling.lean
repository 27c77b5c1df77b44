import FlowAtlas.Dot.Escape
import FlowAtlas.Proofs.Dot.Reader
import Mathlib.Data.List.TakeWhile

/-!
# The spelling of identifiers

An identifier is written bare or between quotes. Between quotes a backslash is put before each quote
that no backslash protects yet, so that while the text is read, the backslashes just written are odd
in number exactly if the next character is protected. The closing quote ends the identifier, as long
as the text does not end in an odd number of backslashes; no text may be written that stands between
angle brackets, since those are not read.

A text in which every backslash, quote and opening angle bracket has a backslash of its own before
it is spelled as it is. Any other text is spelled as it is but for the backslashes before its
quotes.

## Main definitions

* `spelling`: an identifier as it is read.
* `Closed`: the texts whose end is read as the end of an identifier.
* `Escaped`: the texts that are spelled as they are.
* `plainQuotes`: a text with the spelling of its quotes undone.

## Main results

* `run?_quoteChars`: an identifier is read as one token.
* `spelling_eq`, `plainQuotes_protectQuotes`: what is read of a text.
-/

namespace FlowAtlas.Dot

variable {cs cs' held : List Char} {c : Char} {odd : Bool} {out : List Token}

/-- The characters of an identifier as they are read: without the quotes around them. -/
def spellingChars (cs : List Char) : List Char :=
  if isBare cs then cs else protectQuotes false cs

/-- An identifier as it is read. -/
def spelling (s : String) : String :=
  String.ofList (spellingChars s.toList)

/-! ### Quoted identifiers -/

/-- The backslashes at the end of a text are odd in number; `odd` tells whether those just before it
are. -/
def endsOdd (odd : Bool) : List Char → Bool
  | [] => odd
  | c :: rest => endsOdd (c = '\\' && !odd) rest

theorem endsOdd_append (odd : Bool) (cs cs' : List Char) :
    endsOdd odd (cs ++ cs') = endsOdd (endsOdd odd cs) cs' := by
  induction cs generalizing odd with
  | nil => rfl
  | cons c cs ih => exact ih _

/-- Where a reader is between quotes. -/
def quotedMode (odd : Bool) (held : List Char) : Mode :=
  if odd then .shielded held else .quoted held

/-- Between quotes a character is read on, unless it is a quote that is not protected. -/
theorem step?_quotedMode (h : c = '"' → odd = true) : (quotedMode odd held).step? c =
    some (quotedMode (c = '\\' && !odd) (c :: held), []) := by
  cases odd with
  | true =>
    rw [Bool.not_true, Bool.and_false]
    rfl
  | false =>
    have hquote : c ≠ '"' := fun hc => absurd (h hc) Bool.false_ne_true
    by_cases hc : c = '\\' <;> simp [quotedMode, Mode.step?, hc, hquote]

/-- Between quotes a reader is protected exactly after an odd number of backslashes, and no
quote of the text ends the identifier. -/
theorem run?_protectQuotes (odd : Bool) (held cs : List Char) :
    run? (quotedMode odd held) (protectQuotes odd cs) =
      some (quotedMode (endsOdd odd cs) ((protectQuotes odd cs).reverse ++ held), []) := by
  induction cs generalizing odd held with
  | nil => rfl
  | cons c cs ih =>
    have hread : ∀ odd held, (c = '"' → odd = true) →
        run? (quotedMode odd held) (c :: protectQuotes (c = '\\' && !odd) cs) =
          some (quotedMode (endsOdd odd (c :: cs))
            ((c :: protectQuotes (c = '\\' && !odd) cs).reverse ++ held), []) := by
      intro odd held h
      rw [List.reverse_cons, List.append_assoc]
      exact run?_cons (step?_quotedMode h) (ih _ _)
    rw [protectQuotes]
    split_ifs with hslash hquote
    · have h := hread odd held fun hc => absurd (hslash.symm.trans hc) (by decide)
      rwa [decide_eq_true hslash, Bool.true_and] at h
    · -- A quote that is not protected yet is read after the backslash that was put before it.
      rw [Bool.and_eq_true, decide_eq_true_eq, Bool.not_eq_true'] at hquote
      obtain ⟨rfl, rfl⟩ := hquote
      have h := hread true ('\\' :: held) fun _ => rfl
      rw [List.reverse_cons, List.append_assoc]
      exact run?_cons (step?_quotedMode fun hc => absurd hc (by decide)) h
    · have h := hread odd held fun hc => by
        cases odd with
        | true => rfl
        | false => exact absurd (by rw [hc]; rfl) hquote
      rwa [decide_eq_false hslash, Bool.false_and] at h

/-- A character that ends a word: a blank or the end of a list. -/
def isDelimiter (c : Char) : Bool :=
  c = ' ' || c = '\n' || c = ']'

/-- The tokens of a character that ends a word. -/
def delimiterTokens (c : Char) : List Token :=
  if c = ']' then [.closeList] else []

theorem begin?_of_isDelimiter (h : isDelimiter c) :
    isBareChar c = false ∧ begin? c = some (.between, delimiterTokens c) := by
  simp only [isDelimiter, Bool.or_eq_true, decide_eq_true_eq] at h
  rcases h with (rfl | rfl) | rfl <;> exact ⟨rfl, rfl⟩

/-- The end of the text is read as the end of an identifier: the text does not end in an odd number
of backslashes and does not stand between angle brackets. -/
structure Closed (cs : List Char) : Prop where
  notMarkup : isMarkup cs = false
  even : endsOdd false cs = false

/-- An identifier between quotes is read up to its closing quote. -/
theorem run?_quoted (h : endsOdd false cs = false) : run? .between ('"' :: protectQuotes false cs ++
    ['"']) = some (.between, [.id (String.ofList (protectQuotes false cs))]) := by
  have hread := run?_protectQuotes false [] cs
  rw [h, List.append_nil] at hread
  have hclose : (Mode.quoted (protectQuotes false cs).reverse).step? '"' =
      some (.between, [.id (String.ofList (protectQuotes false cs))]) := by
    rw [Mode.step?, List.reverse_reverse]
    rfl
  exact run?_append (run?_cons (rfl : Mode.between.step? '"' = _) hread)
    (run?_singleton hclose)

/-! ### Bare identifiers -/

theorem isBareChar_of_isDigit (h : c.isDigit) : isBareChar c := by
  simp [isBareChar, isNameChar, Char.isAlphanum, h]

theorem isBareChar_of_isFraction {atLeast : ℕ} (h : isFraction atLeast cs) :
    ∀ c ∈ cs, isBareChar c := by
  rw [isFraction.eq_def] at h
  split at h
  · rw [Bool.and_eq_true, List.all_eq_true] at h
    exact List.forall_mem_cons.mpr ⟨rfl, fun c hc => isBareChar_of_isDigit (h.2 c hc)⟩
  · cases h

theorem isBareChar_of_isUnsignedNumeral (h : isUnsignedNumeral cs) :
    cs ≠ [] ∧ ∀ c ∈ cs, isBareChar c := by
  refine ⟨fun hcs => absurd (hcs ▸ h) (by decide), fun c hc => ?_⟩
  have hrest : ∀ c ∈ cs.dropWhile Char.isDigit, isBareChar c := by
    rw [isUnsignedNumeral] at h
    split at h
    · rcases Bool.or_eq_true _ _ ▸ h with h | h
      · rw [List.isEmpty_iff.mp h]
        exact fun c hc => absurd hc List.not_mem_nil
      · exact isBareChar_of_isFraction h
    · exact isBareChar_of_isFraction h
  rw [← List.takeWhile_append_dropWhile (p := Char.isDigit) (l := cs)] at hc
  rcases List.mem_append.mp hc with hc | hc
  · exact isBareChar_of_isDigit (List.mem_takeWhile_imp hc)
  · exact hrest c hc

theorem run?_bareChars (h : ∀ c ∈ cs, isBareChar c) (held : List Char) :
    run? (.bare held) cs = some (.bare (cs.reverse ++ held), []) := by
  induction cs generalizing held with
  | nil => rfl
  | cons c cs ih =>
    rw [List.forall_mem_cons] at h
    have hstep : (Mode.bare held).step? c = some (.bare (c :: held), []) := if_pos h.1
    rw [List.reverse_cons, List.append_assoc]
    exact run?_cons hstep (ih h.2 _)

/-- A name or a numeral is read on as a word. -/
theorem run?_word (h : isName cs || isNumeral cs) :
    run? .between cs = some (.bare cs.reverse, []) := by
  -- Only a minus sign is not read as a character of a bare word; it waits for what comes next.
  have hbare : cs ≠ [] → (∀ c ∈ cs, isBareChar c) →
      run? .between cs = some (.bare cs.reverse, []) := by
    intro hne hcs
    obtain ⟨c, rest, rfl⟩ := List.exists_cons_of_ne_nil hne
    rw [List.forall_mem_cons] at hcs
    have hstep : Mode.between.step? c = some (.bare [c], []) := if_pos hcs.1
    rw [List.reverse_cons]
    exact run?_cons hstep (run?_bareChars hcs.2 [c])
  rcases Bool.or_eq_true _ _ ▸ h with h | h
  · rw [isName.eq_def] at h
    split at h
    · cases h
    · next c rest _ =>
      rw [Bool.and_eq_true, List.all_eq_true] at h
      refine hbare (List.cons_ne_nil c rest) (List.forall_mem_cons.mpr ⟨?_, fun d hd => ?_⟩)
      · have hstart := h.1
        simp only [isNameStart, Bool.or_eq_true, decide_eq_true_eq] at hstart
        rcases hstart with hstart | rfl
        · simp [isBareChar, isNameChar, Char.isAlphanum, hstart]
        · rfl
      · rw [isBareChar, h.2 d hd, Bool.true_or]
  · rw [isNumeral.eq_def] at h
    split at h
    · next rest _ =>
      obtain ⟨hne, hrest⟩ := isBareChar_of_isUnsignedNumeral h
      obtain ⟨c, rest, rfl⟩ := List.exists_cons_of_ne_nil hne
      rw [List.forall_mem_cons] at hrest
      have hstep : Mode.minus.step? c = some (.bare [c, '-'], []) := by
        have hc : c ≠ '>' := by
          rintro rfl
          exact absurd hrest.1 (by decide)
        rw [Mode.step?, if_neg hc, if_pos hrest.1]
      rw [List.reverse_cons, List.reverse_cons, List.append_assoc]
      exact run?_cons (rfl : Mode.between.step? '-' = _)
        (run?_cons hstep (run?_bareChars hrest.2 _))
    · obtain ⟨hne, hcs⟩ := isBareChar_of_isUnsignedNumeral h
      exact hbare hne hcs

/-- A word is read as one token, with a character after it that belongs to no word. -/
theorem run?_bare (h : isName cs || isNumeral cs) (hkey : isKeyword cs = false)
    (hbare : isBareChar c = false) (hbegin : begin? c = some (.between, out)) :
    run? .between (cs ++ [c]) = some (.between, .id (String.ofList cs) :: out) := by
  have hstep : (Mode.bare cs.reverse).step? c =
      some (.between, .id (String.ofList cs) :: out) := by
    rw [Mode.step?, hbare, List.reverse_reverse, word?, hkey, if_neg Bool.false_ne_true, if_pos h,
      hbegin]
    rfl
  exact run?_append (run?_word h) (run?_singleton hstep)

/-- An identifier is read as one token, with a delimiter after it. -/
theorem run?_quoteChars (h : Closed cs) (hc : isDelimiter c) :
    run? .between (quoteChars cs ++ [c]) =
      some (.between, .id (String.ofList (spellingChars cs)) :: delimiterTokens c) := by
  obtain ⟨hbare, hbegin⟩ := begin?_of_isDelimiter hc
  rw [quoteChars, spellingChars]
  split_ifs with hword
  · rw [isBare, h.notMarkup, Bool.false_or, Bool.and_eq_true, Bool.not_eq_true'] at hword
    exact run?_bare hword.1 hword.2 hbare hbegin
  · exact run?_append (run?_quoted h.even) (run?_singleton hbegin)

/-! ### Escaped texts -/

/-- A character that stands for itself in every place. -/
def isPlain (c : Char) : Bool :=
  c ≠ '\\' && c ≠ '"' && c ≠ '<'

theorem isPlain_iff : isPlain c ↔ c ≠ '\\' ∧ c ≠ '"' ∧ c ≠ '<' := by
  simp only [isPlain, Bool.and_eq_true, decide_eq_true_eq, and_assoc]

/-- The backslashes of a text stand before a character each, and every quote and every opening angle
bracket has one before it. -/
inductive Escaped : List Char → Prop
  | nil : Escaped []
  | plain {c : Char} {cs : List Char} (hc : isPlain c) (h : Escaped cs) : Escaped (c :: cs)
  | pair (c : Char) {cs : List Char} (h : Escaped cs) : Escaped ('\\' :: c :: cs)

theorem escaped_of_isPlain (h : ∀ c ∈ cs, isPlain c) : Escaped cs := by
  induction cs with
  | nil => exact .nil
  | cons c cs ih =>
    rw [List.forall_mem_cons] at h
    exact .plain h.1 (ih h.2)

theorem escaped_of_all (h : cs.all isPlain) : Escaped cs :=
  escaped_of_isPlain (List.all_eq_true.mp h)

theorem isPlain_of_isDigit (h : c.isDigit) : isPlain c := by
  refine isPlain_iff.mpr ⟨?_, ?_, ?_⟩ <;> rintro rfl <;> exact absurd h (by decide)

/-- A text as it stands in a label is escaped. -/
theorem escaped_escapeChars (cs : List Char) : Escaped (escapeChars cs) := by
  induction cs with
  | nil => exact .nil
  | cons c cs ih =>
    rw [escapeChars, List.flatMap_cons, escapeChar]
    split_ifs with hc
    · exact .pair c ih
    · refine .plain (isPlain_iff.mpr ⟨?_, ?_, ?_⟩) ih <;> rintro rfl <;> exact hc (by decide)

namespace Escaped

theorem append (h : Escaped cs) (h' : Escaped cs') : Escaped (cs ++ cs') := by
  induction h with
  | nil => exact h'
  | plain hc _ ih => exact .plain hc ih
  | pair c _ ih => exact .pair c ih

variable (h : Escaped cs)
include h

/-- No backslash is put into an escaped text. -/
theorem protectQuotes_eq : protectQuotes false cs = cs := by
  induction h with
  | nil => rfl
  | plain hc _ ih =>
    obtain ⟨hslash, hquote, -⟩ := isPlain_iff.mp hc
    simp [protectQuotes, hslash, hquote, ih]
  | pair c _ ih => by_cases hc : c = '\\' <;> simp [protectQuotes, hc, ih]

theorem closed : Closed cs where
  notMarkup := by
    cases h with
    | nil => rfl
    | @plain c rest hc _ =>
      rw [isMarkup.eq_def]
      split
      · next heq => exact absurd (List.cons.inj heq).1 (isPlain_iff.mp hc).2.2
      · rfl
    | pair => rfl
  even := by
    induction h with
    | nil => rfl
    | plain hc _ ih => simpa [endsOdd, (isPlain_iff.mp hc).1] using ih
    | pair c _ ih => simpa [endsOdd] using ih

/-- An escaped text is spelled as it is. -/
theorem spellingChars_eq : spellingChars cs = cs := by
  rw [spellingChars, h.protectQuotes_eq, ite_self]

end Escaped

theorem spelling_eq {s : String} (h : Escaped s.toList) : spelling s = s := by
  rw [spelling, h.spellingChars_eq, String.ofList_toList]

/-! ### Texts that are not escaped -/

/-- A text that does not end in a backslash does not end in an odd number of them. -/
theorem endsOdd_concat (odd : Bool) (cs : List Char) (hc : c ≠ '\\') :
    endsOdd odd (cs ++ [c]) = false := by
  simp [endsOdd_append, endsOdd, hc]

/-- A text with a quote in the place of each pair of a backslash and a quote. -/
def plainQuotes : List Char → List Char
  | '\\' :: '"' :: rest => '"' :: plainQuotes rest
  | '\\' :: c :: rest => '\\' :: c :: plainQuotes rest
  | c :: rest => c :: plainQuotes rest
  | [] => []

theorem plainQuotes_cons (hc : c ≠ '\\') : plainQuotes (c :: cs) = c :: plainQuotes cs := by
  rw [plainQuotes] <;> exact fun _ => by simp [hc]

/-- **What is read of a text differs from it only in the spelling of its quotes.** -/
theorem plainQuotes_protectQuotes (cs : List Char) :
    plainQuotes (protectQuotes false cs) = plainQuotes cs := by
  fun_induction plainQuotes cs with
  | case1 rest ih =>
    have hread : protectQuotes false ('\\' :: '"' :: rest) =
        '\\' :: '"' :: protectQuotes false rest := by
      simp [protectQuotes]
    rw [hread, plainQuotes, ih]
  | case2 c rest hc ih =>
    have hread : protectQuotes false ('\\' :: c :: rest) =
        '\\' :: c :: protectQuotes false rest := by
      by_cases hslash : c = '\\' <;> simp [protectQuotes, hslash]
    rw [hread, plainQuotes, ih]
    exact hc
  | case3 c rest _ hpair ih =>
    by_cases hslash : c = '\\'
    · cases rest with
      | nil => rw [hslash]; rfl
      | cons d rest => exact (hpair d rest hslash rfl).elim
    · by_cases hquote : c = '"'
      · have hread : protectQuotes false (c :: rest) = '\\' :: '"' :: protectQuotes false rest := by
          simp [protectQuotes, hquote]
        rw [hread, plainQuotes, ih, hquote]
      · have hread : protectQuotes false (c :: rest) = c :: protectQuotes false rest := by
          simp [protectQuotes, hslash, hquote]
        rw [hread, plainQuotes_cons hslash, ih]
  | case4 => rfl

theorem plainQuotes_spellingChars (cs : List Char) :
    plainQuotes (spellingChars cs) = plainQuotes cs := by
  rw [spellingChars]
  split
  · rfl
  · exact plainQuotes_protectQuotes cs

end FlowAtlas.Dot
