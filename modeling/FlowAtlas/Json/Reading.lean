import FlowAtlas.Failure
import FlowAtlas.Json
import FlowAtlas.Text.Hex
import FlowAtlas.Text.Sign
import FlowAtlas.Text.Surrogate

/-!
# Reading JSON

Reading goes through the characters of a text from left to right. Every reading function returns
what it has read with the characters that follow, and these are fewer than it was given, so that
reading ends. A text that is no document is reported with the place where reading stopped. Arrays
and objects inside one another are read up to a count of levels.
-/

namespace FlowAtlas.Json

open Decimal (Binary64)

/-- Why reading stopped: a complaint, with the characters from its place on, or an integer with too
many digits, or an array or object below too many others. -/
inductive Stop where
  | complaint (complaint : Complaint) (rest : List Char)
  | tooManyDigits (count : Nat)
  | tooDeep

/-- The characters after something that has been read. -/
abbrev Rest (cs : List Char) := { rest : List Char // rest.length < cs.length }

/-- The white space of JSON. -/
def isSpace (c : Char) : Bool :=
  c = ' ' || c = '\t' || c = '\n' || c = '\r'

theorem length_dropWhile_le (p : Char → Bool) (cs : List Char) :
    (cs.dropWhile p).length ≤ cs.length :=
  (List.dropWhile_suffix p).length_le

/-- The characters after white space. -/
def skipSpace (cs : List Char) : { rest : List Char // rest.length ≤ cs.length } :=
  ⟨cs.dropWhile isSpace, length_dropWhile_le isSpace cs⟩

/-- The characters after a given first one. -/
def after? (c : Char) : (cs : List Char) → Option (Rest cs)
  | [] => none
  | d :: rest => if d = c then some ⟨rest, Nat.lt_succ_self _⟩ else none

/-! ## Texts -/

/-- The character that an escape sequence of two characters stands for. -/
def simpleEscape? (c : Char) : Option Char :=
  [('"', '"'), ('\\', '\\'), ('/', '/'), ('b', '\x08'), ('f', '\x0c'), ('n', '\n'), ('r', '\r'),
    ('t', '\t')].lookup c

/-- The number that hexadecimal digits write. -/
def hexNumber? (digits : List Char) : Option Nat :=
  digits.foldlM (fun n c => (Text.hexValue? c).map (16 * n + ·)) 0

/-- The first half of a pair of escape sequences. -/
def isHighSurrogate (n : Nat) : Bool :=
  0xD800 ≤ n && n < 0xDC00

/-- The second half of a pair of escape sequences. -/
def isLowSurrogate (n : Nat) : Bool :=
  0xDC00 ≤ n && n < 0xE000

/-- The character of a code unit, which may be half of a pair. -/
def unitChar (n : Nat) : Char :=
  if isHighSurrogate n || isLowSurrogate n then Text.surrogate n else Char.ofNat n

/-- Reads four hexadecimal digits. At least one character has to follow them. -/
def hexUnit? (cs : List Char) : Option (Nat × Rest cs) :=
  match cs with
  | a :: b :: c :: d :: next :: more =>
    (hexNumber? [a, b, c, d]).map (·, ⟨next :: more, by simp⟩)
  | _ => none

/-- Reads the rest of an escape sequence after its `u`, and the second sequence of a pair. -/
def unicodeEscape (cs : List Char) : Except Stop (Char × Rest cs) :=
  match hexUnit? cs with
  | none => .error (.complaint .unicodeEscape ('u' :: cs))
  | some (unit, ⟨rest, lt⟩) =>
    let second? : Option (Rest rest) := do
      let ⟨afterMark, lt₁⟩ ← after? '\\' rest
      let ⟨afterU, lt₂⟩ ← after? 'u' afterMark
      if isHighSurrogate unit then some ⟨afterU, Nat.lt_trans lt₂ lt₁⟩ else none
    match second? with
    | none => .ok (unitChar unit, ⟨rest, lt⟩)
    | some ⟨afterU, lt₁⟩ =>
      match hexUnit? afterU with
      | none => .error (.complaint .unicodeEscape ('u' :: afterU))
      | some (second, ⟨final, lt₂⟩) =>
        if isLowSurrogate second then
          .ok (Char.ofNat (0x10000 + (unit - 0xD800) * 0x400 + (second - 0xDC00)),
            ⟨final, by omega⟩)
        else .ok (unitChar unit, ⟨rest, lt⟩)

/-- Reads the rest of an escape sequence after its backslash. -/
def escapeSequence (opening cs : List Char) : Except Stop (Char × Rest cs) :=
  match cs with
  | [] => .error (.complaint .unterminatedString opening)
  | c :: rest =>
    if c = 'u' then
      (unicodeEscape rest).map fun (d, ⟨final, lt⟩) => (d, ⟨final, Nat.lt_succ_of_lt lt⟩)
    else
      match simpleEscape? c with
      | none => .error (.complaint .escape ('\\' :: c :: rest))
      | some d => .ok (d, ⟨rest, Nat.lt_succ_self _⟩)

/-- Reads a text after its opening quote. `opening` begins with that quote, and `read` holds the
characters read so far, the latest first. -/
def textFrom (opening read cs : List Char) : Except Stop (String × Rest cs) :=
  match cs with
  | [] => .error (.complaint .unterminatedString opening)
  | c :: rest =>
    if c = '"' then .ok (String.ofList read.reverse, ⟨rest, Nat.lt_succ_self _⟩)
    else if c = '\\' then
      match escapeSequence opening rest with
      | .error stop => .error stop
      | .ok (d, ⟨next, lt⟩) =>
        (textFrom opening (d :: read) next).map fun (s, ⟨final, lt₁⟩) =>
          (s, ⟨final, by simp; omega⟩)
    else if c.toNat < 0x20 then .error (.complaint .controlCharacter (c :: rest))
    else
      (textFrom opening (c :: read) rest).map fun (s, ⟨final, lt⟩) =>
        (s, ⟨final, Nat.lt_succ_of_lt lt⟩)
  termination_by cs.length

/-- Reads a text from its opening quote on, if there is one. -/
def textLiteral? (cs : List Char) : Option (Except Stop (String × Rest cs)) :=
  match after? '"' cs with
  | none => none
  | some ⟨rest, lt⟩ =>
    some ((textFrom cs [] rest).map fun (s, ⟨final, lt₁⟩) => (s, ⟨final, Nat.lt_trans lt₁ lt⟩))

/-! ## Numbers -/

/-- The digits at the start of a text and what follows them. -/
def spanDigits (cs : List Char) : List Char × List Char :=
  (cs.takeWhile Char.isDigit, cs.dropWhile Char.isDigit)

theorem length_spanDigits (cs : List Char) :
    (spanDigits cs).1.length + (spanDigits cs).2.length = cs.length := by
  rw [spanDigits, ← List.length_append, List.takeWhile_append_dropWhile]

/-- The digits after a point, if there are any; a point without digits is not read. -/
def fraction (cs : List Char) : List Char × List Char :=
  match cs with
  | '.' :: rest =>
    let (digits, rest') := spanDigits rest
    if digits.isEmpty then ([], cs) else (digits, rest')
  | _ => ([], cs)

theorem length_fraction_le (cs : List Char) : (fraction cs).2.length ≤ cs.length := by
  unfold fraction
  split
  · next rest =>
    have := length_spanDigits rest
    grind
  · exact Nat.le_refl _

/-- The sign and the digits after an exponent mark; a mark without digits is not read. -/
def exponent? (cs : List Char) : Option (Int × List Char) :=
  match cs with
  | mark :: rest =>
    if mark = 'e' || mark = 'E' then
      let (negative, rest) := Text.splitSign rest
      let (digits, rest) := spanDigits rest
      if digits.isEmpty then none
      else some (Binary64.signed negative (Nat.ofDigitChars 10 digits 0), rest)
    else none
  | [] => none

theorem length_exponent?_le {cs rest : List Char} {n : Int} (h : exponent? cs = some (n, rest)) :
    rest.length ≤ cs.length := by
  unfold exponent? at h
  split at h
  · next tail =>
    have := Text.length_splitSign_le tail
    have := length_spanDigits (Text.splitSign tail).2
    grind
  · simp at h

/-- The digits of an integer without a superfluous zero in front, and what follows them. -/
def integerDigits? (cs : List Char) : Option (List Char × List Char) :=
  match cs with
  | '0' :: rest => some (['0'], rest)
  | _ =>
    let (digits, rest) := spanDigits cs
    if digits.isEmpty then none else some (digits, rest)

theorem length_integerDigits?_lt {cs digits rest : List Char}
    (h : integerDigits? cs = some (digits, rest)) : rest.length < cs.length := by
  unfold integerDigits? at h
  split at h
  · grind
  · have := length_spanDigits cs
    have : (spanDigits cs).1 ≠ [] := by grind
    have := List.length_pos_iff.2 this
    grind

/-- A number whose parts have been read: a floating-point number if it has a fraction or an
exponent, and an integer otherwise. -/
def numberOf (negative : Bool) (digits decimals : List Char) (exponent : Option Int) :
    Except Stop Json :=
  if decimals.isEmpty && exponent.isNone then
    if digits.length > digitLimit then .error (.tooManyDigits digits.length)
    else .ok (.int (Binary64.signed negative (Nat.ofDigitChars 10 digits 0)))
  else
    .ok (.float (Binary64.ofDecimal negative (Nat.ofDigitChars 10 (digits ++ decimals) 0)
      (exponent.getD 0 - decimals.length)))

/-- Reads a number. -/
def number? (cs : List Char) : Option (Except Stop Json × List Char) :=
  let (negative, body) := match cs with
    | '-' :: rest => (true, rest)
    | _ => (false, cs)
  match integerDigits? body with
  | none => none
  | some (digits, rest) =>
    let (decimals, rest) := fraction rest
    match exponent? rest with
    | none => some (numberOf negative digits decimals none, rest)
    | some (exponent, rest) => some (numberOf negative digits decimals (some exponent), rest)

/-- A number has at least one digit. -/
theorem length_number?_lt {cs rest : List Char} {v : Except Stop Json}
    (h : number? cs = some (v, rest)) : rest.length < cs.length := by
  unfold number? at h
  simp only at h
  split at h
  · simp at h
  · next digits after read =>
    have := length_integerDigits?_lt read
    have := length_fraction_le after
    have : rest.length ≤ (fraction after).2.length := by
      split at h
      · grind
      · next read => grind [length_exponent?_le read]
    grind

/-! ## Values -/

/-- The words that are values. -/
def words : List (List Char × Json) :=
  [("null".toList, .null), ("true".toList, .bool true), ("false".toList, .bool false),
    ("NaN".toList, .float .notANumber), ("Infinity".toList, .float (.infinite false)),
    ("-Infinity".toList, .float (.infinite true))]

theorem ne_nil_of_mem_words : ∀ entry ∈ words, entry.1 ≠ [] := by
  simp [words]

/-- A text has fewer characters after a word than with it. -/
theorem length_drop_word_lt {cs word : List Char} {v : Json}
    (h : words.find? (fun (word, _) => word.isPrefixOf cs) = some (word, v)) :
    (cs.drop word.length).length < cs.length := by
  have starts : word <+: cs := by simpa using List.find?_some h
  have word_ne : word ≠ [] := ne_nil_of_mem_words _ (List.mem_of_find?_eq_some h)
  have := List.length_pos_iff.2 word_ne
  have := starts.length_le
  simp only [List.length_drop]
  omega

/-- Reads a word or a number. -/
def scalar (cs : List Char) : Except Stop (Json × Rest cs) :=
  match word : words.find? fun (word, _) => word.isPrefixOf cs with
  | some (w, v) => .ok (v, ⟨cs.drop w.length, length_drop_word_lt word⟩)
  | none =>
    match number : number? cs with
    | none => .error (.complaint .value cs)
    | some (v, rest) => v.map (·, ⟨rest, length_number?_lt number⟩)

mutual

/-- Reads a value of at most so many levels, with no white space before it. -/
def value (levels : Nat) (cs : List Char) : Except Stop (Json × Rest cs) :=
  match textLiteral? cs with
  | some text => text.map fun (s, rest) => (.str s, rest)
  | none =>
    match after? '\x7b' cs, after? '[' cs, levels with
    | none, none, _ => scalar cs
    | _, _, 0 => .error .tooDeep
    | some ⟨inner, lt⟩, _, levels + 1 =>
      let ⟨start, le⟩ := skipSpace inner
      match after? '\x7d' start with
      | some ⟨final, lt₁⟩ => .ok (.obj [], ⟨final, by omega⟩)
      | none =>
        (members levels start).map fun (members, ⟨final, lt₁⟩) =>
          (.obj (members.foldl (fun all (key, v) => putMember all key v) []), ⟨final, by omega⟩)
    | none, some ⟨inner, lt⟩, levels + 1 =>
      let ⟨start, le⟩ := skipSpace inner
      match after? ']' start with
      | some ⟨final, lt₁⟩ => .ok (.arr [], ⟨final, by omega⟩)
      | none =>
        (items levels start).map fun (items, ⟨final, lt₁⟩) => (.arr items, ⟨final, by omega⟩)
  termination_by (cs.length, 0)
  decreasing_by all_goals exact .left _ _ (by omega)

/-- Reads the items of an array, each of at most so many levels, up to its closing bracket, with no
white space before the first. -/
def items (levels : Nat) (cs : List Char) : Except Stop (List Json × Rest cs) :=
  match value levels cs with
  | .error stop => .error stop
  | .ok (v, ⟨rest, lt⟩) =>
    let ⟨next, le⟩ := skipSpace rest
    match after? ']' next with
    | some ⟨final, lt₁⟩ => .ok ([v], ⟨final, by omega⟩)
    | none =>
      match after? ',' next with
      | none => .error (.complaint .comma next)
      | some ⟨afterComma, lt₁⟩ =>
        let ⟨start, le₁⟩ := skipSpace afterComma
        (items levels start).map fun (more, ⟨final, lt₂⟩) => (v :: more, ⟨final, by omega⟩)
  termination_by (cs.length, 1)
  decreasing_by
    · exact .right _ (by omega)
    · exact .left _ _ (by omega)

/-- Reads the members of an object, each of at most so many levels, up to its closing brace, with no
white space before the first. -/
def members (levels : Nat) (cs : List Char) : Except Stop (List (String × Json) × Rest cs) :=
  match textLiteral? cs with
  | none => .error (.complaint .propertyName cs)
  | some (.error stop) => .error stop
  | some (.ok (key, ⟨afterKey, lt⟩)) =>
    let ⟨mark, le⟩ := skipSpace afterKey
    match after? ':' mark with
    | none => .error (.complaint .colon mark)
    | some ⟨afterColon, lt₁⟩ =>
      let ⟨start, le₁⟩ := skipSpace afterColon
      match value levels start with
      | .error stop => .error stop
      | .ok (v, ⟨rest, lt₂⟩) =>
        let ⟨next, le₂⟩ := skipSpace rest
        match after? '\x7d' next with
        | some ⟨final, lt₃⟩ => .ok ([(key, v)], ⟨final, by omega⟩)
        | none =>
          match after? ',' next with
          | none => .error (.complaint .comma next)
          | some ⟨afterComma, lt₃⟩ =>
            let ⟨again, le₃⟩ := skipSpace afterComma
            (members levels again).map fun (more, ⟨final, lt₄⟩) => ((key, v) :: more, ⟨final, by omega⟩)
  termination_by (cs.length, 1)
  decreasing_by all_goals exact .left _ _ (by omega)

end

/-- Reads a document: a value of at most so many levels, with nothing but white space around it. -/
def document (levels : Nat) (cs : List Char) : Except Stop Json :=
  if (after? '\uFEFF' cs).isSome then .error (.complaint .byteOrderMark cs)
  else
    match value levels (skipSpace cs).1 with
    | .error stop => .error stop
    | .ok (v, ⟨rest, _⟩) =>
      let extra := (skipSpace rest).1
      if extra.isEmpty then .ok v else .error (.complaint .extraData extra)

/-- Why a text is no JSON document, or has too long a number or too many levels. -/
inductive Trouble where
  | flaw (flaw : Flaw)
  | tooManyDigits (count : Nat)
  | tooDeep
  deriving DecidableEq, Repr

/-- The value that a text writes. -/
def parse (text : String) : Except Trouble Json :=
  let cs := text.toList
  match document levelLimit cs with
  | .ok v => .ok v
  | .error (.complaint complaint rest) =>
    .error (.flaw (.after complaint (cs.take (cs.length - rest.length))))
  | .error (.tooManyDigits count) => .error (.tooManyDigits count)
  | .error .tooDeep => .error .tooDeep

end FlowAtlas.Json
