import FlowAtlas.Text.Surrogate

/-!
# UTF-8

A sequence of bytes is cut into characters and faults. A fault covers the longest start of a
character that the following bytes do not complete. Strict decoding stops at the first fault,
lenient decoding puts the replacement character in the place of each. A text is encoded unless it
holds a lone surrogate.
-/

namespace FlowAtlas.Text.Utf8

/-- Why bytes are no character. -/
inductive Reason where
  | invalidStart
  | invalidContinuation
  | unexpectedEnd
  deriving DecidableEq, Repr

/-- A run of bytes that is no character: where it begins, its first byte and its length. -/
structure Fault where
  position : Nat
  byte : UInt8
  length : Nat
  reason : Reason
  deriving DecidableEq, Repr

/-- The first piece of a sequence of bytes. -/
inductive Piece where
  | char (c : Char)
  | fault (length : Nat) (reason : Reason)
  deriving DecidableEq, Repr

/-- Reads `owed` continuation bytes, the first of them between `low` and `high`. The value of the
bits read so far is `bits`, and `used` bytes belong to them. -/
def continuation : (owed low high bits used : Nat) → List UInt8 → Piece × List UInt8
  | 0, _, _, bits, _, rest => (.char (Char.ofNat bits), rest)
  | _ + 1, _, _, _, used, [] => (.fault used .unexpectedEnd, [])
  | owed + 1, low, high, bits, used, b :: rest =>
    if low ≤ b.toNat && b.toNat ≤ high then
      continuation owed 0x80 0xBF (bits * 64 + b.toNat % 64) (used + 1) rest
    else (.fault used .invalidContinuation, b :: rest)

/-- The piece that a byte begins, and the bytes after the piece. Overlong forms, surrogates and
numbers above U+10FFFF are excluded by the range of the second byte. -/
def pieceFrom (b : UInt8) (rest : List UInt8) : Piece × List UInt8 :=
  let n := b.toNat
  if n < 0x80 then (.char (Char.ofNat n), rest)
  else if n < 0xC2 then (.fault 1 .invalidStart, rest)
  else if n < 0xE0 then continuation 1 0x80 0xBF (n - 0xC0) 1 rest
  else if n = 0xE0 then continuation 2 0xA0 0xBF 0 1 rest
  else if n = 0xED then continuation 2 0x80 0x9F 0xD 1 rest
  else if n < 0xF0 then continuation 2 0x80 0xBF (n - 0xE0) 1 rest
  else if n = 0xF0 then continuation 3 0x90 0xBF 0 1 rest
  else if n < 0xF4 then continuation 3 0x80 0xBF (n - 0xF0) 1 rest
  else if n = 0xF4 then continuation 3 0x80 0x8F 4 1 rest
  else (.fault 1 .invalidStart, rest)

theorem length_continuation_le (owed low high bits used : Nat) (rest : List UInt8) :
    (continuation owed low high bits used rest).2.length ≤ rest.length := by
  induction owed generalizing low high bits used rest with
  | zero => simp [continuation]
  | succ owed ih =>
    cases rest with
    | nil => simp [continuation]
    | cons b rest =>
      rw [continuation]
      split
      · exact Nat.le_succ_of_le (ih ..)
      · exact Nat.le_refl _

/-- A piece takes at least the byte that begins it. -/
theorem length_pieceFrom_le (b : UInt8) (rest : List UInt8) :
    (pieceFrom b rest).2.length ≤ rest.length := by
  simp only [pieceFrom]
  repeat' split
  all_goals first
    | exact Nat.le_refl _
    | exact length_continuation_le ..

/-- The characters of a sequence of bytes up to its first fault, or that fault; `position` bytes
have been read before. -/
def decodeFrom (position : Nat) : List UInt8 → Except Fault (List Char)
  | [] => .ok []
  | b :: rest =>
    let piece := pieceFrom b rest
    have := length_pieceFrom_le b rest
    match piece.1 with
    | .char c => (decodeFrom (position + 1 + rest.length - piece.2.length) piece.2).map (c :: ·)
    | .fault length reason => .error ⟨position, b, length, reason⟩
  termination_by bytes => bytes.length

/-- Strict decoding: the text that the bytes encode, or their first fault. -/
def decode (bytes : ByteArray) : Except Fault String :=
  (decodeFrom 0 bytes.toList).map String.ofList

/-- The characters of a sequence of bytes, with U+FFFD in the place of each fault. -/
def decodeLenientFrom : List UInt8 → List Char
  | [] => []
  | b :: rest =>
    let piece := pieceFrom b rest
    have := length_pieceFrom_le b rest
    match piece.1 with
    | .char c => c :: decodeLenientFrom piece.2
    | .fault _ _ => '\uFFFD' :: decodeLenientFrom piece.2
  termination_by bytes => bytes.length
  decreasing_by all_goals exact Nat.lt_succ_of_le this

/-- Lenient decoding: a text for every sequence of bytes. -/
def decodeLenient (bytes : ByteArray) : String :=
  String.ofList (decodeLenientFrom bytes.toList)

/-- A run of lone surrogates in a text: where it begins, its first code point and its length. -/
structure SurrogateRun where
  position : Nat
  codePoint : Nat
  length : Nat
  deriving DecidableEq, Repr

/-- The first run of lone surrogates in a text. -/
def surrogateRun? (s : String) : Option SurrogateRun :=
  let before := s.toList.takeWhile (!isSurrogate ·)
  match (s.toList.dropWhile (!isSurrogate ·)).takeWhile isSurrogate with
  | [] => none
  | c :: more => some ⟨before.length, codePoint c, more.length + 1⟩

/-- The bytes that encode a text, or its first run of lone surrogates. -/
def encode (s : String) : Except SurrogateRun ByteArray :=
  match surrogateRun? s with
  | none => .ok s.toUTF8
  | some run => .error run

end FlowAtlas.Text.Utf8
