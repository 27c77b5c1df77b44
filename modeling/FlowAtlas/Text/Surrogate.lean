import FlowAtlas.Text.Hex

/-!
# Lone surrogates

A text may hold one half of a surrogate pair without the other. No character is such a half, and
none can be encoded. It is held as the private-use character that lies 0x100000 above it. The
characters from U+10D800 to U+10DFFF stand for these halves only.
-/

namespace FlowAtlas.Text

/-- The distance of a lone surrogate from the character that it is held as. -/
def surrogateOffset : Nat := 0x100000

/-- The character that a lone surrogate is held as. -/
def surrogate (unit : Nat) : Char :=
  Char.ofNat (surrogateOffset + unit)

/-- A character stands for a lone surrogate. -/
def isSurrogate (c : Char) : Bool :=
  0x10D800 ≤ c.toNat && c.toNat < 0x10E000

/-- The code point of a character, which for a lone surrogate is its own. -/
def codePoint (c : Char) : Nat :=
  if isSurrogate c then c.toNat - surrogateOffset else c.toNat

/-- A text with its lone surrogates written as escape sequences. -/
def escapeSurrogates (s : String) : String :=
  String.ofList (s.toList.flatMap fun c =>
    if isSurrogate c then '\\' :: 'u' :: hexDigits 4 (codePoint c) else [c])

end FlowAtlas.Text
