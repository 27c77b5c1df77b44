import FlowAtlas.Text.Range

/-!
# Blank characters
-/

namespace FlowAtlas.Text

/-- The ranges of code points of the blank characters: white space and the four information
separators. -/
def blankRanges : List (Nat × Nat) :=
  [(0x9, 0xD), (0x1C, 0x20), (0x85, 0x85), (0xA0, 0xA0), (0x1680, 0x1680), (0x2000, 0x200A),
   (0x2028, 0x2029), (0x202F, 0x202F), (0x205F, 0x205F), (0x3000, 0x3000)]

/-- Membership in the class of blank characters. -/
def isBlank (c : Char) : Bool :=
  inRanges blankRanges c

/-- A list without the elements of a class at its two ends. -/
def trimList (p : Char → Bool) (cs : List Char) : List Char :=
  (((cs.dropWhile p).reverse).dropWhile p).reverse

/-- A text without the blanks at its two ends. -/
def trimBlank (s : String) : String :=
  String.ofList (trimList isBlank s.toList)

end FlowAtlas.Text
