import FlowAtlas.Listing.Token

/-!
# Listings in colour

A terminal shows the tokens of a listing in colour. Each piece of a coloured token stands between a
sequence that switches the colour on and one that switches it off; line ends are not coloured.
-/

namespace FlowAtlas

/-- The code that switches on the colour of a kind of tokens; some kinds have none. -/
def TokenKind.colour? : TokenKind → Option String
  | heading => some "01"
  | result | argument => some "31"
  | function => some "32"
  | string => some "33"
  | keyword | number => some "34"
  | blank => some "37"
  | operator | label | punctuation | text => none

/-- The escape sequence with the given parameters. -/
def colourSequence (parameters : String) : List Char :=
  ('\x1b' :: '[' :: parameters.toList) ++ ['m']

/-- A text between the sequences of a colour. -/
def coloured (colour : Option String) (cs : List Char) : List Char :=
  match colour with
  | none => cs
  | some code => colourSequence code ++ cs ++ colourSequence "39;49;00"

namespace Token

/-- A piece of a token with its colour; a line feed at its end stays outside. -/
def colouredPiece (colour : Option String) (piece : List Char) : List Char :=
  if piece.getLast? = some '\n' then coloured colour piece.dropLast ++ ['\n']
  else coloured colour piece

/-- A token in colour. -/
def inColour (t : Token) : List Char :=
  (Text.pieces t.lexeme).flatMap (colouredPiece t.kind.colour?)

end Token

/-- A listing in colour. -/
def colouredListing (cs : List Char) : List Char :=
  (Token.allOf (normalListing cs)).flatMap Token.inColour

end FlowAtlas
