/-!
# Identifiers of the DOT language

An identifier stands bare if it is a name, a numeral or a text between angle brackets, and between
double quotes otherwise. The keywords of the language are no names.
-/

namespace FlowAtlas.Dot

/-- A letter of the Latin alphabet or the low line. -/
def isNameStart (c : Char) : Bool :=
  c.isAlpha || c = '_'

/-- A letter, the low line or a digit. -/
def isNameChar (c : Char) : Bool :=
  c.isAlphanum || c = '_'

/-- A name begins with a letter or the low line and goes on with these and with digits. -/
def isName : List Char → Bool
  | [] => false
  | c :: rest => isNameStart c && rest.all isNameChar

/-- A fraction consists of a point and the digits of a list, all of it. -/
def isFraction (atLeast : Nat) : List Char → Bool
  | '.' :: digits => atLeast ≤ digits.length && digits.all Char.isDigit
  | _ => false

/-- A numeral without its sign: digits, with a fraction that may be empty, or a fraction that may
not. -/
def isUnsignedNumeral (cs : List Char) : Bool :=
  let rest := cs.dropWhile Char.isDigit
  if rest.length < cs.length then rest.isEmpty || isFraction 0 rest else isFraction 1 rest

/-- A numeral may have a minus sign. -/
def isNumeral : List Char → Bool
  | '-' :: rest => isUnsignedNumeral rest
  | cs => isUnsignedNumeral cs

/-- The reserved words; their case does not matter. -/
def keywords : List String :=
  ["node", "edge", "graph", "digraph", "subgraph", "strict"]

/-- A text is one of the reserved words. -/
def isKeyword (cs : List Char) : Bool :=
  keywords.contains (String.ofList (cs.map Char.toLower))

/-- A text between angle brackets. -/
def isMarkup : List Char → Bool
  | '<' :: rest => rest.getLast? = some '>'
  | _ => false

/-- A text that is an identifier without quotes around it. -/
def isBare (cs : List Char) : Bool :=
  isMarkup cs || ((isName cs || isNumeral cs) && !isKeyword cs)

/-- Puts a backslash before each quote that an odd number of backslashes does not already precede;
`odd` tells whether the backslashes just read are odd in number. -/
def protectQuotes (odd : Bool) : List Char → List Char
  | [] => []
  | c :: rest =>
    if c = '\\' then c :: protectQuotes (!odd) rest
    else if c = '"' && !odd then '\\' :: c :: protectQuotes false rest
    else c :: protectQuotes false rest

/-- A list of characters as an identifier. -/
def quoteChars (cs : List Char) : List Char :=
  if isBare cs then cs else '"' :: protectQuotes false cs ++ ['"']

/-- A text as an identifier. -/
def quote (s : String) : String :=
  String.ofList (quoteChars s.toList)

end FlowAtlas.Dot
