import FlowAtlas.Text.Blank
import FlowAtlas.Text.Digit
import FlowAtlas.Text.Lines
import FlowAtlas.Text.Word

/-!
# The tokens of a listing

A listing is cut into runs from left to right. The kinds of runs are tried in a fixed order, and the
first one that fits gives the run; any character but a line feed that fits nothing else is a run of
its own. A heading is cut once more, after the words that open it. The tokens are the runs that are
not blank.
-/

namespace FlowAtlas

open Text

/-- The kinds of tokens. -/
inductive TokenKind where
  /-- A line with the name of a listing or of a drawing. -/
  | heading
  /-- An arrow. -/
  | operator
  /-- The number of a block. -/
  | label
  /-- The number of a statement. -/
  | result
  /-- The number of an argument. -/
  | argument
  | keyword
  | function
  | number
  | string
  | punctuation
  | blank
  | text
  deriving DecidableEq, Repr

/-- A token. -/
structure Token where
  kind : TokenKind
  lexeme : List Char
  deriving DecidableEq, Repr

namespace TokenKind

/-- The words that open a heading. -/
def headingWords : List (List Char) :=
  ["IRCodeView of".toList, "CFG of".toList, "Dominator tree for".toList]

/-- The keywords of control statements. -/
def keywords : List (List Char) :=
  ["goto".toList, "if not".toList, "return".toList, "unreachable".toList, "enter".toList,
   "leave".toList, "pop_exception".toList, "detach".toList, "reattach".toList, "sync".toList,
   "within".toList]

/-- A character that may begin the name of a function. -/
def beginsName (c : Char) : Bool :=
  c.isAlpha || c = '_'

/-- A character that may stand in the name of a function. -/
def inName (c : Char) : Bool :=
  c.isAlphanum || c = '_'

/-- No word goes on over the edge between a word character and this neighbour. -/
def endsWord (neighbour : Option Char) : Bool :=
  !neighbour.any isWord

/-- The count of the decimal digits at the head of a text, if there are any. -/
def digitCount? (cs : List Char) : Option Nat :=
  match (cs.takeWhile isDecimalDigit).length with
  | 0 => none
  | n => some n

/-- The further characters of a number that begins with a digit: more digits, and a full stop if a
digit follows it. -/
def numberExtent (rest : List Char) : Nat :=
  let whole := (rest.takeWhile isDecimalDigit).length
  match rest.drop whole with
  | '.' :: decimals =>
    match digitCount? decimals with
    | some n => whole + 1 + n
    | none => whole
  | _ => whole

/-- The further characters of a text between two quotes on one line. -/
def stringExtent? (quote : Char) (rest : List Char) : Option Nat :=
  let inside := (rest.takeWhile fun c => c ≠ quote && c ≠ '\n').length
  if rest[inside]? = some quote then some (inside + 1) else none

/-- The further characters of the run of a kind, without its first character `c`. A run depends on
the character before it and on those that follow. -/
def extent? (before : Option Char) (c : Char) (rest : List Char) : TokenKind → Option Nat
  | heading =>
    if (before.isNone || before = some '\n') && headingWords.any (·.isPrefixOf (c :: rest)) then
      some (rest.takeWhile (· ≠ '\n')).length
    else none
  | operator => if c = '→' || c = '⇒' then some 0 else none
  | label => if c = '#' then digitCount? rest else none
  | result => if c = '%' then digitCount? rest else none
  | argument =>
    if c = '_' && endsWord before then
      (digitCount? rest).filter fun n => endsWord rest[n]?
    else none
  | keyword =>
    if endsWord before then
      keywords.findSome? fun word =>
        if word.isPrefixOf (c :: rest) && endsWord rest[word.length - 1]? then
          some (word.length - 1)
        else none
    else none
  | function =>
    if beginsName c then
      let n := (rest.takeWhile inName).length
      if rest[n]? = some '(' then some n else none
    else none
  | number => if isDecimalDigit c then some (numberExtent rest) else none
  | string => if c = '\'' || c = '"' then stringExtent? c rest else none
  | punctuation => if ['(', ')', ',', '='].contains c then some 0 else none
  | blank => if isBlank c then some (rest.takeWhile isBlank).length else none
  | text => if c = '\n' then none else some 0

/-- The kinds in the order in which they are tried. -/
def precedence : List TokenKind :=
  [heading, operator, label, result, argument, keyword, function, number, string, punctuation,
   blank, text]

/-- The kind of the run at the head of a text and the count of its further characters. -/
def firstRun (before : Option Char) (c : Char) (rest : List Char) : TokenKind × Nat :=
  (precedence.findSome? fun kind => (kind.extent? before c rest).map (kind, ·)).getD (text, 0)

end TokenKind

namespace Token

/-- The runs of a text, where `before` is the character before it. -/
def runsFrom (before : Option Char) : List Char → List Token
  | [] => []
  | c :: rest =>
    let (kind, n) := TokenKind.firstRun before c rest
    let lexeme := c :: rest.take n
    ⟨kind, lexeme⟩ :: runsFrom lexeme.getLast? (rest.drop n)
  termination_by cs => cs.length

/-- The count of the characters of the words that open a heading. -/
def openingLength (lexeme : List Char) : Nat :=
  ((TokenKind.headingWords.find? (·.isPrefixOf lexeme)).map List.length).getD 0

/-- A heading is cut after its opening words, and the rest of the line is a heading of its own; any
other run is one token. -/
def parts (run : Token) : List Token :=
  if run.kind = .heading then
    let n := openingLength run.lexeme
    [run.lexeme.take n, run.lexeme.drop n].filterMap fun lexeme =>
      if lexeme.isEmpty then none else some ⟨.heading, lexeme⟩
  else [run]

/-- All tokens of a text, the blank ones included. -/
def allOf (cs : List Char) : List Token :=
  (runsFrom none cs).flatMap parts

end Token

/-- The form in which a listing is read: one byte order mark at its head is dropped, all lines end
in LF, and there is no empty line at either end. -/
def normalListing (cs : List Char) : List Char :=
  let body := match cs with
    | '\ufeff' :: rest => rest
    | cs => cs
  trimList (· = '\n') (unifyLineEnds body) ++ ['\n']

/-- The tokens of a listing. -/
def listingTokens (cs : List Char) : List Token :=
  (Token.allOf (normalListing cs)).filter (·.kind ≠ .blank)

end FlowAtlas
