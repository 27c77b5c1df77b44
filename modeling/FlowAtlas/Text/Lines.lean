/-!
# Lines and line ends

A text read from outside may end its lines with LF, CR or CR LF; `unifyLineEnds` leaves LF alone.
A terminal knows more line ends than LF; `pieces` cuts after each of them.
-/

namespace FlowAtlas.Text

/-- Each CR LF and each remaining CR becomes one LF. -/
def unifyLineEnds : List Char → List Char
  | [] => []
  | '\r' :: '\n' :: rest => '\n' :: unifyLineEnds rest
  | c :: rest => (if c = '\r' then '\n' else c) :: unifyLineEnds rest

/-- The characters other than CR after which a line ends: LF, the vertical tab, the form feed, the
file, group and record separators, the next line character and the two Unicode separators. -/
def endsLine (c : Char) : Bool :=
  ['\n', '\x0b', '\x0c', '\x1c', '\x1d', '\x1e', '\u0085', '\u2028', '\u2029'].contains c

/-- The pieces of a text without CR, each cut after its line end; `line` holds the characters of
the piece that has begun, the latest first. -/
def piecesFrom (line : List Char) : List Char → List (List Char)
  | [] => if line.isEmpty then [] else [line.reverse]
  | c :: rest =>
    if endsLine c then (c :: line).reverse :: piecesFrom [] rest else piecesFrom (c :: line) rest

/-- The pieces of a text without CR, each cut after its line end; no piece is empty. -/
def pieces (cs : List Char) : List (List Char) :=
  piecesFrom [] cs

/-- Joining the pieces gives the text back. -/
theorem flatten_piecesFrom (line cs : List Char) :
    (piecesFrom line cs).flatten = line.reverse ++ cs := by
  induction cs generalizing line with
  | nil => by_cases h : line = [] <;> simp [piecesFrom, h]
  | cons c rest ih => by_cases h : endsLine c <;> simp [piecesFrom, h, ih]

theorem flatten_pieces (cs : List Char) : (pieces cs).flatten = cs :=
  flatten_piecesFrom [] cs

end FlowAtlas.Text
