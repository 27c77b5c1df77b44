/-!
# Paths

A path is read as a list of names, without empty names and full stops that stand alone. The suffix
of a name begins at its last full stop, unless that is the first or the last character.
-/

namespace FlowAtlas

/-- A path: its root, which is empty unless the path is absolute, and its names. -/
structure Path where
  root : String
  names : List String
  deriving DecidableEq, Repr

namespace Path

/-- The characters of a text between the separators. -/
def splitAt (separator : Char) (cs : List Char) : List String :=
  (cs.splitOn separator).map String.ofList

/-- Exactly two slashes at the head are a root of their own; any other count is the same as one. -/
def rootOf (cs : List Char) : String :=
  match (cs.takeWhile (· = '/')).length with
  | 0 => ""
  | 2 => "//"
  | _ => "/"

/-- The path that a text names. -/
def ofString (s : String) : Path where
  root := rootOf s.toList
  names := (splitAt '/' s.toList).filter fun name => !name.isEmpty && name ≠ "."

/-- The text of a path; the path without root and names is a full stop. -/
def text (p : Path) : String :=
  if p.root.isEmpty && p.names.isEmpty then "."
  else p.root ++ "/".intercalate p.names

/-- The last name of a path, if it has any. -/
def name (p : Path) : String :=
  p.names.getLast?.getD ""

/-- The suffix of the last name, with its full stop; it is empty if there is none. -/
def suffix (p : Path) : String :=
  let reversed := p.name.toList.reverse
  let extension := reversed.takeWhile (· ≠ '.')
  match reversed.drop extension.length with
  | '.' :: _ :: _ =>
    if extension.isEmpty then "" else String.ofList ('.' :: extension.reverse)
  | _ => ""

end Path

end FlowAtlas
