/-!
# Escaping in record labels

In the label of a record node, braces, angle brackets, bars, quotes, backslashes and line ends have
a meaning of their own. A backslash before each of them takes that meaning away.
-/

namespace FlowAtlas.Dot

/-- The characters with a meaning in record labels. -/
def specials : List Char :=
  ['\\', '\x7b', '\x7d', '<', '>', '|', '"', '\n']

/-- A character as it stands in a label: a backslash precedes a special one. -/
def escapeChar (c : Char) : List Char :=
  if specials.contains c then ['\\', c] else [c]

/-- A list of characters as it stands in a label. -/
def escapeChars (cs : List Char) : List Char :=
  cs.flatMap escapeChar

/-- A text as it stands in a label. -/
def escape (s : String) : String :=
  String.ofList (escapeChars s.toList)

/-- Escaping works character by character. -/
theorem escapeChars_append (s t : List Char) :
    escapeChars (s ++ t) = escapeChars s ++ escapeChars t := by
  simp [escapeChars]

theorem escape_append (s t : String) : escape (s ++ t) = escape s ++ escape t := by
  simp [escape, escapeChars_append, String.ofList_append]

/-- Reads a label left to right and drops the backslash of each pair of a backslash and the
character after it. -/
def unescapeChars : List Char → List Char
  | '\\' :: c :: rest => c :: unescapeChars rest
  | c :: rest => c :: unescapeChars rest
  | [] => []

/-- A text read back from a label. -/
def unescape (s : String) : String :=
  String.ofList (unescapeChars s.toList)

end FlowAtlas.Dot
