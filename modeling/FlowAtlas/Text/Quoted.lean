import FlowAtlas.Text.Hex
import FlowAtlas.Text.Printable
import FlowAtlas.Text.Surrogate

/-!
# Quoted texts

A quoted text stands between single quotes, or between double quotes when it holds a single quote
and no double one. The backslash, the surrounding quote and the characters that are not printable
are written as escape sequences.
-/

namespace FlowAtlas.Text

/-- The quote that surrounds a text. -/
def surroundingQuote (cs : List Char) : Char :=
  if cs.contains '\'' && !cs.contains '"' then '"' else '\''

/-- The form of one character between two quotes of the given kind. A character that is not
printable is written by its code point with two, four or eight hexadecimal digits. -/
def quotedChar (quote c : Char) : List Char :=
  if c = '\\' || c = quote then ['\\', c]
  else if c = '\n' then ['\\', 'n']
  else if c = '\r' then ['\\', 'r']
  else if c = '\t' then ['\\', 't']
  else if isPrintable c then [c]
  else if codePoint c < 0x100 then '\\' :: 'x' :: hexDigits 2 (codePoint c)
  else if codePoint c < 0x10000 then '\\' :: 'u' :: hexDigits 4 (codePoint c)
  else '\\' :: 'U' :: hexDigits 8 (codePoint c)

/-- A text between quotes. -/
def quoted (s : String) : String :=
  let quote := surroundingQuote s.toList
  String.ofList (quote :: s.toList.flatMap (quotedChar quote) ++ [quote])

end FlowAtlas.Text
