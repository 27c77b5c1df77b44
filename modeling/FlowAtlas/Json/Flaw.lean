/-!
# What is wrong with a text that is no JSON document
-/

namespace FlowAtlas.Json

/-- What a reader of JSON found missing or misplaced. -/
inductive Complaint where
  | value
  | extraData
  | propertyName
  | colon
  | comma
  | unterminatedString
  | controlCharacter
  | escape
  | unicodeEscape
  | byteOrderMark
  deriving DecidableEq, Repr

/-- The wording of a complaint. -/
def Complaint.message : Complaint → String
  | .value => "Expecting value"
  | .extraData => "Extra data"
  | .propertyName => "Expecting property name enclosed in double quotes"
  | .colon => "Expecting ':' delimiter"
  | .comma => "Expecting ',' delimiter"
  | .unterminatedString => "Unterminated string starting at"
  | .controlCharacter => "Invalid control character at"
  | .escape => "Invalid \\escape"
  | .unicodeEscape => "Invalid \\uXXXX escape"
  | .byteOrderMark => "Unexpected UTF-8 BOM (decode using utf-8-sig)"

/-- A complaint about a place in a text. The position counts characters from zero, line and column
count from one. -/
structure Flaw where
  complaint : Complaint
  line : Nat
  column : Nat
  position : Nat
  deriving DecidableEq, Repr

/-- The flaw of a text at the end of one of its starts. -/
def Flaw.after (complaint : Complaint) (start : List Char) : Flaw where
  complaint := complaint
  line := start.count '\n' + 1
  column := (start.reverse.takeWhile (· != '\n')).length + 1
  position := start.length

/-- The wording of a flaw. -/
def Flaw.message (f : Flaw) : String :=
  f.complaint.message ++ ": line " ++ toString f.line ++ " column " ++ toString f.column ++
    " (char " ++ toString f.position ++ ")"

end FlowAtlas.Json
