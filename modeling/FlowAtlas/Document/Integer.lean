import FlowAtlas.Failure
import FlowAtlas.Json
import FlowAtlas.Text.Digit
import FlowAtlas.Text.Sign

/-!
# Integers in documents

Where a document is expected to hold an integer, it may also hold a truth value, a floating-point
number, the fraction of which is dropped, or a text that writes an integer in the digits of any
script.
-/

namespace FlowAtlas

/-- A blank that may surround an integer in a text. The information separators are not among
them. -/
def isMargin (c : Char) : Bool :=
  Text.isBlank c && !(0x1C ≤ c.toNat && c.toNat ≤ 0x1F)

/-- A decimal digit or the low line that may stand between two digits. -/
def isNumeralChar (c : Char) : Bool :=
  Text.isDecimalDigit c || c = '_'

/-- Single low lines separate groups of digits, none of which is empty. -/
def isGrouped (run : List Char) : Bool :=
  (run.splitOn '_').all (!·.isEmpty)

/-- The integer that a text writes: blanks, a sign, groups of digits, blanks. Too many digits are
reported before anything that is wrong after them. -/
def integerOfText (s : String) : Except NumeralFlaw Int :=
  let (negative, body) := Text.splitSign (s.toList.dropWhile isMargin)
  let run := body.takeWhile isNumeralChar
  let digits := run.filter Text.isDecimalDigit
  if !isGrouped run then .error (.notALiteral s)
  else if digits.length > digitLimit then .error (.tooManyDigits digits.length)
  else if !(body.dropWhile isNumeralChar).all isMargin then .error (.notALiteral s)
  else .ok (Decimal.Binary64.signed negative (Text.decimalValue digits))

/-- The integer that a JSON value stands for. -/
def Json.toInteger : Json → Except NumeralFlaw Int
  | .bool b => .ok (if b then 1 else 0)
  | .int n => .ok n
  | .float (.finite negative significand exponent) =>
    .ok (Decimal.Binary64.truncate negative significand exponent)
  | .float (.infinite _) => .error .infinite
  | .float .notANumber => .error .notANumber
  | .str s => integerOfText s
  | j => .error (.wrongType j.typeName)

end FlowAtlas
