import FlowAtlas.Decimal.Binary64

/-!
# The shortest decimal digits of a number

A decimal number stands for the floating-point number that it rounds to. Among the decimal numbers
that stand for a given number, those with the fewest digits are sought, and of them the nearest;
two of the same distance are told apart by an even last digit.
-/

namespace FlowAtlas.Decimal

/-- The interval of the numbers that round to `significand * 2 ^ exponent`, in quarters of its last
place: the lower end, the number, the upper end. The ends belong to it when the significand is even.
Below a power of two the neighbours are twice as close. -/
structure Quarters where
  low : Nat
  middle : Nat
  high : Nat
  closed : Bool
  /-- The quarter of the last place is two to this power. -/
  exponent : Int

/-- The interval that rounds to a positive number. -/
def Quarters.of (significand : Nat) (exponent : Int) : Quarters where
  low := if significand = Nat.pow 2 52 && exponent > Binary64.leastExponent
    then 4 * significand - 1 else 4 * significand - 2
  middle := 4 * significand
  high := 4 * significand + 2
  closed := significand % 2 = 0
  exponent := exponent - 2

/-- The common scale on which quarters of a last place and units of a power of ten are integers:
the factors of the two. -/
def scales (binary decimal : Int) : Nat × Nat :=
  (Nat.pow 2 binary.toNat * Nat.pow 10 (-decimal).toNat,
   Nat.pow 10 decimal.toNat * Nat.pow 2 (-binary).toNat)

/-- A decimal number with digits and a power of ten. -/
structure Candidate where
  digits : Nat
  exponent : Int
  deriving DecidableEq, Repr

/-- The number on the grid of a power of ten that stands for the interval: of the two neighbours
of its middle the one inside, the nearer if both are, and the even one of two equally near. -/
def onGrid? (q : Quarters) (exponent : Int) : Option Candidate :=
  let (binary, decimal) := scales q.exponent exponent
  let middle := q.middle * binary
  let inside (digits : Nat) : Bool :=
    let d := digits * decimal
    if q.closed then q.low * binary ≤ d && d ≤ q.high * binary
    else q.low * binary < d && d < q.high * binary
  let below := middle / decimal
  let above := below + 1
  let fromBelow := middle - below * decimal
  let fromAbove := above * decimal - middle
  let chosen :=
    if inside below && inside above then
      if fromBelow < fromAbove || (fromBelow = fromAbove && below % 2 = 0) then some below
      else some above
    else if inside below then some below
    else if inside above then some above
    else none
  chosen.map (⟨·, exponent⟩)

/-- A power of ten above the number, at most a factor of a thousand away. -/
def decimalBound (significand : Nat) (exponent : Int) : Int :=
  (Nat.log2 significand + exponent) * 30103 / 100000 + 2

/-- A digit sequence without the zeros at its end, and the power of ten for the rest. -/
def withoutTrailingZeros : (fuel : Nat) → Candidate → Candidate
  | 0, c => c
  | fuel + 1, c =>
    if c.digits % 10 = 0 then withoutTrailingZeros fuel ⟨c.digits / 10, c.exponent + 1⟩ else c

/-- The shortest decimal for a positive number. Nineteen digits from the bound on include the
seventeen that always suffice. -/
def shortest (significand : Nat) (exponent : Int) : Candidate :=
  let q := Quarters.of significand exponent
  let bound := decimalBound significand exponent
  let found := (List.range 21).findSome? fun (n : Nat) => onGrid? q (bound - n)
  withoutTrailingZeros 21 (found.getD ⟨0, 0⟩)

/-- How a number is laid out: positional notation for decimal exponents between two bounds, and
scientific notation outside of them. -/
structure Layout where
  /-- The least decimal exponent in positional notation. -/
  positionalFrom : Int
  /-- The least decimal exponent above it in scientific notation. -/
  scientificFrom : Int
  /-- The least number of digits of a written exponent. -/
  exponentDigits : Nat

/-- The decimal digits of a number, filled up with zeros in front. -/
def paddedDigits (width n : Nat) : List Char :=
  let digits := Nat.toDigits 10 n
  List.replicate (width - digits.length) '0' ++ digits

/-- Digits in positional notation, with a point before the digit number `point`; there is always a
digit on either side of it. -/
def positional (digits : List Char) (point : Int) : List Char :=
  if point ≤ 0 then '0' :: '.' :: List.replicate (-point).toNat '0' ++ digits
  else if (digits.length : Int) ≤ point then
    digits ++ List.replicate (point.toNat - digits.length) '0' ++ ['.', '0']
  else digits.take point.toNat ++ '.' :: digits.drop point.toNat

/-- Digits in scientific notation; the point is left out after a single digit. -/
def scientific (width : Nat) (digits : List Char) (exponent : Int) : List Char :=
  let mantissa := match digits with
    | first :: second :: rest => first :: '.' :: second :: rest
    | few => few
  let sign := if exponent < 0 then '-' else '+'
  mantissa ++ 'e' :: sign :: paddedDigits width exponent.natAbs

/-- The text of a floating-point number in a layout. -/
def Binary64.text (layout : Layout) : Binary64 → String
  | .notANumber => "nan"
  | .infinite negative => if negative then "-inf" else "inf"
  | .finite negative significand exponent =>
    let sign := if negative then ['-'] else []
    let body :=
      if significand = 0 then positional ['0'] 1
      else
        let c := shortest significand exponent
        let digits := Nat.toDigits 10 c.digits
        let point := digits.length + c.exponent
        if layout.positionalFrom ≤ point - 1 && point - 1 < layout.scientificFrom then
          positional digits point
        else scientific layout.exponentDigits digits (point - 1)
    String.ofList (sign ++ body)

end FlowAtlas.Decimal
