/-!
# Binary floating-point numbers of 64 bits

A number is held exactly, as a sign, a significand and a power of two, so that reading and writing
decimal numbers are questions about integers. Rounding goes to the nearest number, and from the
middle between two numbers to the one with the even significand.
-/

namespace FlowAtlas.Decimal

/-- A floating-point number. In `finite` the significand is below `2 ^ 53` and the exponent at
least `-1074`, and the exponent is least among those that give the same number. -/
inductive Binary64 where
  | finite (negative : Bool) (significand : Nat) (exponent : Int)
  | infinite (negative : Bool)
  | notANumber
  deriving DecidableEq, Repr

namespace Binary64

/-- The least exponent of a finite number. -/
def leastExponent : Int := -1074

/-- The greatest exponent of a finite number. -/
def greatestExponent : Int := 971

/-- The quotient of two numbers rounded to an integer, from the middle to the even one. -/
def roundedQuotient (num den : Nat) : Nat :=
  let below := num / den
  let rest := 2 * (num % den)
  if rest < den || (rest = den && below % 2 = 0) then below else below + 1

/-- The factors by which numerator and denominator grow when a quotient is counted in units of
`2 ^ exponent`. -/
def inUnits (num den : Nat) (exponent : Int) : Nat × Nat :=
  if exponent < 0 then (num * Nat.pow 2 (-exponent).toNat, den)
  else (num, den * Nat.pow 2 exponent.toNat)

/-- The number nearest to the quotient of two positive numbers. -/
def ofRatio (negative : Bool) (num den : Nat) : Binary64 :=
  let guess := max ((Nat.log2 num : Int) - Nat.log2 den - 53) leastExponent
  let (n, d) := inUnits num den guess
  let exponent := if n / d < Nat.pow 2 53 then guess else guess + 1
  let (n, d) := inUnits num den exponent
  let significand := roundedQuotient n d
  let (significand, exponent) :=
    if significand < Nat.pow 2 53 then (significand, exponent) else (Nat.pow 2 52, exponent + 1)
  if exponent ≤ greatestExponent then .finite negative significand exponent else .infinite negative

/-- The number nearest to `digits * 10 ^ exponent`. Numbers far outside of the range are decided by
the count of their digits, before a power of ten is computed. -/
def ofDecimal (negative : Bool) (digits : Nat) (exponent : Int) : Binary64 :=
  if digits = 0 then .finite negative 0 leastExponent
  else if exponent > 400 then .infinite negative
  else if exponent + (Nat.log2 digits + 1) / 3 + 1 < -400 then .finite negative 0 leastExponent
  else if exponent < 0 then ofRatio negative digits (Nat.pow 10 (-exponent).toNat)
  else ofRatio negative (digits * Nat.pow 10 exponent.toNat) 1

/-- A magnitude with a sign. -/
def signed (negative : Bool) (n : Nat) : Int :=
  if negative then -n else n

/-- The integer part of a finite number. -/
def truncate (negative : Bool) (significand : Nat) (exponent : Int) : Int :=
  signed negative <|
    if exponent < 0 then significand / Nat.pow 2 (-exponent).toNat
    else significand * Nat.pow 2 exponent.toNat

/-- The integer that equals a number, if there is one. -/
def integer? : Binary64 → Option Int
  | .finite negative significand exponent =>
    if exponent < 0 && significand % Nat.pow 2 (-exponent).toNat != 0 then none
    else some (truncate negative significand exponent)
  | .infinite _ | .notANumber => none

end Binary64

end FlowAtlas.Decimal
