/-!
Binary64 numbers, held by their 64-bit encoding and read in whole steps of 2^-1074, so that
rounding, equality and integrality are exact arithmetic on natural numbers.
-/

namespace LanguageClient.Json

/-- A binary64 number, given by its encoding. -/
structure Number where
  bits : UInt64
deriving DecidableEq, Repr, Inhabited

namespace Number

/-- The encoding's lower 63 bits. They order absolute values, infinity and NaNs last. -/
def magnitude (number : Number) : Nat :=
  number.bits.toNat % Nat.pow 2 63

def isNegative (number : Number) : Bool :=
  decide (Nat.pow 2 63 ≤ number.bits.toNat)

/-- The magnitude of infinity. Smaller magnitudes are finite and larger ones are NaNs. -/
def infinityMagnitude : Nat :=
  2047 * Nat.pow 2 52

def isFinite (number : Number) : Bool :=
  decide (number.magnitude < infinityMagnitude)

def isNaN (number : Number) : Bool :=
  decide (infinityMagnitude < number.magnitude)

def ofMagnitude (negative : Bool) (magnitude : Nat) : Number where
  bits := .ofNat ((if negative then Nat.pow 2 63 else 0) + magnitude)

/-- How many steps of 2^-1074 make up the number one. -/
def stepsPerUnit : Nat :=
  Nat.pow 2 1074

/-- The absolute value of a finite number in steps of 2^-1074, of which every one is a multiple. -/
def steps (number : Number) : Nat :=
  let exponent := number.magnitude / Nat.pow 2 52
  let fraction := number.magnitude % Nat.pow 2 52
  if exponent = 0 then
    fraction
  else
    (Nat.pow 2 52 + fraction) * Nat.pow 2 (exponent - 1)

def isIntegral (number : Number) : Bool :=
  number.isFinite && number.steps % stepsPerUnit == 0

/-- The absolute value of a finite number with its fraction dropped. -/
def wholePart (number : Number) : Nat :=
  number.steps / stepsPerUnit

/-- Equality of values: the two zeros are equal, and a NaN equals nothing. -/
def equals (left right : Number) : Bool :=
  !left.isNaN && !right.isNaN
    && left.magnitude == right.magnitude
    && (left.isNegative == right.isNegative || left.magnitude == 0)

/-- The integer nearest to a quotient. A half goes to the even neighbour. -/
def roundQuotient (numerator denominator : Nat) : Nat :=
  let quotient := numerator / denominator
  let remainder := numerator % denominator
  if 2 * remainder < denominator then
    quotient
  else if denominator < 2 * remainder then
    quotient + 1
  else
    quotient + quotient % 2

/--
The magnitude of the number nearest to a quotient of steps. Up to 2^53 steps a magnitude is its
number of steps; above, each further binary order doubles the steps from one to the next. A
significand that rounds up to 2^53 carries into the exponent.
-/
def magnitudeOfQuotient (numerator denominator : Nat) : Nat :=
  let quotient := numerator / denominator
  if quotient < Nat.pow 2 53 then
    roundQuotient numerator denominator
  else
    let order := quotient.log2 - 52
    let significand := roundQuotient numerator (denominator * Nat.pow 2 order)
    min infinityMagnitude (order * Nat.pow 2 52 + significand)

/-- The number nearest to a quotient of integers, infinite when that is too large. -/
def ofQuotient (negative : Bool) (numerator denominator : Nat) : Number :=
  ofMagnitude negative (magnitudeOfQuotient (numerator * stepsPerUnit) denominator)

def ofNat (value : Nat) : Number :=
  ofQuotient false value 1

def ofInt (value : Int) : Number :=
  ofQuotient (decide (value < 0)) value.natAbs 1

/-- Integers up to this one have encodings of their own. -/
def largestExactInteger : Nat :=
  Nat.pow 2 53

/-- The number as an integer from zero to the largest exact one. -/
def toNat? (number : Number) : Option Nat :=
  if number.isIntegral && number.wholePart ≤ largestExactInteger
      && (!number.isNegative || number.magnitude == 0) then
    some number.wholePart
  else
    none

/-- The number as an integer of at most the largest exact magnitude. -/
def toInt? (number : Number) : Option Int :=
  if number.isIntegral && number.wholePart ≤ largestExactInteger then
    some (if number.isNegative then -(number.wholePart : Int) else number.wholePart)
  else
    none

end Number

end LanguageClient.Json
