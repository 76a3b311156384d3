import LanguageClient.Json.Number

/-!
Decimal spellings of numbers: a spelling is read by rounding its exact value to nearest, and a
number is written with the fewest digits that read back, always positionally.
-/

namespace LanguageClient.Json

/-- The exact value `coefficient * 10 ^ exponent`, with its sign. -/
structure Decimal where
  negative : Bool
  coefficient : Nat
  exponent : Int
deriving DecidableEq, Repr

namespace Decimal

/--
The nearest number. A power above 10^400 is past every finite number, and a value below 2^-1099
is past every step; both are settled without computing the power.
-/
def toNumber (decimal : Decimal) : Number :=
  if decimal.coefficient = 0 then
    .ofMagnitude decimal.negative 0
  else if decimal.exponent > 400 then
    .ofMagnitude decimal.negative Number.infinityMagnitude
  else if 3 * -decimal.exponent > decimal.coefficient.log2 + 1100 then
    .ofMagnitude decimal.negative 0
  else
    .ofQuotient decimal.negative
      (decimal.coefficient * Nat.pow 10 decimal.exponent.toNat)
      (Nat.pow 10 (-decimal.exponent).toNat)

def isDigit (char : Char) : Bool :=
  '0' ≤ char && char ≤ '9'

/-- The number that decimal digits spell. -/
def digitsValue (digits : List Char) : Nat :=
  digits.foldl (fun value digit => 10 * value + (digit.toNat - '0'.toNat)) 0

/-- The digits of a number, most significant first and without leading zeros. -/
def digits (value : Nat) : List Char :=
  Nat.toDigits 10 value

/-- Digits on both sides of the point: `-?digits(.digits)?`. -/
def chars (decimal : Decimal) : List Char :=
  let written := digits decimal.coefficient
  let places := (-decimal.exponent).toNat
  let padded := List.replicate (places + 1 - written.length) '0' ++ written
  let whole := padded.take (padded.length - places)
  let fraction := padded.drop (padded.length - places)
  (if decimal.negative then ['-'] else [])
    ++ whole ++ List.replicate decimal.exponent.toNat '0'
    ++ (if fraction.isEmpty then [] else '.' :: fraction)

end Decimal

namespace Number

/-- The exact decimal value of a finite number: a step is 5^1074 / 10^1074. -/
def exactDecimal (number : Number) : Decimal where
  negative := number.isNegative
  coefficient := number.steps * Nat.pow 5 1074
  exponent := -1074

/--
The neighbours of a number among the multiples of `10 ^ exponent` that read back as the number,
the nearer one first. A number lies halfway only where neither reads back.

It is opened by name only: evaluation would count the steps that make up the number one.
-/
@[irreducible]
def neighbours (number : Number) (exponent : Int) : List Decimal :=
  let numerator := number.steps * Nat.pow 10 (-exponent).toNat
  let denominator := stepsPerUnit * Nat.pow 10 exponent.toNat
  let below := numerator / denominator
  let remainder := numerator % denominator
  let ordered :=
    if 2 * remainder < denominator then [below, below + 1] else [below + 1, below]
  (ordered.map fun coefficient => Decimal.mk number.isNegative coefficient exponent).filter
    fun decimal => decide (decimal.toNumber = number)

/-- The first decimal that reads back among ever finer multiples, at most `count` of them. -/
def firstDecimal? (number : Number) : Nat → Int → Option Decimal
  | 0, _ => none
  | count + 1, exponent =>
    match number.neighbours exponent with
    | decimal :: _ => some decimal
    | [] => number.firstDecimal? count (exponent - 1)

/--
The decimal with the fewest digits that reads back as a finite number, and the nearest of those.
A coarser multiple has fewer digits, so the search starts one place above the leading digit of
the whole part.
-/
def toDecimal (number : Number) : Decimal :=
  let places := (Decimal.digits number.wholePart).length
  (number.firstDecimal? (places + 1100) places).getD number.exactDecimal

/--
The spelling in a document. Integers below the largest exact one are written as such, without
the sign of a negative zero, and what has no spelling is written as `null`.
-/
def chars (number : Number) : List Char :=
  if !number.isFinite then
    ['n', 'u', 'l', 'l']
  else if number.isIntegral && number.wholePart < largestExactInteger then
    Decimal.chars ⟨number.isNegative && number.magnitude != 0, number.wholePart, 0⟩
  else
    number.toDecimal.chars

end Number

end LanguageClient.Json
