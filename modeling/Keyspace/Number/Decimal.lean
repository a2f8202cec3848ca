import Keyspace.Number.Binary

/-!
# Exact decimals

A decimal is an integer mantissa with a number of decimal places.  Mantissas
have at most 96 bits.  No more than 28 places hold anything but zeros; a
nonzero number may be padded with zeros beyond them.  Decimals compare by the
number they stand for, so `1.0` and `1.00` are equal in the order though they
differ as values.
-/

namespace Keyspace

/-- The number `mantissa / 10 ^ scale`. -/
structure Decimal where
  /-- All digits, with the sign. -/
  mantissa : Int
  /-- How many of the digits stand behind the point. -/
  scale : Nat
  mantissa_lt : mantissa.natAbs < 0x1000000000000000000000000
  scale_le : scale ≤ 28 ∨ mantissa ≠ 0 ∧ Nat.pow 10 (scale - 28) ∣ mantissa.natAbs
  deriving DecidableEq

namespace Decimal

/-- The greatest number of places that hold anything but zeros. -/
def maxScale : Nat := 28

/-- Magnitudes of mantissas stay below this number. -/
def mantissaBound : Nat := 0x1000000000000000000000000

/-- The decimal of a mantissa and a scale that are both in range. -/
def ofParts? (mantissa : Int) (scale : Nat) : Option Decimal :=
  if inRange : mantissa.natAbs < 0x1000000000000000000000000 ∧ scale ≤ 28 then
    some ⟨mantissa, scale, inRange.1, .inl inRange.2⟩
  else none

/-- Zero without places. -/
def zero : Decimal :=
  ⟨0, 0, by decide, .inl (by decide)⟩

/-- Why a mantissa is out of range. -/
def rangeMessage (mantissa : Int) : String :=
  if mantissa < 0 then
    "Number less than minimum value that can be represented."
  else "Number exceeds maximum value that can be represented."

/-- Whether the number is zero. -/
def isZero (decimal : Decimal) : Bool :=
  decimal.mantissa == 0

/-- Whether the number is below zero. -/
def isNegative (decimal : Decimal) : Bool :=
  decide (decimal.mantissa < 0)

/-- The numeric order. -/
def compare (left right : Decimal) : Ordering :=
  Ord.compare (left.mantissa * Nat.pow 10 right.scale) (right.mantissa * Nat.pow 10 left.scale)

/-- Numeric equality. -/
def sameNumber (left right : Decimal) : Bool :=
  compare left right == .eq

theorem scale_le_appendZero
    {decimal : Decimal}
    (fits : decimal.mantissa ≠ 0 ∨ decimal.scale < 28) :
    decimal.scale + 1 ≤ 28 ∨ decimal.mantissa * 10 ≠ 0 ∧
      Nat.pow 10 (decimal.scale + 1 - 28) ∣ (decimal.mantissa * 10).natAbs := by
  by_cases short : decimal.scale < 28
  · exact .inl short
  · have nonzero : decimal.mantissa ≠ 0 := fits.resolve_right short
    have exponent : decimal.scale + 1 - 28 = decimal.scale - 28 + 1 := by omega
    refine .inr ⟨by omega, ?_⟩
    rw [exponent, Nat.pow, Int.natAbs_mul]
    rcases decimal.scale_le with least | ⟨_, divides⟩
    · have boundary : decimal.scale - 28 = 0 := by omega
      rw [boundary]
      exact Nat.mul_dvd_mul (Nat.one_dvd _) (Nat.dvd_refl 10)
    · exact Nat.mul_dvd_mul divides (Nat.dvd_refl 10)

/-- Append one zero behind the last place, if the mantissa stays in range.  Of
zero only the places count, and they stay in range too. -/
def appendZero? (decimal : Decimal) : Option Decimal :=
  if inRange : (decimal.mantissa * 10).natAbs < 0x1000000000000000000000000 then
    if fits : decimal.mantissa ≠ 0 ∨ decimal.scale < 28 then
      some ⟨decimal.mantissa * 10, decimal.scale + 1, inRange, scale_le_appendZero fits⟩
    else none
  else none

/-- Append zeros behind the last place, at most `steps` of them. -/
def appendZeros : Nat -> Decimal -> Decimal
  | 0, decimal => decimal
  | steps + 1, decimal =>
      match decimal.appendZero? with
      | some longer => appendZeros steps longer
      | none => decimal

/-- The same number with `scale` places, or as many below that as fit. -/
def raiseScale (decimal : Decimal) (scale : Nat) : Decimal :=
  appendZeros (scale - decimal.scale) decimal

/-- The text with all places and at least one digit before the point. -/
def text (decimal : Decimal) : String :=
  (if decimal.isNegative then "-" else "")
    ++ Digits.pointed (Digits.ofNat decimal.mantissa.natAbs) decimal.scale

/-- Read a text of digits with an optional sign and an optional point. -/
def ofText? (text : String) : Option Decimal :=
  let (negative, unsigned) :=
    match text.toList with
    | '-' :: rest => (true, rest)
    | characters => (false, characters)
  let whole := unsigned.takeWhile (fun character => character != '.')
  let places := (unsigned.dropWhile (fun character => character != '.')).drop 1
  let digits := whole ++ places
  if digits.all Char.isDigit && !digits.isEmpty then
    let magnitude : Nat :=
      digits.foldl (fun value digit => 10 * value + (digit.toNat - 48)) 0
    ofParts? (if negative then -magnitude else magnitude) places.length
  else none

/-- The double that stands for the number.  An integer goes to the nearest
double.  Otherwise the whole and the fractional part are added in double
precision, and the sum is rounded to the places of the decimal. -/
def toDouble (decimal : Decimal) : Double :=
  let magnitude := decimal.mantissa.natAbs
  let power := Nat.pow 10 decimal.scale
  let whole := Double.ofNat (magnitude / power)
  let unsigned :=
    if magnitude % power = 0 then whole
    else
      let step := (Double.ofNat power).toFloat
      let fraction := (Double.ofNat (magnitude % power)).toFloat / step
      let sum := whole.toFloat + fraction
      Double.ofFloat ((Double.ofFloat (sum * step)).round.toFloat / step)
  if decimal.isNegative then Double.ofFloat (-unsigned.toFloat) else unsigned

end Decimal
end Keyspace
