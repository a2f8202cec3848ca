/-!
# Decimal digits

The digits of a natural number and the texts made of them: with a point in
front of the last digits, or as a multiple of a power of ten.
-/

namespace Keyspace
namespace Digits

/-- At most `fuel` digits of a number, the least significant first. -/
def upward : Nat -> Nat -> List Nat
  | 0, _ => []
  | fuel + 1, value =>
      if value = 0 then [] else value % 10 :: upward fuel (value / 10)

/-- All digits, the least significant first; zero has none.  A number has no
more decimal digits than binary ones. -/
def lowFirst (value : Nat) : List Nat :=
  upward (value.log2 + 1) value

/-- All digits, the most significant first; zero has none. -/
def ofNat (value : Nat) : List Nat :=
  (lowFirst value).reverse

/-- The character of a digit. -/
def toChar (digit : Nat) : Char :=
  Char.ofNat (48 + digit)

/-- The text of a list of digits. -/
def text (digits : List Nat) : String :=
  String.ofList (digits.map toChar)

/-- Digits of which the last `places` stand behind a point, with at least one
digit in front of it. -/
def pointed (digits : List Nat) (places : Nat) : String :=
  let padded := List.replicate (places + 1 - digits.length) 0 ++ digits
  if places = 0 then text padded
  else
    let whole := padded.length - places
    text (padded.take whole) ++ "." ++ text (padded.drop whole)

/-- The text of a multiple of a power of ten, written out without an
exponent. -/
def scaled (digits : List Nat) (exponent : Int) : String :=
  if 0 ≤ exponent then pointed (digits ++ List.replicate exponent.toNat 0) 0
  else pointed digits exponent.natAbs

/-- The quotient rounded to the nearest integer, halves to the even
neighbour. -/
def roundHalfEven (numerator denominator : Nat) : Nat :=
  let quotient := numerator / denominator
  let twice := 2 * (numerator % denominator)
  if twice < denominator then quotient
  else if denominator < twice then quotient + 1
  else if quotient % 2 = 0 then quotient
  else quotient + 1

/-- The quotient rounded to the nearest integer, halves upward. -/
def roundHalfUp (numerator denominator : Nat) : Nat :=
  (2 * numerator + denominator) / (2 * denominator)

end Digits
end Keyspace
