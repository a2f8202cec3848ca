import Keyspace.Number.Digits

/-!
# Binary floating point numbers

Floats are kept as their bits, so that every NaN keeps its payload.  A format
gives the widths of the fraction and the exponent; decoding reads the bits as
a sign and a significand times a power of two, and `nearest` finds the float
closest to a quotient, halves to the even significand.
-/

namespace Keyspace

/-- The widths of the fields of a binary float. -/
structure BinaryFormat where
  /-- Bits of the fraction. -/
  fractionBits : Nat
  /-- Bits of the biased exponent. -/
  exponentBits : Nat
  deriving DecidableEq, Repr

/-- What the bits of a float stand for. -/
inductive BinaryValue where
  /-- No number. -/
  | nan
  /-- An infinity. -/
  | infinite (negative : Bool)
  /-- The number `± significand * 2 ^ exponent`. -/
  | finite (negative : Bool) (significand : Nat) (exponent : Int)
  deriving DecidableEq, Repr

namespace BinaryFormat

/-- Sixty-four bits. -/
def double : BinaryFormat := ⟨52, 11⟩

/-- Thirty-two bits. -/
def single : BinaryFormat := ⟨23, 8⟩

/-- What the exponent field exceeds the exponent of the leading bit by. -/
def bias (format : BinaryFormat) : Nat :=
  Nat.pow 2 (format.exponentBits - 1) - 1

/-- The exponent of the last bit of the smallest floats. -/
def leastExponent (format : BinaryFormat) : Int :=
  1 - (format.bias : Int) - (format.fractionBits : Int)

/-- The bits of positive infinity. -/
def infinityBits (format : BinaryFormat) : Nat :=
  (Nat.pow 2 format.exponentBits - 1) * Nat.pow 2 format.fractionBits

/-- The weight of the sign bit. -/
def signBit (format : BinaryFormat) : Nat :=
  Nat.pow 2 (format.fractionBits + format.exponentBits)

/-- Read the bits of a float. -/
def decode (format : BinaryFormat) (bits : Nat) : BinaryValue :=
  let negative := decide (format.signBit ≤ bits % (2 * format.signBit))
  let unsigned := bits % format.signBit
  let field := unsigned / Nat.pow 2 format.fractionBits
  let fraction := unsigned % Nat.pow 2 format.fractionBits
  if unsigned = format.infinityBits then .infinite negative
  else if format.infinityBits < unsigned then .nan
  else if field = 0 then .finite negative fraction format.leastExponent
  else
    .finite negative (Nat.pow 2 format.fractionBits + fraction)
      (format.leastExponent + ((field : Int) - 1))

/-- The floor of the binary logarithm of a positive quotient. -/
def floorLog2 (numerator denominator : Nat) : Int :=
  let guess := (numerator.log2 : Int) - (denominator.log2 : Int)
  if denominator * Nat.pow 2 guess.toNat ≤ numerator * Nat.pow 2 (-guess).toNat then guess
  else guess - 1

/-- The bits of the float nearest to a quotient, halves to the even
significand; what is too large becomes infinity. -/
def nearest (format : BinaryFormat) (numerator denominator : Nat) : Nat :=
  if numerator = 0 then 0
  else
    let exponent :=
      max (floorLog2 numerator denominator - format.fractionBits)
        format.leastExponent
    let significand :=
      Digits.roundHalfEven (numerator * Nat.pow 2 (-exponent).toNat)
        (denominator * Nat.pow 2 exponent.toNat)
    min format.infinityBits
      ((exponent - format.leastExponent).toNat * Nat.pow 2 format.fractionBits
        + significand)

/-- The bits of the float nearest to `significand * 2 ^ exponent`. -/
def nearestScaled
    (format : BinaryFormat)
    (significand : Nat)
    (exponent : Int) : Nat :=
  format.nearest (significand * Nat.pow 2 exponent.toNat) (Nat.pow 2 (-exponent).toNat)

/-- The place of a float in the total order: what follows the sign bit, which
counts downward from `-1` for negative floats, so
`-NaN < -inf < ... < -0 < 0 < ... < inf < NaN`. -/
def totalPlace (format : BinaryFormat) (bits : Nat) : Int :=
  if format.signBit ≤ bits then -1 - ((bits - format.signBit : Nat) : Int) else bits

/-- The total order as a natural number of the width of the float: negative
floats are flipped, and the sign bit of the others is set. -/
def orderKey (format : BinaryFormat) (bits : Nat) : Nat :=
  if format.signBit ≤ bits then 2 * format.signBit - 1 - bits
  else bits + format.signBit

/-- The bits of a stored place of the total order. -/
def ofOrderKey (format : BinaryFormat) (key : Nat) : Nat :=
  if format.signBit ≤ key then key - format.signBit
  else 2 * format.signBit - 1 - key

theorem ofOrderKey_orderKey
    (format : BinaryFormat)
    {bits : Nat}
    (inRange : bits < 2 * format.signBit) :
    format.ofOrderKey (format.orderKey bits) = bits := by
  unfold ofOrderKey orderKey
  split <;> split <;> omega

end BinaryFormat

/-- A double precision float, kept as its bits. -/
structure Double where
  /-- The bits, sign first. -/
  bits : UInt64
  deriving DecidableEq, Repr, Inhabited

/-- A single precision float, kept as its bits. -/
structure Single where
  /-- The bits, sign first. -/
  bits : UInt32
  deriving DecidableEq, Repr, Inhabited

namespace Double

/-- What the bits stand for. -/
def value (double : Double) : BinaryValue :=
  BinaryFormat.double.decode double.bits.toNat

/-- The place in the total order. -/
def totalPlace (double : Double) : Int :=
  BinaryFormat.double.totalPlace double.bits.toNat

/-- The number that is stored in its place. -/
def orderKey (double : Double) : Nat :=
  BinaryFormat.double.orderKey double.bits.toNat

/-- The total order of all bit patterns. -/
def compareTotal (left right : Double) : Ordering :=
  compare left.totalPlace right.totalPlace

/-- Whether this is no number. -/
def isNaN (double : Double) : Bool :=
  double.value == .nan

/-- Whether this is a number and no infinity. -/
def isFinite (double : Double) : Bool :=
  match double.value with
  | .finite _ _ _ => true
  | _ => false

/-- The float that the bits are in arithmetic. -/
def toFloat (double : Double) : Float :=
  Float.ofBits double.bits

/-- The bits of a result of arithmetic. -/
def ofFloat (result : Float) : Double :=
  ⟨result.toBits⟩

/-- Numeric equality: zeros of both signs are equal, and NaN equals
nothing. -/
def sameNumber (left right : Double) : Bool :=
  left.toFloat == right.toFloat

/-- Attach a sign to a float without one. -/
def ofSigned (negative : Bool) (bits : Nat) : Double :=
  ⟨UInt64.ofNat (if negative then 0x8000000000000000 + bits else bits)⟩

/-- The double nearest to a natural number. -/
def ofNat (number : Nat) : Double :=
  ⟨UInt64.ofNat (BinaryFormat.double.nearest number 1)⟩

/-- The double nearest to an integer. -/
def ofInt (number : Int) : Double :=
  ofSigned (decide (number < 0)) (BinaryFormat.double.nearest number.natAbs 1)

/-- The double nearest to a quotient of natural numbers. -/
def ofRatio (numerator denominator : Nat) : Double :=
  ⟨UInt64.ofNat (BinaryFormat.double.nearest numerator denominator)⟩

/-- Round to an integer, halves away from zero. -/
def round (double : Double) : Double :=
  match double.value with
  | .finite negative significand exponent =>
      if 0 ≤ exponent then double
      else
        ofSigned negative
          (BinaryFormat.double.nearest
            (Digits.roundHalfUp significand (Nat.pow 2 exponent.natAbs)) 1)
  | _ => double

/-- The greatest integer not above a finite double. -/
def floor? (double : Double) : Option Int :=
  match double.value with
  | .finite negative significand exponent =>
      let numerator : Int :=
        (if negative then -1 else 1) * (significand * Nat.pow 2 exponent.toNat : Nat)
      some (numerator / (Nat.pow 2 (-exponent).toNat : Nat))
  | _ => none

end Double

namespace Single

/-- What the bits stand for. -/
def value (single : Single) : BinaryValue :=
  BinaryFormat.single.decode single.bits.toNat

/-- The place in the total order. -/
def totalPlace (single : Single) : Int :=
  BinaryFormat.single.totalPlace single.bits.toNat

/-- The number that is stored in its place. -/
def orderKey (single : Single) : Nat :=
  BinaryFormat.single.orderKey single.bits.toNat

/-- The total order of all bit patterns. -/
def compareTotal (left right : Single) : Ordering :=
  compare left.totalPlace right.totalPlace

/-- The same number in double precision.  A NaN keeps its sign and its payload
and becomes quiet. -/
def toDouble (single : Single) : Double :=
  match single.value with
  | .nan =>
      let fraction := single.bits.toNat % 0x800000 % 0x400000
      Double.ofSigned (decide (0x80000000 ≤ single.bits.toNat))
        (BinaryFormat.double.infinityBits + 0x8000000000000 + fraction * 0x20000000)
  | .infinite negative =>
      Double.ofSigned negative BinaryFormat.double.infinityBits
  | .finite negative significand exponent =>
      Double.ofSigned negative
        (BinaryFormat.double.nearestScaled significand exponent)

/-- Numeric equality: zeros of both signs are equal, and NaN equals
nothing. -/
def sameNumber (left right : Single) : Bool :=
  left.toDouble.sameNumber right.toDouble

end Single
end Keyspace
