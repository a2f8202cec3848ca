import Keyspace.Number.Binary

/-!
# Shortest decimal texts of floats

A float is written with the fewest decimal digits that read back as the same
float, and of those with the nearest to it.  For each number of digits only
the two neighbours of the float on that decimal grid can read back, so the
first grid with a hit gives the digits.
-/

namespace Keyspace
namespace Shortest

/-- The reals that round to one float, as multiples of a quarter of its last
bit. -/
structure Interval where
  /-- The lower end. -/
  low : Nat
  /-- The float itself. -/
  middle : Nat
  /-- The upper end. -/
  high : Nat
  /-- The binary exponent of the unit. -/
  exponent : Int
  /-- Whether the ends round to the float too. -/
  closed : Bool

/-- The interval of a positive float.  Below a power of two floats lie twice
as dense, so there the lower half is half as long. -/
def interval
    (format : BinaryFormat)
    (significand : Nat)
    (exponent : Int) : Interval :=
  let isPower :=
    significand = Nat.pow 2 format.fractionBits ∧ format.leastExponent < exponent
  { low := 4 * significand - (if isPower then 1 else 2)
    middle := 4 * significand
    high := 4 * significand + 2
    exponent := exponent - 2
    closed := significand % 2 == 0 }

/-- The common factor of a candidate when candidates on the grid of
`10 ^ place` are compared with multiples of the unit. -/
def candidateFactor (interval : Interval) (place : Int) : Nat :=
  Nat.pow 10 place.toNat * Nat.pow 2 (-interval.exponent).toNat

/-- The common factor of multiples of the unit in the same comparison. -/
def unitFactor (interval : Interval) (place : Int) : Nat :=
  Nat.pow 2 interval.exponent.toNat * Nat.pow 10 (-place).toNat

/-- Whether a candidate reads back as the float. -/
def readsBack (interval : Interval) (place : Int) (candidate : Nat) : Bool :=
  let point := candidate * candidateFactor interval place
  let low := interval.low * unitFactor interval place
  let high := interval.high * unitFactor interval place
  if interval.closed then low ≤ point && point ≤ high
  else low < point && point < high

/-- The better of the two neighbours on one grid, if any reads back.  Of two
hits the nearer wins, and of two equally near ones the upper. -/
def onGrid? (interval : Interval) (place : Int) : Option Nat :=
  let factor := candidateFactor interval place
  let point := interval.middle * unitFactor interval place
  let lower := point / factor
  let lowerHit := readsBack interval place lower
  let upperHit := readsBack interval place (lower + 1)
  if lowerHit && upperHit then
    some (if 2 * (point % factor) < factor then lower else lower + 1)
  else if lowerHit then some lower
  else if upperHit then some (lower + 1)
  else none

/-- The least power of ten above the float. -/
def decimalExponent (interval : Interval) : Int :=
  let binary := (interval.middle.log2 : Int) + interval.exponent
  let guess := binary * 30103 / 100000
  let above (place : Int) : Bool :=
    interval.middle * unitFactor interval place < candidateFactor interval place
  ([guess - 1, guess, guess + 1, guess + 2].find? above).getD (guess + 3)

/-- Seventeen digits tell any two doubles apart. -/
def enoughDigits : Nat := 17

/-- The shortest digits of a positive float and the power of ten that scales
them. -/
def digits
    (format : BinaryFormat)
    (significand : Nat)
    (exponent : Int) : List Nat × Int :=
  let reals := interval format significand exponent
  let top := decimalExponent reals
  let onCount (count : Nat) : Option (Nat × Int) :=
    (onGrid? reals (top - (count + 1))).map fun candidate =>
      (candidate, top - (count + 1))
  let (candidate, place) :=
    ((List.range enoughDigits).findSome? onCount).getD (0, 0)
  let lowFirst := Digits.lowFirst candidate
  let zeros := (lowFirst.takeWhile (fun digit => digit == 0)).length
  ((lowFirst.drop zeros).reverse, place + zeros)

/-- How the texts of floats are laid out. -/
structure Layout where
  /-- The decimal exponents of the first digit that are written out; others
  take an exponent. -/
  positional : Int -> Bool
  /-- Whether an integer is written with a zero behind its point. -/
  pointZero : Bool

/-- Plain texts: no exponent is ever written, and integers have no point. -/
def plain : Layout := ⟨fun _ => true, false⟩

/-- Descriptive texts: numbers from one ten-thousandth up to ten to the
sixteenth are written out, and integers end in `.0`. -/
def descriptive : Layout :=
  ⟨fun first => decide (-4 ≤ first ∧ first < 16), true⟩

/-- Lay out digits that are scaled by a power of ten. -/
def Layout.render (layout : Layout) (digits : List Nat) (place : Int) : String :=
  let first := place + digits.length - 1
  if layout.positional first then
    let text := Digits.scaled digits place
    if layout.pointZero && decide (0 ≤ place) then text ++ ".0" else text
  else
    let rest := digits.drop 1
    let fraction := if rest.isEmpty then "" else "." ++ Digits.text rest
    Digits.text (digits.take 1) ++ fraction ++ "e" ++ toString first

/-- The text of a float in a layout. -/
def Layout.text (layout : Layout) (format : BinaryFormat) : BinaryValue -> String
  | .nan => "NaN"
  | .infinite negative => if negative then "-inf" else "inf"
  | .finite negative significand exponent =>
      let sign := if negative then "-" else ""
      if significand = 0 then sign ++ (if layout.pointZero then "0.0" else "0")
      else
        let (digits, place) := digits format significand exponent
        sign ++ layout.render digits place

end Shortest

/-- The plain text of a double. -/
def Double.text (double : Double) : String :=
  Shortest.plain.text .double double.value

/-- The plain text of a single. -/
def Single.text (single : Single) : String :=
  Shortest.plain.text .single single.value

/-- A double with a fixed number of decimal places, halves to the even
neighbour. -/
def Double.fixedText (double : Double) (places : Nat) : String :=
  match double.value with
  | .finite negative significand exponent =>
      let hundredths :=
        Digits.roundHalfEven (significand * Nat.pow 2 exponent.toNat * Nat.pow 10 places)
          (Nat.pow 2 (-exponent).toNat)
      (if negative then "-" else "") ++ Digits.pointed (Digits.ofNat hundredths) places
  | other => Shortest.plain.text .double other

end Keyspace
