import Keyspace.Error
import Keyspace.Number.Shortest
import Keyspace.Spatial.Turns

/-!
# Coordinate spaces and z-values

A space cuts each dimension into a power of two of cells.  The z-value of a
point interleaves the bits of its cell numbers, the most significant first,
left-aligned below the sign bit of a 64-bit integer, and ends with the number
of interleaved bits in its low six bits.  Bits are counted in words of 32 bits
and taken in words of 64.
-/

namespace Keyspace

/-- A box of coordinates and how finely each dimension is cut. -/
structure Space where
  /-- The lower bounds. -/
  low : List Double
  /-- The upper bounds. -/
  high : List Double
  /-- The bits of each dimension. -/
  bits : List UInt32
  /-- The dimensions in the order in which they give their bits. -/
  interleave : List Nat
  deriving DecidableEq

namespace Space

/-- The most bits that fit a z-value beside the sign and the bit count. -/
def maxBits : UInt32 := 57

/-- The default bits of the latitude. -/
def latitudeBits : UInt32 := 28

/-- The default bits of the longitude. -/
def longitudeBits : UInt32 := 29

/-! ## Construction -/

/-- Whether a dimension has finite bounds in rising order. -/
def boundsInOrder (low high : Double) : Bool :=
  low.isFinite && high.isFinite && decide (low.toFloat < high.toFloat)

/-- Check the bounds and the bits of the dimensions from a given one on. -/
def checkDimensions :
    Nat -> List Double -> List Double -> List UInt32 -> Except Error Unit
  | dimension, low :: lows, high :: highs, bits :: rest =>
      if !boundsInOrder low high then
        .error (.invalidArgument
          s!"dimension {dimension} has bad bounds [{low.text}, {high.text}]")
      else if bits = 0 then
        .error (.invalidArgument s!"dimension {dimension} has no bits")
      else checkDimensions (dimension + 1) lows highs rest
  | _, _, _, _ => .ok ()

/-- How often a pattern names each of the first dimensions. -/
def uses (dimensions : Nat) (pattern : List Nat) : List UInt32 :=
  (List.range dimensions).map fun dimension => (pattern.count dimension : UInt32)

/-- Check that an interleave takes every bit of every dimension once. -/
def checkInterleave (bits : List UInt32) (pattern : List Nat) : Except Error Unit :=
  match pattern.find? fun dimension => decide (bits.length ≤ dimension) with
  | some dimension =>
      .error (.invalidArgument s!"interleave names dimension {dimension}")
  | none =>
      if uses bits.length pattern = bits then .ok ()
      else .error (.invalidArgument "interleave must use each dimension once per bit")

/-- The space of given bounds and bits, interleaved as given or by default. -/
def make
    (low high : List Double)
    (bits : List UInt32)
    (interleave : Option (List Nat)) : Except Error Space :=
  let dimensions := bits.length
  if dimensions = 0 ∨ low.length ≠ dimensions ∨ high.length ≠ dimensions then
    .error (.invalidArgument ("space needs matching bounds and bits, got "
      ++ s!"{low.length} lo, {high.length} hi, {dimensions} bits"))
  else do
    checkDimensions 0 low high bits
    if maxBits < Words.total bits then
      throw (.invalidArgument
        s!"space uses {Words.total bits} bits, at most {maxBits} fit a z-value")
    else
      match interleave with
      | none => return ⟨low, high, bits, defaultInterleave bits⟩
      | some pattern => do
          checkInterleave bits pattern
          return ⟨low, high, bits, pattern⟩

/-- The lower bounds of latitude and longitude. -/
def geographicLow : List Double :=
  [Double.ofInt (-90), Double.ofInt (-180)]

/-- The upper bounds of latitude and longitude. -/
def geographicHigh : List Double :=
  [Double.ofInt 90, Double.ofInt 180]

/-- Latitude and longitude with their default bits. -/
def latLon : Space :=
  let bits := [latitudeBits, longitudeBits]
  ⟨geographicLow, geographicHigh, bits, defaultInterleave bits⟩

/-- Latitude and longitude with given bits. -/
def latLonWithBits (latitude longitude : UInt32) : Except Error Space :=
  make geographicLow geographicHigh [latitude, longitude] none

/-! ## Points -/

/-- How many dimensions the space has. -/
def dimensions (space : Space) : Nat :=
  space.bits.length

/-- How many bits a z-value of the space interleaves. -/
def totalBits (space : Space) : UInt32 :=
  Words.total space.bits

/-- How many cells a dimension is cut into. -/
def cells (bits : UInt32) : UInt64 :=
  1 <<< bits.toUInt64

/-- The last cell of a dimension. -/
def lastCell (bits : UInt32) : UInt64 :=
  cells bits - 1

/-- The last cell of a dimension, as the double that cells are compared
with. -/
def lastCellBound (bits : UInt32) : Int :=
  ((Double.ofNat (lastCell bits).toNat).floor?).getD 0

/-- The cell of a scaled coordinate: points outside the space belong to the
cells at its border. -/
def cell (bits : UInt32) (scaled : Double) : UInt64 :=
  match scaled.value with
  | .nan => 0
  | .infinite negative => if negative then 0 else lastCell bits
  | .finite _ _ _ =>
      let floor := scaled.floor?.getD 0
      if floor ≤ 0 then 0
      else if lastCellBound bits ≤ floor then lastCell bits
      else (floor.toNat : UInt64)

/-- The cell of a coordinate in a dimension. -/
def cellOf (space : Space) (dimension : Nat) (coordinate : Double) :
    Except Error UInt64 :=
  match space.bits[dimension]?, space.low[dimension]?, space.high[dimension]? with
  | some bits, some low, some high =>
      if coordinate.isNaN then
        .error (.invalidArgument s!"coordinate of dimension {dimension} is NaN")
      else
        let share :=
          (coordinate.toFloat - low.toFloat) / (high.toFloat - low.toFloat)
        .ok (cell bits (Double.ofFloat (share * (Double.ofNat (cells bits).toNat).toFloat)))
  | _, _, _ => .error (.invalidArgument s!"no dimension {dimension}")

/-- The cell number of a coordinate in a dimension. -/
def fixedPoint (space : Space) (dimension : Nat) (coordinate : Double) :
    Except Error Nat :=
  (space.cellOf dimension coordinate).map UInt64.toNat

/-- The error for a point of another number of coordinates. -/
def wrongDimensions (space : Space) (coordinates : Nat) : Error :=
  .invalidArgument (s!"point has {coordinates} coordinates, "
    ++ s!"space has {space.dimensions} dimensions")

/-- The bits of cell numbers, taken in the order of an interleave.  Of every
dimension the bits above `remaining` have been taken. -/
def interleaveWords : List Nat -> List UInt64 -> List UInt32 -> UInt64 -> UInt64
  | [], _, _, taken => taken
  | dimension :: pattern, fixed, remaining, taken =>
      let left := remaining[dimension]?.getD 0 - 1
      let bit := fixed[dimension]?.getD 0 >>> left.toUInt64 &&& 1
      interleaveWords pattern fixed (remaining.set dimension left) (taken <<< 1 ||| bit)

/-- Interleaved bits moved below the sign, with their number in the low bits. -/
def packWord (space : Space) (interleaved : UInt64) : UInt64 :=
  interleaved <<< (63 - space.totalBits).toUInt64 ||| space.totalBits.toUInt64

/-- The z-value of cell numbers. -/
def shuffleFixed (space : Space) (fixed : List UInt64) : Except Error Int64 :=
  if fixed.length ≠ space.dimensions then .error (space.wrongDimensions fixed.length)
  else
    let packed := space.packWord (interleaveWords space.interleave fixed space.bits 0)
    if packed < 0x8000000000000000 then .ok packed.toInt64
    else .error (.internal "z-value overflowed i64")

/-- The z-value of a point. -/
def shuffle (space : Space) (point : List Double) : Except Error Int64 :=
  if point.length ≠ space.dimensions then .error (space.wrongDimensions point.length)
  else do
    let fixed ← point.zipIdx.mapM fun entry => space.cellOf entry.2 entry.1
    space.shuffleFixed fixed

end Space
end Keyspace
