import Keyspace.Error
import Keyspace.Tuple.Element

/-!
# Packed tuples

Each element is laid out as a type code followed by its value, so that packed
tuples compare bytewise the way their elements compare.  The codes around
`integerZero` carry the number of magnitude bytes, with the magnitude of a
negative integer complemented.  A zero byte inside a byte string is escaped by
a following `0xFF`, which is no type code, so the zero byte that ends the
string is told apart from it.
-/

namespace Keyspace

/-! ## Type codes -/

namespace TypeCode

/-- Absent value. -/
def null : UInt8 := 0x00
/-- Byte string. -/
def bytes : UInt8 := 0x01
/-- Text. -/
def string : UInt8 := 0x02
/-- Negative integer with a length byte. -/
def negativeLong : UInt8 := 0x0B
/-- The integer zero; codes at a distance of one to eight carry a length. -/
def integerZero : UInt8 := 0x14
/-- Positive integer with a length byte. -/
def positiveLong : UInt8 := 0x1D
/-- Single precision float. -/
def float : UInt8 := 0x20
/-- Double precision float. -/
def double : UInt8 := 0x21
/-- The truth value false. -/
def false : UInt8 := 0x26
/-- The truth value true. -/
def true : UInt8 := 0x27
/-- Identifier. -/
def uuid : UInt8 := 0x30
/-- Decimal. -/
def decimal : UInt8 := 0x40
/-- Sign byte of a negative decimal. -/
def decimalNegative : UInt8 := 0x01
/-- Sign byte of the decimal zero. -/
def decimalZero : UInt8 := 0x02
/-- Sign byte of a positive decimal. -/
def decimalPositive : UInt8 := 0x03
/-- What the exponent byte of a decimal exceeds the exponent by. -/
def decimalBias : Nat := 0x80
/-- The byte that marks a zero byte as content. -/
def escape : UInt8 := 0xFF

end TypeCode

namespace Element

/-! ## Layouts of the classes -/

/-- Content with every zero byte escaped, closed by a zero byte. -/
def escaped (content : Bytes) : Bytes :=
  content.flatMap (fun byte => if byte = 0 then [0, TypeCode.escape] else [byte]) ++ [0]

/-- The longest magnitude whose length fits its length byte. -/
def maxMagnitudeBytes : Nat := 255

/-- The layout of an integer whose magnitude has at most 255 bytes. -/
def packInteger (number : Int) : Bytes :=
  let magnitude := Bytes.magnitude number.natAbs
  let length := magnitude.length
  if length ≤ 8 then
    if number < 0 then
      (TypeCode.integerZero - UInt8.ofNat length) :: Bytes.complement magnitude
    else (TypeCode.integerZero + UInt8.ofNat length) :: magnitude
  else if number < 0 then
    TypeCode.negativeLong :: ~~~(UInt8.ofNat length) :: Bytes.complement magnitude
  else TypeCode.positiveLong :: UInt8.ofNat length :: magnitude

/-- The exponent byte and the digit bytes of a nonzero decimal.  The exponent
counts the digits before the point; digits are shifted by one, so that the
closing zero byte sorts below every digit. -/
def packDigits (decimal : Decimal) : Bytes :=
  let lowFirst := Digits.lowFirst decimal.mantissa.natAbs
  let exponent := TypeCode.decimalBias + lowFirst.length - decimal.scale
  let significant := (lowFirst.dropWhile (fun digit => digit == 0)).reverse
  UInt8.ofNat exponent :: significant.map (fun digit => UInt8.ofNat (digit + 1)) ++ [0]

/-- The layout of a decimal: its sign, then its digits, complemented if it is
negative. -/
def packDecimal (decimal : Decimal) : Bytes :=
  if decimal.isZero then [TypeCode.decimalZero]
  else if decimal.isNegative then
    TypeCode.decimalNegative :: Bytes.complement (packDigits decimal)
  else TypeCode.decimalPositive :: packDigits decimal

/-- The packed form of an element.  Only an integer of more than 255 bytes has
none. -/
def pack : Element -> Except Error Bytes
  | null => .ok [TypeCode.null]
  | bytes content => .ok (TypeCode.bytes :: escaped content)
  | string content => .ok (TypeCode.string :: escaped (Utf8.encode content))
  | integer number => .ok (packInteger number.toInt)
  | bigInteger number =>
      let length := Bytes.byteLength number.natAbs
      if length ≤ maxMagnitudeBytes then .ok (packInteger number)
      else
        .error (.invalidArgument
          s!"integer of {length} bytes is too wide to encode")
  | float number => .ok (TypeCode.float :: Bytes.bigEndian 4 number.orderKey)
  | double number => .ok (TypeCode.double :: Bytes.bigEndian 8 number.orderKey)
  | boolean truth => .ok [if truth then TypeCode.true else TypeCode.false]
  | uuid identifier => .ok (TypeCode.uuid :: identifier.bytes)
  | decimal number => .ok (TypeCode.decimal :: packDecimal number)

/-- The order of the packed forms of two elements. -/
def comparePacked (left right : Element) : Except Error Ordering := do
  let leftBytes ← left.pack
  let rightBytes ← right.pack
  return Bytes.compare leftBytes rightBytes

end Element

namespace Tuple

/-- The packed form of a tuple: the packed forms of its elements, one after
the other. -/
def pack (tuple : Tuple) : Except Error Bytes := do
  let parts ← tuple.mapM Element.pack
  return parts.flatten

end Tuple
end Keyspace
