import Keyspace.Number.Decimal
import Keyspace.Number.Shortest
import Keyspace.Text.Utf8
import Keyspace.Uuid

/-!
# Tuple elements

A tuple is a list of typed elements.  `Element.compare` is the order that the
packed form keeps: first by class, then by value, with integers of every width
in one class.
-/

namespace Keyspace

/-- One typed element of a tuple. -/
inductive Element where
  /-- The absent value. -/
  | null
  /-- Raw bytes. -/
  | bytes (content : Bytes)
  /-- A text. -/
  | string (content : String)
  /-- An integer of 64 bits. -/
  | integer (number : Int64)
  /-- An integer of any width. -/
  | bigInteger (number : Int)
  /-- A single precision float. -/
  | float (number : Single)
  /-- A double precision float. -/
  | double (number : Double)
  /-- A truth value. -/
  | boolean (truth : Bool)
  /-- An identifier of sixteen bytes. -/
  | uuid (identifier : Uuid)
  /-- An exact decimal. -/
  | decimal (number : Decimal)
  deriving DecidableEq

/-- An ordered list of elements. -/
abbrev Tuple := List Element

namespace Element

/-- The name of the class of an element. -/
def typeName : Element -> String
  | null => "null"
  | bytes _ => "bytes"
  | string _ => "string"
  | integer _ => "integer"
  | bigInteger _ => "big integer"
  | float _ => "float"
  | double _ => "double"
  | boolean _ => "boolean"
  | uuid _ => "uuid"
  | decimal _ => "decimal"

/-- Whether the element is the absent value. -/
def isNull : Element -> Bool
  | null => true
  | _ => false

/-- The number of an integer of any width. -/
def asInteger? : Element -> Option Int
  | integer number => some number.toInt
  | bigInteger number => some number
  | _ => none

/-- Whether an integer has a representation of 64 bits. -/
def fitsInt64 (number : Int) : Bool :=
  decide (-0x8000000000000000 ≤ number ∧ number < 0x8000000000000000)

/-- The narrowest element of an integer. -/
def ofInt (number : Int) : Element :=
  if fitsInt64 number then integer (Int64.ofInt number) else bigInteger number

/-- The text of an element, for people. -/
def text : Element -> String
  | null => "null"
  | bytes content => s!"b'{Bytes.toHex content}'"
  | string content => s!"'{content}'"
  | integer number => toString number.toInt
  | bigInteger number => toString number
  | float number => number.text ++ "f"
  | double number => number.text
  | boolean truth => if truth then "true" else "false"
  | uuid identifier => identifier.text
  | decimal number => number.text ++ "m"

/-- Equality as numbers: floats compare as numbers, so a NaN differs from
itself, and decimals compare across scales.  An integer of 64 bits is never
the same as one of arbitrary width. -/
def same : Element -> Element -> Bool
  | float left, float right => left.sameNumber right
  | double left, double right => left.sameNumber right
  | decimal left, decimal right => left.sameNumber right
  | left, right => decide (left = right)

/-- The place of the class of an element in the order of classes. -/
def classRank : Element -> Nat
  | null => 0
  | bytes _ => 1
  | string _ => 2
  | integer _ => 3
  | bigInteger _ => 3
  | float _ => 4
  | double _ => 5
  | boolean _ => 6
  | uuid _ => 7
  | decimal _ => 8

/-- The order of elements: by class, then by value. -/
def compare : Element -> Element -> Ordering
  | bytes left, bytes right => Bytes.compare left right
  | string left, string right => Utf8.compare left right
  | integer left, integer right => Ord.compare left.toInt right.toInt
  | integer left, bigInteger right => Ord.compare left.toInt right
  | bigInteger left, integer right => Ord.compare left right.toInt
  | bigInteger left, bigInteger right => Ord.compare left right
  | float left, float right => left.compareTotal right
  | double left, double right => left.compareTotal right
  | boolean left, boolean right => Ord.compare left.toNat right.toNat
  | uuid left, uuid right => left.compare right
  | decimal left, decimal right => left.compare right
  | left, right => Ord.compare left.classRank right.classRank

end Element

namespace Tuple

/-- The order of tuples: element by element, a proper initial part first. -/
def compare (left right : Tuple) : Ordering :=
  List.compareLex Element.compare left right

/-- Equality of tuples, element by element as numbers. -/
def same : Tuple -> Tuple -> Bool
  | [], [] => true
  | left :: lefts, right :: rights => left.same right && same lefts rights
  | _, _ => false

end Tuple
end Keyspace
