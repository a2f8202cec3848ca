import Keyspace.Number.Decimal
import Keyspace.Number.Shortest
import Keyspace.Text.Utf8
import Keyspace.Uuid

/-!
# Column values

The values that rows hold, one constructor per class.  `Value.compareNatural`
orders values of all classes: the absent value first, numbers by value across
widths, texts by code point, and otherwise by class.
-/

namespace Keyspace

/-- A column value. -/
inductive Value where
  /-- The absent value. -/
  | null
  /-- A truth value. -/
  | boolean (truth : Bool)
  /-- An integer of 8 bits. -/
  | tinyInt (number : Int8)
  /-- An integer of 16 bits. -/
  | smallInt (number : Int16)
  /-- An integer of 32 bits. -/
  | int (number : Int32)
  /-- An integer of 64 bits. -/
  | bigInt (number : Int64)
  /-- A natural number of any declared width. -/
  | unsigned (number : UInt64)
  /-- An exact decimal. -/
  | decimal (number : Decimal)
  /-- A single precision float. -/
  | float (number : Single)
  /-- A double precision float. -/
  | double (number : Double)
  /-- A text. -/
  | string (content : String)
  /-- Raw bytes. -/
  | bytes (content : Bytes)
  /-- A day, counted from the epoch. -/
  | date (day : Int32)
  /-- A time of day in microseconds. -/
  | time (microseconds : Int64)
  /-- A moment in microseconds from the epoch. -/
  | timestamp (microseconds : Int64)
  /-- A calendar year. -/
  | year (number : UInt16)
  /-- A unique identifier. -/
  | guid (identifier : Uuid)
  /-- A reference to a large object that is kept elsewhere. -/
  | blob (identifier : Uuid)
  /-- A length of time, in the unit of its column. -/
  | interval (length : Int64)
  deriving DecidableEq

namespace Value

/-- Whether the value is absent. -/
def isNull : Value -> Bool
  | null => true
  | _ => false

/-- The name of the class of a value. -/
def typeName : Value -> String
  | null => "null"
  | boolean _ => "boolean"
  | tinyInt _ => "tinyint"
  | smallInt _ => "smallint"
  | int _ => "int"
  | bigInt _ => "bigint"
  | unsigned _ => "unsigned"
  | decimal _ => "decimal"
  | float _ => "float"
  | double _ => "double"
  | string _ => "string"
  | bytes _ => "bytes"
  | date _ => "date"
  | time _ => "time"
  | timestamp _ => "timestamp"
  | year _ => "year"
  | guid _ => "guid"
  | blob _ => "blob"
  | interval _ => "interval"

/-- The number of an integer of any width. -/
def asInteger? : Value -> Option Int
  | tinyInt number => some number.toInt
  | smallInt number => some number.toInt
  | int number => some number.toInt
  | bigInt number => some number.toInt
  | unsigned number => some number.toNat
  | _ => none

/-- The double nearest to a numeric value. -/
def toDouble? : Value -> Option Double
  | decimal number => some number.toDouble
  | float number => some number.toDouble
  | double number => some number
  | other => other.asInteger?.map Double.ofInt

/-- The content of a text. -/
def asString? : Value -> Option String
  | string content => some content
  | _ => none

/-- The place of the class of a value in the order of classes; all numbers
share one. -/
def classRank : Value -> Nat
  | null => 0
  | boolean _ => 1
  | tinyInt _ => 2
  | smallInt _ => 2
  | int _ => 2
  | bigInt _ => 2
  | unsigned _ => 2
  | decimal _ => 2
  | float _ => 2
  | double _ => 2
  | string _ => 3
  | bytes _ => 4
  | date _ => 5
  | time _ => 6
  | timestamp _ => 7
  | year _ => 8
  | guid _ => 9
  | blob _ => 10
  | interval _ => 11

/-- The rank that all numbers share. -/
def numericRank : Nat := 2

/-- The order of two values of possibly different classes: two integers by
value, other numbers as doubles, and else by class. -/
def compareMixed (left right : Value) : Ordering :=
  if left.classRank = numericRank ∧ right.classRank = numericRank then
    match left.asInteger?, right.asInteger? with
    | some leftNumber, some rightNumber => compare leftNumber rightNumber
    | _, _ =>
        match left.toDouble?, right.toDouble? with
        | some leftNumber, some rightNumber => leftNumber.compareTotal rightNumber
        | _, _ => .eq
  else compare left.classRank right.classRank

/-- The order of values. -/
def compareNatural : Value -> Value -> Ordering
  | boolean left, boolean right => compare left.toNat right.toNat
  | decimal left, decimal right => left.compare right
  | float left, float right => left.compareTotal right
  | double left, double right => left.compareTotal right
  | string left, string right => Utf8.compare left right
  | bytes left, bytes right => Bytes.compare left right
  | date left, date right => compare left.toInt right.toInt
  | time left, time right => compare left.toInt right.toInt
  | timestamp left, timestamp right => compare left.toInt right.toInt
  | year left, year right => compare left.toNat right.toNat
  | guid left, guid right => left.compare right
  | blob left, blob right => left.compare right
  | interval left, interval right => compare left.toInt right.toInt
  | left, right => compareMixed left right

/-- The text of a value, for people. -/
def text : Value -> String
  | null => "NULL"
  | boolean truth => if truth then "true" else "false"
  | tinyInt number => toString number.toInt
  | smallInt number => toString number.toInt
  | int number => toString number.toInt
  | bigInt number => toString number.toInt
  | unsigned number => toString number.toNat
  | decimal number => number.text
  | float number => number.text
  | double number => number.text
  | string content => content
  | bytes content => "0x" ++ Bytes.toHex content
  | date day => s!"date({day.toInt})"
  | time microseconds => s!"time({microseconds.toInt})"
  | timestamp microseconds => s!"timestamp({microseconds.toInt})"
  | year number => toString number.toNat
  | guid identifier => identifier.text
  | blob identifier => s!"blob({identifier.text})"
  | interval length => s!"interval({length.toInt})"

/-- Equality as numbers: floats compare as numbers, so a NaN differs from
itself, and decimals compare across scales.  Values of different classes are
never the same. -/
def same : Value -> Value -> Bool
  | decimal left, decimal right => left.sameNumber right
  | float left, float right => left.sameNumber right
  | double left, double right => left.sameNumber right
  | left, right => decide (left = right)

end Value
end Keyspace
