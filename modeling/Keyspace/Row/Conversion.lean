import Keyspace.Error
import Keyspace.Row.Value
import Keyspace.Schema.Table
import Keyspace.Tuple.Element

/-!
# Values as tuple elements

Every value but an interval is stored as one tuple element: temporal values as
integers, references as identifiers.  The way back takes the column's type and
coerces nothing: the element has to be of the class that the type stores, and
integers have to be in its range.
-/

namespace Keyspace

/-- The element that stores a value. -/
def Value.toElement : Value -> Except Error Element
  | .null => .ok .null
  | .boolean truth => .ok (.boolean truth)
  | .tinyInt number => .ok (.integer (Int64.ofInt number.toInt))
  | .smallInt number => .ok (.integer (Int64.ofInt number.toInt))
  | .int number => .ok (.integer (Int64.ofInt number.toInt))
  | .bigInt number => .ok (.integer number)
  | .unsigned number => .ok (Element.ofInt number.toNat)
  | .decimal number => .ok (.decimal number)
  | .float number => .ok (.float number)
  | .double number => .ok (.double number)
  | .string content => .ok (.string content)
  | .bytes content => .ok (.bytes content)
  | .date day => .ok (.integer (Int64.ofInt day.toInt))
  | .time microseconds => .ok (.integer microseconds)
  | .timestamp microseconds => .ok (.integer microseconds)
  | .year number => .ok (.integer (Int64.ofInt number.toNat))
  | .guid identifier => .ok (.uuid identifier)
  | .blob identifier => .ok (.uuid identifier)
  | .interval _ => .error (.notSupported "tuple encoding of interval values")

namespace Column

/-- The error for an element that does not fit a column. -/
def mismatch (column : Column) (actual : String) : Error :=
  .typeMismatch column.name column.dataType.name actual

/-- Integers of more than 128 bits are not even compared with a range. -/
def fitsWide (number : Int) : Bool :=
  decide (-0x80000000000000000000000000000000 ≤ number
    ∧ number < 0x80000000000000000000000000000000)

/-- The value of an integer that is in the range of an integer type. -/
def integerValue (dataType : DataType) (number : Int) : Value :=
  match dataType with
  | .tinyInt => .tinyInt (Int8.ofInt number)
  | .smallInt => .smallInt (Int16.ofInt number)
  | .mediumInt => .int (Int32.ofInt number)
  | .int => .int (Int32.ofInt number)
  | .bigInt => .bigInt (Int64.ofInt number)
  | _ => .unsigned (UInt64.ofNat number.toNat)

/-- The value of an element in a column of an integer type. -/
def integerOfElement
    (column : Column)
    (least greatest : Int)
    (element : Element) : Except Error Value :=
  match element.asInteger?.filter fitsWide with
  | none => .error (column.mismatch element.typeName)
  | some number =>
      if number < least ∨ greatest < number then
        .error (column.mismatch s!"integer {number} out of range")
      else .ok (integerValue column.dataType number)

/-- The value of an element in a column of any other type. -/
def otherOfElement (column : Column) (element : Element) : Except Error Value :=
  match column.dataType, element with
  | .decimal _ scale, .decimal number => .ok (.decimal (number.raiseScale scale.toNat))
  | .float, .float number => .ok (.float number)
  | .double, .double number => .ok (.double number)
  | .char _, .string content => .ok (.string content)
  | .varchar _, .string content => .ok (.string content)
  | .text, .string content => .ok (.string content)
  | .binary _, .bytes content => .ok (.bytes content)
  | .varbinary _, .bytes content => .ok (.bytes content)
  | .blob, .uuid identifier => .ok (.blob identifier)
  | .guid, .uuid identifier => .ok (.guid identifier)
  | .boolean, .boolean truth => .ok (.boolean truth)
  | .date, .integer number =>
      if -0x80000000 ≤ number.toInt ∧ number.toInt < 0x80000000 then
        .ok (.date (Int32.ofInt number.toInt))
      else .error (column.mismatch "integer out of range")
  | .time, .integer number => .ok (.time number)
  | .dateTime, .integer number => .ok (.timestamp number)
  | .timestamp, .integer number => .ok (.timestamp number)
  | .year, .integer number =>
      if 0 ≤ number.toInt ∧ number.toInt < 0x10000 then
        .ok (.year (UInt16.ofNat number.toInt.toNat))
      else .error (column.mismatch "integer out of range")
  | .intervalMonths, _ => .error (.notSupported "tuple decoding of interval columns")
  | .intervalMillis, _ => .error (.notSupported "tuple decoding of interval columns")
  | _, other => .error (column.mismatch other.typeName)

/-- The value that an element stores for a column. -/
def valueOfElement (column : Column) (element : Element) : Except Error Value :=
  if element.isNull then .ok .null
  else
    match column.dataType.integerRange? with
    | some (least, greatest) => column.integerOfElement least greatest element
    | none => column.otherOfElement element

end Column

/-- Whether a value is absent or of the class that a type stores, and in its
integer range.  Interval types store no class. -/
def DataType.admits (dataType : DataType) (value : Value) : Bool :=
  match dataType, value with
  | _, .null => true
  | .tinyInt, .tinyInt _ => true
  | .smallInt, .smallInt _ => true
  | .mediumInt, .int number => decide (-0x800000 ≤ number.toInt ∧ number.toInt < 0x800000)
  | .int, .int _ => true
  | .bigInt, .bigInt _ => true
  | .unsignedTinyInt, .unsigned number => decide (number.toNat < 0x100)
  | .unsignedSmallInt, .unsigned number => decide (number.toNat < 0x10000)
  | .unsignedMediumInt, .unsigned number => decide (number.toNat < 0x1000000)
  | .unsignedInt, .unsigned number => decide (number.toNat < 0x100000000)
  | .unsignedBigInt, .unsigned _ => true
  | .decimal _ _, .decimal _ => true
  | .float, .float _ => true
  | .double, .double _ => true
  | .char _, .string _ => true
  | .varchar _, .string _ => true
  | .text, .string _ => true
  | .binary _, .bytes _ => true
  | .varbinary _, .bytes _ => true
  | .blob, .blob _ => true
  | .date, .date _ => true
  | .time, .time _ => true
  | .dateTime, .timestamp _ => true
  | .timestamp, .timestamp _ => true
  | .year, .year _ => true
  | .guid, .guid _ => true
  | .boolean, .boolean _ => true
  | _, _ => false

end Keyspace
