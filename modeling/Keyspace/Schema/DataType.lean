/-!
# Column types

The declared types of columns, with the integer ranges that stored numbers
have to keep to.
-/

namespace Keyspace

/-- The declared type of a column. -/
inductive DataType where
  | tinyInt
  | smallInt
  | mediumInt
  | int
  | bigInt
  | unsignedTinyInt
  | unsignedSmallInt
  | unsignedMediumInt
  | unsignedInt
  | unsignedBigInt
  | decimal (precision scale : UInt8)
  | float
  | double
  | char (length : UInt32)
  | varchar (length : UInt32)
  | text
  | binary (length : UInt32)
  | varbinary (length : UInt32)
  | blob
  | date
  | time
  | dateTime
  | timestamp
  | year
  | guid
  | boolean
  | intervalMonths
  | intervalMillis
  deriving DecidableEq, Repr

namespace DataType

/-- Whether values of the type can be tuple elements: all but intervals. -/
def isTupleEncodable : DataType -> Bool
  | intervalMonths => false
  | intervalMillis => false
  | _ => true

/-- Whether the type holds integers of both signs. -/
def isSignedInteger : DataType -> Bool
  | tinyInt => true
  | smallInt => true
  | mediumInt => true
  | int => true
  | bigInt => true
  | _ => false

/-- Whether the type holds natural numbers. -/
def isUnsignedInteger : DataType -> Bool
  | unsignedTinyInt => true
  | unsignedSmallInt => true
  | unsignedMediumInt => true
  | unsignedInt => true
  | unsignedBigInt => true
  | _ => false

/-- Whether the type holds integers. -/
def isInteger (dataType : DataType) : Bool :=
  dataType.isSignedInteger || dataType.isUnsignedInteger

/-- Whether the type holds decimals. -/
def isDecimal : DataType -> Bool
  | decimal _ _ => true
  | _ => false

/-- Whether the type holds texts. -/
def isString : DataType -> Bool
  | char _ => true
  | varchar _ => true
  | text => true
  | _ => false

/-- Whether the type holds dates, times or years. -/
def isTemporal : DataType -> Bool
  | date => true
  | time => true
  | dateTime => true
  | timestamp => true
  | year => true
  | _ => false

/-- The least and the greatest number of an integer type. -/
def integerRange? : DataType -> Option (Int × Int)
  | tinyInt => some (-0x80, 0x7F)
  | smallInt => some (-0x8000, 0x7FFF)
  | mediumInt => some (-0x800000, 0x7FFFFF)
  | int => some (-0x80000000, 0x7FFFFFFF)
  | bigInt => some (-0x8000000000000000, 0x7FFFFFFFFFFFFFFF)
  | unsignedTinyInt => some (0, 0xFF)
  | unsignedSmallInt => some (0, 0xFFFF)
  | unsignedMediumInt => some (0, 0xFFFFFF)
  | unsignedInt => some (0, 0xFFFFFFFF)
  | unsignedBigInt => some (0, 0xFFFFFFFFFFFFFFFF)
  | _ => none

/-- The text of a type, as in a declaration. -/
def name : DataType -> String
  | tinyInt => "TINYINT"
  | smallInt => "SMALLINT"
  | mediumInt => "MEDIUMINT"
  | int => "INT"
  | bigInt => "BIGINT"
  | unsignedTinyInt => "TINYINT UNSIGNED"
  | unsignedSmallInt => "SMALLINT UNSIGNED"
  | unsignedMediumInt => "MEDIUMINT UNSIGNED"
  | unsignedInt => "INT UNSIGNED"
  | unsignedBigInt => "BIGINT UNSIGNED"
  | decimal precision scale => s!"DECIMAL({precision.toNat}, {scale.toNat})"
  | float => "FLOAT"
  | double => "DOUBLE"
  | char length => s!"CHAR({length.toNat})"
  | varchar length => s!"VARCHAR({length.toNat})"
  | text => "TEXT"
  | binary length => s!"BINARY({length.toNat})"
  | varbinary length => s!"VARBINARY({length.toNat})"
  | blob => "BLOB"
  | date => "DATE"
  | time => "TIME"
  | dateTime => "DATETIME"
  | timestamp => "TIMESTAMP"
  | year => "YEAR"
  | guid => "GUID"
  | boolean => "BOOLEAN"
  | intervalMonths => "INTERVAL_MONTHS"
  | intervalMillis => "INTERVAL_MILLIS"

end DataType
end Keyspace
