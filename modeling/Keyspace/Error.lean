/-!
# Errors

Every failure of the keyspace is a value of `Error`.  Each error has a stable
code; the high byte of the code's number names the category of the fault.
-/

namespace Keyspace

/-- The stable codes by which callers tell failures apart. -/
inductive ErrorCode where
  | unknown
  | internal
  | notSupported
  | invalidArgument
  | keyNotFound
  | keyTooLarge
  | valueTooLarge
  | corruption
  | tupleDecode
  | typeMismatch
  | cursorState
  | rowShapeMismatch
  | tupleSizeMismatch
  | spatialColumnType
  | unknownCollation
  | invalidConfig
  deriving DecidableEq, Repr

namespace ErrorCode

/-- All codes, in the order of their numbers. -/
def all : List ErrorCode :=
  [unknown, internal, notSupported, invalidArgument,
    keyNotFound, keyTooLarge, valueTooLarge, corruption,
    tupleDecode, typeMismatch,
    cursorState, rowShapeMismatch, tupleSizeMismatch, spatialColumnType,
    unknownCollation, invalidConfig]

/-- The number of a code: its category in the high byte. -/
def number : ErrorCode -> UInt16
  | unknown => 0x0000
  | internal => 0x0001
  | notSupported => 0x0002
  | invalidArgument => 0x0003
  | keyNotFound => 0x0100
  | keyTooLarge => 0x0101
  | valueTooLarge => 0x0102
  | corruption => 0x0103
  | tupleDecode => 0x0200
  | typeMismatch => 0x0201
  | cursorState => 0x0300
  | rowShapeMismatch => 0x0301
  | tupleSizeMismatch => 0x0302
  | spatialColumnType => 0x0303
  | unknownCollation => 0x0400
  | invalidConfig => 0x0401

/-- The printed name of a code. -/
def name : ErrorCode -> String
  | unknown => "Unknown"
  | internal => "Internal"
  | notSupported => "NotSupported"
  | invalidArgument => "InvalidArgument"
  | keyNotFound => "KeyNotFound"
  | keyTooLarge => "KeyTooLarge"
  | valueTooLarge => "ValueTooLarge"
  | corruption => "Corruption"
  | tupleDecode => "TupleDecode"
  | typeMismatch => "TypeMismatch"
  | cursorState => "CursorState"
  | rowShapeMismatch => "RowShapeMismatch"
  | tupleSizeMismatch => "TupleSizeMismatch"
  | spatialColumnType => "SpatialColumnType"
  | unknownCollation => "UnknownCollation"
  | invalidConfig => "InvalidConfig"

/-- The code with a given printed name. -/
def ofName? (name : String) : Option ErrorCode :=
  all.find? fun code => code.name == name

/-- The category of a code, read off the high byte of its number. -/
def category (code : ErrorCode) : String :=
  match (code.number >>> 8).toNat with
  | 0 => "General"
  | 1 => "Storage"
  | 2 => "Encoding"
  | 3 => "Contract"
  | 4 => "Configuration"
  | _ => "Unknown"

end ErrorCode

/-- What can be asked of a cursor that its state may forbid. -/
inductive CursorOperation where
  /-- To open a scan. -/
  | start
  /-- To deliver the next row. -/
  | next
  /-- To choose other rows. -/
  | rebind
  deriving DecidableEq, Repr

namespace CursorOperation

/-- All operations. -/
def all : List CursorOperation := [start, next, rebind]

/-- The name of an operation in messages. -/
def name : CursorOperation -> String
  | start => "open"
  | next => "next"
  | rebind => "rebind"

/-- The operation of a given name. -/
def ofName? (name : String) : Option CursorOperation :=
  all.find? fun operation => operation.name == name

end CursorOperation

/-- What went wrong, with the facts a reader of the message needs. -/
inductive Error where
  /-- A defect of the keyspace itself. -/
  | internal (message : String)
  /-- An operation that has no meaning for its operands. -/
  | notSupported (operation : String)
  /-- An argument outside the domain of the operation. -/
  | invalidArgument (message : String)
  /-- A key that is not stored. -/
  | keyNotFound
  /-- A key longer than the store takes. -/
  | keyTooLarge (size maximum : Nat)
  /-- A value longer than the store takes. -/
  | valueTooLarge (size maximum : Nat)
  /-- Stored bytes that the keyspace cannot have written. -/
  | corruption (message : String)
  /-- A tuple element that cannot be read at a byte offset. -/
  | tupleDecode (position : Nat) (message : String)
  /-- An element of the wrong class or out of range for its column. -/
  | typeMismatch (column expected actual : String)
  /-- A cursor operation that the cursor's state forbids. -/
  | cursorState (operation : CursorOperation) (state : String)
  /-- A row whose field count is not that of its row type. -/
  | rowShapeMismatch (expected actual : Nat)
  /-- A tuple whose element count is not that of the row type. -/
  | tupleSizeMismatch (expected actual : Nat)
  /-- A spatial column whose type gives no coordinate. -/
  | spatialColumnType (column dataType : String)
  /-- A collation scheme name without a meaning. -/
  | unknownCollation (scheme : String)
  /-- A setting or a declaration that cannot be used. -/
  | invalidConfig (message : String)
  deriving DecidableEq, Repr

namespace Error

/-- The code of an error. -/
def code : Error -> ErrorCode
  | internal _ => .internal
  | notSupported _ => .notSupported
  | invalidArgument _ => .invalidArgument
  | keyNotFound => .keyNotFound
  | keyTooLarge _ _ => .keyTooLarge
  | valueTooLarge _ _ => .valueTooLarge
  | corruption _ => .corruption
  | tupleDecode _ _ => .tupleDecode
  | typeMismatch _ _ _ => .typeMismatch
  | cursorState _ _ => .cursorState
  | rowShapeMismatch _ _ => .rowShapeMismatch
  | tupleSizeMismatch _ _ => .tupleSizeMismatch
  | spatialColumnType _ _ => .spatialColumnType
  | unknownCollation _ => .unknownCollation
  | invalidConfig _ => .invalidConfig

/-- The text of an error. -/
def message : Error -> String
  | internal message => s!"internal error: {message}"
  | notSupported operation => s!"operation not supported: {operation}"
  | invalidArgument message => s!"invalid argument: {message}"
  | keyNotFound => "key not found"
  | keyTooLarge size maximum => s!"key size {size} exceeds maximum {maximum}"
  | valueTooLarge size maximum => s!"value size {size} exceeds maximum {maximum}"
  | corruption message => s!"data corruption detected: {message}"
  | tupleDecode position message => s!"tuple decode failed at byte {position}: {message}"
  | typeMismatch column expected actual =>
      s!"type mismatch for column '{column}': expected {expected}, got {actual}"
  | cursorState operation state => s!"cursor cannot {operation.name} while {state}"
  | rowShapeMismatch expected actual =>
      s!"row has {actual} fields but its row type declares {expected}"
  | tupleSizeMismatch expected actual =>
      s!"tuple has {actual} elements but the row type declares {expected}"
  | spatialColumnType column dataType =>
      s!"spatial column '{column}' has unsupported type {dataType}"
  | unknownCollation scheme => s!"unknown collation scheme '{scheme}'"
  | invalidConfig message => s!"invalid configuration: {message}"

/-- Whether the caller broke the contract of an operation. -/
def isContractViolation : Error -> Bool
  | cursorState _ _ => true
  | rowShapeMismatch _ _ => true
  | tupleSizeMismatch _ _ => true
  | spatialColumnType _ _ => true
  | _ => false

/-- Whether settings or declarations are at fault. -/
def isConfiguration : Error -> Bool
  | unknownCollation _ => true
  | invalidConfig _ => true
  | _ => false

/-- Whether trying again could help: never, since every failure is a function
of the input. -/
def isRetryable : Error -> Bool
  | _ => false

end Error
end Keyspace
