import Keyspace.HKey

/-!
# Rows

A row holds a value for every column of its row type, added columns included.
It is stored as the packed tuple of its values and read back by the types of
its columns.
-/

namespace Keyspace

/-- A row of a table, with the key it lives at if that is known. -/
structure Row where
  /-- The columns that the row is for. -/
  rowType : RowType
  /-- The values, in the order of the columns. -/
  values : List Value
  /-- The key that the row was read at or written to. -/
  hkey : Option HKey
  deriving DecidableEq

namespace Row

/-- A row without a known key. -/
def ofValues (rowType : RowType) (values : List Value) : Row :=
  ⟨rowType, values, none⟩

/-- The same row at a key. -/
def withHKey (row : Row) (hkey : HKey) : Row :=
  { row with hkey := some hkey }

/-- The value at a position; a missing one is absent. -/
def valueOrNull (row : Row) (position : Nat) : Value :=
  (row.values[position]?).getD .null

/-- Replace the value at a position. -/
def set (row : Row) (position : Nat) (value : Value) : Except Error Row :=
  if position < row.values.length then
    .ok { row with values := row.values.set position value }
  else
    .error (.invalidArgument
      s!"position {position} out of range for row of {row.values.length} values")

/-- The tuple of a row: one element per column. -/
def toTuple (row : Row) : Except Error Tuple :=
  let expected := row.rowType.columns.length
  if row.values.length = expected then row.values.mapM Value.toElement
  else .error (.rowShapeMismatch expected row.values.length)

/-- The row of a tuple, column by column. -/
def ofTuple (rowType : RowType) (tuple : Tuple) : Except Error Row :=
  let expected := rowType.columns.length
  if tuple.length = expected then do
    let values ← (rowType.columns.zip tuple).mapM fun pair => pair.1.valueOfElement pair.2
    return ofValues rowType values
  else .error (.tupleSizeMismatch expected tuple.length)

/-- The bytes that store a row. -/
def encode (row : Row) : Except Error Bytes := do
  let tuple ← row.toTuple
  tuple.pack

/-- The row that bytes store. -/
def decode (rowType : RowType) (bytes : Bytes) : Except Error Row := do
  let tuple ← Tuple.unpack bytes
  ofTuple rowType tuple

end Row
end Keyspace
