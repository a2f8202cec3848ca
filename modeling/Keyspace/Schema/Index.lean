import Keyspace.Error
import Keyspace.Schema.Table
import Keyspace.Words

/-!
# Indexes

An index orders the rows of one table by a list of its columns.  A run of
consecutive index columns may be declared spatial.
-/

namespace Keyspace

/-- The run of index columns that are coordinates. -/
structure SpatialRun where
  /-- The first field of the run. -/
  firstField : UInt64
  /-- How many fields the run has. -/
  fieldCount : UInt64
  deriving DecidableEq, Repr

namespace SpatialRun

/-- The number of the first field. -/
def first (run : SpatialRun) : Nat :=
  run.firstField.toNat

/-- The number of dimensions, one for each field. -/
def dimensions (run : SpatialRun) : Nat :=
  run.fieldCount.toNat

/-- The number of the last field, which is found by adding words; a run of no fields
ends where it starts. -/
def last (run : SpatialRun) : Nat :=
  (run.firstField + (run.dimensions - 1 : Nat)).toNat

end SpatialRun

/-- An index of a table. -/
structure Index where
  /-- The number of the index. -/
  id : UInt32
  /-- The name of the index. -/
  name : String
  /-- The place of the indexed table. -/
  table : TableId
  /-- The positions of the key columns. -/
  keyColumns : List Nat
  /-- The key columns themselves. -/
  keyDefinitions : List Column
  /-- The full names of the key columns. -/
  qualifiedNames : List String
  /-- The spatial run, if one is declared. -/
  spatial : Option SpatialRun
  deriving DecidableEq, Repr

namespace Index

/-- The position of a named key column. -/
def keyPosition (name : String) (table : Table) (column : String) : Except Error Nat :=
  match Column.position? table.columns column with
  | some position => .ok position
  | none =>
      .error (.invalidArgument
        s!"index '{name}': column '{column}' not found in table {table.name.text}")

/-- Declare an index over named columns of a table. -/
def declare
    (id : UInt32)
    (name : String)
    (table : Table)
    (columns : List String)
    (spatial : Option SpatialRun) : Except Error Index :=
  if columns.isEmpty then
    .error (.invalidArgument s!"index '{name}' has no key columns")
  else do
    let positions ← columns.mapM (keyPosition name table)
    return {
      id := id
      name := name
      table := table.id
      keyColumns := positions
      keyDefinitions := positions.filterMap fun position => table.columns[position]?
      qualifiedNames := positions.map table.qualifiedColumn
      spatial := spatial }

end Index
end Keyspace
