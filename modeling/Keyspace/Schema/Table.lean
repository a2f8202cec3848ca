import Keyspace.Schema.DataType

/-!
# Tables

A table of a group knows its columns, its primary key, the join to its parent
and, for every table on the path from the root, which of its own columns give
that table's key.
-/

namespace Keyspace

/-- The place of a table in the pre-order of its group, counted from one. -/
structure TableId where
  /-- The place. -/
  ordinal : UInt32
  deriving DecidableEq, Repr

/-- A table's name within its schema. -/
structure TableName where
  /-- The schema. -/
  schema : String
  /-- The unqualified name. -/
  table : String
  deriving DecidableEq, Repr

namespace TableName

/-- The name with its schema. -/
def text (name : TableName) : String :=
  s!"{name.schema}.{name.table}"

/-- The full name of a column of the table. -/
def qualify (name : TableName) (column : String) : String :=
  s!"{name.schema}.{name.table}.{column}"

end TableName

/-- A column of a table. -/
structure Column where
  /-- The unqualified name. -/
  name : String
  /-- The declared type. -/
  dataType : DataType
  /-- Whether the column is declared to take absent values. -/
  nullable : Bool
  /-- The declared collation scheme, for texts. -/
  collation : Option String
  /-- Whether the keyspace added the column itself. -/
  internal : Bool
  deriving DecidableEq, Repr

namespace Column

/-- The name of the column that is added to tables without a primary key. -/
def hiddenKeyName : String := "__row_id"

/-- The column that is added to tables without a primary key. -/
def hiddenKey : Column :=
  ⟨hiddenKeyName, .bigInt, false, none, true⟩

/-- The position of the first column of a name. -/
def position? (columns : List Column) (name : String) : Option Nat :=
  columns.findIdx? fun column => column.name == name

end Column

/-- One pair of a join: a column of the child and the parent's column that it
repeats. -/
structure JoinColumn where
  /-- The position in the child. -/
  child : Nat
  /-- The position in the parent. -/
  parent : Nat
  deriving DecidableEq, Repr

/-- How a table refers to its parent. -/
structure Join where
  /-- The parent. -/
  parent : TableId
  /-- The column pairs. -/
  columns : List JoinColumn
  deriving DecidableEq, Repr

namespace Join

/-- The child's column that repeats a column of the parent, if one does. -/
def childPosition? (join : Join) (parentPosition : Nat) : Option Nat :=
  (join.columns.find? fun pair => pair.parent == parentPosition).map (·.child)

end Join

/-- Where a row's values give the key of one table on its root path. -/
structure KeyColumns where
  /-- The table whose key is given. -/
  table : TableId
  /-- The positions in the row, in the order of that table's primary key. -/
  positions : List Nat
  deriving DecidableEq, Repr

/-- What a row has to look like: the columns of a table. -/
structure RowType where
  /-- The table's place in its group. -/
  table : TableId
  /-- The table's name. -/
  tableName : TableName
  /-- The columns, in order. -/
  columns : List Column
  deriving DecidableEq, Repr

/-- A table of a group. -/
structure Table where
  /-- The place in the group. -/
  id : TableId
  /-- The name. -/
  name : TableName
  /-- The columns, an added one last. -/
  columns : List Column
  /-- The positions of the primary key. -/
  primaryKey : List Nat
  /-- The join to the parent; the root has none. -/
  join : Option Join
  /-- The children, in declaration order. -/
  children : List TableId
  /-- How many joins lie between the table and the root. -/
  depth : Nat
  /-- The key columns of every table on the root path, root first. -/
  keyLayout : List KeyColumns
  deriving DecidableEq, Repr

namespace Table

/-- The parent's place in the group. -/
def parent (table : Table) : Option TableId :=
  table.join.map (·.parent)

/-- Whether the table has no parent. -/
def isRoot (table : Table) : Bool :=
  table.join.isNone

/-- The row type of the table. -/
def rowType (table : Table) : RowType :=
  ⟨table.id, table.name, table.columns⟩

/-- The position of an added key column, if the primary key is one. -/
def hiddenKeyPosition? (table : Table) : Option Nat :=
  match table.primaryKey with
  | [position] =>
      match table.columns[position]? with
      | some column => if column.internal then some position else none
      | none => none
  | _ => none

/-- The full name of the column at a position. -/
def qualifiedColumn (table : Table) (position : Nat) : String :=
  match table.columns[position]? with
  | some column => table.name.qualify column.name
  | none => table.name.qualify s!"#{position}"

end Table
end Keyspace
