import Keyspace.Error
import Keyspace.Schema.Group
import Keyspace.Schema.Index

/-!
# Which columns can be stored

Columns of interval types have no place in tuples.  A group with such a column
cannot be stored, and an index over one has no keys.
-/

namespace Keyspace

/-- Which columns of a table become tuple elements. -/
inductive TupleUsage where
  /-- Only the primary key. -/
  | keyOnly
  /-- All columns. -/
  | keyAndRow
  deriving DecidableEq, Repr

namespace Table

/-- The positions of the columns that become tuple elements. -/
def usedPositions (table : Table) : TupleUsage -> List Nat
  | .keyOnly => table.primaryKey
  | .keyAndRow => List.range table.columns.length

/-- Whether there is a column at a position and no tuple can hold it. -/
def isUnstorable (table : Table) (position : Nat) : Bool :=
  match table.columns[position]? with
  | some column => !column.dataType.isTupleEncodable
  | none => false

/-- The full names of the used columns that no tuple can hold. -/
def unstorableColumns (table : Table) (usage : TupleUsage) : List String :=
  ((table.usedPositions usage).filter table.isUnstorable).map table.qualifiedColumn

end Table

namespace Group

/-- The same for a table and all tables below it. -/
def unstorableColumns (group : Group) (table : Table) (usage : TupleUsage) : List String :=
  let below := (group.descendants table.id).filterMap group.table?
  (table :: below).flatMap fun member => member.unstorableColumns usage

/-- Refuse a group with a column that no tuple can hold. -/
def validate (group : Group) : Except Error Unit :=
  let unstorable :=
    match group.root? with
    | some root => group.unstorableColumns root .keyAndRow
    | none => []
  if unstorable.isEmpty then .ok ()
  else
    let names := String.intercalate ", " unstorable
    .error (.invalidConfig
      s!"group '{group.name}' has columns that cannot be stored: {names}")

end Group

/-- The full names of the key columns of an index that no tuple can hold. -/
def Index.unstorableColumns (index : Index) : List String :=
  ((index.keyDefinitions.zip index.qualifiedNames).filter fun pair =>
    !pair.1.dataType.isTupleEncodable).map Prod.snd

end Keyspace
