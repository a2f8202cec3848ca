import Keyspace.Row.Row
import Keyspace.Schema.Index
import Keyspace.Spatial.Space

/-!
# Spatial index keys

A spatial index replaces the run of its coordinate columns by one element, the
z-value of the row's point, so that rows near each other get keys near each
other.  All other columns keep their ordinary elements.
-/

namespace Keyspace

/-- How a column gives a coordinate. -/
inductive CoordinateKind where
  | decimal
  | integer
  deriving DecidableEq, Repr

/-- A column that gives a coordinate. -/
structure Coordinate where
  /-- The position in the row. -/
  position : Nat
  /-- The column's name. -/
  column : String
  /-- What values the column holds. -/
  kind : CoordinateKind
  deriving DecidableEq, Repr

/-- A spatial index together with the space of its points. -/
structure SpatialIndex where
  /-- The number of the index. -/
  indexId : UInt32
  /-- The positions of the key columns. -/
  keyPositions : List Nat
  /-- The first field of the spatial run. -/
  first : Nat
  /-- The last field of the spatial run. -/
  last : Nat
  /-- The columns of the run. -/
  coordinates : List Coordinate
  /-- The space of the points. -/
  space : Space
  deriving DecidableEq

namespace SpatialIndex

/-- How values of a type give coordinates, if they do. -/
def kindOf? (dataType : DataType) : Option CoordinateKind :=
  if dataType.isDecimal then some .decimal
  else if dataType.isInteger then some .integer
  else none

/-- The coordinate that a key field of an index gives. -/
def coordinateOf (index : Index) (field : Nat) : Except Error Coordinate :=
  match index.keyDefinitions[field]?, index.keyColumns[field]? with
  | some column, some position =>
      match kindOf? column.dataType with
      | some kind => .ok ⟨position, column.name, kind⟩
      | none =>
          .error (.spatialColumnType (index.qualifiedNames[field]?.getD column.name)
            column.dataType.name)
  | _, _ => .error (.internal s!"index '{index.name}' has no field {field}")

/-- The number of dimensions that spatial indexes are made for. -/
def supportedDimensions : Nat := 2

/-- Bind an index to its table and to a space. -/
def make (index : Index) (table : Table) (space : Space) : Except Error SpatialIndex :=
  if index.table ≠ table.id then
    .error (.invalidArgument s!"index '{index.name}' is not on table {table.name.text}")
  else
    match index.spatial with
    | none => .error (.invalidArgument s!"index '{index.name}' is not spatial")
    | some run =>
        if run.dimensions ≠ supportedDimensions then
          .error (.notSupported s!"spatial index with {run.dimensions} dimensions")
        else if space.dimensions ≠ run.dimensions then
          .error (.invalidArgument (s!"index '{index.name}' has {run.dimensions} spatial "
            ++ s!"fields but its space has {space.dimensions} dimensions"))
        else if index.keyColumns.length ≤ run.last then
          .error (.invalidArgument (s!"index '{index.name}' declares spatial fields "
            ++ s!"{run.first}..={run.last} over a {index.keyColumns.length}-column key"))
        else do
          let fields := List.range' run.first (run.last + 1 - run.first)
          let coordinates ← fields.mapM (coordinateOf index)
          return {
            indexId := index.id
            keyPositions := index.keyColumns
            first := run.first
            last := run.last
            coordinates := coordinates
            space := space }

/-- Whether a key field is the one that holds the z-value. -/
def isSpatialField (index : SpatialIndex) (field : Nat) : Bool :=
  field == index.first

/-- The coordinate of a row. -/
def coordinateValue (row : Row) (coordinate : Coordinate) : Except Error Double :=
  let value := row.valueOrNull coordinate.position
  let mismatch : Error :=
    .typeMismatch coordinate.column "numeric coordinate" value.typeName
  match coordinate.kind, value with
  | _, .null =>
      .error (.invalidArgument s!"spatial coordinate '{coordinate.column}' is null")
  | .decimal, .decimal number => .ok number.toDouble
  | .integer, other =>
      match other.asInteger? with
      | some number => .ok (Double.ofInt number)
      | none => .error mismatch
  | _, _ => .error mismatch

/-- The z-value of a row. -/
def zValue (index : SpatialIndex) (row : Row) : Except Error Int64 := do
  let point ← index.coordinates.mapM (coordinateValue row)
  let z ← index.space.shuffle point
  if z.toInt < 0 then throw (.internal s!"negative z-value {z.toInt}")
  else return z

/-- What a key field adds to the key: the first field of the run the z-value,
the others of the run nothing, and all else the value's element. -/
def keyField (index : SpatialIndex) (row : Row) (field : Nat) : Except Error Bytes :=
  if field = index.first then do
    let z ← index.zValue row
    return Element.packInteger z.toInt
  else if index.first < field ∧ field ≤ index.last then .ok []
  else
    match index.keyPositions[field]? with
    | none => .error (.invalidArgument s!"index key has no field {field}")
    | some position => do
        let element ← (row.valueOrNull position).toElement
        element.pack

/-- The key of a row: what its fields add, one after the other. -/
def key (index : SpatialIndex) (row : Row) : Except Error Bytes := do
  let parts ← (List.range index.keyPositions.length).mapM (index.keyField row)
  return parts.flatten

end SpatialIndex
end Keyspace
