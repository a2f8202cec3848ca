import Keyspace.Store.KeyLayout
import Keyspace.Store.Map

/-!
# Stores of groups

A group store keeps the rows of groups and the entries of their indexes in one
key-value store.  Rows of tables without a declared key get numbers: the first
one behind the largest number that the store holds for the table, and each
further one behind the number given before.
-/

namespace Keyspace

/-- The number given last to a row of a table. -/
structure RowCounter where
  /-- The group. -/
  group : UInt32
  /-- The table. -/
  table : TableId
  /-- The number. -/
  last : Int64
  deriving DecidableEq, Repr

/-- A key-value store with the numbers given to its rows by one session. -/
structure GroupStore where
  /-- The key-value store. -/
  store : Store
  /-- The numbers given last; no table has two. -/
  counters : List RowCounter

namespace GroupStore

/-- A session over a key-value store that has given no number yet. -/
def ofStore (store : Store) : GroupStore :=
  ⟨store, []⟩

/-- The table of a group that a row is for. -/
def tableOf (group : Group) (rowType : RowType) : Except Error Table :=
  let refused : Error :=
    .invalidArgument
      s!"row of {rowType.tableName.text} does not belong to group '{group.name}'"
  match group.table? rowType.table with
  | some table => if table.name = rowType.tableName then .ok table else .error refused
  | none => .error refused

/-! ## Rows at given keys -/

/-- Write a row at a key that names a row of its table. -/
def writeAt (store : Store) (group : Group) (hkey : HKey) (row : Row) :
    Except Error Store := do
  let table ← tableOf group row.rowType
  if hkey.table? ≠ some table.id then
    throw (.invalidArgument s!"hkey {hkey.text} does not name a row of {table.name.text}")
  else
    let key ← KeyLayout.rowKey group hkey
    let value ← row.encode
    store.put key value

/-- The row at a key, if there is one. -/
def readRow (store : Store) (group : Group) (hkey : HKey) : Except Error (Option Row) :=
  match hkey.table?.bind group.table? with
  | none => .error (.invalidArgument s!"hkey {hkey.text} names no table")
  | some table => do
      let key ← KeyLayout.rowKey group hkey
      match store.get? key with
      | none => return none
      | some bytes =>
          let row ← Row.decode table.rowType bytes
          return some (row.withHKey hkey)

/-- Delete the row at a key and tell whether there was one. -/
def deleteRow (store : Store) (group : Group) (hkey : HKey) : Except Error (Bool × Store) := do
  let key ← KeyLayout.rowKey group hkey
  return ((store.get? key).isSome, store.erase key)

/-! ## Row numbers -/

/-- The number that a row of a table has for its key, if its key is one. -/
def rowNumber? (table : TableId) (hkey : HKey) : Option Int64 :=
  match hkey.segments.getLast? with
  | none => none
  | some segment =>
      if segment.table = table then
        match segment.values.getLast? with
        | some (.bigInt number) => some number
        | _ => none
      else none

/-- The largest number of a row of a table, at least zero.  Every key of the
group has to be one that its tables admit. -/
def largestRowNumber (store : Store) (group : Group) (table : TableId) :
    Except Error Int64 := do
  let range ← KeyLayout.groupRange group
  let start := KeyLayout.groupStart group.id
  let hkeys ← (store.within range).mapM fun entry =>
    HKey.decode group (entry.key.drop start.length)
  return (hkeys.filterMap (rowNumber? table)).foldl max 0

/-- The number given last to a row of a table. -/
def counter? (session : GroupStore) (group : Group) (table : TableId) : Option Int64 :=
  (session.counters.find? fun counter =>
    counter.group == group.id && counter.table == table).map (·.last)

/-- Take note of the number given last. -/
def setCounter (session : GroupStore) (group : Group) (table : TableId) (last : Int64) :
    GroupStore :=
  let others := session.counters.filter fun counter =>
    !(counter.group == group.id && counter.table == table)
  { session with counters := ⟨group.id, table, last⟩ :: others }

/-- The number before the next one: the one given last, or the largest one in
the store. -/
def lastRowNumber (session : GroupStore) (group : Group) (table : TableId) :
    Except Error Int64 :=
  match session.counter? group table with
  | some last => .ok last
  | none => largestRowNumber session.store group table

/-- The number for the next row of a table.  Numbers never wrap around. -/
def nextRowNumber (session : GroupStore) (group : Group) (table : TableId) :
    Except Error Int64 × GroupStore :=
  match session.lastRowNumber group table with
  | .error error => (.error error, session)
  | .ok last =>
      if last = Int64.maxValue then
        (.error (.invalidArgument s!"row ids of table {table.ordinal.toNat} exhausted"),
          session.setCounter group table last)
      else (.ok (last + 1), session.setCounter group table (last + 1))

/-- Give a row of a table without a declared key its number, if it has none
yet. -/
def numberRow (session : GroupStore) (group : Group) (table : Table) (row : Row) :
    Except Error Row × GroupStore :=
  match table.hiddenKeyPosition? with
  | none => (.ok row, session)
  | some position =>
      if (row.valueOrNull position).isNull then
        match session.nextRowNumber group table.id with
        | (.error error, counted) => (.error error, counted)
        | (.ok number, counted) => (row.set position (.bigInt number), counted)
      else (.ok row, session)

/-- Write a row at the key that its values give. -/
def writeRow (session : GroupStore) (group : Group) (row : Row) :
    Except Error HKey × GroupStore :=
  match tableOf group row.rowType with
  | .error error => (.error error, session)
  | .ok table =>
      match session.numberRow group table row with
      | (.error error, counted) => (.error error, counted)
      | (.ok numbered, counted) =>
          let written : Except Error (HKey × Store) := do
            let hkey ← HKey.ofValues table numbered.values
            let store ← writeAt counted.store group hkey numbered
            return (hkey, store)
          match written with
          | .error error => (.error error, counted)
          | .ok (hkey, store) => (.ok hkey, { counted with store := store })

/-! ## Index entries -/

/-- The key of a row in an index: the index, its key fields, and the row's
key. -/
def indexKey (group : Group) (index : Index) (spatial : Option SpatialIndex) (row : Row) :
    Except Error Bytes := do
  let table ← tableOf group row.rowType
  if index.table ≠ table.id then
    throw (.invalidArgument s!"index '{index.name}' is not on table {table.name.text}")
  else
    let fields ← KeyLayout.indexFields index spatial row
    let hkey ←
      match row.hkey with
      | some hkey => pure hkey
      | none => HKey.ofValues table row.values
    return KeyLayout.indexStart index.id ++ fields ++ (← hkey.encode)

/-- Write the entry of a row in an index and give back its key. -/
def writeIndexRow
    (store : Store)
    (group : Group)
    (index : Index)
    (spatial : Option SpatialIndex)
    (row : Row) : Except Error (Bytes × Store) := do
  let key ← indexKey group index spatial row
  let written ← store.put key []
  return (key, written)

/-- The keys of all entries of an index, in order. -/
def indexKeys (store : Store) (index : Index) : Except Error (List Bytes) := do
  let range ← KeyRange.ofStart (KeyLayout.indexStart index.id)
  return (store.within range).map (·.key)

end GroupStore
end Keyspace
