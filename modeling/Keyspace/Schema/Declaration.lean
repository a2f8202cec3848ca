import Keyspace.Error
import Keyspace.Schema.Group

/-!
# Declarations of groups

A group is declared as a root and children that name their parents.  Building
it numbers the tables in pre-order and derives, for every table, which of its
own columns give the keys along its root path.  A child gives its ancestors'
keys only through the join to its parent, so every key column of an ancestor
has to be joined at each level, or the declaration is refused.
-/

namespace Keyspace

/-- The declaration of a table. -/
structure TableDeclaration where
  /-- The name. -/
  name : TableName
  /-- The columns, in order. -/
  columns : List Column
  /-- The names of the key columns; none asks for an added one. -/
  primaryKey : List String
  deriving DecidableEq, Repr

/-- The declaration of a join: child columns and parent columns by name. -/
structure JoinDeclaration where
  /-- The columns of the child. -/
  childColumns : List String
  /-- The columns of the parent. -/
  parentColumns : List String
  deriving DecidableEq, Repr

/-- The declaration of a table below another. -/
structure ChildDeclaration where
  /-- The unqualified name of the parent. -/
  parent : String
  /-- The table. -/
  table : TableDeclaration
  /-- The join to the parent. -/
  join : JoinDeclaration
  deriving DecidableEq, Repr

/-- The declaration of a group. -/
structure GroupDeclaration where
  /-- The number of the group. -/
  id : UInt32
  /-- The name of the group. -/
  name : String
  /-- The root, which has to be given. -/
  root : Option TableDeclaration
  /-- All other tables. -/
  children : List ChildDeclaration
  deriving DecidableEq, Repr

/-- A declared table with its link upward; the root has none. -/
structure DeclaredTable where
  /-- The table. -/
  table : TableDeclaration
  /-- The parent's name and the join to it. -/
  link : Option (String × JoinDeclaration)
  deriving DecidableEq, Repr

namespace GroupDeclaration

/-- All declared tables: the root, then the others in declaration order. -/
def declared (root : TableDeclaration) (children : List ChildDeclaration) :
    List DeclaredTable :=
  ⟨root, none⟩ :: children.map fun child => ⟨child.table, some (child.parent, child.join)⟩

/-! ## The tree -/

/-- The first table whose unqualified name an earlier one has. -/
def repeated? : List String -> List DeclaredTable -> Option TableName
  | _, [] => none
  | seen, entry :: rest =>
      if seen.contains entry.table.name.table then some entry.table.name
      else repeated? (entry.table.name.table :: seen) rest

/-- The index of the parent that a declared table names. -/
def parentIndex (tables : List DeclaredTable) (entry : DeclaredTable) :
    Except Error (Option Nat) :=
  match entry.link with
  | none => .ok none
  | some (parent, _) =>
      if parent = entry.table.name.table then
        .error (.invalidArgument s!"table {entry.table.name.text} cannot join itself")
      else
        match tables.findIdx? fun other => other.table.name.table == parent with
        | some index => .ok (some index)
        | none =>
            .error (.invalidArgument
              s!"table {entry.table.name.text} names unknown parent '{parent}'")

/-- The indexes of the tables below an index, in declaration order. -/
def childIndexes (parents : List (Option Nat)) (index : Nat) : List Nat :=
  (List.range parents.length).filter fun child => parents[child]? == some (some index)

/-- The tree below an index in pre-order, down to a given depth. -/
def preorder (parents : List (Option Nat)) : Nat -> Nat -> List Nat
  | 0, _ => []
  | depth + 1, index =>
      index :: (childIndexes parents index).flatMap (preorder parents depth)

/-- The place of an index in an order, counted from one. -/
def placeIn (order : List Nat) (index : Nat) : TableId :=
  ⟨UInt32.ofNat (order.idxOf index + 1)⟩

/-! ## Keys -/

/-- The position of a named column of a declared table. -/
def columnPosition
    (columns : List Column)
    (table : TableDeclaration)
    (name : String) : Except Error Nat :=
  match Column.position? columns name with
  | some position => .ok position
  | none =>
      .error (.invalidArgument
        s!"column '{name}' not found in table {table.name.text}")

/-- The columns of a table and the positions of its key.  A table without a
declared key gets an added column as its key. -/
def keyedColumns (table : TableDeclaration) : Except Error (List Column × List Nat) :=
  if table.primaryKey.isEmpty then
    .ok (table.columns ++ [Column.hiddenKey], [table.columns.length])
  else do
    let key ← table.primaryKey.mapM (columnPosition table.columns table)
    return (table.columns, key)

/-- The join of a child to its parent, by positions. -/
def resolveJoin
    (join : JoinDeclaration)
    (child : TableDeclaration)
    (childColumns : List Column)
    (parent : TableDeclaration)
    (parentTable : Table) : Except Error Join :=
  let childCount := join.childColumns.length
  let parentCount := join.parentColumns.length
  if childCount ≠ parentCount then
    .error (.invalidArgument (s!"join from {child.name.text} to {parent.name.text} pairs "
      ++ s!"{childCount} child columns with {parentCount} parent columns"))
  else if childCount = 0 then
    .error (.invalidArgument
      s!"join from {child.name.text} to {parent.name.text} has no columns")
  else do
    let pairs ← (join.childColumns.zip join.parentColumns).mapM fun names => do
      let childPosition ← columnPosition childColumns child names.1
      let parentPosition ← columnPosition parentTable.columns parent names.2
      return JoinColumn.mk childPosition parentPosition
    return ⟨parentTable.id, pairs⟩

/-- The child's column that repeats a key column of its parent's layout. -/
def joinedPosition
    (join : Join)
    (child : TableDeclaration)
    (parentColumns : List Column)
    (position : Nat) : Except Error Nat :=
  match join.childPosition? position with
  | some childPosition => .ok childPosition
  | none =>
      let column := (parentColumns[position]?.map (·.name)).getD "?"
      .error (.invalidArgument (s!"table {child.name.text} does not join parent key column "
        ++ s!"'{column}'; hkey cannot be derived"))

/-- The parent's key layout carried over to the child through the join. -/
def cascadeLayout
    (parentTable : Table)
    (join : Join)
    (child : TableDeclaration) : Except Error (List KeyColumns) :=
  parentTable.keyLayout.mapM fun segment => do
    let positions ← segment.positions.mapM (joinedPosition join child parentTable.columns)
    return ⟨segment.table, positions⟩

/-! ## Tables -/

/-- What a table inherits from the parent it hangs below. -/
structure Inherited where
  /-- The join to the parent. -/
  join : Option Join
  /-- The depth of the table. -/
  depth : Nat
  /-- The key layout of the parent, by positions of the table. -/
  layout : List KeyColumns

/-- Derive what a table inherits; `built` are the tables before it in
pre-order, so its parent is among them. -/
def inherit
    (order : List Nat)
    (tables : List DeclaredTable)
    (parents : List (Option Nat))
    (built : List Table)
    (index : Nat)
    (entry : DeclaredTable)
    (columns : List Column) : Except Error Inherited :=
  match entry.link, (parents[index]?).join with
  | some (_, join), some parentIndex =>
      match tables[parentIndex]?, built[order.idxOf parentIndex]? with
      | some parent, some parentTable => do
          let resolved ← resolveJoin join entry.table columns parent.table parentTable
          let layout ← cascadeLayout parentTable resolved entry.table
          return ⟨some resolved, parentTable.depth + 1, layout⟩
      | _, _ => .error (.internal "table built before its parent")
  | _, _ => .ok ⟨none, 0, []⟩

/-- Build the table of one index. -/
def buildTable
    (order : List Nat)
    (tables : List DeclaredTable)
    (parents : List (Option Nat))
    (built : List Table)
    (index : Nat) : Except Error Table :=
  match tables[index]? with
  | none => .error (.internal "table built without a declaration")
  | some entry => do
      let id := placeIn order index
      let (columns, key) ← keyedColumns entry.table
      let inherited ← inherit order tables parents built index entry columns
      return {
        id := id
        name := entry.table.name
        columns := columns
        primaryKey := key
        join := inherited.join
        children := (childIndexes parents index).map (placeIn order)
        depth := inherited.depth
        keyLayout := inherited.layout ++ [⟨id, key⟩] }

/-- Build the tables of an order behind those already built. -/
def buildTables
    (order : List Nat)
    (tables : List DeclaredTable)
    (parents : List (Option Nat)) :
    List Table -> List Nat -> Except Error (List Table)
  | built, [] => .ok built
  | built, index :: rest => do
      let table ← buildTable order tables parents built index
      buildTables order tables parents (built ++ [table]) rest

/-- The greatest number of tables whose places still fit their ordinals. -/
def maxTables : Nat := 0xFFFFFFFF

/-- Build the group of a declaration. -/
def build (declaration : GroupDeclaration) : Except Error Group :=
  match declaration.root with
  | none => .error (.invalidArgument s!"group '{declaration.name}' has no root")
  | some root =>
      let tables := declared root declaration.children
      match repeated? [] tables with
      | some name =>
          .error (.invalidArgument
            s!"table {name.text} declared twice in group '{declaration.name}'")
      | none => do
          let parents ← tables.mapM (parentIndex tables)
          let order := preorder parents tables.length 0
          if order.length ≠ tables.length then
            throw (.invalidArgument
              s!"group '{declaration.name}' has tables not connected to its root")
          else if maxTables < order.length then
            throw (.invalidArgument "too many tables in group")
          else
            let built ← buildTables order tables parents [] order
            return ⟨declaration.id, declaration.name, built⟩

end GroupDeclaration
end Keyspace
