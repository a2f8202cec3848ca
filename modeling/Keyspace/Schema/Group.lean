import Keyspace.Schema.Table

/-!
# Groups

A group is a tree of tables that share one clustered keyspace.  Its tables are
kept in pre-order, so the place of a table is one more than its index, and the
descendants of a table follow it as long as the depth stays greater.
-/

namespace Keyspace

/-- A tree of tables in pre-order. -/
structure Group where
  /-- The number of the group. -/
  id : UInt32
  /-- The name of the group. -/
  name : String
  /-- The tables, the root first. -/
  tables : List Table
  deriving DecidableEq, Repr

namespace Group

/-- The root of the tree. -/
def root? (group : Group) : Option Table :=
  group.tables.head?

/-- The table at a place. -/
def table? (group : Group) (id : TableId) : Option Table :=
  match id.ordinal.toNat with
  | 0 => none
  | index + 1 => group.tables[index]?

/-- The table of an unqualified name. -/
def tableByName? (group : Group) (name : String) : Option Table :=
  group.tables.find? fun table => table.name.table == name

/-- The tables that name a table as their parent, in declaration order. -/
def children (group : Group) (id : TableId) : List Table :=
  match group.table? id with
  | some table => table.children.filterMap group.table?
  | none => []

/-- The places of all tables below a table, ascending. -/
def descendants (group : Group) (id : TableId) : List TableId :=
  match group.table? id with
  | some table =>
      let following := group.tables.drop id.ordinal.toNat
      (following.takeWhile fun other => table.depth < other.depth).map (·.id)
  | none => []

/-- The parent's place. -/
def parent? (group : Group) (id : TableId) : Option TableId :=
  (group.table? id).bind Table.parent

/-- The places passed on at most `steps` joins upward. -/
def ancestorsWithin (group : Group) : Nat -> TableId -> List TableId
  | 0, _ => []
  | steps + 1, id =>
      match group.parent? id with
      | some parent => parent :: ancestorsWithin group steps parent
      | none => []

/-- The places on the way to the root, nearest first.  No way is longer than
the number of tables. -/
def ancestors (group : Group) (id : TableId) : List TableId :=
  ancestorsWithin group group.tables.length id

/-- Whether one table lies on the way from another to the root. -/
def isAncestor (group : Group) (ancestor descendant : TableId) : Bool :=
  (group.ancestors descendant).contains ancestor

end Group
end Keyspace
