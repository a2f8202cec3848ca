import Keyspace.Row.Conversion
import Keyspace.Schema.Group
import Keyspace.Tuple.Reader

/-!
# Hierarchical keys

A hierarchical key names a row by its ancestry: one segment per table on the
path from the root of the group down to the row's own table, each with that
table's key values.  A row's encoded key starts with its parent's, so the keys
of a row and of everything below it form one range with the row itself first.
-/

namespace Keyspace

/-- The key of one table on the path. -/
structure Segment where
  /-- The table. -/
  table : TableId
  /-- The values of its primary key. -/
  values : List Value
  deriving DecidableEq

/-- A path of segments, the root's first. -/
structure HKey where
  /-- The segments. -/
  segments : List Segment
  deriving DecidableEq

namespace Segment

/-- Equality as numbers, value by value. -/
def same (left right : Segment) : Bool :=
  left.table == right.table
    && left.values.length == right.values.length
    && (left.values.zip right.values).all fun pair => pair.1.same pair.2

/-- The packed elements of a segment: the table's place, then the values. -/
def encode (segment : Segment) : Except Error Bytes := do
  let elements ← segment.values.mapM Value.toElement
  let values ← elements.mapM Element.pack
  return Element.packInteger segment.table.ordinal.toNat ++ values.flatten

/-- The text of a segment, for people. -/
def text (segment : Segment) : String :=
  let values := String.intercalate "," (segment.values.map Value.text)
  s!"{segment.table.ordinal.toNat}:({values})"

end Segment

namespace HKey

/-- The key without segments, which names no row. -/
def empty : HKey := ⟨[]⟩

/-- The table of the row that a key names. -/
def table? (hkey : HKey) : Option TableId :=
  hkey.segments.getLast?.map (·.table)

/-- The key of the parent's row; a row of the root has no parent. -/
def parent? (hkey : HKey) : Option HKey :=
  if hkey.segments.length < 2 then none else some ⟨hkey.segments.dropLast⟩

/-- Equality as numbers, segment by segment. -/
def sameSegments (left right : List Segment) : Bool :=
  left.length == right.length
    && (left.zip right).all fun pair => pair.1.same pair.2

/-- Equality as numbers. -/
def same (left right : HKey) : Bool :=
  sameSegments left.segments right.segments

/-- Whether a key is a proper initial part of another. -/
def isAncestorOf (ancestor descendant : HKey) : Bool :=
  let length := ancestor.segments.length
  decide (length < descendant.segments.length)
    && sameSegments (descendant.segments.take length) ancestor.segments

/-- The text of a key, for people. -/
def text (hkey : HKey) : String :=
  "\x7b" ++ String.intercalate "," (hkey.segments.map Segment.text) ++ "\x7d"

/-- The encoded key: the encoded segments, one after the other. -/
def encode (hkey : HKey) : Except Error Bytes := do
  let parts ← hkey.segments.mapM Segment.encode
  return parts.flatten

/-! ## Keys of rows -/

/-- The value at a key position of a row. -/
def keyValue (table : Table) (values : List Value) (position : Nat) : Except Error Value :=
  match values[position]? with
  | some value => .ok value
  | none =>
      .error (.invalidArgument
        s!"row for {table.name.text} has no value at key position {position}")

/-- The key of a row of a table, from the positions of the table's key
layout. -/
def ofValues (table : Table) (values : List Value) : Except Error HKey := do
  let segments ← table.keyLayout.mapM fun layout => do
    let key ← layout.positions.mapM (keyValue table values)
    return Segment.mk layout.table key
  return ⟨segments⟩

/-! ## Reading encoded keys -/

/-- How an optional place is written in messages. -/
def describePlace : Option TableId -> String
  | none => "None"
  | some id => s!"Some(TableId({id.ordinal.toNat}))"

/-- The table that an element at a byte offset names by its place. -/
def tableOfElement (group : Group) (position : Nat) (element : Element) :
    Except Error Table :=
  match element with
  | .integer number =>
      let inRange := decide (0 ≤ number.toInt ∧ number.toInt < 0x100000000)
      let table :=
        if inRange then group.table? ⟨UInt32.ofNat number.toInt.toNat⟩ else none
      match table with
      | some table => .ok table
      | none =>
          .error (.corruption
            s!"hkey names unknown table ordinal {number.toInt} at byte {position}")
  | other =>
      .error (.corruption (s!"hkey segment at byte {position} starts with "
        ++ s!"{other.typeName} instead of a table ordinal"))

/-- Go on reading with the result of a pure step. -/
def lift {α : Type} : Except Error α -> Decoder α
  | .ok result => return result
  | .error error => throw error

/-- Read the key value of one column. -/
def decodeValue (table : Table) (position : Nat) : Decoder Value :=
  match table.columns[position]? with
  | some column => do lift (column.valueOfElement (← Decoder.element))
  | none => throw (.internal s!"bad key position {position}")

/-- Read a segment that follows the segment of `above`. -/
def decodeSegment (group : Group) (above : Option TableId) : Decoder Segment := do
  let start := (← get).position
  let table ← lift (tableOfElement group start (← Decoder.element))
  if above ≠ table.parent then
    throw (.corruption s!"hkey places table {table.name.text} under {describePlace above}")
  else
    let values ← table.primaryKey.mapM (decodeValue table)
    return ⟨table.id, values⟩

/-- Read segments up to the end.  Every segment takes at least one byte, so as
many steps as there are bytes are enough. -/
def decodeSegments (group : Group) : Nat -> Option TableId -> Decoder (List Segment)
  | 0, _ => return []
  | steps + 1, above => do
      if (← get).isAtEnd then return []
      else
        let segment ← decodeSegment group above
        let others ← decodeSegments group steps (some segment.table)
        return segment :: others

/-- The key that a whole byte string encodes for a group. -/
def decode (group : Group) (bytes : Bytes) : Except Error HKey :=
  match decodeSegments group bytes.length none (Reader.start bytes) with
  | .ok segments _ => .ok ⟨segments⟩
  | .error error _ => .error error

/-! ## Paths -/

/-- Whether segments follow the joins of a group downward, from below a given
table, each with one admissible value per key column. -/
def FollowsJoins (group : Group) : Option TableId -> List Segment -> Prop
  | _, [] => True
  | above, segment :: rest =>
      (∃ table, group.table? segment.table = some table ∧
        table.id = segment.table ∧
        table.parent = above ∧
        segment.values.length = table.primaryKey.length ∧
        ∀ pair ∈ table.primaryKey.zip segment.values, ∃ column,
          table.columns[pair.1]? = some column ∧
          column.dataType.admits pair.2 = true) ∧
        FollowsJoins group (some segment.table) rest

/-- Whether a key is a path of a group from its root. -/
def Rooted (group : Group) (hkey : HKey) : Prop :=
  FollowsJoins group none hkey.segments

end HKey
end Keyspace
