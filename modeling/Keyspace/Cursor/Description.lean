import Keyspace.Cursor.GroupCursor
import Keyspace.Text.Quoted

/-!
# Descriptions of cursors

A cursor is described by the structure of its parts: every value with its
class, texts quoted, and floats with a point or an exponent.
-/

namespace Keyspace

/-- A number of a class, for a description. -/
def describeNumber (className : String) (number : Int) : String :=
  s!"{className}({number})"

namespace Value

/-- A description of a value that shows its class. -/
def describe : Value -> String
  | null => "Null"
  | boolean truth => if truth then "Boolean(true)" else "Boolean(false)"
  | tinyInt number => describeNumber "TinyInt" number.toInt
  | smallInt number => describeNumber "SmallInt" number.toInt
  | int number => describeNumber "Int" number.toInt
  | bigInt number => describeNumber "BigInt" number.toInt
  | unsigned number => describeNumber "Unsigned" number.toNat
  | decimal number => s!"Decimal({number.text})"
  | float number => s!"Float({Shortest.descriptive.text .single number.value})"
  | double number => s!"Double({Shortest.descriptive.text .double number.value})"
  | string content => s!"String({Quoted.encode content})"
  | bytes content =>
      let numbers := String.intercalate ", " (content.map fun byte => toString byte.toNat)
      s!"Bytes([{numbers}])"
  | date day => describeNumber "Date" day.toInt
  | time microseconds => describeNumber "Time" microseconds.toInt
  | timestamp microseconds => describeNumber "Timestamp" microseconds.toInt
  | year number => describeNumber "Year" number.toNat
  | guid identifier => s!"Guid({identifier.text})"
  | blob identifier => s!"BlobRef({identifier.text})"
  | interval length => describeNumber "Interval" length.toInt

end Value

namespace Segment

/-- A description of a segment. -/
def describe (segment : Segment) : String :=
  let values := String.intercalate ", " (segment.values.map Value.describe)
  s!"HKeySegment \x7b table: TableId({segment.table.ordinal.toNat}), values: [{values}] \x7d"

end Segment

namespace HKey

/-- A description of a key. -/
def describe (hkey : HKey) : String :=
  let segments := String.intercalate ", " (hkey.segments.map Segment.describe)
  s!"HKey \x7b segments: [{segments}] \x7d"

end HKey

namespace GroupCursor

variable {World Scan : Type}

/-- A description of a cursor. -/
def describe (cursor : GroupCursor World Scan) : String :=
  let group := Quoted.encode cursor.group.name
  let hkey :=
    match cursor.hkey with
    | some hkey => s!"Some({hkey.describe})"
    | none => "None"
  s!"GroupCursor \x7b group: {group}, state: {cursor.phase.title}, hkey: {hkey}, "
    ++ s!"deep: {cursor.deep} \x7d"

end GroupCursor
end Keyspace
