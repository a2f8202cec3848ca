import Keyspace.Cursor.ScanUsage
import Keyspace.Cursor.Source
import Keyspace.Store.KeyLayout

/-!
# Group cursors

A cursor delivers the rows of a group in the order of their keys: all of them,
a row with everything below it, or one row alone.  It is bound while no scan
runs, opened, stepped and closed.  Opening reads the first entry, which the
first step delivers, so an open cursor that found nothing is idle at once.
-/

namespace Keyspace

/-- A scan of a cursor. -/
inductive GroupScan (Scan : Type) where
  /-- Over a range of keys. -/
  | overRange (scan : Scan)
  /-- Of one key, with its value once it was read. -/
  | atKey (key : Bytes) (value : Option Bytes) (isRead : Bool)
  deriving DecidableEq

/-- What a cursor is doing. -/
inductive CursorPhase where
  /-- Never opened, or closed again. -/
  | closed
  /-- Opened, with nothing left. -/
  | idle
  /-- In a scan. -/
  | active
  deriving DecidableEq

/-- A cursor over the rows of a group. -/
structure GroupCursor (World Scan : Type) where
  /-- Where entries are read. -/
  source : Source World Scan
  /-- The group. -/
  group : Group
  /-- The row at which the next scan starts; all rows if absent. -/
  hkey : Option HKey
  /-- Whether the next scan takes in what lies below the row. -/
  deep : Bool
  /-- What the cursor is doing. -/
  phase : CursorPhase
  /-- The scan that was opened last, as long as it is held. -/
  scan : Option (GroupScan Scan)
  /-- Whether the entry that opening read has still to be delivered. -/
  isPending : Bool

namespace CursorPhase

/-- Whether a scan runs. -/
def isActive : CursorPhase -> Bool
  | active => true
  | _ => false

/-- The name of a phase. -/
def name : CursorPhase -> String
  | closed => "closed"
  | idle => "idle"
  | active => "active"

/-- The name of a phase in descriptions. -/
def title : CursorPhase -> String
  | closed => "Closed"
  | idle => "Idle"
  | active => "Active"

end CursorPhase

namespace GroupScan

variable {World Scan : Type}

/-- Step a scan, and tell whether it stands at an entry.  The scan of one key
takes one step that can find something. -/
def advance (source : Source World Scan) (world : World) :
    GroupScan Scan -> Except Error Bool × GroupScan Scan
  | overRange scan =>
      let (found, next) := source.advance world scan
      (found, overRange next)
  | atKey key value isRead =>
      if isRead then (.ok false, atKey key none true)
      else
        match source.get world key with
        | .error error => (.error error, atKey key value true)
        | .ok found => (.ok found.isSome, atKey key found true)

/-- The entry at which a scan stands. -/
def current (source : Source World Scan) : GroupScan Scan -> Option Entry
  | overRange scan => source.current scan
  | atKey key value _ => value.map fun found => ⟨key, found⟩

/-- As many steps as a scan can have left. -/
def stepBound (source : Source World Scan) (world : World) : GroupScan Scan -> Nat
  | overRange scan => source.stepBound world scan
  | atKey _ _ _ => 2

end GroupScan

/-! ## Rows of entries -/

namespace Group

/-- The row that an entry holds, at the key that it names. -/
def rowOfEntry (group : Group) (entry : Entry) : Except Error Row :=
  match Bytes.dropStart? (KeyLayout.groupStart group.id) entry.key with
  | none =>
      .error (.corruption
        s!"key 0x{Bytes.toHex entry.key} is outside group '{group.name}'")
  | some encoded => do
      let hkey ← HKey.decode group encoded
      match hkey.table?.bind group.table? with
      | none => throw (.corruption "empty hkey")
      | some table =>
          let row ← Row.decode table.rowType entry.value
          return row.withHKey hkey

end Group

namespace GroupCursor

variable {World Scan : Type}

/-- A closed cursor over all rows of a group. -/
def make (source : Source World Scan) (group : Group) : GroupCursor World Scan :=
  ⟨source, group, none, true, .closed, none, false⟩

/-- The error of an operation that the phase forbids. -/
def phaseError (cursor : GroupCursor World Scan) (operation : CursorOperation) : Error :=
  .cursorState operation cursor.phase.name

/-- Choose the rows of the next scan.  This is refused while a scan runs. -/
def rebind (cursor : GroupCursor World Scan) (hkey : Option HKey) (deep : Bool) :
    Except Error (GroupCursor World Scan) :=
  if cursor.phase.isActive then .error (cursor.phaseError .rebind)
  else .ok { cursor with hkey := hkey, deep := deep }

/-- A scan of the chosen rows, before its first step. -/
def startScan (cursor : GroupCursor World Scan) (world : World) :
    Except Error (GroupScan Scan) :=
  match cursor.hkey with
  | none => do
      let first := KeyLayout.groupStart cursor.group.id
      let beyond ← KeyRange.successor first
      let scan ← cursor.source.openScan world (some first) (some beyond)
      return .overRange scan
  | some hkey => do
      let key ← KeyLayout.rowKey cursor.group hkey
      if cursor.deep then
        let scan ← cursor.source.openScan world (some key) (some (KeyLayout.subtreeEnd key))
        return .overRange scan
      else return .atKey key none false

/-- Start a scan of the chosen rows and read its first entry.  This is refused
while a scan runs. -/
def start (cursor : GroupCursor World Scan) (world : World) (usage : ScanUsage) :
    Except Error Unit × GroupCursor World Scan × ScanUsage :=
  if cursor.phase.isActive then (.error (cursor.phaseError .start), cursor, usage)
  else
    match cursor.startScan world with
    | .error error => (.error error, cursor, usage)
    | .ok scan =>
        let counted := usage.opening.traversal
        match scan.advance cursor.source world with
        | (.error error, _) => (.error error, cursor, counted)
        | (.ok found, ready) =>
            let opened := { cursor with scan := some ready, isPending := found }
            (.ok (), { opened with phase := if found then .active else .idle }, counted)

/-- Deliver the row of the entry at which a scan stands. -/
def deliver (cursor : GroupCursor World Scan) (scan : GroupScan Scan) (usage : ScanUsage) :
    Except Error (Option Row) × GroupCursor World Scan × ScanUsage :=
  let delivered := { cursor with scan := some scan, isPending := false }
  match scan.current cursor.source with
  | none => (.error (.internal "scan advanced without an entry"), delivered, usage)
  | some entry =>
      match cursor.group.rowOfEntry entry with
      | .error error => (.error error, delivered, usage)
      | .ok row => (.ok (some row), delivered, usage.row)

/-- The next row; none at the end, where the cursor becomes idle.  This is
refused while the cursor is closed. -/
def next (cursor : GroupCursor World Scan) (world : World) (usage : ScanUsage) :
    Except Error (Option Row) × GroupCursor World Scan × ScanUsage :=
  match cursor.phase with
  | .closed => (.error (cursor.phaseError .next), cursor, usage)
  | .idle => (.ok none, cursor, usage)
  | .active =>
      match cursor.scan with
      | none => (.error (.internal "active cursor without a scan"), cursor, usage)
      | some scan =>
          if cursor.isPending then cursor.deliver scan usage
          else
            let counted := usage.traversal
            match scan.advance cursor.source world with
            | (.error error, stepped) =>
                (.error error, { cursor with scan := some stepped }, counted)
            | (.ok false, _) => (.ok none, { cursor with phase := .idle, scan := none }, counted)
            | (.ok true, stepped) => cursor.deliver stepped counted

/-- The rows of at most a number of steps, up to the end or a failure. -/
def drainWithin (world : World) :
    Nat -> GroupCursor World Scan -> ScanUsage ->
      Except Error (List Row) × GroupCursor World Scan × ScanUsage
  | 0, cursor, usage => (.ok [], cursor, usage)
  | steps + 1, cursor, usage =>
      match cursor.next world usage with
      | (.error error, stepped, counted) => (.error error, stepped, counted)
      | (.ok none, stepped, counted) => (.ok [], stepped, counted)
      | (.ok (some row), stepped, counted) =>
          let (others, last, usage) := drainWithin world steps stepped counted
          (others.map fun rows => row :: rows, last, usage)

/-- As many steps as a cursor can have left. -/
def stepBound (cursor : GroupCursor World Scan) (world : World) : Nat :=
  match cursor.scan with
  | some scan => scan.stepBound cursor.source world + 1
  | none => 1

/-- All rows that are left, of a world that does not change meanwhile. -/
def drain (cursor : GroupCursor World Scan) (world : World) (usage : ScanUsage) :
    Except Error (List Row) × GroupCursor World Scan × ScanUsage :=
  drainWithin world (cursor.stepBound world) cursor usage

/-- Close the cursor and let go of its scan.  Closing a closed cursor does
nothing. -/
def close (cursor : GroupCursor World Scan) : GroupCursor World Scan :=
  match cursor.phase with
  | .closed => cursor
  | _ => { cursor with phase := .closed, scan := none, isPending := false }

end GroupCursor
end Keyspace
