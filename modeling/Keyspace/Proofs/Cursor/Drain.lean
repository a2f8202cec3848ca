import Keyspace.Cursor.GroupCursor
import Keyspace.Proofs.Store.Scan

/-!
# What a cursor delivers

A cursor that is drained delivers the row of every entry through which its scan
steps, in their order, or the error of the first entry that holds no row.
-/

namespace Keyspace

/-! ## The entries of a scan -/

namespace GroupScan

variable {World Scan : Type}

/-- Whether a scan steps through given entries and ends behind them.  At each
entry the bound on the steps that are left exceeds the entries that are. -/
def Yields (source : Source World Scan) (world : World) :
    List Entry -> GroupScan Scan -> Prop
  | [], scan => ∃ next, scan.advance source world = (.ok false, next)
  | entry :: entries, scan =>
      ∃ next, scan.advance source world = (.ok true, next) ∧
        next.current source = some entry ∧
        entries.length < next.stepBound source world ∧
        Yields source world entries next

/-- A scan of a store steps through what is left of its range. -/
theorem yields_overRange
    {store : Store}
    {scan : RangeScan}
    (batchSize : Nat)
    (roomy : 0 < scan.batchSize) :
    Yields (Source.ofStore batchSize) store (scan.remaining store) (.overRange scan) := by
  generalize left : scan.remaining store = entries
  induction entries generalizing scan with
  | nil =>
      obtain ⟨current, -, -⟩ := scan.advance_spec store roomy
      rw [left] at current
      refine ⟨.overRange (scan.advance store), ?_⟩
      simp [advance, Source.ofStore, current]
  | cons entry entries inductionHypothesis =>
      obtain ⟨current, behind, sameSize⟩ := scan.advance_spec store roomy
      rw [left] at current behind
      have length := (scan.advance store).length_remaining_le store
      rw [behind] at length
      refine ⟨.overRange (scan.advance store), ?_, current, Nat.lt_succ_of_le length,
        inductionHypothesis (sameSize ▸ roomy) behind⟩
      simp [advance, Source.ofStore, current]

/-- The scan of one key steps to its entry, if there is one. -/
theorem yields_atKey
    (store : Store)
    (key : Bytes)
    (stale : Option Bytes)
    (batchSize : Nat) :
    Yields (Source.ofStore batchSize) store ((store.get? key).toList.map (Entry.mk key))
      (.atKey key stale false) := by
  cases found : store.get? key with
  | none =>
      refine ⟨.atKey key none true, ?_⟩
      simp [advance, Source.ofStore, found]
  | some value =>
      refine ⟨.atKey key (some value) true, ?_, rfl, by simp [stepBound], ?_⟩
      · simp [advance, Source.ofStore, found]
      · exact ⟨.atKey key none true, rfl⟩

end GroupScan

/-! ## The rows of a cursor -/

namespace GroupCursor

variable {World Scan : Type}

/-- A cursor in a scan. -/
def inScan
    (cursor : GroupCursor World Scan)
    (scan : GroupScan Scan)
    (isPending : Bool) : GroupCursor World Scan :=
  { cursor with phase := .active, scan := some scan, isPending := isPending }

theorem drainWithin_inScan
    {cursor : GroupCursor World Scan}
    {world : World}
    {scan : GroupScan Scan}
    {entries : List Entry}
    {steps : Nat}
    (yields : scan.Yields cursor.source world entries)
    (enough : entries.length < steps)
    (usage : ScanUsage) :
    (drainWithin world steps (cursor.inScan scan false) usage).1 =
      entries.mapM cursor.group.rowOfEntry := by
  induction entries generalizing scan steps usage with
  | nil =>
      obtain ⟨after, advanced⟩ := yields
      obtain _ | steps := steps
      · simp at enough
      · simp [drainWithin, next, inScan, advanced, pure, Except.pure]
  | cons entry entries inductionHypothesis =>
      obtain ⟨after, advanced, current, -, others⟩ := yields
      obtain _ | steps := steps
      · simp at enough
      · rw [List.mapM_cons]
        cases row : cursor.group.rowOfEntry entry with
        | error error =>
            simp [drainWithin, next, inScan, advanced, deliver, current, row, bind, Except.bind]
        | ok delivered =>
            have further := inductionHypothesis others (Nat.lt_of_succ_lt_succ enough)
              usage.traversal.row
            simp only [inScan] at further
            simp only [drainWithin, next, inScan, advanced, deliver, current, row,
              Bool.false_eq_true, if_false]
            rw [further]
            rfl

theorem drain_start
    {cursor : GroupCursor World Scan}
    {world : World}
    {scan : GroupScan Scan}
    {entries : List Entry}
    (inactive : cursor.phase.isActive = false)
    (scans : cursor.startScan world = .ok scan)
    (yields : scan.Yields cursor.source world entries)
    (usage : ScanUsage) :
    ∃ opened counted, cursor.start world usage = (.ok (), opened, counted) ∧
      (opened.drain world counted).1 = entries.mapM cursor.group.rowOfEntry := by
  cases entries with
  | nil =>
      obtain ⟨after, advanced⟩ := yields
      refine ⟨{ cursor with phase := .idle, scan := some after, isPending := false },
        usage.opening.traversal, ?_, rfl⟩
      simp [start, inactive, scans, advanced]
  | cons entry entries =>
      obtain ⟨after, advanced, current, enough, others⟩ := yields
      refine ⟨cursor.inScan after true, usage.opening.traversal, ?_, ?_⟩
      · simp [start, inactive, scans, advanced, inScan]
      · rw [List.mapM_cons]
        cases row : cursor.group.rowOfEntry entry with
        | error error =>
            simp [drain, GroupCursor.stepBound, drainWithin, next, inScan, deliver, current, row,
              bind, Except.bind]
        | ok delivered =>
            have further := drainWithin_inScan others enough usage.opening.traversal.row
            simp only [inScan] at further
            simp only [drain, GroupCursor.stepBound, drainWithin, next, inScan, deliver, current,
              row, if_true]
            rw [further]
            rfl

/-- The rows that a cursor delivers when it is bound to a row, or to no row in
particular, and then opened and drained. -/
def rowsFrom
    (cursor : GroupCursor World Scan)
    (hkey : Option HKey)
    (deep : Bool)
    (world : World)
    (usage : ScanUsage) : Except Error (List Row) := do
  let bound ← cursor.rebind hkey deep
  let (started, opened, counted) := bound.start world usage
  started
  (opened.drain world counted).1

theorem rowsFrom_eq
    {cursor : GroupCursor World Scan}
    {hkey : Option HKey}
    {deep : Bool}
    {world : World}
    {scan : GroupScan Scan}
    {entries : List Entry}
    (inactive : cursor.phase.isActive = false)
    (scans : { cursor with hkey := hkey, deep := deep }.startScan world = .ok scan)
    (yields : scan.Yields cursor.source world entries)
    (usage : ScanUsage) :
    cursor.rowsFrom hkey deep world usage = entries.mapM cursor.group.rowOfEntry := by
  let bound : GroupCursor World Scan := { cursor with hkey := hkey, deep := deep }
  have boundInactive : bound.phase.isActive = false := inactive
  obtain ⟨opened, counted, started, drained⟩ := drain_start boundInactive scans yields usage
  have rebound : cursor.rebind hkey deep = .ok bound := by simp [rebind, inactive, bound]
  simp only [rowsFrom, rebound, started, bind, Except.bind]
  exact drained

/-! ## Cursors over a store -/

variable {batchSize : Nat} {cursor : GroupCursor Store RangeScan}

theorem rowsFrom_range
    {hkey : Option HKey}
    {deep : Bool}
    {first beyond : Bytes}
    (ofStore : cursor.source = Source.ofStore batchSize)
    (inactive : cursor.phase.isActive = false)
    (store : Store)
    (scans : { cursor with hkey := hkey, deep := deep }.startScan store = .ok
      (.overRange (RangeScan.start (KeyRange.halfOpen first beyond) batchSize)))
    (usage : ScanUsage) :
    cursor.rowsFrom hkey deep store usage =
      (store.within (KeyRange.halfOpen first beyond)).mapM cursor.group.rowOfEntry := by
  apply rowsFrom_eq inactive scans
  rw [ofStore, ← RangeScan.remaining_start store _ batchSize]
  apply GroupScan.yields_overRange
  simp [RangeScan.start]

/-- Without a row a cursor delivers all entries of its group. -/
theorem rowsFrom_none
    (ofStore : cursor.source = Source.ofStore batchSize)
    (inactive : cursor.phase.isActive = false)
    (deep : Bool)
    (store : Store)
    (usage : ScanUsage) :
    cursor.rowsFrom none deep store usage =
      (store.startingWith (KeyLayout.groupStart cursor.group.id)).mapM
        cursor.group.rowOfEntry := by
  obtain ⟨beyond, found, successor⟩ := KeyLayout.exists_successor_groupStart cursor.group.id
  rw [rowsFrom_range ofStore inactive store (by simp only [startScan, found, ofStore]; rfl) usage,
    Store.within_halfOpen fun key => Bytes.between_successor_iff successor]
  rfl

/-- With a row a deep cursor delivers what goes on from the key of the row. -/
theorem rowsFrom_deep
    {hkey : HKey}
    {key : Bytes}
    (ofStore : cursor.source = Source.ofStore batchSize)
    (inactive : cursor.phase.isActive = false)
    (keyed : KeyLayout.rowKey cursor.group hkey = .ok key)
    (store : Store)
    (usage : ScanUsage) :
    cursor.rowsFrom (some hkey) true store usage =
      (store.within (KeyRange.halfOpen key (KeyLayout.subtreeEnd key))).mapM
        cursor.group.rowOfEntry :=
  rowsFrom_range ofStore inactive store (by simp only [startScan, keyed, ofStore]; rfl) usage

/-- With a row a shallow cursor delivers the entry at its key. -/
theorem rowsFrom_shallow
    {hkey : HKey}
    {key : Bytes}
    (ofStore : cursor.source = Source.ofStore batchSize)
    (inactive : cursor.phase.isActive = false)
    (keyed : KeyLayout.rowKey cursor.group hkey = .ok key)
    (store : Store)
    (usage : ScanUsage) :
    cursor.rowsFrom (some hkey) false store usage =
      ((store.get? key).toList.map (Entry.mk key)).mapM cursor.group.rowOfEntry := by
  have yields := GroupScan.yields_atKey store key none batchSize
  rw [← ofStore] at yields
  refine rowsFrom_eq inactive ?_ yields usage
  simp only [startScan, keyed]
  rfl

/-- All rows of a group in a store, as a new cursor delivers them. -/
def fullScan (batchSize : Nat) (group : Group) (store : Store) : Except Error (List Row) :=
  (make (Source.ofStore batchSize) group).rowsFrom none true store ScanUsage.zero

theorem fullScan_eq
    (batchSize : Nat)
    (group : Group)
    (store : Store) :
    fullScan batchSize group store =
      (store.startingWith (KeyLayout.groupStart group.id)).mapM group.rowOfEntry :=
  rowsFrom_none rfl rfl true store ScanUsage.zero

end GroupCursor
end Keyspace
