import Keyspace.Store.Scan

/-!
# Sources of entries

A cursor reads from a source: it opens scans between two keys, steps them, and
reads single keys.  What a source reads may change between two steps, so each
operation is given the world as it is then.  The store is one source; a listing
of prepared steps is another.
-/

namespace Keyspace

/-- How entries are read from a world. -/
structure Source (World Scan : Type) where
  /-- Open a scan from a first key on, before another. -/
  openScan : World -> Option Bytes -> Option Bytes -> Except Error Scan
  /-- Step a scan, and tell whether it stands at an entry. -/
  advance : World -> Scan -> Except Error Bool × Scan
  /-- The entry at which a scan stands. -/
  current : Scan -> Option Entry
  /-- Read the value of a key. -/
  get : World -> Bytes -> Except Error (Option Bytes)
  /-- As many steps as a scan can have left. -/
  stepBound : World -> Scan -> Nat

namespace Source

/-- The store, whose scans read batches of a given size. -/
def ofStore (batchSize : Nat) : Source Store RangeScan where
  openScan := fun _ first beyond => .ok (RangeScan.start (KeyRange.between first beyond) batchSize)
  advance := fun store scan =>
    let next := scan.advance store
    (.ok next.current.isSome, next)
  current := RangeScan.current
  get := fun store key => .ok (store.get? key)
  stepBound := fun store scan => scan.buffer.length + store.size + 1

end Source

/-! ## Listings -/

/-- A prepared step of a scan. -/
inductive ListedStep where
  /-- The scan steps to an entry. -/
  | entry (entry : Entry)
  /-- The scan claims to stand at an entry and does not. -/
  | claim
  /-- The step fails as a defect. -/
  | fault (message : String)
  deriving DecidableEq, Repr

/-- A scan over prepared steps. -/
structure ListedScan where
  /-- The steps that are left. -/
  steps : List ListedStep
  /-- The entry at which the scan stands. -/
  current : Option Entry
  deriving DecidableEq, Repr

namespace ListedScan

/-- Take the next step.  A failing step is used up and leaves the scan where
it stands. -/
def advance (scan : ListedScan) : Except Error Bool × ListedScan :=
  match scan.steps with
  | [] => (.ok false, ⟨[], none⟩)
  | .entry entry :: rest => (.ok true, ⟨rest, some entry⟩)
  | .claim :: rest => (.ok true, ⟨rest, none⟩)
  | .fault message :: rest => (.error (.internal message), ⟨rest, scan.current⟩)

end ListedScan

namespace Source

/-- The value of a key in the first entry that has it. -/
def listedValue? (key : Bytes) : List ListedStep -> Option Bytes
  | [] => none
  | .entry entry :: rest =>
      if entry.key = key then some entry.value else listedValue? key rest
  | _ :: rest => listedValue? key rest

/-- Prepared steps, whatever the bounds of a scan and the world are. -/
def ofListing (World : Type) (steps : List ListedStep) : Source World ListedScan where
  openScan := fun _ _ _ => .ok ⟨steps, none⟩
  advance := fun _ scan => scan.advance
  current := ListedScan.current
  get := fun _ key => .ok (listedValue? key steps)
  stepBound := fun _ scan => scan.steps.length + 1

end Source
end Keyspace
