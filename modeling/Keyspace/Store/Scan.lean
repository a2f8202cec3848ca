import Keyspace.Store.Map

/-!
# Lazy range scans

A scan reads the entries of a range in batches and hands them out one at a
time.  It holds no lock on the store, so what is written behind its position
before a batch is read appears in that batch, and what was read before stays.
A batch that is not full ends the scan.
-/

namespace Keyspace

/-- A scan over a range that has handed out some of its entries. -/
structure RangeScan where
  /-- The range. -/
  range : KeyRange
  /-- Where the next batch starts. -/
  resume : Bound
  /-- The entries read and not yet handed out. -/
  buffer : List Entry
  /-- How many entries a batch has at most. -/
  batchSize : Nat
  /-- Whether no batch is left to read. -/
  exhausted : Bool
  /-- The entry handed out last, until the scan ends. -/
  current : Option Entry
  deriving DecidableEq

namespace RangeScan

/-- The batch size in use where none is given. -/
def defaultBatchSize : Nat := 256

/-- A scan before its first entry.  A batch has at least one entry. -/
def start (range : KeyRange) (batchSize : Nat) : RangeScan :=
  ⟨range, range.start, [], max batchSize 1, range.isEmpty, none⟩

/-- Whether the next step reads a batch. -/
def readsBatch (scan : RangeScan) : Bool :=
  scan.buffer.isEmpty && !scan.exhausted

/-- The next batch of a store. -/
def nextBatch (scan : RangeScan) (store : Store) : List Entry :=
  (store.within ⟨scan.resume, scan.range.finish⟩).take scan.batchSize

/-- Read the next batch.  The one after it starts behind its last entry. -/
def fill (scan : RangeScan) (store : Store) : RangeScan :=
  let batch := scan.nextBatch store
  { scan with
    buffer := scan.buffer ++ batch
    exhausted := scan.exhausted || decide (batch.length < scan.batchSize)
    resume := (batch.getLast?.map fun entry => Bound.excluded entry.key).getD scan.resume }

/-- Step to the next entry, which becomes the current one; at the end there is
none. -/
def advance (scan : RangeScan) (store : Store) : RangeScan :=
  let ready := if scan.readsBatch then scan.fill store else scan
  match ready.buffer with
  | [] => { ready with current := none }
  | entry :: rest => { ready with buffer := rest, current := some entry }

/-- Step up to a number of times or to the end, and collect the entries. -/
def collect (store : Store) : Nat -> RangeScan -> List Entry × RangeScan
  | 0, scan => ([], scan)
  | steps + 1, scan =>
      let next := scan.advance store
      match next.current with
      | none => ([], next)
      | some entry =>
          let (others, last) := collect store steps next
          (entry :: others, last)

/-- All entries that are left, from a store that nobody changes meanwhile. -/
def drain (scan : RangeScan) (store : Store) : List Entry × RangeScan :=
  collect store (scan.buffer.length + store.size + 1) scan

end RangeScan
end Keyspace
