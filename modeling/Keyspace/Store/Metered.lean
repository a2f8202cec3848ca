import Keyspace.Store.Scan

/-!
# Metered stores

A metered store counts the calls it gets: reads, writes, deleted keys and
batches read by scans.
-/

namespace Keyspace

/-- How often a store was used. -/
structure StoreUsage where
  /-- Reads of a key. -/
  gets : Nat
  /-- Writes that were not refused. -/
  puts : Nat
  /-- Deletions of a key, found or not, and keys deleted by range. -/
  deletes : Nat
  /-- Batches read by scans. -/
  scanBatches : Nat
  deriving DecidableEq, Repr

/-- A store with a batch size for its scans, and how it was used. -/
structure MeteredStore where
  /-- The entries. -/
  store : Store
  /-- How many entries a batch of a scan has at most. -/
  batchSize : Nat
  /-- The use so far. -/
  usage : StoreUsage

namespace MeteredStore

/-- An empty store whose scans read batches of at least one entry. -/
def empty (batchSize : Nat) : MeteredStore :=
  ⟨Store.empty, max batchSize 1, ⟨0, 0, 0, 0⟩⟩

/-- Read a key. -/
def get (metered : MeteredStore) (key : Bytes) : Option Bytes × MeteredStore :=
  (metered.store.get? key,
    { metered with usage.gets := metered.usage.gets + 1 })

/-- Write a key and give back the value it had. -/
def put (metered : MeteredStore) (key value : Bytes) :
    Except Error (Option Bytes × MeteredStore) := do
  let written ← metered.store.put key value
  return (metered.store.get? key,
    { metered with store := written, usage.puts := metered.usage.puts + 1 })

/-- Delete a key and give back the value it had. -/
def delete (metered : MeteredStore) (key : Bytes) : Option Bytes × MeteredStore :=
  (metered.store.get? key,
    { metered with
      store := metered.store.erase key
      usage.deletes := metered.usage.deletes + 1 })

/-- Delete the keys of a range and give back their number. -/
def deleteRange (metered : MeteredStore) (range : KeyRange) : Nat × MeteredStore :=
  let count := (metered.store.within range).length
  (count,
    { metered with
      store := metered.store.eraseWithin range
      usage.deletes := metered.usage.deletes + count })

/-- Delete everything, which counts as no deletion. -/
def clear (metered : MeteredStore) : MeteredStore :=
  { metered with store := Store.empty }

/-- Start a scan of a range. -/
def scan (metered : MeteredStore) (range : KeyRange) : RangeScan :=
  RangeScan.start range metered.batchSize

/-- Step a scan, counting the batch that it may read. -/
def advance (metered : MeteredStore) (scan : RangeScan) : RangeScan × MeteredStore :=
  let batches := if scan.readsBatch then 1 else 0
  (scan.advance metered.store,
    { metered with usage.scanBatches := metered.usage.scanBatches + batches })

/-- Step a scan up to a number of times or to its end. -/
def collect : Nat -> MeteredStore -> RangeScan -> List Entry × MeteredStore
  | 0, metered, _ => ([], metered)
  | steps + 1, metered, scan =>
      let (next, counted) := metered.advance scan
      match next.current with
      | none => ([], counted)
      | some entry =>
          let (others, last) := collect steps counted next
          (entry :: others, last)

/-- All entries of a range. -/
def scanAll (metered : MeteredStore) (range : KeyRange) : List Entry × MeteredStore :=
  collect (metered.store.size + 1) metered (metered.scan range)

end MeteredStore
end Keyspace
