import Keyspace.Store.Metered

/-!
# Querying a sorted map

A sorted map is asked for the entries between two bounds.  It steps over those in
front of the lower bound and goes on to the last one in front of the upper bound.
It has no answer if the lower bound is above the upper one or both exclude one
key.  Scans and deletions ask here in this way, and only for ranges with room.
-/

namespace Keyspace

/-- The answer to queries, or the range of one without an answer. -/
abbrev Querying := Except KeyRange

namespace Bound

/-- Whether a key is stepped over on the way to a lower bound. -/
def skips : Bound -> Bytes -> Bool
  | included bound, key => Bytes.compare key bound == .lt
  | excluded bound, key => Bytes.compare key bound != .gt
  | unbounded, _ => false

/-- Whether a key is come to before an upper bound. -/
def reaches : Bound -> Bytes -> Bool
  | included bound, key => Bytes.compare key bound != .gt
  | excluded bound, key => Bytes.compare key bound == .lt
  | unbounded, _ => true

end Bound

instance : DecidablePred KeyRange.Upward
  | ⟨.included lower, .included upper⟩ =>
      inferInstanceAs (Decidable (Bytes.compare lower upper ≠ .gt))
  | ⟨.included lower, .excluded upper⟩ =>
      inferInstanceAs (Decidable (Bytes.compare lower upper ≠ .gt))
  | ⟨.excluded lower, .included upper⟩ =>
      inferInstanceAs (Decidable (Bytes.compare lower upper ≠ .gt))
  | ⟨.excluded lower, .excluded upper⟩ =>
      inferInstanceAs (Decidable (Bytes.compare lower upper = .lt))
  | ⟨.included _, .unbounded⟩ => isTrue trivial
  | ⟨.excluded _, .unbounded⟩ => isTrue trivial
  | ⟨.unbounded, _⟩ => isTrue trivial

/-- Ask for the entries between the bounds of a range. -/
def Store.query (store : Store) (range : KeyRange) : Querying (List Entry) :=
  if range.Upward then
    .ok ((store.entries.dropWhile fun entry => range.start.skips entry.key).takeWhile
      fun entry => range.finish.reaches entry.key)
  else .error range

/-- Take in a batch.  The next one starts behind its last entry. -/
def RangeScan.receive (scan : RangeScan) (batch : List Entry) : RangeScan :=
  { scan with
    buffer := scan.buffer ++ batch
    exhausted := scan.exhausted || decide (batch.length < scan.batchSize)
    resume := (batch.getLast?.map fun entry => Bound.excluded entry.key).getD scan.resume }

namespace Querying

/-- Delete the keys of a range and give back their number. -/
def deleteRange (metered : MeteredStore) (range : KeyRange) : Querying (Nat × MeteredStore) :=
  if range.isEmpty then return (0, metered)
  else do
    let doomed ← metered.store.query range
    return (doomed.length,
      { metered with
        store := doomed.foldl (fun left entry => left.erase entry.key) metered.store
        usage.deletes := metered.usage.deletes + doomed.length })

/-- Copy out the first entries of a range, which counts as a batch. -/
def readBatch
    (metered : MeteredStore)
    (range : KeyRange)
    (limit : Nat) : Querying (List Entry × MeteredStore) := do
  let counted :=
    { metered with usage.scanBatches := metered.usage.scanBatches + 1 }
  if range.isEmpty then return ([], counted)
  else return ((← metered.store.query range).take limit, counted)

/-- Read the batch that the next step of a scan needs. -/
def prepare
    (metered : MeteredStore)
    (scan : RangeScan) : Querying (RangeScan × MeteredStore) := do
  if scan.readsBatch then
    let (batch, counted) ← readBatch metered ⟨scan.resume, scan.range.finish⟩ scan.batchSize
    return (scan.receive batch, counted)
  else return (scan, metered)

/-- Step a scan to its next entry. -/
def advance
    (metered : MeteredStore)
    (scan : RangeScan) : Querying (RangeScan × MeteredStore) := do
  let (ready, counted) ← prepare metered scan
  match ready.buffer with
  | [] => return ({ ready with current := none }, counted)
  | entry :: rest => return ({ ready with buffer := rest, current := some entry }, counted)

/-- Step a scan up to a number of times or to its end. -/
def collect : Nat -> MeteredStore -> RangeScan -> Querying (List Entry × MeteredStore)
  | 0, metered, _ => return ([], metered)
  | steps + 1, metered, scan => do
      let (next, counted) ← advance metered scan
      match next.current with
      | none => return ([], counted)
      | some entry =>
          let (others, last) ← collect steps counted next
          return (entry :: others, last)

end Querying
end Keyspace
