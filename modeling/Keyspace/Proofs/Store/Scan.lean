import Keyspace.Proofs.Store.RangeRoom
import Keyspace.Proofs.Tuple.Order
import Keyspace.Store.KeyLayout
import Keyspace.Store.Scan

/-!
# Ranges and scans

The three ranges that are scanned, and what a scan in batches hands out.  A
batch resumes behind the last key of the one before, and the keys of a store
rise, so the batches together are what the store holds of the range.
-/

namespace Keyspace

open Bytes (Continues)

/-! ## Keys with a common start -/

namespace Bytes

theorem exists_append_of_between
    {shared left right key : Bytes}
    (notBelow : compare key (shared ++ left) ≠ .lt)
    (below : compare key (shared ++ right) = .lt) :
    ∃ rest, key = shared ++ rest := by
  induction shared generalizing key with
  | nil => exact ⟨key, rfl⟩
  | cons first shared inductionHypothesis =>
      obtain _ | ⟨byte, key⟩ := key
      · exact absurd rfl notBelow
      · rcases Std.lt_trichotomy byte first with less | rfl | greater
        · exact absurd (Below.here _ _ less).compare_eq notBelow
        · rw [List.cons_append, compare_cons_self] at notBelow below
          obtain ⟨rest, rfl⟩ := inductionHypothesis notBelow below
          exact ⟨rest, rfl⟩
        · rw [List.cons_append, (Below.here _ _ greater).compare_swap] at below
          simp at below

/-- The keys from a first one on, before the same with the escape byte behind:
those that go on from it by something else. -/
theorem between_escape_iff
    {start key : Bytes} :
    compare key start ≠ .lt ∧ compare key (start ++ [TypeCode.escape]) = .lt ↔
      ∃ rest, Continues rest ∧ key = start ++ rest := by
  constructor
  · rintro ⟨notBelow, below⟩
    rw [← List.append_nil start] at notBelow
    obtain ⟨rest, rfl⟩ := exists_append_of_between notBelow below
    refine ⟨rest, ?_, rfl⟩
    rw [compare_append_self] at below
    obtain _ | ⟨byte, rest⟩ := rest
    · exact continues_nil
    · apply continues_cons
      rintro rfl
      rw [compare_cons_self] at below
      cases rest <;> simp [compare] at below
  · rintro ⟨rest, continues, rfl⟩
    refine ⟨?_, (compare_append_self _ _ _).trans (compare_escape continues [])⟩
    nth_rewrite 2 [← List.append_nil start]
    rw [compare_append_self]
    cases rest <;> simp [compare]

theorem successor?_eq_some
    {start next : Bytes}
    (found : successor? start = some next) :
    ∃ shared last count, last ≠ 0xFF ∧ start = shared ++ last :: List.replicate count 0xFF ∧
      next = shared ++ [last + 1] := by
  unfold successor? at found
  split at found
  · simp at found
  · next last initial dropped =>
      obtain rfl := Option.some.inj found
      let isGreatest : UInt8 -> Bool := fun byte => byte == 0xFF
      have notGreatest : isGreatest last = false := by
        have first := List.head?_dropWhile_not isGreatest start.reverse
        rwa [dropped] at first
      obtain ⟨count, trailing⟩ : ∃ count,
          start.reverse.takeWhile isGreatest = List.replicate count 0xFF := by
        refine ⟨_, List.eq_replicate_of_mem ?_⟩
        intro byte present
        exact eq_of_beq (List.mem_takeWhile_imp (p := isGreatest) present)
      have parts : start.reverse.takeWhile isGreatest ++ last :: initial = start.reverse := by
        rw [← dropped]
        exact List.takeWhile_append_dropWhile
      refine ⟨initial.reverse, last, count, by simpa [isGreatest] using notGreatest, ?_, by simp⟩
      rw [trailing] at parts
      rw [← List.reverse_inj, ← parts]
      simp

theorem toNat_increased
    {byte : UInt8}
    (notGreatest : byte ≠ 0xFF) :
    (byte + 1).toNat = byte.toNat + 1 := by
  have bound := UInt8.lt_iff_toNat_lt.mp (lt_escape notGreatest)
  change byte.toNat < 255 at bound
  rw [UInt8.toNat_add]
  exact Nat.mod_eq_of_lt (by simp; omega)

theorem compare_replicate_ne_lt_iff
    {key : Bytes}
    (count : Nat) :
    compare key (List.replicate count 0xFF) ≠ .lt ↔ List.replicate count 0xFF <+: key := by
  induction count generalizing key with
  | zero => cases key <;> simp [compare]
  | succ count inductionHypothesis =>
      rw [List.replicate_succ]
      obtain _ | ⟨byte, key⟩ := key
      · simp [compare]
      · rw [List.cons_prefix_cons]
        by_cases greatest : byte = 0xFF
        · subst greatest
          rw [compare_cons_self, inductionHypothesis]
          simp
        · have less : compare (byte :: key) (0xFF :: List.replicate count 0xFF) = .lt :=
            (Below.here _ _ (lt_escape greatest)).compare_eq
          simp [less, Ne.symm greatest]

theorem between_increased_iff
    {last : UInt8}
    {key : Bytes}
    (notGreatest : last ≠ 0xFF)
    (count : Nat) :
    compare key (last :: List.replicate count 0xFF) ≠ .lt ∧ compare key [last + 1] = .lt ↔
      last :: List.replicate count 0xFF <+: key := by
  have increased := toNat_increased notGreatest
  obtain _ | ⟨byte, key⟩ := key
  · simp [compare]
  · rw [List.cons_prefix_cons]
    rcases Nat.lt_trichotomy byte.toNat last.toNat with smaller | same | greater
    · have different : last ≠ byte := by
        rintro rfl
        exact lt_irrefl _ smaller
      have less := UInt8.lt_iff_toNat_lt.mpr smaller
      simp [compare, less, different]
    · obtain rfl := UInt8.toNat_inj.mp same
      have less : byte < byte + 1 := by
        rw [UInt8.lt_iff_toNat_lt]
        omega
      rw [compare_cons_self, compare_replicate_ne_lt_iff, (Below.here _ _ less).compare_eq]
      simp
    · have different : last ≠ byte := by
        rintro rfl
        exact lt_irrefl _ greater
      have notLess : ¬ byte < last + 1 := by
        rw [UInt8.lt_iff_toNat_lt]
        omega
      have notBelow : compare (byte :: key) [last + 1] ≠ .lt := by
        rw [compare, if_neg notLess]
        split
        · simp
        · cases key <;> simp [compare]
      simp [notBelow, different]

/-- The keys from a given one on, before its successor, are those that start
with it. -/
theorem between_successor_iff
    {start next key : Bytes}
    (found : successor? start = some next) :
    compare key start ≠ .lt ∧ compare key next = .lt ↔ start <+: key := by
  obtain ⟨shared, last, count, notGreatest, rfl, rfl⟩ := successor?_eq_some found
  constructor
  · rintro ⟨notBelow, below⟩
    obtain ⟨rest, rfl⟩ := exists_append_of_between notBelow below
    rw [compare_append_self] at notBelow below
    rw [List.prefix_append_right_inj]
    exact (between_increased_iff notGreatest count).mp ⟨notBelow, below⟩
  · rintro ⟨rest, rfl⟩
    rw [List.append_assoc, compare_append_self, compare_append_self]
    exact (between_increased_iff notGreatest count).mpr ⟨rest, rfl⟩

end Bytes

/-! ## Ranges of a store -/

namespace KeyRange

theorem contains_halfOpen
    (first beyond key : Bytes) :
    (halfOpen first beyond).contains key = true ↔
      Bytes.compare key first ≠ .lt ∧ Bytes.compare key beyond = .lt := by
  simp [contains, halfOpen, Bound.admitsAbove, Bound.admitsBelow]

end KeyRange

namespace Store

/-- The entries of a range are those whose keys belong to it. -/
theorem within_eq
    (store : Store)
    (range : KeyRange) :
    store.within range = store.entries.filter fun entry => range.contains entry.key := by
  unfold within
  split
  · rfl
  · next empty =>
      rw [eq_comm, List.filter_eq_nil_iff]
      intro entry _
      rw [KeyRange.contains_eq_false_of_isEmpty (by simpa using empty)]
      simp

theorem within_halfOpen
    {store : Store}
    {first beyond : Bytes}
    {belongs : Bytes -> Prop}
    [DecidablePred belongs]
    (between : ∀ key, Bytes.compare key first ≠ .lt ∧ Bytes.compare key beyond = .lt ↔
      belongs key) :
    store.within (KeyRange.halfOpen first beyond) =
      store.entries.filter fun entry => belongs entry.key := by
  rw [within_eq]
  congr 1
  funext entry
  rw [Bool.eq_iff_iff, KeyRange.contains_halfOpen, between, decide_eq_true_iff]

/-- The entries whose keys start with given bytes. -/
def startingWith (store : Store) (start : Bytes) : List Entry :=
  store.entries.filter fun entry => start <+: entry.key

theorem length_within_le
    (store : Store)
    (range : KeyRange) :
    (store.within range).length ≤ store.size := by
  rw [within_eq]
  refine (List.length_filter_le _ _).trans ?_
  simp [entries, size, Std.ExtTreeMap.length_toList]

theorem ascending_within
    (store : Store)
    (range : KeyRange) :
    Ascending (store.within range) := by
  rw [within_eq]
  exact store.ascending_entries.filter _

end Store
/-! ## Scans in batches -/

theorem filter_gt_of_ascending
    {front back : List Entry}
    {last : Entry}
    (ascending : Ascending (front ++ last :: back)) :
    ((front ++ last :: back).filter fun entry =>
      Bytes.compare entry.key last.key == .gt) = back := by
  obtain ⟨_, lastBack, frontLast⟩ := List.pairwise_append.mp ascending
  have frontBelow : (front.filter fun entry =>
      Bytes.compare entry.key last.key == .gt) = [] := by
    rw [List.filter_eq_nil_iff]
    intro entry present
    have below : Bytes.compare entry.key last.key = .lt :=
      frontLast entry present last (by simp)
    simp [below]
  have backAbove : (back.filter fun entry =>
      Bytes.compare entry.key last.key == .gt) = back := by
    rw [List.filter_eq_self]
    intro entry present
    have above := Std.OrientedCmp.gt_of_lt
      (show Bytes.compare last.key entry.key = .lt from List.rel_of_pairwise_cons lastBack present)
    simp [above]
  rw [List.filter_append, List.filter_cons_of_neg (by simp [Bytes.compare_self]), frontBelow,
    backAbove]
  rfl

namespace Store

/-- Behind an entry of a range the store holds what followed it before. -/
theorem within_excluded
    {store : Store}
    {start finish : Bound}
    {front back : List Entry}
    {last : Entry}
    (parts : store.within ⟨start, finish⟩ = front ++ last :: back) :
    store.within ⟨.excluded last.key, finish⟩ = back := by
  have ascending : Ascending (front ++ last :: back) := parts ▸ store.ascending_within _
  have lastPresent : last ∈ store.within ⟨start, finish⟩ := by
    rw [parts]
    simp
  have lastAbove : start.admitsAbove last.key = true := by
    rw [within_eq, List.mem_filter, KeyRange.contains, Bool.and_eq_true] at lastPresent
    exact lastPresent.2.1
  rw [← filter_gt_of_ascending ascending, ← parts, within_eq, within_eq, List.filter_filter]
  congr 1
  funext entry
  have behind : (Bound.excluded last.key).admitsAbove entry.key =
      (Bytes.compare entry.key last.key == .gt) := rfl
  rw [KeyRange.contains, KeyRange.contains, behind]
  cases greater : Bytes.compare entry.key last.key == .gt with
  | false => rfl
  | true =>
      rw [Bound.admitsAbove_of_gt lastAbove (eq_of_beq greater)]
      rfl

end Store

namespace RangeScan

/-- The entries that a scan has not handed out. -/
def remaining (scan : RangeScan) (store : Store) : List Entry :=
  scan.buffer ++
    if scan.exhausted then [] else store.within ⟨scan.resume, scan.range.finish⟩

/-- The scan with a batch read if none is at hand. -/
def ready (scan : RangeScan) (store : Store) : RangeScan :=
  if scan.readsBatch then scan.fill store else scan

theorem remaining_fill
    {scan : RangeScan}
    (store : Store)
    (roomy : 0 < scan.batchSize)
    (more : scan.exhausted = false) :
    (scan.fill store).remaining store = scan.remaining store := by
  have unread : scan.remaining store =
      scan.buffer ++ store.within ⟨scan.resume, scan.range.finish⟩ := by
    simp [remaining, more]
  rw [unread]
  by_cases short : (scan.nextBatch store).length < scan.batchSize
  · have whole : scan.nextBatch store = store.within ⟨scan.resume, scan.range.finish⟩ := by
      rw [nextBatch, List.take_eq_self_iff]
      rw [nextBatch, List.length_take] at short
      omega
    have ended : (scan.fill store).exhausted = true := by simp [fill, short]
    rw [remaining, ended, if_pos rfl, List.append_nil, ← whole]
    rfl
  · have nonempty : scan.nextBatch store ≠ [] := by
      intro empty
      rw [empty] at short
      exact short roomy
    obtain ⟨front, last, parts⟩ := (List.eq_nil_or_concat' _).resolve_left nonempty
    have whole : store.within ⟨scan.resume, scan.range.finish⟩ = front ++ last ::
        (store.within ⟨scan.resume, scan.range.finish⟩).drop scan.batchSize := by
      nth_rewrite 1 [← List.take_append_drop scan.batchSize
        (store.within ⟨scan.resume, scan.range.finish⟩)]
      change scan.nextBatch store ++ _ = _
      rw [parts]
      simp
    have behind : (scan.fill store).remaining store =
        scan.buffer ++ scan.nextBatch store ++
          store.within ⟨.excluded last.key, scan.range.finish⟩ := by
      simp only [remaining, fill, more, short, decide_false, Bool.or_self, Bool.false_eq_true,
        if_false]
      rw [parts]
      simp
    rw [behind, Store.within_excluded whole, List.append_assoc]
    congr 1
    exact List.take_append_drop _ _

theorem remaining_ready
    {scan : RangeScan}
    (store : Store)
    (roomy : 0 < scan.batchSize) :
    (scan.ready store).remaining store = scan.remaining store := by
  unfold ready
  split
  · next reads =>
      rw [readsBatch, Bool.and_eq_true, Bool.not_eq_true'] at reads
      exact remaining_fill store roomy reads.2
  · rfl

/-- A scan without a buffer after it was made ready is at its end. -/
theorem remaining_of_buffer_nil
    {scan : RangeScan}
    {store : Store}
    (roomy : 0 < scan.batchSize)
    (empty : (scan.ready store).buffer = []) :
    scan.remaining store = [] := by
  rw [← remaining_ready store roomy, remaining, empty]
  unfold ready at empty ⊢
  split
  · next reads =>
      rw [if_pos reads] at empty
      have noBatch : scan.nextBatch store = [] := (List.append_eq_nil_iff.mp empty).2
      simp [fill, noBatch, roomy]
  · next keeps =>
      rw [if_neg keeps] at empty
      have ended : scan.exhausted = true := by simpa [readsBatch, empty] using keeps
      simp [ended]

/-- A step hands out the first entry that is left. -/
theorem advance_spec
    {scan : RangeScan}
    (store : Store)
    (roomy : 0 < scan.batchSize) :
    (scan.advance store).current = (scan.remaining store).head? ∧
      (scan.advance store).remaining store = (scan.remaining store).tail ∧
      (scan.advance store).batchSize = scan.batchSize := by
  have sameSize : (scan.ready store).batchSize = scan.batchSize := by
    unfold ready
    split <;> rfl
  cases buffered : (scan.ready store).buffer with
  | nil =>
      have step : scan.advance store = { scan.ready store with current := none } := by
        unfold ready at buffered ⊢
        simp only [advance, buffered]
      have ended := remaining_of_buffer_nil roomy buffered
      rw [step, ended]
      exact ⟨rfl, (remaining_ready store roomy).trans ended, sameSize⟩
  | cons entry rest =>
      have step : scan.advance store =
          { scan.ready store with buffer := rest, current := some entry } := by
        unfold ready at buffered ⊢
        simp only [advance, buffered]
      rw [step, ← remaining_ready store roomy, remaining, buffered]
      exact ⟨rfl, rfl, sameSize⟩

theorem remaining_start
    (store : Store)
    (range : KeyRange)
    (batchSize : Nat) :
    (start range batchSize).remaining store = store.within range := by
  cases empty : range.isEmpty with
  | false => simp [remaining, start, empty]
  | true => simp [remaining, start, empty, Store.within]

theorem length_remaining_le
    (scan : RangeScan)
    (store : Store) :
    (scan.remaining store).length ≤ scan.buffer.length + store.size := by
  rw [remaining, List.length_append]
  split
  · simp
  · exact Nat.add_le_add_left (store.length_within_le _) _

end RangeScan

/-! ## The ranges of a group -/

namespace KeyLayout

/-- The keys of a numbered part of a subspace have a successor. -/
theorem exists_successor_numberedStart
    {subspace : UInt8}
    (notGreatest : subspace ≠ 0xFF)
    (id : UInt32) :
    ∃ next, KeyRange.successor (numberedStart subspace id) = .ok next ∧
      Bytes.successor? (numberedStart subspace id) = some next := by
  cases found : Bytes.successor? (numberedStart subspace id) with
  | some next => exact ⟨next, by rw [KeyRange.successor, found], rfl⟩
  | none =>
      unfold Bytes.successor? at found
      split at found
      · next dropped =>
          -- the byte of the subspace is not the greatest one, so it is left
          have all := List.dropWhile_eq_nil_iff.mp dropped subspace (by simp [numberedStart])
          exact absurd (eq_of_beq all) notGreatest
      · simp at found

theorem exists_successor_groupStart
    (id : UInt32) :
    ∃ next, KeyRange.successor (groupStart id) = .ok next ∧
      Bytes.successor? (groupStart id) = some next :=
  exists_successor_numberedStart (by decide) id

theorem exists_successor_indexStart
    (id : UInt32) :
    ∃ next, KeyRange.successor (indexStart id) = .ok next ∧
      Bytes.successor? (indexStart id) = some next :=
  exists_successor_numberedStart (by decide) id

end KeyLayout
end Keyspace
