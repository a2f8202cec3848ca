import Keyspace.Proofs.Store.Scan
import Keyspace.Store.Querying

/-!
# Scans and deletions by range

What a scan of a range hands out and what a deletion takes away are the entries
whose keys the range contains.  Both ask a sorted map, and every range they ask for
runs upward: where the bounds cross, also those of a scan that resumes behind the
last key of a batch, the map is not asked.
-/

namespace Keyspace

/-! ## Answers of the map -/

theorem dropWhile_eq_filter
    {skips : Entry -> Bool}
    {entries : List Entry}
    (front : entries.Pairwise fun earlier later => skips later = true -> skips earlier = true) :
    entries.dropWhile skips = entries.filter fun entry => !skips entry := by
  induction entries with
  | nil => rfl
  | cons first others inductionHypothesis =>
      obtain ⟨before, front⟩ := List.pairwise_cons.mp front
      cases skipped : skips first with
      | true => simp [skipped, inductionHypothesis front]
      | false =>
          have kept : (others.filter fun entry => !skips entry) = others := by
            rw [List.filter_eq_self]
            intro later present
            have earlier := before later present
            simp_all
          simp [skipped, kept]

theorem takeWhile_eq_filter
    {reaches : Entry -> Bool}
    {entries : List Entry}
    (front : entries.Pairwise fun earlier later =>
      reaches later = true -> reaches earlier = true) :
    entries.takeWhile reaches = entries.filter reaches := by
  induction entries with
  | nil => rfl
  | cons first others inductionHypothesis =>
      obtain ⟨before, front⟩ := List.pairwise_cons.mp front
      cases reached : reaches first with
      | true => simp [reached, inductionHypothesis front]
      | false =>
          have ended : others.filter reaches = [] := by
            rw [List.filter_eq_nil_iff]
            intro later present
            have earlier := before later present
            simp_all
          simp [reached, ended]

namespace Bound

theorem skips_eq
    (bound : Bound)
    (key : Bytes) :
    bound.skips key = !bound.admitsAbove key := by
  cases bound <;> simp [skips, admitsAbove, bne]

theorem reaches_eq
    (bound : Bound)
    (key : Bytes) :
    bound.reaches key = bound.admitsBelow key := by
  cases bound <;> rfl

theorem admitsBelow_of_gt
    {bound : Bound}
    {lower upper : Bytes}
    (admits : bound.admitsBelow upper = true)
    (greater : Bytes.compare upper lower = .gt) :
    bound.admitsBelow lower = true := by
  have less := Std.OrientedCmp.lt_of_gt greater
  cases bound with
  | unbounded => rfl
  | included key =>
      have notAbove : Bytes.compare upper key ≠ .gt := by simpa [admitsBelow] using admits
      have below := Bytes.compare_lt_of_lt_of_ne_gt less notAbove
      simp [admitsBelow, below]
  | excluded key =>
      have above : Bytes.compare upper key = .lt := by simpa [admitsBelow] using admits
      have below := Std.TransCmp.lt_trans less above
      simp [admitsBelow, below]

end Bound

namespace Store

/-- A map that is asked for an upward range gives the entries whose keys it
contains. -/
theorem query_of_upward
    {range : KeyRange}
    (store : Store)
    (upward : range.Upward) :
    store.query range = .ok (store.entries.filter fun entry => range.contains entry.key) := by
  have skipped : store.entries.Pairwise fun earlier later =>
      range.start.skips later.key = true -> range.start.skips earlier.key = true := by
    refine store.ascending_entries.imp fun {earlier later} precedes => ?_
    rw [Bound.skips_eq, Bound.skips_eq, Bool.not_eq_true', Bool.not_eq_true']
    contrapose
    simp only [Bool.not_eq_false]
    exact fun admits => Bound.admitsAbove_of_gt admits (Std.OrientedCmp.gt_of_lt precedes)
  have reached : store.entries.Pairwise fun earlier later =>
      range.finish.reaches later.key = true -> range.finish.reaches earlier.key = true := by
    refine store.ascending_entries.imp fun {earlier later} precedes => ?_
    rw [Bound.reaches_eq, Bound.reaches_eq]
    exact fun admits => Bound.admitsBelow_of_gt admits (Std.OrientedCmp.gt_of_lt precedes)
  rw [query, if_pos upward, dropWhile_eq_filter skipped,
    takeWhile_eq_filter (reached.sublist List.filter_sublist), List.filter_filter]
  simp only [Bound.skips_eq, Bound.reaches_eq, Bool.not_not, KeyRange.contains, Bool.and_comm]

/-- A key that both bounds exclude is no answer. -/
example : empty.query ⟨.excluded [1], .excluded [1]⟩ = .error ⟨.excluded [1], .excluded [1]⟩ :=
  rfl

theorem within_of_isEmpty
    {range : KeyRange}
    (store : Store)
    (empty : range.isEmpty = true) :
    store.within range = [] := by
  rw [within, dif_neg (by simp [empty])]

theorem query_of_isEmpty_eq_false
    {range : KeyRange}
    (store : Store)
    (nonempty : range.isEmpty = false) :
    store.query range = .ok (store.within range) := by
  rw [query_of_upward store (KeyRange.upward_of_isEmpty_eq_false nonempty), within_eq]

/-! ## Deletions -/

theorem get?_foldl_erase
    (entries : List Entry)
    (store : Store)
    (key : Bytes) :
    (entries.foldl (fun left entry => left.erase entry.key) store).get? key =
      if key ∈ entries.map (·.key) then none else store.get? key := by
  induction entries generalizing store with
  | nil => simp
  | cons entry entries inductionHypothesis =>
      rw [List.foldl_cons, inductionHypothesis, get?_erase, List.map_cons]
      by_cases same : entry.key = key
      · simp [same]
      · simp [same, Ne.symm same]

/-- A deletion takes the keys of a range away and leaves all others. -/
theorem get?_eraseWithin
    (store : Store)
    (range : KeyRange)
    (key : Bytes) :
    (store.eraseWithin range).get? key =
      if range.contains key = true then none else store.get? key := by
  rw [eraseWithin, get?_foldl_erase, within_eq]
  by_cases contained : range.contains key = true
  · rw [if_pos contained]
    cases stored : store.get? key with
    | none => simp
    | some value =>
        have present : key ∈ (store.entries.filter fun entry =>
            range.contains entry.key).map (·.key) :=
          List.mem_map.mpr ⟨⟨key, value⟩,
            List.mem_filter.mpr ⟨mem_entries.mpr stored, contained⟩, rfl⟩
        rw [if_pos present]
  · have absent : key ∉ (store.entries.filter fun entry =>
        range.contains entry.key).map (·.key) := by
      intro present
      obtain ⟨entry, inside, rfl⟩ := List.mem_map.mp present
      exact contained (List.mem_filter.mp inside).2
    rw [if_neg absent, if_neg contained]

end Store

/-! ## Scans -/

namespace MeteredStore

/-- With more steps than there are entries left a scan is stepped to its end: it
hands out what was left, and further steps change nothing. -/
theorem collect_of_length_lt
    {scan : RangeScan}
    {metered : MeteredStore}
    {steps : Nat}
    (roomy : 0 < scan.batchSize)
    (enough : (scan.remaining metered.store).length < steps)
    (more : Nat) :
    (metered.collect steps scan).1 = scan.remaining metered.store ∧
      metered.collect (steps + more) scan = metered.collect steps scan := by
  induction steps generalizing scan metered with
  | zero => cases enough
  | succ steps inductionHypothesis =>
      obtain ⟨current, behind, sameSize⟩ := scan.advance_spec metered.store roomy
      rw [Nat.add_right_comm, collect, collect]
      simp only [advance]
      cases left : scan.remaining metered.store with
      | nil => simp [current, left]
      | cons entry others =>
          rw [left] at current behind enough
          have stillRoomy : 0 < (scan.advance metered.store).batchSize := sameSize ▸ roomy
          have fewer : ((scan.advance metered.store).remaining
              (metered.advance scan).2.store).length < steps := by
            simpa [advance, behind] using Nat.lt_of_succ_lt_succ enough
          have further := inductionHypothesis stillRoomy fewer
          simp only [advance, behind, List.tail_cons] at further
          simp [current, further]

end MeteredStore

namespace Querying

section

variable (metered : MeteredStore) (range : KeyRange) (scan : RangeScan)

theorem deleteRange_eq :
    deleteRange metered range = .ok (metered.deleteRange range) := by
  unfold deleteRange
  split
  · next empty =>
      simp [MeteredStore.deleteRange, Store.eraseWithin, Store.within_of_isEmpty _ empty, pure,
        Except.pure]
  · next nonempty =>
      rw [Store.query_of_isEmpty_eq_false _ (Bool.eq_false_of_not_eq_true nonempty)]
      rfl

theorem readBatch_eq
    (limit : Nat) :
    readBatch metered range limit = .ok ((metered.store.within range).take limit,
      { metered with usage.scanBatches := metered.usage.scanBatches + 1 }) := by
  unfold readBatch
  dsimp only
  split
  · next empty =>
      rw [Store.within_of_isEmpty _ empty, List.take_nil]
      rfl
  · next nonempty =>
      rw [Store.query_of_isEmpty_eq_false _ (Bool.eq_false_of_not_eq_true nonempty)]
      rfl

theorem prepare_eq :
    prepare metered scan = .ok (scan.ready metered.store, (metered.advance scan).2) := by
  unfold prepare RangeScan.ready MeteredStore.advance
  cases reads : scan.readsBatch with
  | false => rfl
  | true =>
      simp only [if_true, readBatch_eq]
      rfl

/-- A step never asks the map for a range that does not run upward, wherever the
scan resumes and whatever the store holds by then. -/
theorem advance_eq :
    advance metered scan = .ok (metered.advance scan) := by
  have stepped : metered.advance scan = (scan.advance metered.store, (metered.advance scan).2) :=
    rfl
  rw [stepped, RangeScan.advance, advance, prepare_eq, bind, Except.instMonad]
  dsimp only [Except.bind]
  rw [← RangeScan.ready]
  cases (scan.ready metered.store).buffer <;> rfl

theorem collect_eq
    (steps : Nat) :
    collect steps metered scan = .ok (metered.collect steps scan) := by
  induction steps generalizing metered scan with
  | zero => rfl
  | succ steps inductionHypothesis =>
      rw [collect, MeteredStore.collect, advance_eq, bind, Except.instMonad]
      dsimp only [Except.bind]
      cases (metered.advance scan).1.current with
      | none => rfl
      | some entry =>
          dsimp only
          rw [inductionHypothesis]
          rfl

end

/-- A scan of a range, in batches of any size, hands out the entries whose keys the
range contains, by rising keys, and then is at its end.  A deletion takes those keys
away, leaves all others and gives back their number.  Asking a sorted map gives the
same and never asks for crossed bounds, in whatever state a scan is and whatever the
store holds by then. -/
theorem scan_deleteRange_exact
    (metered : MeteredStore)
    (range : KeyRange) :
    let inside := metered.store.entries.filter fun entry => range.contains entry.key
    Ascending inside ∧
      (metered.scanAll range).1 = inside ∧
      (∀ more, collect (metered.store.size + 1 + more) metered (metered.scan range) =
        .ok (metered.scanAll range)) ∧
      (metered.deleteRange range).1 = inside.length ∧
      (∀ key, (metered.deleteRange range).2.store.get? key =
        if range.contains key = true then none else metered.store.get? key) ∧
      deleteRange metered range = .ok (metered.deleteRange range) ∧
      ∀ other scan, advance other scan = .ok (other.advance scan) := by
  intro inside
  have within : metered.store.within range = inside := Store.within_eq _ _
  have roomy : 0 < (metered.scan range).batchSize := Nat.lt_of_lt_of_le Nat.one_pos
    (Nat.le_max_right _ _)
  have whole : (metered.scan range).remaining metered.store = inside :=
    (RangeScan.remaining_start _ _ _).trans within
  have enough : ((metered.scan range).remaining metered.store).length <
      metered.store.size + 1 := by
    rw [whole, ← within]
    exact Nat.lt_succ_of_le (metered.store.length_within_le range)
  have collected := MeteredStore.collect_of_length_lt roomy enough
  refine ⟨within ▸ metered.store.ascending_within range, (collected 0).1.trans whole, ?_, ?_, ?_,
    deleteRange_eq metered range, advance_eq⟩
  · intro more
    rw [collect_eq, (collected more).2]
    rfl
  · rw [← within]
    rfl
  · exact metered.store.get?_eraseWithin range

end Querying
end Keyspace
