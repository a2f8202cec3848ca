import Keyspace.Proofs.Cache.Recency
import Mathlib.Algebra.GroupWithZero.Nat

/-!
# Accounts of a cache

A value that enters a cache is held until it goes, and it goes in one of five ways:
for want of room, for its age, by being taken out, when everything is dropped, or
not yet.  The statistics count the first two ways and the answers of the calls tell
the others apart, so that whatever the clock shows each value is counted once.
-/

namespace Keyspace

/-! ## Calls in the course of a run -/

namespace CacheCall

variable {κ ν : Type}

/-- Whether a call reads a key. -/
def isGet : CacheCall κ ν -> Bool
  | get _ _ => true
  | _ => false

/-- Whether a call puts a value in. -/
def isInsert : CacheCall κ ν -> Bool
  | insert _ _ _ _ => true
  | _ => false

end CacheCall

/-- A call that was made in the course of a run. -/
structure CacheStep (κ ν : Type) where
  /-- The cache as the call found it. -/
  before : SoftCache κ ν
  /-- The call. -/
  call : CacheCall κ ν
  /-- What it gave back. -/
  answer : CacheAnswer ν

namespace CacheStep

variable {κ ν : Type}

/-- Whether a value was put in that replaced none. -/
def enters : CacheStep κ ν -> Bool
  | ⟨_, .insert _ _ _ _, .value replaced⟩ => replaced.isNone
  | _ => false

/-- Whether a value was taken out. -/
def takesOut : CacheStep κ ν -> Bool
  | ⟨_, .remove _, .value found⟩ => found.isSome
  | _ => false

/-- How many values went because everything was dropped. -/
def cleared : CacheStep κ ν -> Nat
  | ⟨before, .clear, _⟩ => before.size
  | _ => 0

end CacheStep

theorem CacheStatistics.evict_evict
    (statistics : CacheStatistics)
    (first second : Nat) :
    (statistics.evict first).evict second = statistics.evict (first + second) := by
  simp [evict, Nat.add_assoc]

namespace SoftCache

variable {κ ν : Type} [BEq κ]

/-- Some calls with what they found and what they gave back. -/
def steps (cache : SoftCache κ ν) : List (CacheCall κ ν) -> List (CacheStep κ ν)
  | [] => []
  | call :: calls =>
      let (answer, next) := cache.perform call
      ⟨cache, call, answer⟩ :: next.steps calls

/-! ## One slot for each key -/

/-- Whether no two slots of a cache have the same key. -/
def Keyed (cache : SoftCache κ ν) : Prop :=
  cache.slots.Pairwise fun left right => (left.key == right.key) = false

variable {cache : SoftCache κ ν}

theorem Keyed.of_sublist
    {smaller : SoftCache κ ν}
    (keyed : cache.Keyed)
    (sublist : smaller.slots.Sublist cache.slots) :
    smaller.Keyed :=
  keyed.sublist sublist

theorem Keyed.evict
    (keyed : cache.Keyed)
    (later count : Nat) :
    (evict later count cache).Keyed := by
  induction count generalizing cache with
  | zero => exact keyed
  | succ count inductionHypothesis =>
      unfold SoftCache.evict
      split
      · exact keyed
      · exact inductionHypothesis (keyed.of_sublist List.filter_sublist)

variable [EquivBEq κ]

theorem Keyed.touch
    (keyed : cache.Keyed)
    (key : κ)
    (value : ν)
    (now : Nat) :
    (cache.touch key value now).Keyed := by
  refine .cons (fun slot present => ?_) (keyed.sublist List.filter_sublist)
  have other : (slot.key == key) = false := by
    simpa [erase] using (List.mem_filter.mp present).2
  rwa [BEq.comm]

theorem Keyed.get
    (keyed : cache.Keyed)
    (key : κ)
    (now : Nat) :
    (cache.get key now).2.Keyed := by
  unfold SoftCache.get
  split
  · exact keyed
  · split
    · exact keyed.of_sublist List.filter_sublist
    · exact keyed.touch key _ now

/-- Every call leaves one slot for each key. -/
theorem Keyed.perform
    (keyed : cache.Keyed)
    (call : CacheCall κ ν) :
    (cache.perform call).2.Keyed := by
  cases call with
  | get key now => exact keyed.get key now
  | insert key value now later =>
      have touched := keyed.touch key value now
      have counted : Keyed { cache.touch key value now with
          statistics := (cache.touch key value now).statistics.insertion } := touched
      exact counted.evict later _
  | remove key => exact keyed.of_sublist List.filter_sublist
  | contains key now => exact keyed
  | purge now => exact keyed.of_sublist List.filter_sublist
  | clear => exact .nil

/-- A key that goes takes its slot with it, if it has one. -/
theorem Keyed.size_erase
    (keyed : cache.Keyed)
    (key : κ) :
    (cache.erase key).size + (cache.find? key).toList.length = cache.size := by
  obtain ⟨capacity, timeToLive, slots, ticks, statistics⟩ := cache
  simp only [size, erase, find?]
  induction slots with
  | nil => rfl
  | cons slot slots inductionHypothesis =>
      obtain ⟨others, rest⟩ := List.pairwise_cons.mp keyed
      by_cases same : slot.key == key
      · have kept : ∀ other ∈ slots, (!(other.key == key)) = true := by
          intro other present
          rw [Bool.not_eq_true', ← others other present, BEq.comm]
          exact (BEq.congr_left same).symm
        simp [same, List.filter_eq_self.mpr kept]
      · have others := inductionHypothesis rest
        simp only [same, List.filter_cons, List.find?_cons, Bool.not_false, if_true,
          List.length_cons]
        omega

theorem Keyed.size_touch
    (keyed : cache.Keyed)
    (key : κ)
    (value : ν)
    (now : Nat) :
    (cache.touch key value now).size + (cache.find? key).toList.length = cache.size + 1 := by
  rw [← keyed.size_erase key, Nat.add_right_comm]
  rfl

/-- Making room counts what it drops. -/
theorem Keyed.exists_evict
    (keyed : cache.Keyed)
    (later count : Nat) :
    ∃ gone, (SoftCache.evict later count cache).statistics = cache.statistics.evict gone ∧
      (SoftCache.evict later count cache).size + gone = cache.size := by
  induction count generalizing cache with
  | zero => exact ⟨0, rfl, rfl⟩
  | succ count inductionHypothesis =>
      unfold SoftCache.evict
      split
      · exact ⟨0, rfl, rfl⟩
      · next slot first =>
          have smaller : Keyed { cache.erase slot.key with
              statistics := (cache.erase slot.key).statistics.evict 1 } :=
            keyed.of_sublist List.filter_sublist
          obtain ⟨gone, counted, sizes⟩ := inductionHypothesis smaller
          have found : (cache.find? slot.key).isSome := by
            rw [find?, List.find?_isSome]
            exact ⟨slot, mem_of_firstToGo? first, BEq.rfl⟩
          obtain ⟨held, found⟩ := Option.isSome_iff_exists.mp found
          have erased := keyed.size_erase slot.key
          rw [found, Option.toList_some, List.length_singleton] at erased
          refine ⟨1 + gone, counted.trans (CacheStatistics.evict_evict cache.statistics 1 gone), ?_⟩
          rw [← erased, Nat.add_comm 1 gone, ← Nat.add_assoc, sizes]
          rfl

/-! ## What a call does to the accounts -/

/-- The values that a cache holds or has counted as gone. -/
def accounted (cache : SoftCache κ ν) : Nat :=
  cache.size + cache.statistics.evictions + cache.statistics.expirations

/-- Whether a step leaves the accounts in balance. -/
structure Balances (step : CacheStep κ ν) (next : SoftCache κ ν) : Prop where
  /-- Reads are counted. -/
  accesses : next.statistics.accesses =
    step.before.statistics.accesses + if step.call.isGet then 1 else 0
  /-- Each is a hit or a miss. -/
  outcomes : next.statistics.hits + next.statistics.misses =
    step.before.statistics.hits + step.before.statistics.misses +
      if step.call.isGet then 1 else 0
  /-- Values that are put in are counted. -/
  inserts : next.statistics.inserts =
    step.before.statistics.inserts + if step.call.isInsert then 1 else 0
  /-- What is held or enters is held afterwards, counted as gone, taken out or dropped
  with everything. -/
  values : step.before.accounted + (if step.enters then 1 else 0) =
    next.accounted + (if step.takesOut then 1 else 0) + step.cleared

/-- A value that is read stays or is counted as expired. -/
theorem Keyed.balances_get
    (keyed : cache.Keyed)
    (key : κ)
    (now : Nat) :
    Balances ⟨cache, .get key now, .value (cache.get key now).1⟩ (cache.get key now).2 := by
  have erased := keyed.size_erase key
  have touched := fun value => keyed.size_touch key value now
  unfold SoftCache.get
  cases found : cache.find? key with
  | none => exact ⟨rfl, rfl, rfl, rfl⟩
  | some slot =>
      simp only [found, Option.toList_some, List.length_singleton] at erased touched ⊢
      split
      · refine ⟨rfl, rfl, rfl, ?_⟩
        change cache.accounted =
          (cache.erase key).size + cache.statistics.evictions + (cache.statistics.expirations + 1)
        rw [accounted, ← erased]
        omega
      · refine ⟨rfl, Nat.add_right_comm _ _ _, rfl, ?_⟩
        change cache.accounted = (cache.touch key slot.value now).size +
          cache.statistics.evictions + cache.statistics.expirations
        rw [accounted, Nat.add_right_cancel (touched slot.value)]

/-- A value that is put in replaces another or is one more. -/
theorem Keyed.balances_insert
    (keyed : cache.Keyed)
    (key : κ)
    (value : ν)
    (now later : Nat) :
    Balances ⟨cache, .insert key value now later,
        .value (cache.insertThenEvict key value now later).1⟩
      (cache.insertThenEvict key value now later).2 := by
  have touched := keyed.size_touch key value now
  let counted : SoftCache κ ν := { cache.touch key value now with
    statistics := (cache.touch key value now).statistics.insertion }
  have countedKeyed : counted.Keyed := keyed.touch key value now
  obtain ⟨gone, evicted, sizes⟩ := countedKeyed.exists_evict later (counted.size - counted.capacity)
  refine ⟨?_, ?_, ?_, ?_⟩
  · exact congrArg (·.accesses) evicted
  · exact congrArg (fun statistics => statistics.hits + statistics.misses) evicted
  · exact congrArg (·.inserts) evicted
  · change cache.accounted + (if ((cache.find? key).map (·.value)).isNone then 1 else 0) =
      (SoftCache.evict later (counted.size - counted.capacity) counted).accounted
    rw [accounted, accounted, evicted]
    change _ = _ + (cache.statistics.evictions + gone) + cache.statistics.expirations
    change _ = (cache.touch key value now).size at sizes
    cases found : cache.find? key <;> simp [found] at touched ⊢ <;> omega

/-- A value that is taken out is held no longer. -/
theorem Keyed.balances_remove
    (keyed : cache.Keyed)
    (key : κ) :
    Balances ⟨cache, .remove key, .value (cache.remove key).1⟩ (cache.remove key).2 := by
  have erased := keyed.size_erase key
  refine ⟨rfl, rfl, rfl, ?_⟩
  change cache.accounted = (cache.erase key).size + cache.statistics.evictions +
    cache.statistics.expirations +
      (if ((cache.find? key).map (·.value)).isSome then 1 else 0)
  rw [accounted, ← erased]
  cases cache.find? key with
  | none => rfl
  | some slot =>
      simp only [Option.toList_some, List.length_singleton, Option.map_some, Option.isSome_some,
        if_true]
      omega

omit [BEq κ] [EquivBEq κ] in
/-- Every value that is too old is counted as expired. -/
theorem balances_purge
    (cache : SoftCache κ ν)
    (now : Nat) :
    Balances ⟨cache, .purge now, .dropped (cache.purge now).1⟩ (cache.purge now).2 := by
  have fewer : (cache.purge now).2.size ≤ cache.size := List.length_filter_le _ _
  refine ⟨rfl, rfl, rfl, ?_⟩
  change cache.accounted = (cache.purge now).2.size + cache.statistics.evictions +
    (cache.statistics.expirations + (cache.size - (cache.purge now).2.size))
  rw [accounted]
  omega

/-- Every call leaves the accounts in balance. -/
theorem Keyed.balances
    (keyed : cache.Keyed)
    (call : CacheCall κ ν) :
    Balances ⟨cache, call, (cache.perform call).1⟩ (cache.perform call).2 := by
  cases call with
  | get key now => exact keyed.balances_get key now
  | insert key value now later => exact keyed.balances_insert key value now later
  | remove key => exact keyed.balances_remove key
  | contains key now => exact ⟨rfl, rfl, rfl, rfl⟩
  | purge now => exact balances_purge cache now
  | clear =>
      refine ⟨rfl, rfl, rfl, ?_⟩
      change cache.accounted = 0 + cache.statistics.evictions + cache.statistics.expirations +
        0 + cache.size
      rw [accounted]
      omega

/-! ## Runs -/

/-- In a run the accounts stay in balance. -/
theorem Keyed.balance_run
    (keyed : cache.Keyed)
    (calls : List (CacheCall κ ν)) :
    (cache.run calls).2.statistics.accesses =
        cache.statistics.accesses + calls.countP CacheCall.isGet ∧
      (cache.run calls).2.statistics.hits + (cache.run calls).2.statistics.misses =
        cache.statistics.hits + cache.statistics.misses + calls.countP CacheCall.isGet ∧
      (cache.run calls).2.statistics.inserts =
        cache.statistics.inserts + calls.countP CacheCall.isInsert ∧
      cache.accounted + (cache.steps calls).countP CacheStep.enters =
        (cache.run calls).2.accounted + (cache.steps calls).countP CacheStep.takesOut +
          ((cache.steps calls).map CacheStep.cleared).sum := by
  induction calls generalizing cache with
  | nil => exact ⟨rfl, rfl, rfl, rfl⟩
  | cons call calls inductionHypothesis =>
      obtain ⟨accesses, outcomes, inserts, values⟩ := keyed.balances call
      obtain ⟨laterAccesses, laterOutcomes, laterInserts, laterValues⟩ :=
        inductionHypothesis (keyed.perform call)
      simp only [run, steps, List.countP_cons, List.map_cons, List.sum_cons]
      dsimp only at accesses outcomes inserts values
      refine ⟨?_, ?_, ?_, ?_⟩ <;> omega

/-- From its creation on, every read of a cache is counted as a hit or a miss, every
value that is put in is counted, and the values that were put in and replaced none
are those that are held, went for want of room, went for their age, were taken out
or were dropped with everything. -/
theorem run_accounts
    (limits : CacheLimits)
    (calls : List (CacheCall κ ν)) :
    let last := ((empty limits).run calls).2
    let steps := (empty limits).steps calls
    last.statistics.accesses = last.statistics.hits + last.statistics.misses ∧
      last.statistics.accesses = calls.countP CacheCall.isGet ∧
      last.statistics.inserts = calls.countP CacheCall.isInsert ∧
      steps.countP CacheStep.enters =
        last.size + last.statistics.evictions + last.statistics.expirations +
          steps.countP CacheStep.takesOut + (steps.map CacheStep.cleared).sum := by
  have keyed : (empty limits : SoftCache κ ν).Keyed := .nil
  obtain ⟨accesses, outcomes, inserts, values⟩ := keyed.balance_run calls
  simp only [accounted, size, empty, CacheStatistics.zero, List.length_nil, Nat.zero_add]
    at accesses outcomes inserts values
  exact ⟨accesses.trans outcomes.symm, accesses, inserts, values⟩

/-- Seven values enter a cache with room for two, and go in all five ways. -/
theorem run_accounts_all_ways :
    let calls : List (CacheCall Nat Nat) :=
      [.insert 1 10 0 0, .insert 1 11 1 1, .insert 2 20 2 2, .insert 3 30 3 3, .get 2 4, .get 9 4,
        .get 3 8, .insert 4 40 8 8, .contains 2 9, .purge 9, .remove 4, .remove 4,
        .insert 5 50 10 10, .insert 6 60 11 11, .clear, .insert 7 70 12 12]
    let last := ((empty ⟨2, some 3⟩).run calls).2
    let steps := (empty ⟨2, some 3⟩).steps calls
    last.statistics = ⟨3, 1, 2, 8, 1, 2⟩ ∧ last.size = 1 ∧ steps.countP CacheStep.enters = 7 ∧
      steps.countP CacheStep.takesOut = 1 ∧ (steps.map CacheStep.cleared).sum = 2 ∧
      last.statistics.accesses = last.statistics.hits + last.statistics.misses ∧
      last.statistics.accesses = calls.countP CacheCall.isGet ∧
      last.statistics.inserts = calls.countP CacheCall.isInsert ∧
      steps.countP CacheStep.enters =
        last.size + last.statistics.evictions + last.statistics.expirations +
          steps.countP CacheStep.takesOut + (steps.map CacheStep.cleared).sum := by
  intro calls last steps
  exact ⟨by decide, by decide, by decide, by decide, by decide, run_accounts ⟨2, some 3⟩ calls⟩

end SoftCache
end Keyspace
