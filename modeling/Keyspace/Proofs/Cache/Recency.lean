import Keyspace.Cache.SoftCache
import Mathlib.Data.List.Basic
import Mathlib.Order.MinMax
import Mathlib.Tactic.Common

/-!
# Caches as lists by last access

A soft cache numbers its touches and looks for the value that has to go first by
age and number.  It behaves like a list of values with the one touched last in
front, whose end is cut off where the room is.  Age never changes the choice: no
clock goes back, so whatever is expired was touched before all that is not.
-/

namespace Keyspace

/-! ## Lists by last access -/

/-- A value with the clock reading at its last access. -/
structure Access (κ ν : Type) where
  /-- The key. -/
  key : κ
  /-- The value. -/
  value : ν
  /-- When the value was put in or read last. -/
  time : Nat
  deriving DecidableEq, Repr

/-- Values by their last access, the latest first. -/
structure RecencyList (κ ν : Type) where
  /-- How many values there is room for. -/
  room : Nat
  /-- How long a value lives after an access; for ever if absent. -/
  timeToLive : Option Nat
  /-- The values, one for each key. -/
  accesses : List (Access κ ν)
  deriving DecidableEq, Repr

/-- What may happen to a cache.  Calls that read the clock carry its readings; it
is read twice where a value is put in, the second time to make room. -/
inductive CacheCall (κ ν : Type) where
  /-- A key is read. -/
  | get (key : κ) (now : Nat)
  /-- A value is put under a key. -/
  | insert (key : κ) (value : ν) (now later : Nat)
  /-- A key is taken out. -/
  | remove (key : κ)
  /-- A key is looked for. -/
  | contains (key : κ) (now : Nat)
  /-- Expired values are dropped. -/
  | purge (now : Nat)
  /-- Everything is dropped. -/
  | clear

/-- The clock readings of a call. -/
def CacheCall.readings {κ ν : Type} : CacheCall κ ν -> List Nat
  | get _ now => [now]
  | insert _ _ now later => [now, later]
  | remove _ => []
  | contains _ now => [now]
  | purge now => [now]
  | clear => []

/-- What a call gives back. -/
inductive CacheAnswer (ν : Type) where
  /-- A value, if there is one. -/
  | value (found : Option ν)
  /-- Whether a key is there. -/
  | presence (present : Bool)
  /-- How many values were dropped. -/
  | dropped (count : Nat)
  /-- Nothing. -/
  | done
  deriving DecidableEq, Repr

namespace RecencyList

variable {κ ν : Type} [BEq κ]

/-- An empty list with room for one value at least. -/
def empty (limits : CacheLimits) : RecencyList κ ν :=
  ⟨max limits.capacity 1, limits.timeToLive, []⟩

/-- Whether no more than the time to live has passed since an access. -/
def lives (list : RecencyList κ ν) (now : Nat) (access : Access κ ν) : Bool :=
  match list.timeToLive with
  | some lifetime => decide (now - access.time ≤ lifetime)
  | none => true

/-- The access to a key. -/
def find? (list : RecencyList κ ν) (key : κ) : Option (Access κ ν) :=
  list.accesses.find? fun access => access.key == key

/-- The list without a key. -/
def erase (list : RecencyList κ ν) (key : κ) : RecencyList κ ν :=
  { list with accesses := list.accesses.filter fun access => !(access.key == key) }

/-- The list with a value in front, and under its key nowhere else. -/
def access (list : RecencyList κ ν) (key : κ) (value : ν) (now : Nat) : RecencyList κ ν :=
  { list with accesses := ⟨key, value, now⟩ :: (list.erase key).accesses }

/-- The list without the values at its end that there is no room for. -/
def trim (list : RecencyList κ ν) : RecencyList κ ν :=
  { list with accesses := list.accesses.take list.room }

/-- Read a key.  A value that still lives comes to the front, an older one goes. -/
def get (list : RecencyList κ ν) (key : κ) (now : Nat) : Option ν × RecencyList κ ν :=
  match list.find? key with
  | none => (none, list)
  | some found =>
      if list.lives now found then (some found.value, list.access key found.value now)
      else (none, list.erase key)

/-- Put a value in front and give back the one it replaces. -/
def insert (list : RecencyList κ ν) (key : κ) (value : ν) (now : Nat) :
    Option ν × RecencyList κ ν :=
  ((list.find? key).map (·.value), (list.access key value now).trim)

/-- Drop what does not live any more and give back its number. -/
def purge (list : RecencyList κ ν) (now : Nat) : Nat × RecencyList κ ν :=
  let live := list.accesses.filter (list.lives now)
  (list.accesses.length - live.length, { list with accesses := live })

/-- What a call gives back, and the list after it. -/
def perform (list : RecencyList κ ν) : CacheCall κ ν -> CacheAnswer ν × RecencyList κ ν
  | .get key now => (list.get key now).map .value id
  | .insert key value now _ => (list.insert key value now).map .value id
  | .remove key => (.value ((list.find? key).map (·.value)), list.erase key)
  | .contains key now => (.presence ((list.find? key).any (list.lives now)), list)
  | .purge now => (list.purge now).map .dropped id
  | .clear => (.done, { list with accesses := [] })

/-- What calls give back, and the list after them. -/
def run (list : RecencyList κ ν) : List (CacheCall κ ν) -> List (CacheAnswer ν) × RecencyList κ ν
  | [] => ([], list)
  | call :: calls =>
      let (answer, next) := list.perform call
      let (answers, last) := next.run calls
      (answer :: answers, last)

end RecencyList

/-- What is known of the last access to a slot. -/
def CacheSlot.access {κ ν : Type} (slot : CacheSlot κ ν) : Access κ ν :=
  ⟨slot.key, slot.value, slot.lastTouch⟩

namespace SoftCache

variable {κ ν : Type} [BEq κ]

/-- Put a value under a key, with the clock read again before room is made. -/
def insertThenEvict
    (cache : SoftCache κ ν)
    (key : κ)
    (value : ν)
    (now later : Nat) : Option ν × SoftCache κ ν :=
  let touched := cache.touch key value now
  let counted := { touched with statistics := touched.statistics.insertion }
  ((cache.find? key).map (·.value), evict later (counted.size - counted.capacity) counted)

/-- If the clock stands still, this is plain insertion. -/
theorem insertThenEvict_self
    (cache : SoftCache κ ν)
    (key : κ)
    (value : ν)
    (now : Nat) :
    cache.insertThenEvict key value now now = cache.insert key value now :=
  rfl

/-- What a call gives back, and the cache after it. -/
def perform (cache : SoftCache κ ν) : CacheCall κ ν -> CacheAnswer ν × SoftCache κ ν
  | .get key now => (cache.get key now).map .value id
  | .insert key value now later => (cache.insertThenEvict key value now later).map .value id
  | .remove key => (cache.remove key).map .value id
  | .contains key now => (.presence (cache.contains key now), cache)
  | .purge now => (cache.purge now).map .dropped id
  | .clear => (.done, cache.clear)

/-- What calls give back, and the cache after them. -/
def run (cache : SoftCache κ ν) : List (CacheCall κ ν) -> List (CacheAnswer ν) × SoftCache κ ν
  | [] => ([], cache)
  | call :: calls =>
      let (answer, next) := cache.perform call
      let (answers, last) := next.run calls
      (answer :: answers, last)

/-- The values of a cache, in the order of its slots, without the numbers of their
touches. -/
def byAccess (cache : SoftCache κ ν) : RecencyList κ ν where
  room := cache.capacity
  timeToLive := cache.timeToLive
  accesses := cache.slots.map CacheSlot.access

end SoftCache

/-- Whether a slot was touched after another one, of another key. -/
structure CacheSlot.TouchedAfter {κ ν : Type} (newer older : CacheSlot κ ν) : Prop where
  /-- The keys differ. -/
  key : older.key ≠ newer.key
  /-- The touches are counted up. -/
  tick : older.lastTick < newer.lastTick
  /-- The clock does not go back. -/
  touch : older.lastTouch ≤ newer.lastTouch

namespace SoftCache

variable {κ ν : Type}

/-- Whether the slots of a cache are in the order of their touches, all before the
next touch and before the clock readings to come. -/
structure Orderly (upcoming : List Nat) (cache : SoftCache κ ν) : Prop where
  /-- Every slot was touched after those behind it. -/
  ordered : cache.slots.Pairwise CacheSlot.TouchedAfter
  /-- The next touch gets a greater number. -/
  counted : ∀ slot ∈ cache.slots, slot.lastTick < cache.ticks
  /-- No touch is later than a reading to come. -/
  past : ∀ slot ∈ cache.slots, ∀ reading ∈ upcoming, slot.lastTouch ≤ reading

section Order

variable {upcoming : List Nat} {cache : SoftCache κ ν}

/-- Slots that go leave the others in order. -/
theorem Orderly.of_sublist
    {smaller : SoftCache κ ν}
    (orderly : cache.Orderly upcoming)
    (sublist : smaller.slots.Sublist cache.slots)
    (ticks : smaller.ticks = cache.ticks) :
    smaller.Orderly upcoming :=
  ⟨orderly.ordered.sublist sublist,
    fun slot present => ticks ▸ orderly.counted slot (sublist.subset present),
    fun slot present => orderly.past slot (sublist.subset present)⟩

/-- Readings that are over need not be heeded any more. -/
theorem Orderly.of_subset
    {fewer : List Nat}
    (orderly : cache.Orderly upcoming)
    (subset : fewer ⊆ upcoming) :
    cache.Orderly fewer :=
  ⟨orderly.ordered, orderly.counted,
    fun slot present reading among => orderly.past slot present reading (subset among)⟩

theorem mem_slots_erase
    [BEq κ]
    [LawfulBEq κ]
    {key : κ}
    {slot : CacheSlot κ ν}
    (present : slot ∈ (cache.erase key).slots) :
    slot ∈ cache.slots ∧ slot.key ≠ key := by
  simpa [erase] using present

/-- What is touched now comes after all that was touched before. -/
theorem Orderly.touch
    [BEq κ]
    [LawfulBEq κ]
    {now : Nat}
    (orderly : cache.Orderly (now :: upcoming))
    (inOrder : ∀ reading ∈ upcoming, now ≤ reading)
    (key : κ)
    (value : ν) :
    (cache.touch key value now).Orderly upcoming := by
  refine ⟨?_, ?_, ?_⟩
  · refine .cons (fun slot present => ?_) (orderly.ordered.sublist List.filter_sublist)
    obtain ⟨member, differs⟩ := mem_slots_erase present
    exact ⟨differs, orderly.counted slot member, orderly.past slot member now (by simp)⟩
  · refine List.forall_mem_cons.mpr ⟨Nat.lt_succ_self _, fun slot present => ?_⟩
    exact Nat.lt_succ_of_lt (orderly.counted slot (mem_slots_erase present).1)
  · refine List.forall_mem_cons.mpr ⟨inOrder, fun slot present reading among => ?_⟩
    exact orderly.past slot (mem_slots_erase present).1 reading (List.mem_cons_of_mem _ among)

end Order

/-! ## What goes first -/

section Eviction

variable {cache : SoftCache κ ν} {now : Nat}

theorem isExpired_of_touchedAfter
    {newer older : CacheSlot κ ν}
    (after : newer.TouchedAfter older)
    (expired : cache.isExpired now newer = true) :
    cache.isExpired now older = true := by
  have touch := after.touch
  unfold isExpired at *
  split at expired
  · next lifetime _ =>
      have age := of_decide_eq_true expired
      exact decide_eq_true (by omega)
  · simp at expired

/-- What was touched before goes before, at any time. -/
theorem goesBefore_of_touchedAfter
    {newer older : CacheSlot κ ν}
    (after : newer.TouchedAfter older) :
    cache.goesBefore now older newer = true := by
  have expires : cache.isExpired now newer = true -> cache.isExpired now older = true :=
    isExpired_of_touchedAfter after
  have tick := after.tick
  unfold goesBefore
  cases olderExpired : cache.isExpired now older <;>
    cases newerExpired : cache.isExpired now newer <;> simp_all

/-- Whether the slots have keys of their own and each goes before those in front of
it. -/
def GoesInTurn (cache : SoftCache κ ν) (now : Nat) : Prop :=
  cache.slots.Pairwise fun newer older =>
    older.key ≠ newer.key ∧ cache.goesBefore now older newer = true

theorem goesInTurn_of_touchedAfter
    (ordered : cache.slots.Pairwise CacheSlot.TouchedAfter)
    (now : Nat) :
    cache.GoesInTurn now :=
  ordered.imp fun after => ⟨after.key, goesBefore_of_touchedAfter after⟩

theorem goesBefore_asymm
    {left right : CacheSlot κ ν}
    (before : cache.goesBefore now left right = true) :
    cache.goesBefore now right left = false := by
  unfold goesBefore at *
  cases leftExpired : cache.isExpired now left <;>
    cases rightExpired : cache.isExpired now right <;> simp_all <;> omega

theorem mem_of_firstToGo?
    {slots : List (CacheSlot κ ν)}
    {chosen : CacheSlot κ ν}
    (first : cache.firstToGo? now slots = some chosen) :
    chosen ∈ slots := by
  induction slots with
  | nil => simp [firstToGo?] at first
  | cons slot rest inductionHypothesis =>
      unfold firstToGo? at first
      split at first
      · simp_all
      · split at first <;> simp_all

/-- The slot that goes before all others is chosen, in whatever order they are
looked at. -/
theorem firstToGo?_eq_some
    {slots : List (CacheSlot κ ν)}
    {oldest : CacheSlot κ ν}
    (present : oldest ∈ slots)
    (before : ∀ other ∈ slots, other = oldest ∨ cache.goesBefore now oldest other = true) :
    cache.firstToGo? now slots = some oldest := by
  induction slots with
  | nil => simp at present
  | cons slot rest inductionHypothesis =>
      obtain ⟨here, behind⟩ := List.forall_mem_cons.mp before
      unfold firstToGo?
      by_cases further : oldest ∈ rest
      · rw [inductionHypothesis further behind]
        rcases here with rfl | goes
        · exact ite_self _
        · simp [goesBefore_asymm goes]
      · obtain rfl : oldest = slot := (List.mem_cons.mp present).resolve_right further
        cases found : cache.firstToGo? now rest with
        | none => rfl
        | some other =>
            have member := mem_of_firstToGo? found
            rcases behind other member with rfl | goes
            · exact absurd member further
            · simp [goes]

end Eviction

variable [BEq κ] [LawfulBEq κ]

theorem slots_erase_concat
    {cache : SoftCache κ ν}
    {kept : List (CacheSlot κ ν)}
    {oldest : CacheSlot κ ν}
    (shape : cache.slots = kept ++ [oldest])
    (differ : ∀ slot ∈ kept, oldest.key ≠ slot.key) :
    (cache.erase oldest.key).slots = kept := by
  have others : ∀ slot ∈ kept, (!(slot.key == oldest.key)) = true := by
    intro slot present
    simpa using (differ slot present).symm
  simp [erase, shape, List.filter_append, List.filter_eq_self.mpr others]

/-- Making room cuts off the end of the slots. -/
theorem evict_eq
    (cache : SoftCache κ ν)
    (later count : Nat)
    (inTurn : cache.GoesInTurn later) :
    evict later count cache =
      { cache with
        slots := cache.slots.take (cache.slots.length - count)
        statistics := cache.statistics.evict (min count cache.slots.length) } := by
  induction count generalizing cache with
  | zero => simp [evict, CacheStatistics.evict]
  | succ count inductionHypothesis =>
      unfold evict
      obtain empty | ⟨kept, oldest, shape⟩ := cache.slots.eq_nil_or_concat'
      · have nothing : cache.firstToGo? later cache.slots = none := by rw [empty]; rfl
        have whole : cache.slots.take (cache.slots.length - (count + 1)) = cache.slots := by
          rw [empty, List.take_nil]
        rw [nothing, whole, empty, List.length_nil, Nat.min_zero, ← empty]
        rfl
      · have last : ∀ slot ∈ kept,
            oldest.key ≠ slot.key ∧ cache.goesBefore later oldest slot = true := by
          rw [GoesInTurn, shape] at inTurn
          intro slot present
          exact (List.pairwise_append.mp inTurn).2.2 slot present oldest
            (List.mem_singleton_self _)
        have goes : cache.firstToGo? later cache.slots = some oldest := by
          refine firstToGo?_eq_some (by simp [shape]) fun other present => ?_
          rw [shape] at present
          rcases List.mem_append.mp present with before | here
          · exact .inr (last other before).2
          · exact .inl (List.mem_singleton.mp here)
        have smaller := slots_erase_concat shape fun slot present => (last slot present).1
        have cut : cache.slots.take (cache.slots.length - (count + 1)) =
            kept.take (kept.length - count) := by
          rw [shape, List.length_append, List.length_singleton, Nat.add_sub_add_right,
            List.take_append_of_le_length (Nat.sub_le _ _)]
        have gone : min (count + 1) cache.slots.length = 1 + min count kept.length := by
          rw [shape, List.length_append, List.length_singleton]
          omega
        have rest := inductionHypothesis
          { cache.erase oldest.key with statistics := cache.statistics.evict 1 }
          (inTurn.sublist List.filter_sublist)
        rw [goes, cut, gone]
        simp only [smaller] at rest ⊢
        refine rest.trans ?_
        simp only [CacheStatistics.evict, Nat.add_assoc]
        rfl

/-- Making room by number leaves the slots that there is room for. -/
theorem evict_excess
    (cache : SoftCache κ ν)
    (later : Nat)
    (inTurn : cache.GoesInTurn later) :
    evict later (cache.size - cache.capacity) cache =
      { cache with
        slots := cache.slots.take cache.capacity
        statistics := cache.statistics.evict (cache.size - cache.capacity) } := by
  have cut : cache.slots.take (cache.slots.length - (cache.size - cache.capacity)) =
      cache.slots.take cache.capacity := by
    rw [List.take_eq_take_iff, size]
    omega
  rw [evict_eq cache later _ inTurn, cut, ← size, Nat.min_eq_left (Nat.sub_le _ _)]

/-! ## What calls do to the list -/

section Calls

omit [LawfulBEq κ]

variable (cache : SoftCache κ ν) (key : κ) (value : ν) (now : Nat)

theorem find?_byAccess :
    cache.byAccess.find? key = (cache.find? key).map CacheSlot.access :=
  List.find?_map

theorem byAccess_erase :
    (cache.erase key).byAccess = cache.byAccess.erase key := by
  simp only [byAccess, RecencyList.erase, erase, List.filter_map]
  rfl

theorem byAccess_touch :
    (cache.touch key value now).byAccess = cache.byAccess.access key value now := by
  have others := congrArg RecencyList.accesses (byAccess_erase cache key)
  rw [RecencyList.access, ← others]
  rfl

omit [BEq κ] in
theorem lives_access
    (slot : CacheSlot κ ν) :
    cache.byAccess.lives now slot.access = !cache.isExpired now slot := by
  cases limit : cache.timeToLive with
  | none => simp [RecencyList.lives, byAccess, isExpired, limit]
  | some lifetime =>
      simp only [RecencyList.lives, byAccess, isExpired, limit]
      change decide (now - slot.lastTouch ≤ lifetime) = !decide (lifetime < now - slot.lastTouch)
      rw [← decide_not, decide_eq_decide, Nat.not_lt]

theorem byAccess_get :
    (cache.get key now).map id byAccess = cache.byAccess.get key now := by
  simp only [get, RecencyList.get, find?_byAccess]
  cases cache.find? key with
  | none => rfl
  | some slot =>
      simp only [Option.map_some, lives_access]
      cases cache.isExpired now slot with
      | true => exact congrArg (Prod.mk none) (byAccess_erase cache key)
      | false => exact congrArg (Prod.mk (some slot.value)) (byAccess_touch cache key slot.value now)

theorem contains_eq :
    cache.contains key now = (cache.byAccess.find? key).any (cache.byAccess.lives now) := by
  rw [find?_byAccess, contains]
  cases cache.find? key with
  | none => rfl
  | some slot => simp [lives_access]

omit [BEq κ] in
theorem byAccess_purge :
    (cache.purge now).map id byAccess = cache.byAccess.purge now := by
  have lives : cache.byAccess.lives now ∘ CacheSlot.access =
      fun slot => !cache.isExpired now slot :=
    funext (lives_access cache now)
  have live : cache.byAccess.accesses.filter (cache.byAccess.lives now) =
      (cache.slots.filter fun slot => !cache.isExpired now slot).map CacheSlot.access := by
    rw [byAccess, List.filter_map, ← lives]
    rfl
  simp [RecencyList.purge, live, purge, size]
  simp [byAccess]

end Calls

/-- Making room by number leaves the values that the list has room for. -/
theorem byAccess_evict
    {cache : SoftCache κ ν}
    (ordered : cache.slots.Pairwise CacheSlot.TouchedAfter)
    (later : Nat) :
    (evict later (cache.size - cache.capacity) cache).byAccess = cache.byAccess.trim := by
  rw [evict_excess cache later (goesInTurn_of_touchedAfter ordered later)]
  simp only [byAccess, RecencyList.trim, List.map_take]

theorem byAccess_insertThenEvict
    {cache : SoftCache κ ν}
    {key : κ}
    {value : ν}
    {now : Nat}
    (ordered : (cache.touch key value now).slots.Pairwise CacheSlot.TouchedAfter)
    (later : Nat) :
    (cache.insertThenEvict key value now later).map id byAccess =
      cache.byAccess.insert key value now := by
  let counted : SoftCache κ ν :=
    { cache.touch key value now with
      statistics := (cache.touch key value now).statistics.insertion }
  have front : counted.byAccess = cache.byAccess.access key value now :=
    byAccess_touch cache key value now
  have room := byAccess_evict (show counted.slots.Pairwise _ from ordered) later
  rw [RecencyList.insert, find?_byAccess, Option.map_map, ← front, ← room]
  rfl

/-! ## Runs -/

/-- A call does to the list of a cache what it does to the cache. -/
theorem byAccess_perform
    {upcoming : List Nat}
    {cache : SoftCache κ ν}
    {call : CacheCall κ ν}
    (orderly : cache.Orderly (call.readings ++ upcoming))
    (inOrder : (call.readings ++ upcoming).Pairwise (· ≤ ·)) :
    (cache.perform call).map id byAccess = cache.byAccess.perform call := by
  cases call with
  | get key now =>
      rw [RecencyList.perform, ← byAccess_get]
      rfl
  | insert key value now later =>
      have touched := orderly.touch (List.pairwise_cons.mp inOrder).1 key value
      rw [RecencyList.perform, ← byAccess_insertThenEvict touched.ordered later]
      rfl
  | remove key =>
      rw [RecencyList.perform, find?_byAccess, Option.map_map, ← byAccess_erase]
      rfl
  | contains key now =>
      rw [RecencyList.perform, ← contains_eq]
      rfl
  | purge now =>
      rw [RecencyList.perform, ← byAccess_purge]
      rfl
  | clear => rfl

theorem Orderly.evict
    {upcoming : List Nat}
    {cache : SoftCache κ ν}
    (orderly : cache.Orderly upcoming)
    (later count : Nat) :
    (evict later count cache).Orderly upcoming := by
  rw [evict_eq cache later count (goesInTurn_of_touchedAfter orderly.ordered later)]
  exact orderly.of_sublist (List.take_sublist _ _) rfl

theorem Orderly.get
    {upcoming : List Nat}
    {cache : SoftCache κ ν}
    {now : Nat}
    (orderly : cache.Orderly (now :: upcoming))
    (inOrder : ∀ reading ∈ upcoming, now ≤ reading)
    (key : κ) :
    (cache.get key now).2.Orderly upcoming := by
  have ahead := orderly.of_subset (List.subset_cons_self now upcoming)
  unfold SoftCache.get
  split
  · exact ahead.of_sublist (List.Sublist.refl _) rfl
  · next slot _ =>
      split
      · exact ahead.of_sublist List.filter_sublist rfl
      · exact (orderly.touch inOrder key slot.value).of_sublist (List.Sublist.refl _) rfl

/-- A call keeps the touches in order. -/
theorem Orderly.perform
    {upcoming : List Nat}
    {cache : SoftCache κ ν}
    {call : CacheCall κ ν}
    (orderly : cache.Orderly (call.readings ++ upcoming))
    (inOrder : (call.readings ++ upcoming).Pairwise (· ≤ ·)) :
    (cache.perform call).2.Orderly upcoming := by
  have ahead := orderly.of_subset (List.subset_append_right call.readings upcoming)
  cases call with
  | get key now => exact orderly.get (List.pairwise_cons.mp inOrder).1 key
  | insert key value now later =>
      have touched := orderly.touch (List.pairwise_cons.mp inOrder).1 key value
      have counted : Orderly upcoming
          { cache.touch key value now with
            statistics := (cache.touch key value now).statistics.insertion } :=
        (touched.of_subset (List.subset_cons_self later upcoming)).of_sublist
          (List.Sublist.refl _) rfl
      exact counted.evict later _
  | remove key => exact ahead.of_sublist List.filter_sublist rfl
  | contains key now => exact ahead
  | purge now => exact ahead.of_sublist List.filter_sublist rfl
  | clear => exact ahead.of_sublist (List.nil_sublist _) rfl

/-- While the clock does not go back, calls do to the list of a cache what they do
to the cache. -/
theorem byAccess_run
    {cache : SoftCache κ ν}
    {calls : List (CacheCall κ ν)}
    (orderly : cache.Orderly (calls.flatMap CacheCall.readings))
    (inOrder : (calls.flatMap CacheCall.readings).Pairwise (· ≤ ·)) :
    (cache.run calls).map id byAccess = cache.byAccess.run calls := by
  induction calls generalizing cache with
  | nil => rfl
  | cons call calls inductionHypothesis =>
      rw [List.flatMap_cons] at orderly inOrder
      have step := byAccess_perform orderly inOrder
      have further := inductionHypothesis (orderly.perform inOrder)
        (inOrder.sublist (List.sublist_append_right _ _))
      rw [RecencyList.run, ← step]
      simp only [Prod.map_snd, Prod.map_fst, ← further]
      rfl

end SoftCache

namespace RecencyList

variable {κ ν : Type} [BEq κ] {list : RecencyList κ ν} {call : CacheCall κ ν}

theorem room_perform :
    (list.perform call).2.room = list.room := by
  cases call with
  | get key now =>
      simp only [perform, get, Prod.map_snd, id]
      split
      · rfl
      · split <;> rfl
  | insert key value now later => rfl
  | remove key => rfl
  | contains key now => rfl
  | purge now => rfl
  | clear => rfl

theorem length_get_le
    (key : κ)
    (now : Nat) :
    (list.get key now).2.accesses.length ≤ list.accesses.length := by
  unfold get
  split
  · exact le_rfl
  · next found here =>
      have shorter : (list.erase key).accesses.length < list.accesses.length :=
        List.length_filter_lt_length_iff_exists.mpr
          ⟨found, List.mem_of_find?_eq_some here, by simpa using List.find?_some here⟩
      split
      · exact shorter
      · exact shorter.le

/-- No call leaves more values than there is room for. -/
theorem length_perform_le
    (fits : list.accesses.length ≤ list.room) :
    (list.perform call).2.accesses.length ≤ list.room := by
  cases call with
  | get key now => exact (length_get_le key now).trans fits
  | insert key value now later => exact List.length_take_le _ _
  | remove key => exact (List.length_filter_le _ _).trans fits
  | contains key now => exact fits
  | purge now => exact (List.length_filter_le _ _).trans fits
  | clear => exact Nat.zero_le _

theorem room_run
    (list : RecencyList κ ν)
    (calls : List (CacheCall κ ν)) :
    (list.run calls).2.room = list.room := by
  induction calls generalizing list with
  | nil => rfl
  | cons call calls inductionHypothesis => exact (inductionHypothesis _).trans room_perform

theorem length_run_le
    (fits : list.accesses.length ≤ list.room)
    (calls : List (CacheCall κ ν)) :
    (list.run calls).2.accesses.length ≤ list.room := by
  induction calls generalizing list with
  | nil => exact fits
  | cons call calls inductionHypothesis =>
      have next : (list.perform call).2.accesses.length ≤ (list.perform call).2.room := by
        rw [room_perform]
        exact length_perform_le fits
      exact (inductionHypothesis next).trans_eq room_perform

theorem run_concat
    (list : RecencyList κ ν)
    (calls : List (CacheCall κ ν))
    (call : CacheCall κ ν) :
    (list.run (calls ++ [call])).2 = ((list.run calls).2.perform call).2 := by
  induction calls generalizing list with
  | nil => rfl
  | cons first calls inductionHypothesis => exact inductionHypothesis _

/-- What is put in last stands in front. -/
theorem head?_run_insert
    (limits : CacheLimits)
    (calls : List (CacheCall κ ν))
    (key : κ)
    (value : ν)
    (now later : Nat) :
    ((empty limits).run (calls ++ [.insert key value now later])).2.accesses.head? =
      some ⟨key, value, now⟩ := by
  have room : 0 < ((empty limits : RecencyList κ ν).run calls).2.room := by
    rw [room_run]
    exact Nat.lt_of_lt_of_le Nat.zero_lt_one (le_max_right limits.capacity 1)
  rw [run_concat]
  exact List.head?_take.trans (if_neg room.ne')

end RecencyList

namespace SoftCache

variable {κ ν : Type} [BEq κ] [LawfulBEq κ]

/-- While the clock does not go back, a cache gives the answers of a list by last
access and holds what the list holds: never more than there is room for, and in
front what was put in last. -/
theorem run_eq_recencyList
    (limits : CacheLimits)
    (calls : List (CacheCall κ ν))
    (inOrder : (calls.flatMap CacheCall.readings).Pairwise (· ≤ ·)) :
    ((empty limits).run calls).1 = ((RecencyList.empty limits).run calls).1 ∧
      ((empty limits).run calls).2.byAccess = ((RecencyList.empty limits).run calls).2 ∧
      ((empty limits).run calls).2.size ≤ max limits.capacity 1 ∧
      ∀ earlier key value now later, calls = earlier ++ [.insert key value now later] ->
        ((empty limits).run calls).2.byAccess.accesses.head? = some ⟨key, value, now⟩ := by
  have orderly : (empty limits : SoftCache κ ν).Orderly (calls.flatMap CacheCall.readings) :=
    ⟨.nil, by simp [empty], by simp [empty]⟩
  have same := byAccess_run orderly inOrder
  have state : ((empty limits).run calls).2.byAccess = ((RecencyList.empty limits).run calls).2 :=
    congrArg Prod.snd same
  refine ⟨congrArg Prod.fst same, state, ?_, ?_⟩
  · have fresh : (RecencyList.empty limits : RecencyList κ ν).accesses.length ≤
        (RecencyList.empty limits : RecencyList κ ν).room := Nat.zero_le _
    have fits := RecencyList.length_run_le fresh calls
    rw [← state, byAccess, List.length_map] at fits
    exact fits
  · rintro earlier key value now later rfl
    rw [state]
    exact RecencyList.head?_run_insert limits earlier key value now later

/-- A value that is put in stays though it has expired by the time when room is made:
what was touched before it goes. -/
theorem run_eq_recencyList_all_expired :
    let calls : List (CacheCall Nat Nat) :=
      [.insert 1 10 0 0, .insert 2 20 1 1, .get 1 2, .insert 3 30 4 40]
    (calls.flatMap CacheCall.readings).Pairwise (· ≤ ·) ∧
      ((empty ⟨2, some 3⟩).run calls).1 =
        [.value none, .value none, .value (some 10), .value none] ∧
      ((empty ⟨2, some 3⟩).run calls).2.byAccess = ⟨2, some 3, [⟨3, 30, 4⟩, ⟨1, 10, 2⟩]⟩ ∧
      ((empty ⟨2, some 3⟩).run calls).2.size ≤ 2 ∧
      ((empty ⟨2, some 3⟩).run calls).2.byAccess.accesses.head? = some ⟨3, 30, 4⟩ := by
  intro calls
  have inOrder : (calls.flatMap CacheCall.readings).Pairwise (· ≤ ·) := by decide
  obtain ⟨answers, state, fits, front⟩ := run_eq_recencyList ⟨2, some 3⟩ calls inOrder
  exact ⟨inOrder, answers.trans rfl, state.trans rfl, fits,
    front [.insert 1 10 0 0, .insert 2 20 1 1, .get 1 2] 3 30 4 40 rfl⟩

end SoftCache
end Keyspace
