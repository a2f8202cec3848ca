import Keyspace.Proofs.Cache.Recency
import Mathlib.Data.Finset.Card

/-!
# The keys used last

Without a time to live, a soft cache keeps the keys used last: a key comes to the
front when it is read or put in, and the end is cut off where the room is.  The
clock has no part in this.  A key therefore stays as long as fewer others than
there is room for come before it.
-/

namespace Keyspace
namespace SoftCache

variable {κ ν : Type}

/-- The keys of a cache, in the order of its slots. -/
def keys (cache : SoftCache κ ν) : List κ :=
  cache.slots.map (·.key)

/-- Whether the slots of a cache are in the order of their touches, one for each
key, and all before the next touch. -/
structure Ranked (cache : SoftCache κ ν) : Prop where
  /-- Every slot has another key and a later touch than those behind it. -/
  ordered : cache.slots.Pairwise fun newer older =>
    older.key ≠ newer.key ∧ older.lastTick < newer.lastTick
  /-- The next touch gets a greater number. -/
  counted : ∀ slot ∈ cache.slots, slot.lastTick < cache.ticks

/-- Whether a cache keeps its values until others need the room. -/
structure Ageless (room : Nat) (cache : SoftCache κ ν) : Prop extends cache.Ranked where
  /-- No value expires. -/
  timeToLive : cache.timeToLive = none
  /-- The room is what the cache is set up with. -/
  capacity : cache.capacity = room
  /-- There is room for all values. -/
  fits : cache.keys.length ≤ room

variable {cache : SoftCache κ ν} {room : Nat}

theorem Ranked.nodup_keys
    (ranked : cache.Ranked) :
    cache.keys.Nodup :=
  List.pairwise_map.mpr (ranked.ordered.imp fun after => after.1.symm)

theorem ageless_empty
    (capacity : Nat) :
    (empty ⟨capacity, none⟩ : SoftCache κ ν).Ageless (max capacity 1) where
  ordered := .nil
  counted := by simp [empty]
  timeToLive := rfl
  capacity := rfl
  fits := Nat.zero_le _

theorem Ranked.goesInTurn
    (ranked : cache.Ranked)
    (timeToLive : cache.timeToLive = none)
    (now : Nat) :
    cache.GoesInTurn now := by
  refine ranked.ordered.imp fun after => ⟨after.1, ?_⟩
  simp [goesBefore, isExpired, timeToLive, after.2]

theorem Ageless.isExpired
    (ageless : cache.Ageless room)
    (now : Nat)
    (slot : CacheSlot κ ν) :
    cache.isExpired now slot = false := by
  simp [SoftCache.isExpired, ageless.timeToLive]

section Keys

variable [BEq κ] {key : κ}

/-- The keys after one of them is used: it comes to the front, and what there is no
room for goes. -/
def latest (room : Nat) (key : κ) (keys : List κ) : List κ :=
  (key :: keys.filter fun other => !(other == key)).take room

theorem keys_touch
    (cache : SoftCache κ ν)
    (key : κ)
    (value : ν)
    (now : Nat) :
    (cache.touch key value now).keys = key :: cache.keys.filter fun other => !(other == key) := by
  simp only [keys, touch, erase, List.map_cons, List.filter_map]
  rfl

variable [LawfulBEq κ]

/-- A key that is there needs no further room. -/
theorem latest_eq_of_mem
    {keys : List κ}
    (fits : keys.length ≤ room)
    (present : key ∈ keys) :
    latest room key keys = key :: keys.filter fun other => !(other == key) := by
  have shorter : (keys.filter fun other => !(other == key)).length < keys.length :=
    List.length_filter_lt_length_iff_exists.mpr ⟨key, present, by simp⟩
  exact List.take_of_length_le (Nat.le_trans shorter fits)

theorem find?_eq_none_iff :
    cache.find? key = none ↔ key ∉ cache.keys := by
  simp [keys, find?]

theorem mem_keys_of_find?
    {slot : CacheSlot κ ν}
    (found : cache.find? key = some slot) :
    key ∈ cache.keys := by
  by_contra absent
  simp [find?_eq_none_iff.mpr absent] at found

end Keys

/-! ## Reading and putting in -/

section Operations

variable [BEq κ] [LawfulBEq κ] {key : κ}

theorem Ranked.touch
    (ranked : cache.Ranked)
    (key : κ)
    (value : ν)
    (now : Nat) :
    (cache.touch key value now).Ranked := by
  refine ⟨.cons (fun slot present => ?_) (ranked.ordered.sublist List.filter_sublist), ?_⟩
  · obtain ⟨member, differs⟩ := mem_slots_erase present
    exact ⟨differs, ranked.counted slot member⟩
  · refine List.forall_mem_cons.mpr ⟨Nat.lt_succ_self _, fun slot present => ?_⟩
    exact Nat.lt_succ_of_lt (ranked.counted slot (mem_slots_erase present).1)

/-- Making room leaves the keys used last. -/
theorem Ranked.evict
    (ranked : cache.Ranked)
    (timeToLive : cache.timeToLive = none)
    (now : Nat) :
    (evict now (cache.size - cache.capacity) cache).Ageless cache.capacity ∧
      (evict now (cache.size - cache.capacity) cache).keys = cache.keys.take cache.capacity := by
  have cut : ((cache.slots.take cache.capacity).map (·.key)) = cache.keys.take cache.capacity :=
    List.map_take
  rw [evict_excess cache now (ranked.goesInTurn timeToLive now)]
  refine ⟨⟨⟨ranked.ordered.sublist (List.take_sublist _ _), fun slot present => ?_⟩, timeToLive,
    rfl, ?_⟩, cut⟩
  · exact ranked.counted slot (List.mem_of_mem_take present)
  · exact (congrArg List.length cut).trans_le (List.length_take_le _ _)

/-- A read that finds a value brings its key to the front. -/
theorem Ageless.get_some
    {read : SoftCache κ ν}
    {value : ν}
    {now : Nat}
    (ageless : cache.Ageless room)
    (got : cache.get key now = (some value, read)) :
    key ∈ cache.keys ∧ read.Ageless room ∧ read.keys = latest room key cache.keys := by
  unfold SoftCache.get at got
  cases found : cache.find? key with
  | none => simp [found] at got
  | some slot =>
      have present := mem_keys_of_find? found
      have touched := ageless.touch key slot.value now
      have front : (cache.touch key slot.value now).keys = latest room key cache.keys :=
        (keys_touch cache key slot.value now).trans
          (latest_eq_of_mem ageless.fits present).symm
      simp only [found, ageless.isExpired now slot, Bool.false_eq_true, if_false] at got
      obtain ⟨_, rfl⟩ := Prod.mk.inj got
      refine ⟨present, ⟨⟨touched.ordered, touched.counted⟩, ageless.timeToLive,
        ageless.capacity, ?_⟩, front⟩
      exact (congrArg List.length front).trans_le (List.length_take_le _ _)

/-- A read finds nothing only if the key is not there, and then it changes nothing. -/
theorem Ageless.get_none
    {read : SoftCache κ ν}
    {now : Nat}
    (ageless : cache.Ageless room)
    (got : cache.get key now = (none, read)) :
    key ∉ cache.keys ∧ read.Ageless room ∧ read.keys = cache.keys := by
  unfold SoftCache.get at got
  cases found : cache.find? key with
  | none =>
      simp only [found] at got
      obtain ⟨_, rfl⟩ := Prod.mk.inj got
      exact ⟨find?_eq_none_iff.mp found, ⟨⟨ageless.ordered, ageless.counted⟩,
        ageless.timeToLive, ageless.capacity, ageless.fits⟩, rfl⟩
  | some slot => simp [found, ageless.isExpired now slot] at got

/-- A value put in brings its key to the front. -/
theorem Ageless.insert
    (ageless : cache.Ageless room)
    (key : κ)
    (value : ν)
    (now : Nat) :
    (cache.insert key value now).2.Ageless room ∧
      (cache.insert key value now).2.keys = latest room key cache.keys := by
  obtain rfl := ageless.capacity
  let counted : SoftCache κ ν :=
    { cache.touch key value now with
      statistics := (cache.touch key value now).statistics.insertion }
  have touched := ageless.touch key value now
  have ranked : counted.Ranked := ⟨touched.ordered, touched.counted⟩
  have front : counted.keys = key :: cache.keys.filter fun other => !(other == key) :=
    keys_touch cache key value now
  obtain ⟨trimmed, kept⟩ := ranked.evict ageless.timeToLive now
  exact ⟨trimmed, kept.trans (congrArg (List.take counted.capacity) front)⟩

end Operations

/-! ## Keys that stay -/

section Reach

variable {others : Finset κ} {key other : κ} {keys : List κ}

/-- Whether a key is there with none but some others before it. -/
def Within (others : Finset κ) (key : κ) (keys : List κ) : Prop :=
  ∃ newer older, keys = newer ++ key :: older ∧ ∀ other ∈ newer, other ∈ others

theorem Within.mem
    (within : Within others key keys) :
    key ∈ keys := by
  obtain ⟨newer, older, rfl, _⟩ := within
  simp

variable [BEq κ]

/-- A key that is used comes before all others. -/
theorem within_latest
    (room_pos : 0 < room)
    (others : Finset κ)
    (key : κ)
    (keys : List κ) :
    Within others key (latest room key keys) :=
  ⟨[], (keys.filter fun other => !(other == key)).take (room - 1),
    List.take_cons room_pos, nofun⟩

/-- A key stays when it is used, or one of fewer others than there is room for. -/
theorem Within.latest
    [LawfulBEq κ]
    (within : Within others key keys)
    (oneEach : keys.Nodup)
    (few : others.card < room)
    (used : other = key ∨ other ∈ others) :
    Within others key (latest room other keys) := by
  rcases eq_or_ne other key with rfl | differs
  · exact within_latest (Nat.zero_lt_of_lt few) others other keys
  · obtain ⟨newer, older, rfl, before⟩ := within
    -- What comes before the key has no key twice and lies in `others`, so the cut is
    -- behind the key.
    let apart := fun earlier : κ => !(earlier == other)
    let front := other :: newer.filter apart
    have inside : ∀ earlier ∈ front, earlier ∈ others :=
      List.forall_mem_cons.mpr ⟨used.resolve_left differs,
        fun earlier present => before earlier (List.mem_of_mem_filter present)⟩
    have distinct : front.Nodup :=
      List.nodup_cons.mpr ⟨by simp [apart], (List.nodup_append.mp oneEach).1.filter _⟩
    have short : front.length < room := by
      calc
        front.length = (⟨front, distinct⟩ : Finset κ).card := rfl
        _ ≤ others.card := Finset.card_le_card inside
        _ < room := few
    refine ⟨front, (older.filter apart).take (room - front.length - 1), ?_, inside⟩
    have kept : apart key = true := by simpa [apart] using differs.symm
    calc
      SoftCache.latest room other (newer ++ key :: older)
          = (front ++ key :: older.filter apart).take room := by
        rw [SoftCache.latest, List.filter_append, List.filter_cons_of_pos kept]
        rfl
      _ = front ++ key :: (older.filter apart).take (room - front.length - 1) := by
        rw [List.take_append, List.take_of_length_le short.le,
          List.take_cons (Nat.sub_pos_of_lt short)]

end Reach
end SoftCache
end Keyspace
