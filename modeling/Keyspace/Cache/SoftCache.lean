import Keyspace.Cache.Statistics

/-!
# Soft caches

A soft cache keeps a bounded number of values under keys.  A value that was
not touched for longer than the time to live is expired: reads do not find it.
When the cache grows above its capacity, expired values go first and then the
one whose last touch lies furthest back.  Time is given to each operation as a
clock reading in nanoseconds.
-/

namespace Keyspace

/-- A value in a cache. -/
structure CacheSlot (κ ν : Type) where
  /-- The key. -/
  key : κ
  /-- The value. -/
  value : ν
  /-- The number of the last touch, in the order of all touches. -/
  lastTick : Nat
  /-- The clock reading at the last touch. -/
  lastTouch : Nat
  deriving DecidableEq, Repr

/-- A bounded cache. -/
structure SoftCache (κ ν : Type) where
  /-- How many values the cache keeps. -/
  capacity : Nat
  /-- How long a value lives untouched, in nanoseconds; for ever if absent. -/
  timeToLive : Option Nat
  /-- The values, one for each key. -/
  slots : List (CacheSlot κ ν)
  /-- How many touches there were. -/
  ticks : Nat
  /-- How the cache was used. -/
  statistics : CacheStatistics
  deriving DecidableEq, Repr

/-- How a cache is set up. -/
structure CacheLimits where
  /-- How many values the cache keeps. -/
  capacity : Nat
  /-- How long a value lives untouched, in nanoseconds; for ever if absent. -/
  timeToLive : Option Nat
  deriving DecidableEq, Repr

namespace CacheLimits

/-- The capacity in use where none is given. -/
def defaultCapacity : Nat := 1024

end CacheLimits

/-- A length of time in its largest unit that makes it at least one, with the
decimals that it needs. -/
def durationText (nanoseconds : Nat) : String :=
  let (places, unit) :=
    if 1000000000 ≤ nanoseconds then (9, "s")
    else if 1000000 ≤ nanoseconds then (6, "ms")
    else if 1000 ≤ nanoseconds then (3, "µs")
    else (0, "ns")
  let size := Nat.pow 10 places
  let digits := Digits.lowFirst (nanoseconds % size)
  let fraction := digits.dropWhile fun digit => digit == 0
  let zeros := places - digits.length
  let decimals := List.replicate zeros 0 ++ fraction.reverse
  let point := if fraction.isEmpty then "" else "." ++ Digits.text decimals
  s!"{nanoseconds / size}{point}{unit}"

namespace SoftCache

variable {κ ν : Type} [BEq κ]

/-- An empty cache, which keeps at least one value. -/
def empty (limits : CacheLimits) : SoftCache κ ν :=
  ⟨max limits.capacity 1, limits.timeToLive, [], 0, CacheStatistics.zero⟩

/-- How many values the cache holds, expired ones included. -/
def size (cache : SoftCache κ ν) : Nat :=
  cache.slots.length

/-- Whether a value was not touched for longer than the time to live. -/
def isExpired (cache : SoftCache κ ν) (now : Nat) (slot : CacheSlot κ ν) : Bool :=
  match cache.timeToLive with
  | some lifetime => decide (lifetime < now - slot.lastTouch)
  | none => false

/-- The value of a key, expired or not. -/
def find? (cache : SoftCache κ ν) (key : κ) : Option (CacheSlot κ ν) :=
  cache.slots.find? fun slot => slot.key == key

/-- The cache without a key. -/
def erase (cache : SoftCache κ ν) (key : κ) : SoftCache κ ν :=
  { cache with slots := cache.slots.filter fun slot => !(slot.key == key) }

/-- Put a value under a key as the one touched last. -/
def touch (cache : SoftCache κ ν) (key : κ) (value : ν) (now : Nat) : SoftCache κ ν :=
  let slot : CacheSlot κ ν := ⟨key, value, cache.ticks, now⟩
  { cache with
    slots := slot :: (cache.erase key).slots
    ticks := cache.ticks + 1 }

/-- Read a key.  A value that is found counts as touched, an expired one is
dropped. -/
def get (cache : SoftCache κ ν) (key : κ) (now : Nat) : Option ν × SoftCache κ ν :=
  match cache.find? key with
  | none => (none, { cache with statistics := cache.statistics.miss })
  | some slot =>
      if cache.isExpired now slot then
        (none, { cache.erase key with statistics := (cache.statistics.expire 1).miss })
      else
        (some slot.value,
          { cache.touch key slot.value now with statistics := cache.statistics.hit })

/-! ## Eviction -/

/-- Whether one value has to go before another: expired ones first, then by
the last touch. -/
def goesBefore (cache : SoftCache κ ν) (now : Nat) (left right : CacheSlot κ ν) : Bool :=
  match cache.isExpired now left, cache.isExpired now right with
  | true, false => true
  | false, true => false
  | _, _ => decide (left.lastTick < right.lastTick)

/-- The value that has to go first. -/
def firstToGo? (cache : SoftCache κ ν) (now : Nat) :
    List (CacheSlot κ ν) -> Option (CacheSlot κ ν)
  | [] => none
  | slot :: rest =>
      match firstToGo? cache now rest with
      | none => some slot
      | some other => if cache.goesBefore now slot other then some slot else some other

/-- Drop a number of values, each time the one that has to go first. -/
def evict (now : Nat) : Nat -> SoftCache κ ν -> SoftCache κ ν
  | 0, cache => cache
  | count + 1, cache =>
      match cache.firstToGo? now cache.slots with
      | none => cache
      | some slot =>
          let smaller := cache.erase slot.key
          evict now count { smaller with statistics := smaller.statistics.evict 1 }

/-- Put a value under a key and give back the value it had, expired or not.
What the cache then holds above its capacity goes. -/
def insert (cache : SoftCache κ ν) (key : κ) (value : ν) (now : Nat) :
    Option ν × SoftCache κ ν :=
  let previous := (cache.find? key).map (·.value)
  let touched := cache.touch key value now
  let counted := { touched with statistics := touched.statistics.insertion }
  (previous, evict now (counted.size - counted.capacity) counted)

/-! ## Other operations -/

/-- Take a key out and give back the value it had, expired or not. -/
def remove (cache : SoftCache κ ν) (key : κ) : Option ν × SoftCache κ ν :=
  ((cache.find? key).map (·.value), cache.erase key)

/-- Whether a read would find a key; this is no read. -/
def contains (cache : SoftCache κ ν) (key : κ) (now : Nat) : Bool :=
  match cache.find? key with
  | some slot => !cache.isExpired now slot
  | none => false

/-- Drop all expired values and give back their number. -/
def purge (cache : SoftCache κ ν) (now : Nat) : Nat × SoftCache κ ν :=
  let live := cache.slots.filter fun slot => !cache.isExpired now slot
  let count := cache.size - live.length
  (count, { cache with slots := live, statistics := cache.statistics.expire count })

/-- Drop everything, which counts as no eviction. -/
def clear (cache : SoftCache κ ν) : SoftCache κ ν :=
  { cache with slots := [] }

/-- Start counting anew. -/
def resetStatistics (cache : SoftCache κ ν) : SoftCache κ ν :=
  { cache with statistics := CacheStatistics.zero }

/-- A short description of the cache, for people. -/
def describe (cache : SoftCache κ ν) : String :=
  let lifetime :=
    match cache.timeToLive with
    | some nanoseconds => s!"Some({durationText nanoseconds})"
    | none => "None"
  s!"SoftCache \x7b len: {cache.size}, capacity: {cache.capacity}, ttl: {lifetime} \x7d"

end SoftCache
end Keyspace
