import Keyspace.Number.Shortest

/-!
# Cache statistics

A cache counts its reads, by outcome, and what enters and leaves it.  Every
read is a hit or a miss.
-/

namespace Keyspace

/-- How a cache was used. -/
structure CacheStatistics where
  /-- Reads. -/
  accesses : Nat
  /-- Reads that found a value. -/
  hits : Nat
  /-- Reads that found none. -/
  misses : Nat
  /-- Values put in. -/
  inserts : Nat
  /-- Values dropped for want of room. -/
  evictions : Nat
  /-- Values dropped for their age. -/
  expirations : Nat
  deriving DecidableEq, Repr

namespace CacheStatistics

/-- The statistics of a cache that was never used. -/
def zero : CacheStatistics := ⟨0, 0, 0, 0, 0, 0⟩

/-- Count a read that found a value. -/
def hit (statistics : CacheStatistics) : CacheStatistics :=
  { statistics with accesses := statistics.accesses + 1, hits := statistics.hits + 1 }

/-- Count a read that found none. -/
def miss (statistics : CacheStatistics) : CacheStatistics :=
  { statistics with accesses := statistics.accesses + 1, misses := statistics.misses + 1 }

/-- Count a value put in. -/
def insertion (statistics : CacheStatistics) : CacheStatistics :=
  { statistics with inserts := statistics.inserts + 1 }

/-- Count values dropped for want of room. -/
def evict (statistics : CacheStatistics) (count : Nat) : CacheStatistics :=
  { statistics with evictions := statistics.evictions + count }

/-- Count values dropped for their age. -/
def expire (statistics : CacheStatistics) (count : Nat) : CacheStatistics :=
  { statistics with expirations := statistics.expirations + count }

/-- The share of reads that found a value; zero before the first read. -/
def hitRatio (statistics : CacheStatistics) : Double :=
  if statistics.accesses = 0 then Double.ofNat 0
  else Double.ofRatio statistics.hits statistics.accesses

/-- The hit ratio in percent. -/
def hitPercentage (statistics : CacheStatistics) : Double :=
  Double.ofFloat (statistics.hitRatio.toFloat * (Double.ofNat 100).toFloat)

/-- The text of the statistics, for people. -/
def text (statistics : CacheStatistics) : String :=
  let percentage := statistics.hitPercentage.fixedText 2
  s!"CacheStats \x7b accesses: {statistics.accesses}, hits: {statistics.hits}, "
    ++ s!"misses: {statistics.misses}, hit_ratio: {percentage}%, "
    ++ s!"inserts: {statistics.inserts}, evictions: {statistics.evictions}, "
    ++ s!"expirations: {statistics.expirations} \x7d"

end CacheStatistics
end Keyspace
