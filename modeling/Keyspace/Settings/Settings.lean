import Keyspace.Collation.ComparatorCache
import Keyspace.Spatial.Space
import Keyspace.Store.Scan

/-!
# Settings

Settings name the collation mode with the limits of its cache, the batch size
of scans and the bits of coordinates.
-/

namespace Keyspace

/-- Settings of collation. -/
structure CollationSettings where
  /-- How scheme names are taken. -/
  mode : CollationMode
  /-- How many recipes are kept. -/
  cacheCapacity : UInt64
  /-- How many seconds a recipe lives untouched; zero for ever. -/
  lifetimeSeconds : UInt64
  deriving DecidableEq, Repr

/-- Settings of scans. -/
structure ScanSettings where
  /-- How many entries a batch has at most. -/
  batchSize : UInt64
  deriving DecidableEq, Repr

/-- Settings of coordinates. -/
structure SpatialSettings where
  /-- The bits of the latitude. -/
  latitudeBits : UInt32
  /-- The bits of the longitude. -/
  longitudeBits : UInt32
  deriving DecidableEq, Repr

/-- All settings. -/
structure Settings where
  /-- Settings of collation. -/
  collation : CollationSettings
  /-- Settings of scans. -/
  scan : ScanSettings
  /-- Settings of coordinates. -/
  spatial : SpatialSettings
  deriving DecidableEq, Repr

namespace CollationSettings

/-- The settings in use where none are given. -/
def standard : CollationSettings := ⟨.strict, 64, 300⟩

/-- How many seconds a recipe lives untouched; for ever if absent. -/
def lifetime? (settings : CollationSettings) : Option Nat :=
  if settings.lifetimeSeconds = 0 then none else some settings.lifetimeSeconds.toNat

/-- The limits of the cache. -/
def limits (settings : CollationSettings) : CacheLimits :=
  ⟨settings.cacheCapacity.toNat, settings.lifetime?.map fun seconds => seconds * 1000000000⟩

/-- An empty comparator cache. -/
def comparatorCache (settings : CollationSettings) : ComparatorCache :=
  ComparatorCache.empty settings.mode settings.limits

end CollationSettings

namespace ScanSettings

/-- The settings in use where none are given. -/
def standard : ScanSettings := ⟨UInt64.ofNat RangeScan.defaultBatchSize⟩

end ScanSettings

namespace SpatialSettings

/-- The settings in use where none are given. -/
def standard : SpatialSettings :=
  ⟨Space.latitudeBits, Space.longitudeBits⟩

/-- The bits of both coordinates. -/
def totalBits (settings : SpatialSettings) : UInt32 :=
  settings.latitudeBits + settings.longitudeBits

/-- The space of latitude and longitude. -/
def space (settings : SpatialSettings) : Except Error Space :=
  Space.latLonWithBits settings.latitudeBits settings.longitudeBits

end SpatialSettings

namespace Settings

/-- The settings in use where none are given. -/
def standard : Settings :=
  ⟨CollationSettings.standard, ScanSettings.standard, SpatialSettings.standard⟩

/-- Settings with a small cache and small batches, which soon run over. -/
def small : Settings :=
  { standard with
    collation := { CollationSettings.standard with cacheCapacity := 8 }
    scan := ⟨4⟩ }

/-- Refuse settings that nothing can be done with. -/
def validate (settings : Settings) : Except Error Unit :=
  let spatial := settings.spatial
  if settings.collation.cacheCapacity = 0 then
    .error (.invalidConfig "collation.cache_capacity must be at least 1")
  else if settings.scan.batchSize = 0 then
    .error (.invalidConfig "scan.batch_size must be at least 1")
  else if spatial.latitudeBits = 0 ∨ spatial.longitudeBits = 0 then
    .error (.invalidConfig "spatial bit budgets must be non-zero")
  else if Space.maxBits < spatial.totalBits then
    .error (.invalidConfig (s!"spatial bit budgets sum to {spatial.totalBits}, "
      ++ s!"maximum is {Space.maxBits}"))
  else .ok ()

end Settings
end Keyspace
