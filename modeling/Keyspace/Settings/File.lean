import Keyspace.Settings.Settings
import Keyspace.Toml.Document

/-!
# Settings files

Settings are written as a table for each of their parts, and read back from
any document that has such tables.  What a document does not name keeps its
standard value, and what it names beyond is passed over.  A part may also be
written as an array of its fields in order.
-/

namespace Keyspace

/-- Why settings cannot be read. -/
inductive SettingsFault where
  /-- The text is no document, or a field has a value of the wrong kind. -/
  | malformed
  /-- The settings are refused. -/
  | refused (error : Error)
  deriving DecidableEq, Repr

namespace Settings

/-! ## Writing -/

/-- The text of a field with a whole number; documents have signed numbers of
64 bits. -/
def numberLine? (name : String) (number : Nat) : Option String :=
  if number < 0x8000000000000000 then some s!"{name} = {number}\n" else none

/-- The text of a settings file. -/
def text? (settings : Settings) : Option String := do
  let quote := (Char.ofNat 0x22).toString
  let capacity ← numberLine? "cache_capacity" settings.collation.cacheCapacity.toNat
  let lifetime ← numberLine? "handle_ttl_secs" settings.collation.lifetimeSeconds.toNat
  let batch ← numberLine? "batch_size" settings.scan.batchSize.toNat
  let latitude ← numberLine? "latitude_bits" settings.spatial.latitudeBits.toNat
  let longitude ← numberLine? "longitude_bits" settings.spatial.longitudeBits.toNat
  let mode := s!"mode = {quote}{settings.collation.mode.text}{quote}\n"
  return "[collation]\n" ++ mode ++ capacity ++ lifetime ++ "\n[scan]\n" ++ batch
    ++ "\n[spatial]\n" ++ latitude ++ longitude

/-! ## Reading -/

/-- The values of named fields of a part: by name, or by place.  A date or time
has none of them. -/
def fields? (names : List String) : Toml.Value -> Option (List (Option Toml.Value))
  | .table _ entries => some (names.map fun name => entries.lookup name)
  | .array items => some ((List.range names.length).map fun place => items[place]?)
  | .tables elements =>
      some ((List.range names.length).map fun place =>
        elements[place]?.map (Toml.Value.table .header))
  | .moment _ => some (names.map fun _ => none)
  | _ => none

/-- A whole number below a bound, or a standard one where there is none. -/
def number? (bound standard : Nat) : Option Toml.Value -> Option Nat
  | none => some standard
  | some (.integer number) =>
      if 0 ≤ number ∧ number < bound then some number.toNat else none
  | some _ => none

/-- Whether a value holds nothing. -/
def isEmptyValue : Toml.Value -> Bool
  | .table _ entries => entries.isEmpty
  | .array items => items.isEmpty
  | .tables elements => elements.isEmpty
  | _ => false

/-- The mode that a value names: a text, or a table whose only key is the
mode's name. -/
def mode? : Option Toml.Value -> Option CollationMode
  | none => some CollationSettings.standard.mode
  | some (.string name) => CollationMode.ofName? name
  | some (.table _ [(name, content)]) =>
      if isEmptyValue content then CollationMode.ofName? name else none
  | some _ => none

/-- The settings of collation that a part writes. -/
def collation? : Option Toml.Value -> Option CollationSettings
  | none => some CollationSettings.standard
  | some part => do
      let standard := CollationSettings.standard
      match ← fields? ["mode", "cache_capacity", "handle_ttl_secs"] part with
      | [mode, capacity, lifetime] =>
          let mode ← mode? mode
          let capacity ← number? 0x10000000000000000 standard.cacheCapacity.toNat capacity
          let lifetime ← number? 0x10000000000000000 standard.lifetimeSeconds.toNat lifetime
          return ⟨mode, UInt64.ofNat capacity, UInt64.ofNat lifetime⟩
      | _ => none

/-- The settings of scans that a part writes. -/
def scan? : Option Toml.Value -> Option ScanSettings
  | none => some ScanSettings.standard
  | some part => do
      match ← fields? ["batch_size"] part with
      | [batch] =>
          let batch ← number? 0x10000000000000000 ScanSettings.standard.batchSize.toNat batch
          return ⟨UInt64.ofNat batch⟩
      | _ => none

/-- The settings of coordinates that a part writes. -/
def spatial? : Option Toml.Value -> Option SpatialSettings
  | none => some SpatialSettings.standard
  | some part => do
      let standard := SpatialSettings.standard
      match ← fields? ["latitude_bits", "longitude_bits"] part with
      | [latitude, longitude] =>
          let latitude ← number? 0x100000000 standard.latitudeBits.toNat latitude
          let longitude ← number? 0x100000000 standard.longitudeBits.toNat longitude
          return ⟨UInt32.ofNat latitude, UInt32.ofNat longitude⟩
      | _ => none

/-- The settings that a text writes, whether or not they can be used. -/
def ofText? (text : String) : Option Settings := do
  let entries ← Toml.Document.entries? text
  let collation ← collation? (entries.lookup "collation")
  let scan ← scan? (entries.lookup "scan")
  let spatial ← spatial? (entries.lookup "spatial")
  return ⟨collation, scan, spatial⟩

/-- The usable settings that a text writes. -/
def load (text : String) : Except SettingsFault Settings :=
  match ofText? text with
  | none => .error .malformed
  | some settings =>
      match settings.validate with
      | .error error => .error (.refused error)
      | .ok () => .ok settings

end Settings
end Keyspace
