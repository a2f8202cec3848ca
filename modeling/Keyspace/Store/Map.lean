import Std.Data.ExtTreeMap
import Keyspace.Store.Range

/-!
# Ordered stores

A store maps keys to values and keeps its entries in the order of the keys.
A slice of a store is what it holds of an upward range.
-/

namespace Keyspace

/-- A key with its value. -/
structure Entry where
  /-- The key. -/
  key : Bytes
  /-- The value. -/
  value : Bytes
  deriving DecidableEq, Repr

/-- Entries whose keys rise strictly. -/
def Ascending (entries : List Entry) : Prop :=
  entries.Pairwise fun first second => Bytes.Precedes first.key second.key

/-- A finite map from keys to values, in the bytewise order of the keys. -/
structure Store where
  /-- The values of the keys. -/
  values : Std.ExtTreeMap Bytes Bytes Bytes.compare

namespace Store

/-- The longest key that is taken. -/
def maxKeySize : Nat := 10 * 1024

/-- The longest value that is taken. -/
def maxValueSize : Nat := 100 * 1024

/-- The store without entries. -/
def empty : Store := ⟨∅⟩

/-- The value of a key. -/
def get? (store : Store) (key : Bytes) : Option Bytes :=
  store.values[key]?

/-- The entries, by rising keys. -/
def entries (store : Store) : List Entry :=
  store.values.toList.map fun pair => ⟨pair.1, pair.2⟩

theorem ascending_entries (store : Store) : Ascending store.entries :=
  List.pairwise_map.mpr Std.ExtTreeMap.ordered_keys_toList

/-- An entry is in the store exactly if its key has its value. -/
theorem mem_entries
    {store : Store}
    {entry : Entry} :
    entry ∈ store.entries ↔ store.get? entry.key = some entry.value := by
  rw [get?, ← Std.ExtTreeMap.mem_toList_iff_getElem?_eq_some, entries, List.mem_map]
  constructor
  · rintro ⟨pair, present, rfl⟩
    exact present
  · intro present
    exact ⟨(entry.key, entry.value), present, rfl⟩

/-! ## Operations -/

/-- Give a key a value. -/
def insert (store : Store) (key value : Bytes) : Store :=
  ⟨store.values.insert key value⟩

/-- Take a key out. -/
def erase (store : Store) (key : Bytes) : Store :=
  ⟨store.values.erase key⟩

@[simp] theorem get?_empty
    (key : Bytes) :
    empty.get? key = none :=
  Std.ExtTreeMap.getElem?_empty

theorem get?_insert
    (store : Store)
    (key value other : Bytes) :
    (store.insert key value).get? other =
      if key = other then some value else store.get? other := by
  rw [get?, insert, Std.ExtTreeMap.getElem?_insert]
  simp only [Std.LawfulEqCmp.compare_eq_iff_eq]
  rfl

theorem get?_erase
    (store : Store)
    (key other : Bytes) :
    (store.erase key).get? other = if key = other then none else store.get? other := by
  rw [get?, erase, Std.ExtTreeMap.getElem?_erase]
  simp only [Std.LawfulEqCmp.compare_eq_iff_eq]
  rfl

/-- Give a key a value if both are of an admissible size. -/
def put (store : Store) (key value : Bytes) : Except Error Store :=
  if maxKeySize < key.length then .error (.keyTooLarge key.length maxKeySize)
  else if maxValueSize < value.length then
    .error (.valueTooLarge value.length maxValueSize)
  else .ok (store.insert key value)

/-- How many keys the store has. -/
def size (store : Store) : Nat :=
  store.values.size

/-- What the store holds of an upward range. -/
def slice (store : Store) (range : KeyRange) (_ : range.Upward) : List Entry :=
  store.entries.filter fun entry => range.contains entry.key

/-- What the store holds of a range.  A range without room is not looked
up. -/
def within (store : Store) (range : KeyRange) : List Entry :=
  if nonempty : range.isEmpty = false then
    store.slice range (KeyRange.upward_of_isEmpty_eq_false nonempty)
  else []

/-- Take the keys of a range out. -/
def eraseWithin (store : Store) (range : KeyRange) : Store :=
  (store.within range).foldl (fun left entry => left.erase entry.key) store

end Store
end Keyspace
