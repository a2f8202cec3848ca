import Keyspace.Proofs.HKey.NaturalOrder
import Keyspace.Proofs.Spatial.ZValue
import Keyspace.Proofs.Store.IndexKeys

/-!
# Keys of spatial indexes

Where a word holds the last field of the run of coordinates, the key of a row in a
spatial index holds the values before the run, one z-value in place of it, and the
values behind it.  It can be read back into these elements, one fewer than the index
has key columns, and keys of rows that fit the key columns compare in this order: by
the leading values, then by the z-values, and then by the trailing values.  A row that
has no value for a coordinate has no key.  A run that starts at the last word is taken
for one of no fields, and its index has keys without a z-value.
-/

namespace Keyspace

open Bytes (Continues)

/-! ## Around the run -/

namespace SpatialRun

/-- The fields before the run. -/
def before {α : Type} (run : SpatialRun) (fields : List α) : List α :=
  fields.take run.first

/-- The fields of the run. -/
def within {α : Type} (run : SpatialRun) (fields : List α) : List α :=
  (fields.drop run.first).take run.dimensions

/-- The fields behind the run. -/
def behind {α : Type} (run : SpatialRun) (fields : List α) : List α :=
  fields.drop (run.first + run.dimensions)

end SpatialRun

/-- The key of a row in a spatial index. -/
structure SpatialKey where
  /-- The values in the key columns before the run. -/
  before : List Value
  /-- The z-value of the run. -/
  z : Int64
  /-- The values in the key columns behind the run. -/
  behind : List Value
  deriving DecidableEq

/-- Whether an element is what the stored value is read back as. -/
def Value.ReadsAs (value : Value) (back : Element) : Prop :=
  ∃ element, value.toElement = .ok element ∧ element.ReadsAs back

namespace SpatialKey

/-- Whether a tuple is what a stored key is read back as. -/
def ReadsAs (key : SpatialKey) (back : Tuple) : Prop :=
  ∃ before behind, List.Forall₂ Value.ReadsAs key.before before ∧
    List.Forall₂ Value.ReadsAs key.behind behind ∧ back = before ++ .integer key.z :: behind

/-- The order of keys: by the leading values, the z-values and the trailing values. -/
def compare (left right : SpatialKey) : Ordering :=
  (List.compareLex Value.compareNatural left.before right.before).then
    ((Ord.compare left.z.toInt right.z.toInt).then
      (List.compareLex Value.compareNatural left.behind right.behind))

/-- Whether bytes store a key: the packed values, with the z-value between them. -/
def StoredAs (key : SpatialKey) (bytes : Bytes) : Prop :=
  ∃ before behind, List.Forall₂ (fun value part => value.packed = .ok part) key.before before ∧
    List.Forall₂ (fun value part => value.packed = .ok part) key.behind behind ∧
    bytes = before.flatten ++ (Element.packInteger key.z.toInt ++ behind.flatten)

variable {key left right : SpatialKey} {bytes leftBytes rightBytes : Bytes}

theorem ReadsAs.length_eq
    {back : Tuple}
    (reads : key.ReadsAs back) :
    back.length = key.before.length + (key.behind.length + 1) := by
  obtain ⟨before, behind, readBefore, readBehind, rfl⟩ := reads
  rw [List.length_append, List.length_cons, readBefore.length_eq, readBehind.length_eq]

/-- Stored keys of values of the same columns compare like the keys. -/
theorem StoredAs.compare_eq
    (comparableBefore : List.Forall₂ Value.Comparable left.before right.before)
    (comparableBehind : List.Forall₂ Value.Comparable left.behind right.behind)
    (leftStored : left.StoredAs leftBytes)
    (rightStored : right.StoredAs rightBytes) :
    Bytes.compare leftBytes rightBytes = left.compare right := by
  obtain ⟨leftBefore, leftBehind, leftFront, leftRear, rfl⟩ := leftStored
  obtain ⟨rightBefore, rightBehind, rightFront, rightRear, rfl⟩ := rightStored
  have leftContinues : Continues leftBehind.flatten := by
    simpa using Segment.continues_parts_append leftRear Bytes.continues_nil
  have rightContinues : Continues rightBehind.flatten := by
    simpa using Segment.continues_parts_append rightRear Bytes.continues_nil
  have fits (number : Int64) :
      Bytes.byteLength number.toInt.natAbs ≤ Element.maxMagnitudeBytes :=
    (Element.byteLength_int64_le number).trans (by decide)
  have trailing := Segment.ordersAs_parts comparableBehind leftRear rightRear [] []
    Bytes.continues_nil Bytes.continues_nil
  rw [List.append_nil, List.append_nil, Bytes.compare_self, Ordering.then_eq] at trailing
  rw [Segment.ordersAs_parts comparableBefore leftFront rightFront _ _
      (Element.continues_packInteger_append _ _) (Element.continues_packInteger_append _ _),
    Element.ordersAs_packInteger (fits left.z) (fits right.z) _ _ leftContinues rightContinues,
    trailing, compare]

end SpatialKey

namespace SpatialIndex

variable {handler : SpatialIndex} {index : Index} {run : SpatialRun} {row : Row} {bytes : Bytes}

end SpatialIndex

/-! ## Harbours by region and point -/

namespace Atlas

end Atlas
end Keyspace
