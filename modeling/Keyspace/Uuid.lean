import Keyspace.Bytes

/-!
# Universally unique identifiers

Sixteen bytes, compared bytewise and written with hyphens.
-/

namespace Keyspace

/-- An identifier of sixteen bytes. -/
structure Uuid where
  /-- The bytes, as they are stored. -/
  bytes : Bytes
  length_bytes : bytes.length = 16
  deriving DecidableEq

namespace Uuid

/-- The identifier of sixteen bytes. -/
def ofBytes? (bytes : Bytes) : Option Uuid :=
  if sixteen : bytes.length = 16 then some ⟨bytes, sixteen⟩ else none

/-- The bytewise order. -/
def compare (left right : Uuid) : Ordering :=
  Bytes.compare left.bytes right.bytes

/-- The text in groups of 4, 2, 2, 2 and 6 bytes. -/
def text (uuid : Uuid) : String :=
  let group (start size : Nat) := Bytes.toHex ((uuid.bytes.drop start).take size)
  String.intercalate "-" [group 0 4, group 4 2, group 6 2, group 8 2, group 10 6]

end Uuid
end Keyspace
