import Keyspace.HKey
import Keyspace.Spatial.SpatialIndex
import Keyspace.Store.Range

/-!
# Where rows and index entries live

All rows of a group share a start, and so do all entries of an index.  Behind
it stands the encoded key of the row, or the key fields of the entry.  What
lies below a row starts with the row's key, and no byte behind it is as large
as the one that ends the subtree.
-/

namespace Keyspace
namespace KeyLayout

/-- The first byte of all row keys. -/
def groupSubspace : UInt8 := 0x10

/-- The first byte of all index keys. -/
def indexSubspace : UInt8 := 0x11

/-- The common start of a numbered part of a subspace. -/
def numberedStart (subspace : UInt8) (id : UInt32) : Bytes :=
  subspace :: Element.packInteger id.toNat

/-- The common start of the rows of a group. -/
def groupStart (id : UInt32) : Bytes :=
  numberedStart groupSubspace id

/-- The common start of the entries of an index. -/
def indexStart (id : UInt32) : Bytes :=
  numberedStart indexSubspace id

/-- The key of a row of a group. -/
def rowKey (group : Group) (hkey : HKey) : Except Error Bytes := do
  return groupStart group.id ++ (← hkey.encode)

/-- A key above a row and all below it. -/
def subtreeEnd (key : Bytes) : Bytes :=
  key ++ [0xFF]

/-- The range of all rows of a group. -/
def groupRange (group : Group) : Except Error KeyRange :=
  KeyRange.ofStart (groupStart group.id)

/-- The range of a row and of all below it. -/
def subtreeRange (group : Group) (hkey : HKey) : Except Error KeyRange := do
  let key ← rowKey group hkey
  return KeyRange.halfOpen key (subtreeEnd key)

/-- The key fields of an index entry for a row: those of the spatial index if
one is given, and the elements of the key columns otherwise. -/
def indexFields (index : Index) (spatial : Option SpatialIndex) (row : Row) :
    Except Error Bytes :=
  match spatial with
  | some handler => do
      let parts ← (List.range index.keyColumns.length).mapM (handler.keyField row)
      return parts.flatten
  | none =>
      if index.spatial.isSome then
        .error (.invalidArgument s!"spatial index '{index.name}' needs its handler")
      else do
        let parts ← index.keyColumns.mapM fun position => do
          let element ← (row.valueOrNull position).toElement
          element.pack
        return parts.flatten

end KeyLayout
end Keyspace
