import Keyspace.Collation.ComparatorCache
import Keyspace.Row.Row

/-!
# Row comparators

A row comparator orders rows by some of their columns, texts by the collation
of their column and all else by natural order.  A value that a short row lacks
counts as absent.
-/

namespace Keyspace

/-- A compared column. -/
structure ComparedColumn where
  /-- The position in the row. -/
  position : Nat
  /-- What compares the texts of the column, if it has a collation. -/
  collator : Option Collator
  deriving DecidableEq, Repr

/-- The compared columns, the most significant first. -/
structure RowComparator where
  /-- The columns. -/
  columns : List ComparedColumn
  deriving DecidableEq, Repr

namespace ComparedColumn

/-- The order of two values of the column. -/
def compareValues (column : ComparedColumn) (left right : Value) : Ordering :=
  match left, right, column.collator with
  | .string leftText, .string rightText, some collator => collator.compare leftText rightText
  | _, _, _ => left.compareNatural right

/-- The order of two rows by the column alone. -/
def compare (column : ComparedColumn) (left right : Row) : Ordering :=
  column.compareValues (left.valueOrNull column.position) (right.valueOrNull column.position)

end ComparedColumn

namespace RowComparator

/-- The scheme that a column's texts compare by: only columns of text types
have one. -/
def schemeOf? (column : Column) : Option String :=
  if column.dataType.isString then column.collation else none

/-- The compared column at a position, with its collator from a cache. -/
def columnAt (cache : ComparatorCache) (rowType : RowType) (position now : Nat) :
    Except Error ComparedColumn × ComparatorCache :=
  match rowType.columns[position]? with
  | none =>
      (.error (.invalidArgument
        s!"row type {rowType.tableName.text} has no column {position}"), cache)
  | some column =>
      match schemeOf? column with
      | none => (.ok ⟨position, none⟩, cache)
      | some scheme =>
          let (collator, used) := cache.get scheme now
          (collator.map fun found => ⟨position, some found⟩, used)

/-- The compared columns at positions, up to the first failure. -/
def columnsAt (rowType : RowType) (now : Nat) :
    ComparatorCache -> List Nat -> Except Error (List ComparedColumn) × ComparatorCache
  | cache, [] => (.ok [], cache)
  | cache, position :: rest =>
      match columnAt cache rowType position now with
      | (.error error, used) => (.error error, used)
      | (.ok column, used) =>
          let (others, last) := columnsAt rowType now used rest
          (others.map fun found => column :: found, last)

/-- A comparator of the columns at positions. -/
def make (cache : ComparatorCache) (rowType : RowType) (positions : List Nat) (now : Nat) :
    Except Error RowComparator × ComparatorCache :=
  let (columns, used) := columnsAt rowType now cache positions
  (columns.map RowComparator.mk, used)

/-- The order of two rows: that of the first column in which they differ. -/
def compare (comparator : RowComparator) (left right : Row) : Ordering :=
  comparator.columns.foldr (fun column rest => (column.compare left right).then rest) .eq

end RowComparator
end Keyspace
