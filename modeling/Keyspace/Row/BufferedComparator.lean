import Keyspace.Row.Comparator

/-!
# Comparators with buffers

A comparator that sorts rows keeps two buffers for every compared column.  They
hold the sort keys of the two texts that the column compared last, and are
emptied before other keys are written to them.
-/

namespace Keyspace

/-- The buffers that a collator writes sort keys to. -/
structure KeyBuffers where
  /-- The key of the left text. -/
  left : Bytes
  /-- The key of the right text. -/
  right : Bytes
  deriving DecidableEq, Repr

/-- Buffers that nothing was written to. -/
def KeyBuffers.empty : KeyBuffers := ⟨[], []⟩

/-- A buffer with the sort key of a text, which replaces what it held. -/
def Recipe.writeSortKey (recipe : Recipe) (text : String) (buffer : Bytes) : Bytes :=
  buffer.take 0 ++ recipe.sortKey text

/-- The order of two texts, and the buffers after it.  Bytewise comparison reads
the texts themselves. -/
def Collator.compareIn
    (collator : Collator)
    (buffers : KeyBuffers)
    (left right : String) : Ordering × KeyBuffers :=
  if collator.isBinary then (Utf8.compare left right, buffers)
  else
    let recipe := collator.shared.recipe
    let written : KeyBuffers :=
      ⟨recipe.writeSortKey left buffers.left, recipe.writeSortKey right buffers.right⟩
    (Bytes.compare written.left written.right, written)

/-- A compared column with its buffers. -/
structure BufferedColumn where
  /-- The column. -/
  column : ComparedColumn
  /-- What its collator wrote last. -/
  buffers : KeyBuffers
  deriving DecidableEq, Repr

namespace BufferedColumn

/-- The order of two rows by the column alone, and the column after it. -/
def compare (buffered : BufferedColumn) (left right : Row) : Ordering × BufferedColumn :=
  let position := buffered.column.position
  match left.valueOrNull position, right.valueOrNull position, buffered.column.collator with
  | .string leftText, .string rightText, some collator =>
      let (order, written) := collator.compareIn buffered.buffers leftText rightText
      (order, { buffered with buffers := written })
  | leftValue, rightValue, _ => (leftValue.compareNatural rightValue, buffered)

end BufferedColumn

/-- The compared columns with their buffers, the most significant first. -/
structure BufferedComparator where
  /-- The columns. -/
  columns : List BufferedColumn
  deriving DecidableEq, Repr

namespace BufferedComparator

/-- A comparator that compared nothing yet. -/
def start (comparator : RowComparator) : BufferedComparator :=
  ⟨comparator.columns.map fun column => ⟨column, KeyBuffers.empty⟩⟩

/-- The order of two rows by columns, and the columns after it.  The columns
behind the first difference compare nothing. -/
def compareColumns :
    List BufferedColumn -> Row -> Row -> Ordering × List BufferedColumn
  | [], _, _ => (.eq, [])
  | column :: rest, left, right =>
      match column.compare left right with
      | (.eq, used) =>
          let (order, others) := compareColumns rest left right
          (order, used :: others)
      | (order, used) => (order, used :: rest)

/-- The order of two rows, and the comparator after it. -/
def compare
    (comparator : BufferedComparator)
    (left right : Row) : Ordering × BufferedComparator :=
  let (order, columns) := compareColumns comparator.columns left right
  (order, ⟨columns⟩)

/-- The orders of pairs of rows, compared one by one, and the comparator after
them. -/
def compareAll :
    BufferedComparator -> List (Row × Row) -> List Ordering × BufferedComparator
  | comparator, [] => ([], comparator)
  | comparator, (left, right) :: rest =>
      let (order, used) := comparator.compare left right
      let (orders, last) := used.compareAll rest
      (order :: orders, last)

end BufferedComparator
end Keyspace
