/-!
# Scan usage

Cursors count what they do: opened scans, steps of scans and delivered rows.
Several cursors may count together.
-/

namespace Keyspace

/-- What cursors did. -/
structure ScanUsage where
  /-- Steps of scans, also those that found nothing. -/
  traversals : Nat
  /-- Opened scans. -/
  opens : Nat
  /-- Delivered rows. -/
  rows : Nat
  deriving DecidableEq, Repr

namespace ScanUsage

/-- Nothing done yet. -/
def zero : ScanUsage := ⟨0, 0, 0⟩

/-- Count a step of a scan. -/
def traversal (usage : ScanUsage) : ScanUsage :=
  { usage with traversals := usage.traversals + 1 }

/-- Count an opened scan. -/
def opening (usage : ScanUsage) : ScanUsage :=
  { usage with opens := usage.opens + 1 }

/-- Count a delivered row. -/
def row (usage : ScanUsage) : ScanUsage :=
  { usage with rows := usage.rows + 1 }

/-- The text of the counts, for people. -/
def text (usage : ScanUsage) : String :=
  s!"ScanStats \x7b traversals: {usage.traversals}, opens: {usage.opens}, "
    ++ s!"rows: {usage.rows} \x7d"

end ScanUsage
end Keyspace
