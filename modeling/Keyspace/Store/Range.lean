import Keyspace.Bytes
import Keyspace.Error

/-!
# Key ranges

A range of keys has a lower and an upper bound, each including its key,
excluding it or missing.  The keys with a common start form such a range: it
ends before the least key above all of them.
-/

namespace Keyspace

/-- One end of a range. -/
inductive Bound where
  /-- The key itself belongs to the range. -/
  | included (key : Bytes)
  /-- The key itself does not. -/
  | excluded (key : Bytes)
  /-- There is no limit. -/
  | unbounded
  deriving DecidableEq, Repr

/-- A range of keys. -/
structure KeyRange where
  /-- The lower end. -/
  start : Bound
  /-- The upper end. -/
  finish : Bound
  deriving DecidableEq, Repr

namespace Bound

/-- Whether a lower bound admits a key. -/
def admitsAbove : Bound -> Bytes -> Bool
  | included bound, key => Bytes.compare key bound != .lt
  | excluded bound, key => Bytes.compare key bound == .gt
  | unbounded, _ => true

/-- Whether an upper bound admits a key. -/
def admitsBelow : Bound -> Bytes -> Bool
  | included bound, key => Bytes.compare key bound != .gt
  | excluded bound, key => Bytes.compare key bound == .lt
  | unbounded, _ => true

/-- Whether nothing lies between a lower and an upper bound. -/
def crosses : Bound -> Bound -> Bool
  | included lower, included upper => Bytes.compare lower upper == .gt
  | included lower, excluded upper => Bytes.compare lower upper != .lt
  | excluded lower, included upper => Bytes.compare lower upper != .lt
  | excluded lower, excluded upper => Bytes.compare lower upper != .lt
  | _, _ => false

end Bound

namespace KeyRange

/-- The range of all keys. -/
def all : KeyRange := ⟨.unbounded, .unbounded⟩

/-- The keys from a first one on, before another. -/
def halfOpen (first beyond : Bytes) : KeyRange :=
  ⟨.included first, .excluded beyond⟩

/-- The keys from a first one on, before another, where both may be
missing. -/
def between (first beyond : Option Bytes) : KeyRange :=
  ⟨first.elim .unbounded .included, beyond.elim .unbounded .excluded⟩

/-- The least key above all keys that start with a given one. -/
def successor (start : Bytes) : Except Error Bytes :=
  match Bytes.successor? start with
  | some next => .ok next
  | none =>
      .error (.invalidArgument s!"key 0x{Bytes.toHex start} has no successor prefix")

/-- The keys that start with a given one. -/
def ofStart (start : Bytes) : Except Error KeyRange := do
  return halfOpen start (← successor start)

/-- Whether a key belongs to the range. -/
def contains (range : KeyRange) (key : Bytes) : Bool :=
  range.start.admitsAbove key && range.finish.admitsBelow key

/-- Whether the bounds leave no room, so that the range has no keys. -/
def isEmpty (range : KeyRange) : Bool :=
  range.start.crosses range.finish

/-- Whether a range runs upward: its lower bound is not above its upper one,
and they do not both exclude one key. -/
def Upward : KeyRange -> Prop
  | ⟨.included lower, .included upper⟩ => Bytes.compare lower upper ≠ .gt
  | ⟨.included lower, .excluded upper⟩ => Bytes.compare lower upper ≠ .gt
  | ⟨.excluded lower, .included upper⟩ => Bytes.compare lower upper ≠ .gt
  | ⟨.excluded lower, .excluded upper⟩ => Bytes.compare lower upper = .lt
  | _ => True

theorem upward_of_isEmpty_eq_false
    {range : KeyRange}
    (nonempty : range.isEmpty = false) :
    range.Upward := by
  obtain ⟨start, finish⟩ := range
  cases start <;> cases finish <;> simp_all [isEmpty, Bound.crosses, Upward]

end KeyRange
end Keyspace
