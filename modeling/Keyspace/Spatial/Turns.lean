import Keyspace.Words

/-!
# Interleaving by turns

Where no interleave is given the dimensions take turns.  In passes over them, each
gives a bit if it has one left, until as many bits are given as there are in all.
Nothing in the passes bounds their number; that they end has to be seen from the
bits that are left.
-/

namespace Keyspace
namespace Space

/-- Dimensions by falling bits, equal ones in their own order. -/
def byFallingBits (bits : List Nat) : List Nat :=
  let indexed := bits.zipIdx
  (indexed.mergeSort fun left right => decide (right.1 ≤ left.1)).map Prod.snd

/-- What is given and what is left in the course of the passes. -/
structure Turns where
  /-- The bits that each dimension has left. -/
  remaining : List Nat
  /-- The dimensions in the order in which they gave their bits so far. -/
  pattern : List Nat
  deriving DecidableEq, Repr

namespace Turns

/-- Before the first pass all bits are left. -/
def start (bits : List Nat) : Turns :=
  ⟨bits, []⟩

/-- The turn of a dimension: it gives a bit if it has one left. -/
def turn (turns : Turns) (dimension : Nat) : Turns :=
  let left := turns.remaining[dimension]?.getD 0
  if 0 < left then
    ⟨turns.remaining.set dimension (left - 1), turns.pattern ++ [dimension]⟩
  else turns

/-- One pass: every dimension has its turn. -/
def pass (turns : Turns) (order : List Nat) : Turns :=
  order.foldl turn turns

/-- Passes until a number of bits are given; none if that never happens, which is so
once a pass gives no bit. -/
def passUntil (order : List Nat) (total : Nat) (turns : Turns) : Option (List Nat) :=
  if turns.pattern.length < total then
    if turns.pattern.length < (turns.pass order).pattern.length then
      passUntil order total (turns.pass order)
    else none
  else some turns.pattern
termination_by total - turns.pattern.length

end Turns

/-- The interleave that the turns give until as many bits are given as the bits of
all dimensions add up to. -/
def interleaveByTurns (bits : List UInt32) : Option (List Nat) :=
  let counts := Words.numbers bits
  Turns.passUntil (byFallingBits counts) (Words.total bits).toNat (.start counts)

/-- The interleave in use where none is given. -/
def defaultInterleave (bits : List UInt32) : List Nat :=
  (interleaveByTurns bits).getD []

end Space
end Keyspace
