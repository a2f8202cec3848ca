/-!
# Machine words

Counts and positions are words of a fixed width.  A sum or a difference that is
outside their range keeps its low bits, and a shift by the width of a word or more
takes the low bits of its distance.
-/

namespace Keyspace

namespace Words

/-- A number stands for the word of its low bits where a word of 32 bits is asked
for. -/
instance lowBits32 : Coe Nat UInt32 := ⟨UInt32.ofNat⟩

/-- A number stands for the word of its low bits where a word of 64 bits is asked
for. -/
instance lowBits64 : Coe Nat UInt64 := ⟨UInt64.ofNat⟩

/-- The numbers that words stand for. -/
def numbers (words : List UInt32) : List Nat :=
  words.map UInt32.toNat

/-- The sum of words, itself a word. -/
def total (words : List UInt32) : UInt32 :=
  words.foldl (· + ·) 0

end Words
end Keyspace
