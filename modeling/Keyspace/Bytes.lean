import Keyspace.Text.Hexadecimal

/-!
# Byte strings

Byte strings are the keys of the store.  They compare bytewise, a proper
initial part first, and this is the only order the store knows.  Numbers are
laid out big-endian, so that equally long layouts compare like the numbers.
-/

namespace Keyspace

/-- A string of bytes. -/
abbrev Bytes := List UInt8

namespace Bytes

/-- The bytewise order, a proper initial part first. -/
def compare : Bytes -> Bytes -> Ordering
  | [], [] => .eq
  | [], _ :: _ => .lt
  | _ :: _, [] => .gt
  | first :: left, second :: right =>
      if first < second then .lt
      else if second < first then .gt
      else compare left right

/-- The bytewise order is the lexicographic order of the bytes. -/
theorem compare_eq_compareLex :
    compare = List.compareLex (fun left right : UInt8 => Ord.compare left right) := by
  funext left right
  fun_induction compare left right with
  | case1 => rfl
  | case2 => rfl
  | case3 => rfl
  | case4 first left second right less =>
      simp [List.compareLex_cons_cons, Std.compare_eq_lt.mpr less]
  | case5 first left second right notLess greater =>
      simp [List.compareLex_cons_cons, Std.compare_eq_gt.mpr greater]
  | case6 first left second right notLess notGreater inductionHypothesis =>
      have equal : first = second :=
        Std.le_antisymm (Std.not_lt.mp notGreater) (Std.not_lt.mp notLess)
      simp [List.compareLex_cons_cons, equal, inductionHypothesis]

instance : Std.TransCmp compare := by
  rw [compare_eq_compareLex]
  infer_instance

instance : Std.LawfulEqCmp compare := by
  rw [compare_eq_compareLex]
  infer_instance

/-- Strict bytewise precedence. -/
def Precedes (left right : Bytes) : Prop :=
  compare left right = .lt

instance (left right : Bytes) : Decidable (Precedes left right) :=
  inferInstanceAs (Decidable (compare left right = .lt))

/-- The number a big-endian layout stands for. -/
def toNat (bytes : Bytes) : Nat :=
  bytes.foldl (fun value byte => value * 256 + byte.toNat) 0

/-- The low `width` bytes of a number, most significant first. -/
def bigEndian : Nat -> Nat -> Bytes
  | 0, _ => []
  | width + 1, value => UInt8.ofNat (value >>> (8 * width)) :: bigEndian width value

/-- The leading byte is a quotient by a power of the base. -/
theorem bigEndian_succ
    (width value : Nat) :
    bigEndian (width + 1) value = UInt8.ofNat (value / Nat.pow 256 width) :: bigEndian width value := by
  rw [bigEndian, Nat.shiftRight_eq_div_pow, Nat.pow_mul]
  rfl

/-- How many bytes the shortest layout of a number takes; zero takes none. -/
def byteLength (value : Nat) : Nat :=
  if value = 0 then 0 else value.log2 / 8 + 1

/-- The shortest big-endian layout of a number. -/
def magnitude (value : Nat) : Bytes :=
  bigEndian (byteLength value) value

/-- Every bit flipped, which reverses the order of equally long strings. -/
def complement (bytes : Bytes) : Bytes :=
  bytes.map fun byte => ~~~byte

/-- Whether `start` is an initial part of `bytes`. -/
def startsWith (bytes start : Bytes) : Bool :=
  start.isPrefixOf bytes

/-- What follows an initial part. -/
def dropStart? : Bytes -> Bytes -> Option Bytes
  | [], bytes => some bytes
  | _ :: _, [] => none
  | first :: start, byte :: bytes =>
      if first = byte then dropStart? start bytes else none

/-- The least byte string above everything that starts with `bytes`: trailing
`0xFF` bytes are dropped and the last byte left is increased.  There is none
if no byte is left. -/
def successor? (bytes : Bytes) : Option Bytes :=
  match bytes.reverse.dropWhile (fun byte => byte == 0xFF) with
  | [] => none
  | last :: initial => some ((last + 1) :: initial).reverse

/-- The lower-case hexadecimal text. -/
def toHex (bytes : Bytes) : String :=
  Hexadecimal.encode bytes

/-- The number of bytes that the short description of a key shows. -/
def shownKeyBytes : Nat := 32

/-- A short description of a key, for people. -/
def describeKey (bytes : Bytes) : String :=
  let ellipsis := if shownKeyBytes < bytes.length then "..." else ""
  s!"Key(0x{toHex (bytes.take shownKeyBytes)}{ellipsis})"

/-- A short description of a stored value, for people. -/
def describeValue (bytes : Bytes) : String :=
  s!"Value({bytes.length} bytes)"

theorem compare_self
    (bytes : Bytes) :
    compare bytes bytes = .eq :=
  Std.ReflCmp.compare_self

theorem eq_of_compare_eq
    {left right : Bytes}
    (equal : compare left right = .eq) :
    left = right :=
  Std.LawfulEqCmp.eq_of_compare equal

theorem Precedes.trans
    {first second third : Bytes}
    (firstSecond : Precedes first second)
    (secondThird : Precedes second third) :
    Precedes first third :=
  Std.TransCmp.lt_trans firstSecond secondThird

theorem precedes_of_compare_gt
    {left right : Bytes}
    (greater : compare left right = .gt) :
    Precedes right left :=
  Std.OrientedCmp.lt_of_gt greater

theorem not_precedes_self
    (bytes : Bytes) :
    ¬ Precedes bytes bytes := by
  simp [Precedes, compare_self]

end Bytes
end Keyspace
