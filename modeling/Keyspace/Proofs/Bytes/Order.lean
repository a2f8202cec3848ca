import Keyspace.Bytes
import Mathlib.Data.Nat.Digits.Lemmas

/-!
# The bytewise order of concatenations

One byte string lies below another in a way that survives whatever follows
both of them if they differ at a byte.  Packed elements are compared by this
relation: flipping every bit reverses it, and big-endian layouts of one width
carry the order of the numbers over to it.
-/

namespace Keyspace
namespace Bytes

/-! ## Strings that differ at a byte -/

/-- The strings agree up to a place where both have a byte, and there the
first string has the smaller one. -/
inductive Below : Bytes -> Bytes -> Prop
  /-- The strings differ at once. -/
  | here {lower upper : UInt8} (left right : Bytes) (smaller : lower < upper) :
      Below (lower :: left) (upper :: right)
  /-- The strings start with the same byte. -/
  | there (byte : UInt8) {left right : Bytes} (below : Below left right) :
      Below (byte :: left) (byte :: right)

@[simp] theorem compare_cons_self
    (byte : UInt8)
    (left right : Bytes) :
    compare (byte :: left) (byte :: right) = compare left right := by
  simp [compare]

@[simp] theorem compare_append_self
    (shared left right : Bytes) :
    compare (shared ++ left) (shared ++ right) = compare left right := by
  induction shared with
  | nil => rfl
  | cons byte shared inductionHypothesis => simpa using inductionHypothesis

theorem Below.compare_eq
    {left right : Bytes}
    (below : Below left right) :
    compare left right = .lt := by
  induction below with
  | here left right smaller => simp [compare, smaller]
  | there byte below inductionHypothesis => simpa using inductionHypothesis

theorem Below.compare_swap
    {left right : Bytes}
    (below : Below left right) :
    compare right left = .gt :=
  Std.OrientedCmp.gt_of_lt below.compare_eq

/-- What follows two strings that differ at a byte has no influence. -/
theorem Below.append
    {left right : Bytes}
    (below : Below left right)
    (leftRest rightRest : Bytes) :
    Below (left ++ leftRest) (right ++ rightRest) := by
  induction below with
  | here left right smaller => exact .here _ _ smaller
  | there byte below inductionHypothesis => exact .there byte inductionHypothesis

theorem Below.append_left
    {left right : Bytes}
    (shared : Bytes)
    (below : Below left right) :
    Below (shared ++ left) (shared ++ right) := by
  induction shared with
  | nil => exact below
  | cons byte shared inductionHypothesis => exact .there byte inductionHypothesis

theorem not_lt_not
    {lower upper : UInt8}
    (smaller : lower < upper) :
    ~~~upper < ~~~lower := by
  rw [UInt8.lt_iff_toNat_lt] at smaller ⊢
  rw [UInt8.toNat_not, UInt8.toNat_not, UInt8.size]
  have upperBound := upper.toNat_lt
  omega

/-- Flipping every bit reverses the order of strings that differ at a byte. -/
theorem Below.complement
    {left right : Bytes}
    (below : Below left right) :
    Below (complement right) (complement left) := by
  induction below with
  | here left right smaller => exact .here _ _ (not_lt_not smaller)
  | there byte below inductionHypothesis => exact .there _ inductionHypothesis

@[simp] theorem complement_complement
    (bytes : Bytes) :
    complement (complement bytes) = bytes := by
  simp [complement, Function.comp_def]

@[simp] theorem length_complement
    (bytes : Bytes) :
    (complement bytes).length = bytes.length := by
  simp [complement]

/-- Strings of one length differ at a byte unless they are equal. -/
theorem below_of_compare_eq_lt
    {left right : Bytes}
    (sameLength : left.length = right.length)
    (less : compare left right = .lt) :
    Below left right := by
  induction left generalizing right with
  | nil =>
      have empty : right = [] := List.eq_nil_of_length_eq_zero sameLength.symm
      simp [empty, compare] at less
  | cons first left inductionHypothesis =>
      cases right with
      | nil => simp at sameLength
      | cons second right =>
          rcases Nat.lt_trichotomy first.toNat second.toNat with smaller | equal | greater
          · exact .here _ _ (UInt8.lt_iff_toNat_lt.mpr smaller)
          · rw [UInt8.toNat_inj] at equal
            subst equal
            rw [compare_cons_self] at less
            exact .there _ (inductionHypothesis (by simpa using sameLength) less)
          · have notSmaller : ¬ first < second := by
              rw [UInt8.lt_iff_toNat_lt]
              omega
            simp [compare, UInt8.lt_iff_toNat_lt.mpr greater, notSmaller] at less

/-! ## Big-endian layouts -/

@[simp] theorem length_bigEndian
    (width value : Nat) :
    (bigEndian width value).length = width := by
  induction width with
  | zero => rfl
  | succ width inductionHypothesis => simp [bigEndian, inductionHypothesis]

theorem toNat_ofNat_div
    (width value : Nat) :
    (UInt8.ofNat (value / 256 ^ width)).toNat = value / 256 ^ width % 256 := by
  simp

/-- A remainder splits into its leading byte and what follows it. -/
theorem mod_pow_succ
    (width value : Nat) :
    value % 256 ^ (width + 1) =
      value / 256 ^ width % 256 * 256 ^ width + value % 256 ^ width := by
  rw [pow_succ, Nat.mod_mul]
  ring

theorem below_bigEndian_of_mod_lt
    {left right : Nat}
    (width : Nat)
    (less : left % 256 ^ width < right % 256 ^ width) :
    Below (bigEndian width left) (bigEndian width right) := by
  induction width with
  | zero => simp [Nat.mod_one] at less
  | succ width inductionHypothesis =>
      rw [mod_pow_succ, mod_pow_succ] at less
      rw [bigEndian_succ, bigEndian_succ]
      have leftByte := toNat_ofNat_div width left
      have rightByte := toNat_ofNat_div width right
      have leftRest : left % 256 ^ width < 256 ^ width := Nat.mod_lt _ (by positivity)
      have rightRest : right % 256 ^ width < 256 ^ width := Nat.mod_lt _ (by positivity)
      rcases lt_trichotomy (left / 256 ^ width % 256) (right / 256 ^ width % 256) with
        smaller | equal | greater
      · apply Below.here
        rw [UInt8.lt_iff_toNat_lt]
        exact leftByte ▸ rightByte ▸ smaller
      · have sameByte : UInt8.ofNat (left / 256 ^ width) = UInt8.ofNat (right / 256 ^ width) :=
          UInt8.toNat_inj.mp (by rw [leftByte, rightByte, equal])
        rw [equal] at less
        exact sameByte ▸ .there _ (inductionHypothesis (by omega))
      · have wider : (right / 256 ^ width % 256 + 1) * 256 ^ width ≤
            left / 256 ^ width % 256 * 256 ^ width := Nat.mul_le_mul_right _ greater
        rw [Nat.add_mul, Nat.one_mul] at wider
        omega

/-- Layouts of one width are ordered like the numbers that fit it. -/
theorem below_bigEndian
    {left right width : Nat}
    (less : left < right)
    (fits : right < 256 ^ width) :
    Below (bigEndian width left) (bigEndian width right) := by
  apply below_bigEndian_of_mod_lt
  rwa [Nat.mod_eq_of_lt fits, Nat.mod_eq_of_lt (less.trans fits)]

theorem foldl_toNat
    (bytes : Bytes)
    (value : Nat) :
    bytes.foldl (fun value byte => value * 256 + byte.toNat) value =
      value * 256 ^ bytes.length + toNat bytes := by
  induction bytes generalizing value with
  | nil => simp [toNat]
  | cons byte bytes inductionHypothesis =>
      rw [toNat, List.foldl_cons, List.foldl_cons, inductionHypothesis, inductionHypothesis (0 * 256 + _),
        List.length_cons, pow_succ]
      ring

theorem toNat_cons
    (byte : UInt8)
    (bytes : Bytes) :
    toNat (byte :: bytes) = byte.toNat * 256 ^ bytes.length + toNat bytes := by
  rw [toNat, List.foldl_cons, foldl_toNat, Nat.zero_mul, Nat.zero_add]

/-- A layout stands for a number below that of the next longer ones. -/
theorem toNat_lt_pow
    (bytes : Bytes) :
    toNat bytes < 256 ^ bytes.length := by
  induction bytes with
  | nil => simp [toNat]
  | cons byte bytes inductionHypothesis =>
      rw [toNat_cons, List.length_cons, pow_succ']
      have leading : (byte.toNat + 1) * 256 ^ bytes.length ≤ 256 * 256 ^ bytes.length :=
        Nat.mul_le_mul_right _ byte.toNat_lt
      rw [Nat.succ_mul] at leading
      omega

theorem toNat_bigEndian_mod
    (width value : Nat) :
    toNat (bigEndian width value) = value % 256 ^ width := by
  induction width with
  | zero => simp [bigEndian, toNat, Nat.mod_one]
  | succ width inductionHypothesis =>
      rw [bigEndian_succ, toNat_cons, length_bigEndian, inductionHypothesis, mod_pow_succ]
      congr 2

/-- A layout stands for the number that it lays out. -/
theorem toNat_bigEndian
    {width value : Nat}
    (fits : value < 256 ^ width) :
    toNat (bigEndian width value) = value := by
  rw [toNat_bigEndian_mod, Nat.mod_eq_of_lt fits]

/-! ## Shortest layouts -/

/-- A number takes at most as many bytes as its layout may have. -/
theorem byteLength_le_iff
    (value width : Nat) :
    byteLength value ≤ width ↔ value < 256 ^ width := by
  have base : (256 : Nat) ^ width = 2 ^ (8 * width) := by
    rw [pow_mul]
    norm_num
  rw [base, byteLength]
  split
  · next zero => simp [zero]
  · next nonzero =>
      rw [← Nat.log2_lt nonzero]
      omega

theorem lt_pow_byteLength
    (value : Nat) :
    value < 256 ^ byteLength value :=
  (byteLength_le_iff value _).mp le_rfl

theorem byteLength_pos
    {value : Nat}
    (nonzero : value ≠ 0) :
    0 < byteLength value := by
  simp [byteLength, nonzero]

/-- The shorter layout is that of the smaller number. -/
theorem lt_of_byteLength_lt
    {left right : Nat}
    (shorter : byteLength left < byteLength right) :
    left < right := by
  by_contra notLess
  have fits : right < 256 ^ byteLength left :=
    (not_lt.mp notLess).trans_lt (lt_pow_byteLength left)
  exact absurd ((byteLength_le_iff right _).mpr fits) (not_le.mpr shorter)

@[simp] theorem length_magnitude
    (value : Nat) :
    (magnitude value).length = byteLength value :=
  length_bigEndian _ _

@[simp] theorem toNat_magnitude
    (value : Nat) :
    toNat (magnitude value) = value :=
  toNat_bigEndian (lt_pow_byteLength value)

end Bytes
end Keyspace
