import Keyspace.Proofs.Number.Rounding
import Keyspace.Proofs.Tuple.Layouts

/-!
# Numbers as doubles

The double nearest to an integer grows with the integer, and strictly so as long
as integers have at most 53 bits.  Single precision floats lose nothing when they
become doubles, unless they are no numbers.
-/

namespace Keyspace

/-! ## Places of the total order -/

theorem compare_congr
    {α β : Type}
    [LinearOrder α]
    [LinearOrder β]
    {left right : α}
    {otherLeft otherRight : β}
    (less : left < right ↔ otherLeft < otherRight)
    (greater : right < left ↔ otherRight < otherLeft) :
    compare left right = compare otherLeft otherRight := by
  rcases lt_trichotomy left right with below | same | above
  · rw [compare_lt_iff_lt.mpr below, compare_lt_iff_lt.mpr (less.mp below)]
  · have otherSame : otherLeft = otherRight :=
      le_antisymm (not_lt.mp (mt greater.mpr same.le.not_gt))
        (not_lt.mp (mt less.mpr same.ge.not_gt))
    rw [compare_eq_iff_eq.mpr same, compare_eq_iff_eq.mpr otherSame]
  · rw [compare_gt_iff_gt.mpr above, compare_gt_iff_gt.mpr (greater.mp above)]

/-- The place of a float in the total order, of its sign and its other bits. -/
def signedPlace (negative : Bool) (unsigned : Nat) : Int :=
  if negative then -1 - unsigned else unsigned

/-- Places compare alike if the bits below the sign do. -/
theorem compare_signedPlace
    {left right otherLeft otherRight : Nat}
    (leftNegative rightNegative : Bool)
    (less : left < right ↔ otherLeft < otherRight)
    (greater : right < left ↔ otherRight < otherLeft) :
    compare (signedPlace leftNegative left) (signedPlace rightNegative right) =
      compare (signedPlace leftNegative otherLeft) (signedPlace rightNegative otherRight) := by
  refine compare_congr ?_ ?_ <;> cases leftNegative <;> cases rightNegative <;>
    simp only [signedPlace, if_true, Bool.false_eq_true, if_false] <;> omega

/-- Places of integers grow, by nothing or by one, if the bits of their magnitudes
do. -/
theorem signedPlace_add_le
    {left right : Int}
    {growth : Nat}
    (bitsOf : Nat -> Nat)
    (less : left < right)
    (small : growth ≤ 1)
    (mirrored : right.natAbs < left.natAbs ->
      bitsOf right.natAbs + growth ≤ bitsOf left.natAbs)
    (upright : left.natAbs < right.natAbs ->
      bitsOf left.natAbs + growth ≤ bitsOf right.natAbs) :
    signedPlace (decide (left < 0)) (bitsOf left.natAbs) + growth ≤
      signedPlace (decide (right < 0)) (bitsOf right.natAbs) := by
  unfold signedPlace
  rcases lt_or_ge left 0 with leftNegative | leftNot <;>
    rcases lt_or_ge right 0 with rightNegative | rightNot
  · have places := mirrored (by omega)
    simp only [leftNegative, rightNegative, decide_true, if_true]
    omega
  · simp only [leftNegative, rightNot.not_gt, decide_true, decide_false, if_true,
      Bool.false_eq_true, if_false]
    omega
  · omega
  · have places := upright (by omega)
    simp only [leftNot.not_gt, rightNot.not_gt, decide_false, Bool.false_eq_true, if_false]
    omega

namespace BinaryFormat

theorem totalPlace_eq
    (format : BinaryFormat)
    {bits : Nat}
    (inRange : bits < 2 * format.signBit) :
    format.totalPlace bits =
      signedPlace (decide (format.signBit ≤ bits)) (bits % format.signBit) := by
  unfold totalPlace signedPlace
  by_cases negative : format.signBit ≤ bits
  · rw [Nat.mod_eq_sub_mod negative, Nat.mod_eq_of_lt (by omega)]
    simp [negative]
  · rw [Nat.mod_eq_of_lt (not_le.mp negative)]
    simp [negative]

end BinaryFormat

namespace Double

theorem toNat_bits_ofSigned
    (negative : Bool)
    {bits : Nat}
    (inRange : bits < 2 ^ 63) :
    (ofSigned negative bits).bits.toNat = if negative then 2 ^ 63 + bits else bits := by
  unfold ofSigned
  rw [UInt64.toNat_ofNat']
  split <;> omega

theorem totalPlace_ofSigned
    (negative : Bool)
    {bits : Nat}
    (inRange : bits < 2 ^ 63) :
    (ofSigned negative bits).totalPlace = signedPlace negative bits := by
  have sign : BinaryFormat.double.signBit = 2 ^ 63 := rfl
  unfold totalPlace
  rw [BinaryFormat.double.totalPlace_eq (bits_lt _), toNat_bits_ofSigned negative inRange, sign]
  cases negative
  · simp only [Bool.false_eq_true, if_false]
    rw [Nat.mod_eq_of_lt inRange, decide_eq_false (by omega)]
  · simp only [if_true]
    rw [Nat.add_mod_left, Nat.mod_eq_of_lt inRange, decide_eq_true (by omega)]

/-! ## Integers -/

theorem nearest_lt
    (numerator denominator : Nat) :
    BinaryFormat.double.nearest numerator denominator < 2 ^ 63 := by
  have infinity : BinaryFormat.double.infinityBits < 2 ^ 63 := by decide
  unfold BinaryFormat.nearest
  split
  · decide
  · exact (min_le_left _ _).trans_lt infinity

theorem totalPlace_ofInt
    (number : Int) :
    (ofInt number).totalPlace =
      signedPlace (decide (number < 0)) (BinaryFormat.double.nearest number.natAbs 1) :=
  totalPlace_ofSigned _ (nearest_lt _ _)

theorem nearest_natural_mono
    {left right : Nat}
    (ordered : left ≤ right) :
    BinaryFormat.double.nearest left 1 ≤ BinaryFormat.double.nearest right 1 :=
  BinaryFormat.double.nearest_mono one_pos one_pos (by omega)

/-- The nearest double grows with the integer. -/
theorem totalPlace_ofInt_mono
    {left right : Int}
    (ordered : left ≤ right) :
    (ofInt left).totalPlace ≤ (ofInt right).totalPlace := by
  rcases ordered.eq_or_lt with rfl | less
  · exact le_rfl
  · rw [totalPlace_ofInt, totalPlace_ofInt]
    have grows := signedPlace_add_le (BinaryFormat.double.nearest · 1) less zero_le_one
      (fun mirrored => nearest_natural_mono mirrored.le)
      (fun upright => nearest_natural_mono upright.le)
    simpa using grows

/-- A natural number of at most 53 bits is not rounded. -/
theorem units_nearest_natural
    {number : Nat}
    (small : number ≤ 2 ^ 53) :
    BinaryFormat.double.units (BinaryFormat.double.nearest number 1) =
      number * 2 ^ (-BinaryFormat.double.leastExponent).toNat := by
  have least : BinaryFormat.double.leastExponent = -1074 := by decide
  have fields : BinaryFormat.double.exponentBits = 11 := rfl
  rcases small.lt_or_eq with inside | rfl
  · have held : (number / (1 : Nat) : ℚ) = number * 2 ^ (0 : Int) := by simp
    have exact := (BinaryFormat.double.units_nearest one_pos inside (by omega)
      (by rw [least, fields]; norm_num) held).2
    have lifted : (0 - BinaryFormat.double.leastExponent).toNat =
        (-BinaryFormat.double.leastExponent).toNat := by omega
    rw [exact, lifted]
  · have held : ((2 ^ 53 : Nat) / (1 : Nat) : ℚ) = (2 ^ 52 : Nat) * 2 ^ (1 : Int) := by norm_num
    have exact := (BinaryFormat.double.units_nearest one_pos (by decide) (by omega)
      (by rw [least, fields]; norm_num) held).2
    have lifted : (1 - BinaryFormat.double.leastExponent).toNat =
        1 + (-BinaryFormat.double.leastExponent).toNat := by omega
    rw [exact, lifted, pow_add, ← mul_assoc, ← pow_add]

theorem nearest_natural_lt
    {left right : Nat}
    (less : left < right)
    (small : right ≤ 2 ^ 53) :
    BinaryFormat.double.nearest left 1 < BinaryFormat.double.nearest right 1 := by
  rw [← BinaryFormat.double.units_strictMono.lt_iff_lt, units_nearest_natural small,
    units_nearest_natural (less.le.trans small)]
  exact Nat.mul_lt_mul_of_pos_right less (Nat.two_pow_pos _)

/-- The nearest double tells integers of at most 53 bits apart. -/
theorem totalPlace_ofInt_strict
    {left right : Int}
    (less : left < right)
    (leftSmall : left.natAbs ≤ 2 ^ 53)
    (rightSmall : right.natAbs ≤ 2 ^ 53) :
    (ofInt left).totalPlace < (ofInt right).totalPlace := by
  rw [totalPlace_ofInt, totalPlace_ofInt]
  exact signedPlace_add_le (BinaryFormat.double.nearest · 1) less le_rfl
    (fun mirrored => nearest_natural_lt mirrored leftSmall)
    (fun upright => nearest_natural_lt upright rightSmall)

end Double

namespace Single

/-! ## Single precision floats -/

/-- The bits below the sign. -/
def unsigned (single : Single) : Nat :=
  single.bits.toNat % BinaryFormat.single.signBit

/-- Whether the sign is set. -/
def isNegative (single : Single) : Bool :=
  decide (BinaryFormat.single.signBit ≤ single.bits.toNat)

theorem totalPlace_eq
    (single : Single) :
    single.totalPlace = signedPlace single.isNegative single.unsigned :=
  BinaryFormat.single.totalPlace_eq single.bits_lt

/-- Whether bits below the sign of a double stand for the same as those of a
single precision float. -/
inductive Widens : Nat -> Nat -> Prop
  /-- Both are numbers, and the same. -/
  | finite
      {narrow wide : Nat}
      (narrowFinite : narrow < BinaryFormat.single.infinityBits)
      (wideFinite : wide < BinaryFormat.double.infinityBits)
      (same : BinaryFormat.double.units wide = BinaryFormat.single.units narrow *
        2 ^ (BinaryFormat.single.leastExponent - BinaryFormat.double.leastExponent).toNat) :
      Widens narrow wide
  /-- Both are infinite. -/
  | infinite : Widens BinaryFormat.single.infinityBits BinaryFormat.double.infinityBits
  /-- Neither is a number. -/
  | nan
      {narrow wide : Nat}
      (narrowNaN : BinaryFormat.single.infinityBits < narrow)
      (wideNaN : BinaryFormat.double.infinityBits < wide) : Widens narrow wide

/-- Bits keep their order when they are widened, unless both stand for no
number. -/
theorem Widens.lt_iff_lt
    {narrow wide otherNarrow otherWide : Nat}
    (widens : Widens narrow wide)
    (otherWidens : Widens otherNarrow otherWide)
    (number : narrow ≤ BinaryFormat.single.infinityBits ∨
      otherNarrow ≤ BinaryFormat.single.infinityBits) :
    narrow < otherNarrow ↔ wide < otherWide := by
  cases widens with
  | finite narrowFinite wideFinite same =>
      cases otherWidens with
      | finite _ _ otherSame =>
          rw [← BinaryFormat.double.units_strictMono.lt_iff_lt (a := wide), same, otherSame,
            Nat.mul_lt_mul_right (Nat.two_pow_pos _),
            BinaryFormat.single.units_strictMono.lt_iff_lt]
      | infinite => omega
      | nan otherNarrowNaN otherWideNaN => omega
  | infinite =>
      cases otherWidens <;> omega
  | nan narrowNaN wideNaN =>
      cases otherWidens <;> omega

/-- The double that a float becomes has its sign, and widens the bits below. -/
theorem exists_widened
    (single : Single) :
    ∃ wide, wide < 2 ^ 63 ∧ single.toDouble = Double.ofSigned single.isNegative wide ∧
      Widens single.unsigned wide := by
  have infinity : BinaryFormat.double.infinityBits = 2047 * 2 ^ 52 := by decide
  have wideLeast : BinaryFormat.double.leastExponent = -1074 := by decide
  have narrowLeast : BinaryFormat.single.leastExponent = -149 := by decide
  have wideFields : BinaryFormat.double.exponentBits = 11 := rfl
  have narrowFields : BinaryFormat.single.exponentBits = 8 := rfl
  unfold toDouble value
  rcases lt_trichotomy single.unsigned BinaryFormat.single.infinityBits with
    finite | infinite | notNumber
  · obtain ⟨digits, exponent, decoded, fit, least, greatest, same⟩ :=
      BinaryFormat.single.decode_of_finite single.bits_lt finite
    rw [narrowFields] at greatest
    have room : digits < 2 ^ (BinaryFormat.double.fractionBits + 1) :=
      fit.trans (by decide)
    obtain ⟨wideFinite, wideSame⟩ := BinaryFormat.double.units_nearestScaled room
      (by omega : BinaryFormat.double.leastExponent ≤ exponent) (by rw [wideFields]; omega)
    rw [decoded]
    refine ⟨_, by omega, rfl, .finite finite wideFinite ?_⟩
    rw [wideSame, unsigned, same, mul_assoc, ← pow_add]
    congr 2
    omega
  · rw [BinaryFormat.single.decode_of_infinite single.bits_lt infinite]
    exact ⟨_, by omega, rfl, infinite ▸ .infinite⟩
  · rw [BinaryFormat.single.decode_of_nan notNumber]
    exact ⟨_, by omega, rfl, .nan notNumber (by omega)⟩

theorem value_eq_nan_iff
    (single : Single) :
    single.value = .nan ↔ BinaryFormat.single.infinityBits < single.unsigned :=
  BinaryFormat.single.decode_eq_nan_iff single.bits_lt

/-- A float compares with others like the double that it becomes, unless both are
no numbers. -/
theorem compareTotal_toDouble
    {left right : Single}
    (number : left.value ≠ .nan ∨ right.value ≠ .nan) :
    left.toDouble.compareTotal right.toDouble = left.compareTotal right := by
  obtain ⟨leftWide, leftInRange, leftWidened, leftWidens⟩ := exists_widened left
  obtain ⟨rightWide, rightInRange, rightWidened, rightWidens⟩ := exists_widened right
  rw [ne_eq, ne_eq, value_eq_nan_iff, value_eq_nan_iff, not_lt, not_lt] at number
  unfold Double.compareTotal compareTotal
  rw [leftWidened, rightWidened, Double.totalPlace_ofSigned _ leftInRange,
    Double.totalPlace_ofSigned _ rightInRange, totalPlace_eq, totalPlace_eq]
  exact (compare_signedPlace _ _ (leftWidens.lt_iff_lt rightWidens number)
    (rightWidens.lt_iff_lt leftWidens number.symm)).symm

end Single
end Keyspace
