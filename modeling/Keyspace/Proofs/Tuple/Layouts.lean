import Keyspace.Proofs.Number.Digits
import Keyspace.Tuple.Pack

/-!
# The order of packed values

Inside a class, the smaller value has the layout that lies below: integers
because the code in front grows with the length of the magnitude, floats
because of the place that is stored for them, decimals because of the exponent
and the digits behind it.
-/

namespace Keyspace

open Bytes (Below)

/-! ## Integers -/

namespace Element

/-- What stands in front of the magnitude of a natural number. -/
def lengthCode (length : Nat) : Bytes :=
  if length ≤ 8 then [TypeCode.integerZero + UInt8.ofNat length]
  else [TypeCode.positiveLong, UInt8.ofNat length]

/-- What stands in front of the magnitude of a negative integer. -/
def negativeLengthCode (length : Nat) : Bytes :=
  if length ≤ 8 then [TypeCode.integerZero - UInt8.ofNat length]
  else [TypeCode.negativeLong, ~~~(UInt8.ofNat length)]

theorem packInteger_of_nonneg
    {number : Int}
    (nonnegative : 0 ≤ number) :
    packInteger number =
      lengthCode (Bytes.byteLength number.natAbs) ++ Bytes.magnitude number.natAbs := by
  have notNegative : ¬ number < 0 := not_lt.mpr nonnegative
  simp only [packInteger, lengthCode, Bytes.length_magnitude, if_neg notNegative]
  split <;> rfl

theorem packInteger_of_neg
    {number : Int}
    (negative : number < 0) :
    packInteger number =
      negativeLengthCode (Bytes.byteLength number.natAbs) ++
        Bytes.complement (Bytes.magnitude number.natAbs) := by
  simp only [packInteger, negativeLengthCode, Bytes.length_magnitude, if_pos negative]
  split <;> rfl

theorem toNat_lengthByte
    {length : Nat}
    (short : length ≤ maxMagnitudeBytes) :
    (UInt8.ofNat length).toNat = length :=
  UInt8.toNat_ofNat_of_lt' (Nat.lt_succ_of_le short)

theorem toNat_integerCode
    {length : Nat}
    (short : length ≤ 8) :
    (TypeCode.integerZero + UInt8.ofNat length).toNat = 20 + length := by
  have byte : (UInt8.ofNat length).toNat = length := toNat_lengthByte (short.trans (by decide))
  rw [UInt8.toNat_add, byte]
  change (20 + length) % 256 = 20 + length
  omega

theorem toNat_negativeIntegerCode
    {length : Nat}
    (short : length ≤ 8) :
    (TypeCode.integerZero - UInt8.ofNat length).toNat = 20 - length := by
  have byte : (UInt8.ofNat length).toNat = length := toNat_lengthByte (short.trans (by decide))
  rw [UInt8.toNat_sub, byte]
  change (256 - length + 20) % 256 = 20 - length
  omega

/-- The code in front grows with the length of the magnitude. -/
theorem below_lengthCode
    {lower upper : Nat}
    (shorter : lower < upper)
    (short : upper ≤ maxMagnitudeBytes) :
    Below (lengthCode lower) (lengthCode upper) := by
  unfold lengthCode
  split
  · next lowerShort =>
      split
      · next upperShort =>
          apply Below.here
          rw [UInt8.lt_iff_toNat_lt, toNat_integerCode lowerShort, toNat_integerCode upperShort]
          omega
      · apply Below.here
        rw [UInt8.lt_iff_toNat_lt, toNat_integerCode lowerShort]
        change 20 + lower < 29
        omega
  · next lowerLong =>
      rw [if_neg (by omega)]
      apply Below.there
      apply Below.here
      rw [UInt8.lt_iff_toNat_lt, toNat_lengthByte short, toNat_lengthByte (by omega)]
      exact shorter

/-- In front of a negative magnitude the code falls with the length. -/
theorem below_negativeLengthCode
    {lower upper : Nat}
    (shorter : lower < upper)
    (short : upper ≤ maxMagnitudeBytes) :
    Below (negativeLengthCode upper) (negativeLengthCode lower) := by
  unfold negativeLengthCode
  split
  · next upperShort =>
      rw [if_pos (by omega)]
      apply Below.here
      rw [UInt8.lt_iff_toNat_lt, toNat_negativeIntegerCode upperShort,
        toNat_negativeIntegerCode (by omega)]
      omega
  · split
    · next lowerShort =>
        apply Below.here
        rw [UInt8.lt_iff_toNat_lt, toNat_negativeIntegerCode lowerShort]
        change 11 < 20 - lower
        omega
    · apply Below.there
      apply Below.here
      apply Bytes.not_lt_not
      rw [UInt8.lt_iff_toNat_lt, toNat_lengthByte short, toNat_lengthByte (by omega)]
      exact shorter

theorem exists_lengthCode_eq_cons
    (length : Nat) :
    ∃ code rest, lengthCode length = code :: rest ∧ 20 ≤ code.toNat ∧ code.toNat ≤ 29 := by
  unfold lengthCode
  split
  · next short =>
      refine ⟨_, _, rfl, ?_⟩
      rw [toNat_integerCode short]
      omega
  · exact ⟨_, _, rfl, by decide⟩

theorem exists_negativeLengthCode_eq_cons
    {length : Nat}
    (nonzero : 0 < length) :
    ∃ code rest,
      negativeLengthCode length = code :: rest ∧ 11 ≤ code.toNat ∧ code.toNat < 20 := by
  unfold negativeLengthCode
  split
  · next short =>
      refine ⟨_, _, rfl, ?_⟩
      rw [toNat_negativeIntegerCode short]
      omega
  · exact ⟨_, _, rfl, by decide⟩

theorem below_negativeLengthCode_lengthCode
    {lower upper : Nat}
    (nonzero : 0 < lower) :
    Below (negativeLengthCode lower) (lengthCode upper) := by
  obtain ⟨negativeCode, negativeRest, negativeShape, _, belowZero⟩ :=
    exists_negativeLengthCode_eq_cons nonzero
  obtain ⟨code, rest, shape, fromZero, _⟩ := exists_lengthCode_eq_cons upper
  rw [negativeShape, shape]
  exact .here _ _ (UInt8.lt_iff_toNat_lt.mpr (belowZero.trans_le fromZero))

/-- Among magnitudes, the smaller number has the layout that lies below. -/
theorem below_lengthCode_append_magnitude
    {lower upper : Nat}
    (less : lower < upper)
    (short : Bytes.byteLength upper ≤ maxMagnitudeBytes) :
    Below (lengthCode (Bytes.byteLength lower) ++ Bytes.magnitude lower)
      (lengthCode (Bytes.byteLength upper) ++ Bytes.magnitude upper) := by
  rcases lt_trichotomy (Bytes.byteLength lower) (Bytes.byteLength upper) with
    shorter | equal | longer
  · exact (below_lengthCode shorter short).append _ _
  · rw [Bytes.magnitude, Bytes.magnitude, equal]
    exact (Bytes.below_bigEndian less (Bytes.lt_pow_byteLength upper)).append_left _
  · exact absurd (Bytes.lt_of_byteLength_lt longer) (not_lt.mpr less.le)

/-- Among negative magnitudes it is the greater one. -/
theorem below_negativeLengthCode_append_complement
    {lower upper : Nat}
    (less : lower < upper)
    (short : Bytes.byteLength upper ≤ maxMagnitudeBytes) :
    Below
      (negativeLengthCode (Bytes.byteLength upper) ++ Bytes.complement (Bytes.magnitude upper))
      (negativeLengthCode (Bytes.byteLength lower) ++
        Bytes.complement (Bytes.magnitude lower)) := by
  rcases lt_trichotomy (Bytes.byteLength lower) (Bytes.byteLength upper) with
    shorter | equal | longer
  · exact (below_negativeLengthCode shorter short).append _ _
  · rw [Bytes.magnitude, Bytes.magnitude, equal]
    exact (Bytes.below_bigEndian less (Bytes.lt_pow_byteLength upper)).complement.append_left _
  · exact absurd (Bytes.lt_of_byteLength_lt longer) (not_lt.mpr less.le)

/-- The smaller integer has the layout that lies below. -/
theorem below_packInteger
    {left right : Int}
    (less : left < right)
    (leftShort : Bytes.byteLength left.natAbs ≤ maxMagnitudeBytes)
    (rightShort : Bytes.byteLength right.natAbs ≤ maxMagnitudeBytes) :
    Below (packInteger left) (packInteger right) := by
  rcases lt_or_ge left 0 with leftNegative | leftNonnegative
  · rw [packInteger_of_neg leftNegative]
    rcases lt_or_ge right 0 with rightNegative | rightNonnegative
    · rw [packInteger_of_neg rightNegative]
      exact below_negativeLengthCode_append_complement (by omega) leftShort
    · rw [packInteger_of_nonneg rightNonnegative]
      apply Below.append
      exact below_negativeLengthCode_lengthCode (Bytes.byteLength_pos (by omega))
  · rw [packInteger_of_nonneg leftNonnegative, packInteger_of_nonneg (by omega)]
    exact below_lengthCode_append_magnitude (by omega) rightShort

theorem exists_packInteger_eq_cons
    (number : Int) :
    ∃ code rest, packInteger number = code :: rest ∧ 11 ≤ code.toNat ∧ code.toNat ≤ 29 := by
  rcases lt_or_ge number 0 with negative | nonnegative
  · have nonzero : 0 < Bytes.byteLength number.natAbs := Bytes.byteLength_pos (by omega)
    obtain ⟨code, rest, shape, least, greatest⟩ := exists_negativeLengthCode_eq_cons nonzero
    rw [packInteger_of_neg negative, shape]
    exact ⟨code, _, rfl, least, by omega⟩
  · obtain ⟨code, rest, shape, least, greatest⟩ :=
      exists_lengthCode_eq_cons (Bytes.byteLength number.natAbs)
    rw [packInteger_of_nonneg nonnegative, shape]
    exact ⟨code, _, rfl, by omega, greatest⟩

end Element

/-! ## Floats -/

namespace BinaryFormat

/-- The number that is stored grows with the place in the total order. -/
theorem orderKey_lt_orderKey
    (format : BinaryFormat)
    {left right : Nat}
    (leftInRange : left < 2 * format.signBit)
    (less : format.totalPlace left < format.totalPlace right) :
    format.orderKey left < format.orderKey right := by
  unfold totalPlace at less
  unfold orderKey
  by_cases leftNegative : format.signBit ≤ left <;>
    by_cases rightNegative : format.signBit ≤ right <;>
    simp only [leftNegative, rightNegative, if_true, if_false] at less ⊢ <;> omega

theorem orderKey_lt
    (format : BinaryFormat)
    {bits : Nat}
    (inRange : bits < 2 * format.signBit) :
    format.orderKey bits < 2 * format.signBit := by
  unfold orderKey
  split <;> omega

theorem eq_of_totalPlace_eq
    (format : BinaryFormat)
    {left right : Nat}
    (equal : format.totalPlace left = format.totalPlace right) :
    left = right := by
  unfold totalPlace at equal
  split at equal <;> split at equal <;> omega

end BinaryFormat

namespace Single

theorem bits_lt
    (number : Single) :
    number.bits.toNat < 2 * BinaryFormat.single.signBit :=
  number.bits.toNat_lt

theorem below_orderKey
    {left right : Single}
    (less : left.totalPlace < right.totalPlace) :
    Below (Bytes.bigEndian 4 left.orderKey) (Bytes.bigEndian 4 right.orderKey) :=
  Bytes.below_bigEndian (BinaryFormat.single.orderKey_lt_orderKey left.bits_lt less)
    (BinaryFormat.single.orderKey_lt right.bits_lt)

theorem eq_of_totalPlace_eq
    {left right : Single}
    (equal : left.totalPlace = right.totalPlace) :
    left = right := by
  have sameBits := BinaryFormat.single.eq_of_totalPlace_eq equal
  rw [UInt32.toNat_inj] at sameBits
  cases left
  cases right
  exact congrArg Single.mk sameBits

end Single

namespace Double

theorem bits_lt
    (number : Double) :
    number.bits.toNat < 2 * BinaryFormat.double.signBit :=
  number.bits.toNat_lt

theorem below_orderKey
    {left right : Double}
    (less : left.totalPlace < right.totalPlace) :
    Below (Bytes.bigEndian 8 left.orderKey) (Bytes.bigEndian 8 right.orderKey) :=
  Bytes.below_bigEndian (BinaryFormat.double.orderKey_lt_orderKey left.bits_lt less)
    (BinaryFormat.double.orderKey_lt right.bits_lt)

theorem eq_of_totalPlace_eq
    {left right : Double}
    (equal : left.totalPlace = right.totalPlace) :
    left = right := by
  have sameBits := BinaryFormat.double.eq_of_totalPlace_eq equal
  rw [UInt64.toNat_inj] at sameBits
  cases left
  cases right
  exact congrArg Double.mk sameBits

end Double

/-! ## Decimals -/

namespace Decimal

/-- A mantissa has at most 29 digits. -/
theorem length_ofNat_mantissa_le
    (decimal : Decimal) :
    (Digits.ofNat decimal.mantissa.natAbs).length ≤ 29 := by
  rcases Nat.eq_zero_or_pos decimal.mantissa.natAbs with zero | positive
  · simp [zero, Digits.ofNat, Digits.lowFirst_eq_digits]
  · have bound := Digits.pow_length_ofNat_le positive
    have small := decimal.mantissa_lt
    by_contra long
    have wide : 10 ^ 30 ≤ 10 ^ (Digits.ofNat decimal.mantissa.natAbs).length :=
      Nat.pow_le_pow_right (by decide) (by omega)
    omega

/-- Padding does not go beyond the digits of a mantissa. -/
theorem scale_le_56
    (decimal : Decimal) :
    decimal.scale ≤ 56 := by
  rcases decimal.scale_le with unpadded | ⟨nonzero, padded⟩
  · omega
  · have bound : 10 ^ (decimal.scale - 28) ≤ decimal.mantissa.natAbs :=
      Nat.le_of_dvd (Int.natAbs_pos.mpr nonzero) padded
    have small := decimal.mantissa_lt
    by_contra far
    have wide : 10 ^ 29 ≤ 10 ^ (decimal.scale - 28) :=
      Nat.pow_le_pow_right (by decide) (by omega)
    omega

end Decimal

namespace Element

/-- The exponent that is stored, with its bias. -/
def biasedExponent (decimal : Decimal) : Nat :=
  TypeCode.decimalBias + (Digits.ofNat decimal.mantissa.natAbs).length - decimal.scale

theorem packDigits_eq
    (decimal : Decimal) :
    packDigits decimal =
      UInt8.ofNat (biasedExponent decimal) ::
        Digits.stored (Digits.ofNat decimal.mantissa.natAbs) := by
  simp only [packDigits, biasedExponent, Digits.stored, Digits.significant, Digits.ofNat,
    List.rdropWhile_reverse, List.length_reverse, List.cons_append]
  rfl

theorem biasedExponent_add_scale
    (decimal : Decimal) :
    biasedExponent decimal + decimal.scale =
      128 + (Digits.ofNat decimal.mantissa.natAbs).length := by
  have scale := decimal.scale_le_56
  unfold biasedExponent TypeCode.decimalBias
  omega

theorem toNat_biasedExponent
    (decimal : Decimal) :
    (UInt8.ofNat (biasedExponent decimal)).toNat = biasedExponent decimal := by
  apply toNat_lengthByte
  have length := decimal.length_ofNat_mantissa_le
  unfold biasedExponent TypeCode.decimalBias maxMagnitudeBytes
  omega

/-- Multiples by powers of ten bring two decimals to one number of places; the
digits stored stay the same. -/
theorem stored_scaled
    (decimal : Decimal)
    (positive : 0 < decimal.mantissa.natAbs)
    (count : Nat) :
    Digits.stored (Digits.ofNat (decimal.mantissa.natAbs * 10 ^ count)) =
      Digits.stored (Digits.ofNat decimal.mantissa.natAbs) := by
  rw [Digits.ofNat_mul_pow positive, Digits.stored_append_zeros]

theorem length_scaled
    (decimal : Decimal)
    (positive : 0 < decimal.mantissa.natAbs)
    (count : Nat) :
    (Digits.ofNat (decimal.mantissa.natAbs * 10 ^ count)).length =
      (Digits.ofNat decimal.mantissa.natAbs).length + count := by
  rw [Digits.ofNat_mul_pow positive, List.length_append, List.length_replicate]

/-- Of two positive decimals the smaller has the digits that lie below. -/
theorem below_packDigits
    {left right : Decimal}
    (leftPositive : 0 < left.mantissa.natAbs)
    (rightPositive : 0 < right.mantissa.natAbs)
    (less : left.mantissa.natAbs * 10 ^ right.scale < right.mantissa.natAbs * 10 ^ left.scale) :
    Below (packDigits left) (packDigits right) := by
  have leftExponent := biasedExponent_add_scale left
  have rightExponent := biasedExponent_add_scale right
  have leftLength := length_scaled left leftPositive right.scale
  have rightLength := length_scaled right rightPositive left.scale
  rw [packDigits_eq, packDigits_eq]
  rcases lt_trichotomy (biasedExponent left) (biasedExponent right) with lower | equal | higher
  · apply Below.here
    rw [UInt8.lt_iff_toNat_lt, toNat_biasedExponent, toNat_biasedExponent]
    exact lower
  · rw [equal, ← stored_scaled left leftPositive right.scale,
      ← stored_scaled right rightPositive left.scale]
    apply Below.there
    apply Digits.below_stored (by omega)
    · exact fun digit => Digits.lt_ten_of_mem_ofNat
    · exact fun digit => Digits.lt_ten_of_mem_ofNat
    · rwa [Digits.value_ofNat, Digits.value_ofNat]
  · -- A greater exponent would make the left number the greater one.
    have leftScaled : 0 < left.mantissa.natAbs * 10 ^ right.scale := by positivity
    have leftBound := Digits.pow_length_ofNat_le leftScaled
    have rightBound := Digits.lt_pow_length_ofNat (right.mantissa.natAbs * 10 ^ left.scale)
    have longer := Nat.pow_le_pow_right (n := 10) (by decide)
      (show (Digits.ofNat (right.mantissa.natAbs * 10 ^ left.scale)).length + 1 ≤
        (Digits.ofNat (left.mantissa.natAbs * 10 ^ right.scale)).length by omega)
    rw [pow_succ] at longer
    omega

theorem packDigits_congr
    {left right : Decimal}
    (leftPositive : 0 < left.mantissa.natAbs)
    (rightPositive : 0 < right.mantissa.natAbs)
    (equal : left.mantissa.natAbs * 10 ^ right.scale = right.mantissa.natAbs * 10 ^ left.scale) :
    packDigits left = packDigits right := by
  have leftLength := length_scaled left leftPositive right.scale
  have rightLength := length_scaled right rightPositive left.scale
  have leftExponent := biasedExponent_add_scale left
  have rightExponent := biasedExponent_add_scale right
  rw [equal] at leftLength
  have sameExponent : biasedExponent left = biasedExponent right := by omega
  rw [packDigits_eq, packDigits_eq, sameExponent, ← stored_scaled left leftPositive right.scale,
    ← stored_scaled right rightPositive left.scale, equal]

/-- The two sides of a comparison of decimals, as natural numbers. -/
theorem natAbs_scaled
    (mantissa : Int)
    (count : Nat) :
    (mantissa * (Nat.pow 10 count : Nat)).natAbs = mantissa.natAbs * 10 ^ count := by
  rw [Int.natAbs_mul, Int.natAbs_natCast]
  rfl

theorem scaled_pos_iff
    (mantissa : Int)
    (count : Nat) :
    0 < mantissa * (Nat.pow 10 count : Nat) ↔ 0 < mantissa := by
  apply mul_pos_iff_of_pos_right
  exact_mod_cast Nat.pow_pos (by decide)

theorem scaled_neg_iff
    (mantissa : Int)
    (count : Nat) :
    mantissa * (Nat.pow 10 count : Nat) < 0 ↔ mantissa < 0 := by
  have negated := scaled_pos_iff (-mantissa) count
  rw [neg_mul] at negated
  omega

theorem packDecimal_of_zero
    {decimal : Decimal}
    (zero : decimal.mantissa = 0) :
    packDecimal decimal = [TypeCode.decimalZero] := by
  simp [packDecimal, Decimal.isZero, zero]

theorem packDecimal_of_neg
    {decimal : Decimal}
    (negative : decimal.mantissa < 0) :
    packDecimal decimal =
      TypeCode.decimalNegative :: Bytes.complement (packDigits decimal) := by
  simp [packDecimal, Decimal.isZero, Decimal.isNegative, negative, negative.ne]

theorem packDecimal_of_pos
    {decimal : Decimal}
    (positive : 0 < decimal.mantissa) :
    packDecimal decimal = TypeCode.decimalPositive :: packDigits decimal := by
  simp [packDecimal, Decimal.isZero, Decimal.isNegative, positive.ne', positive.le]

/-- The smaller decimal has the layout that lies below, whatever the numbers
of places are. -/
theorem below_packDecimal
    {left right : Decimal}
    (less : left.compare right = .lt) :
    Below (packDecimal left) (packDecimal right) := by
  have scaled := Std.compare_eq_lt.mp less
  have leftAbs := natAbs_scaled left.mantissa right.scale
  have rightAbs := natAbs_scaled right.mantissa left.scale
  have leftPos := scaled_pos_iff left.mantissa right.scale
  have leftNeg := scaled_neg_iff left.mantissa right.scale
  have rightPos := scaled_pos_iff right.mantissa left.scale
  have rightNeg := scaled_neg_iff right.mantissa left.scale
  rcases lt_trichotomy left.mantissa 0 with leftNegative | leftZero | leftPositive
  · rw [packDecimal_of_neg leftNegative]
    rcases lt_trichotomy right.mantissa 0 with rightNegative | rightZero | rightPositive
    · rw [packDecimal_of_neg rightNegative]
      apply Below.there
      apply Below.complement
      exact below_packDigits (by omega) (by omega) (by omega)
    · rw [packDecimal_of_zero rightZero]
      exact .here _ _ (by decide)
    · rw [packDecimal_of_pos rightPositive]
      exact .here _ _ (by decide)
  · have rightPositive : 0 < right.mantissa := by
      rw [leftZero, Int.zero_mul] at scaled
      exact rightPos.mp scaled
    rw [packDecimal_of_zero leftZero, packDecimal_of_pos rightPositive]
    exact .here _ _ (by decide)
  · have rightPositive : 0 < right.mantissa :=
      rightPos.mp ((leftPos.mpr leftPositive).trans scaled)
    rw [packDecimal_of_pos leftPositive, packDecimal_of_pos rightPositive]
    exact .there _ (below_packDigits (by omega) (by omega) (by omega))

/-- Equal decimals have one layout. -/
theorem packDecimal_congr
    {left right : Decimal}
    (equal : left.compare right = .eq) :
    packDecimal left = packDecimal right := by
  have scaled := Std.compare_eq_iff_eq.mp equal
  have leftAbs := natAbs_scaled left.mantissa right.scale
  have rightAbs := natAbs_scaled right.mantissa left.scale
  have leftPos := scaled_pos_iff left.mantissa right.scale
  have leftNeg := scaled_neg_iff left.mantissa right.scale
  have rightPos := scaled_pos_iff right.mantissa left.scale
  have rightNeg := scaled_neg_iff right.mantissa left.scale
  rw [scaled] at leftAbs leftPos leftNeg
  have digits
      (leftNonzero : 0 < left.mantissa.natAbs)
      (rightNonzero : 0 < right.mantissa.natAbs) : packDigits left = packDigits right :=
    packDigits_congr leftNonzero rightNonzero (leftAbs.symm.trans rightAbs)
  rcases lt_trichotomy left.mantissa 0 with leftNegative | leftZero | leftPositive
  · have rightNegative : right.mantissa < 0 := by omega
    rw [packDecimal_of_neg leftNegative, packDecimal_of_neg rightNegative,
      digits (by omega) (by omega)]
  · have rightZero : right.mantissa = 0 := by omega
    rw [packDecimal_of_zero leftZero, packDecimal_of_zero rightZero]
  · have rightPositive : 0 < right.mantissa := by omega
    rw [packDecimal_of_pos leftPositive, packDecimal_of_pos rightPositive,
      digits (by omega) (by omega)]

end Element
end Keyspace
