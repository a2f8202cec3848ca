import Keyspace.Proofs.Number.Doubles
import Mathlib

/-!
# Equal floats

Floats are equal as numbers if they have the same bits or are both zeros, and
both are numbers.  This holds of single precision floats too, which compare as
the doubles that they become.
-/

namespace Keyspace
namespace Double

open Float.Model.UnpackedFloat (isNaNBits pack_unpack unpackExponent_def unpackMantissa_def)

/-- The bits below the sign. -/
def unsigned (double : Double) : Nat :=
  double.bits.toNat % BinaryFormat.double.signBit

theorem value_eq_nan_iff
    (double : Double) :
    double.value = .nan ↔ BinaryFormat.double.infinityBits < double.unsigned :=
  BinaryFormat.double.decode_eq_nan_iff double.bits_lt

/-! ## Arithmetic on bits -/

theorem isNaNBits_iff
    (double : Double) :
    @isNaNBits .binary64 double.bits.toBitVec = true ↔ double.value = .nan := by
  have infinity : BinaryFormat.double.infinityBits = 2047 * 2 ^ 52 := by decide
  have sign : BinaryFormat.double.signBit = 2 ^ 63 := rfl
  rw [value_eq_nan_iff, unsigned, infinity, sign, isNaNBits, decide_eq_true_eq,
    unpackExponent_def, unpackMantissa_def, ne_eq, ← BitVec.toNat_inj, ← BitVec.toNat_inj,
    BitVec.extractLsb'_toNat, BitVec.extractLsb'_toNat]
  have ones : (-1#11).toNat = 2047 := by decide
  have zeros : (0#52).toNat = 0 := by decide
  change double.bits.toNat >>> 52 % 2 ^ 11 = (-1#11).toNat ∧
    ¬ double.bits.toNat >>> 0 % 2 ^ 52 = (0#52).toNat ↔ _
  rw [ones, zeros, Nat.shiftRight_eq_div_pow, Nat.shiftRight_zero]
  omega

/-- Arithmetic keeps all bits but those of a float that is no number. -/
theorem toBits_toFloat
    (double : Double) :
    double.toFloat.toBits =
      if double.value = .nan then Float.nan.toBits else double.bits := by
  have repacked := @pack_unpack .binary64 double.bits.toBitVec
  rw [UInt64.toBitVec_inj.symm]
  refine Eq.trans (repacked (by decide)) ?_
  rw [if_congr double.isNaNBits_iff rfl rfl]
  split <;> rfl

theorem toFloat_eq_nan_iff
    (double : Double) :
    double.toFloat = Float.nan ↔ double.value = .nan := by
  rw [← Float.toBits_inj, toBits_toFloat]
  by_cases notNumber : double.value = .nan
  · simp [notNumber]
  · rw [if_neg notNumber]
    refine iff_of_false (fun same => notNumber ?_) notNumber
    have stored : double = ⟨Float.nan.toBits⟩ := by
      cases double
      exact congrArg Double.mk same
    rw [stored]
    decide +kernel

theorem toFloat_inj
    {left right : Double}
    (leftIsNumber : left.value ≠ .nan)
    (rightIsNumber : right.value ≠ .nan) :
    left.toFloat = right.toFloat ↔ left = right := by
  rw [← Float.toBits_inj, toBits_toFloat, toBits_toFloat, if_neg leftIsNumber,
    if_neg rightIsNumber]
  cases left
  cases right
  simp

/-- Zero. -/
def zero : Double := ⟨0⟩

/-- Zero with the sign set. -/
def negativeZero : Double := ⟨0x8000000000000000⟩

theorem unsigned_eq_zero_iff
    (double : Double) :
    double.unsigned = 0 ↔ double = zero ∨ double = negativeZero := by
  have inRange := double.bits_lt
  have sign : BinaryFormat.double.signBit = 2 ^ 63 := rfl
  obtain ⟨bits⟩ := double
  simp only [unsigned, zero, negativeZero, Double.mk.injEq, ← UInt64.toNat_inj, UInt64.toNat_zero,
    sign] at inRange ⊢
  have half : (0x8000000000000000 : UInt64).toNat = 2 ^ 63 := rfl
  rw [half]
  omega

/-- Doubles are equal as numbers if they are one number, or zeros of any sign. -/
theorem sameNumber_iff
    {left right : Double} :
    left.sameNumber right = true ↔ left.value ≠ .nan ∧ right.value ≠ .nan ∧
      (left = right ∨ left.unsigned = 0 ∧ right.unsigned = 0) := by
  have zeroFloat : (0 : Float) = zero.toFloat := Float.toBits_inj.mp rfl
  have negativeFloat : (-0 : Float) = negativeZero.toFloat := Float.toBits_inj.mp rfl
  have zeroIsNumber : zero.value ≠ .nan := by decide +kernel
  have negativeIsNumber : negativeZero.value ≠ .nan := by decide +kernel
  rw [sameNumber, Float.beq_iff_ne_nan_and_eq, ne_eq, ne_eq, toFloat_eq_nan_iff,
    toFloat_eq_nan_iff]
  refine and_congr_right fun leftIsNumber => and_congr_right fun rightIsNumber => ?_
  rw [negativeFloat, zeroFloat, toFloat_inj leftIsNumber rightIsNumber,
    toFloat_inj leftIsNumber zeroIsNumber, toFloat_inj rightIsNumber zeroIsNumber,
    toFloat_inj leftIsNumber negativeIsNumber, toFloat_inj rightIsNumber negativeIsNumber,
    unsigned_eq_zero_iff, unsigned_eq_zero_iff]
  constructor
  · tauto
  · rintro (same | ⟨rfl | rfl, rfl | rfl⟩) <;> tauto

theorem unsigned_ofSigned
    (negative : Bool)
    {bits : Nat}
    (inRange : bits < 2 ^ 63) :
    (ofSigned negative bits).unsigned = bits := by
  have sign : BinaryFormat.double.signBit = 2 ^ 63 := rfl
  rw [unsigned, toNat_bits_ofSigned negative inRange, sign]
  split <;> omega

end Double

namespace Single

/-! ## Single precision -/

theorem Widens.eq_zero_iff
    {narrow wide : Nat}
    (widens : Widens narrow wide) :
    wide = 0 ↔ narrow = 0 := by
  cases widens with
  | finite _ _ same =>
      have wideZero := BinaryFormat.double.units_strictMono.injective.eq_iff (a := wide) (b := 0)
      have narrowZero := BinaryFormat.single.units_strictMono.injective.eq_iff
        (a := narrow) (b := 0)
      have noWide : BinaryFormat.double.units 0 = 0 := rfl
      have noNarrow : BinaryFormat.single.units 0 = 0 := rfl
      rw [← wideZero, ← narrowZero, same, noWide, noNarrow, Nat.mul_eq_zero,
        or_iff_left (Nat.two_pow_pos _).ne']
  | infinite => decide
  | nan narrowNaN wideNaN => omega

theorem Widens.nan_iff
    {narrow wide : Nat}
    (widens : Widens narrow wide) :
    BinaryFormat.double.infinityBits < wide ↔ BinaryFormat.single.infinityBits < narrow := by
  cases widens <;> omega

theorem unsigned_toDouble_eq_zero_iff
    (single : Single) :
    single.toDouble.unsigned = 0 ↔ single.unsigned = 0 := by
  obtain ⟨wide, inRange, widened, widens⟩ := exists_widened single
  rw [widened, Double.unsigned_ofSigned _ inRange, widens.eq_zero_iff]

theorem value_toDouble_eq_nan_iff
    (single : Single) :
    single.toDouble.value = .nan ↔ single.value = .nan := by
  obtain ⟨wide, inRange, widened, widens⟩ := exists_widened single
  rw [Double.value_eq_nan_iff, value_eq_nan_iff, widened, Double.unsigned_ofSigned _ inRange,
    widens.nan_iff]

theorem toDouble_inj
    {left right : Single}
    (isNumber : left.value ≠ .nan) :
    left.toDouble = right.toDouble ↔ left = right := by
  refine ⟨fun same => ?_, congrArg toDouble⟩
  have places := compareTotal_toDouble (.inl isNumber : left.value ≠ .nan ∨ right.value ≠ .nan)
  rw [same, Double.compareTotal, Std.compare_self, compareTotal] at places
  exact eq_of_totalPlace_eq (Std.compare_eq_iff_eq.mp places.symm)

/-- Floats are equal as numbers if they are one number, or zeros of any sign. -/
theorem sameNumber_iff
    {left right : Single} :
    left.sameNumber right = true ↔ left.value ≠ .nan ∧ right.value ≠ .nan ∧
      (left = right ∨ left.unsigned = 0 ∧ right.unsigned = 0) := by
  rw [sameNumber, Double.sameNumber_iff, ne_eq, ne_eq, value_toDouble_eq_nan_iff,
    value_toDouble_eq_nan_iff, unsigned_toDouble_eq_zero_iff, unsigned_toDouble_eq_zero_iff]
  exact and_congr_right fun leftIsNumber => by rw [toDouble_inj leftIsNumber]

end Single
end Keyspace
