import Keyspace.Number.Binary
import Mathlib.Data.Int.Log
import Mathlib.Data.Rat.Floor
import Mathlib.Order.Monotone.Basic
import Mathlib.Tactic.FieldSimp
import Mathlib.Tactic.Linarith
import Mathlib.Tactic.Positivity
import Mathlib.Tactic.Ring

/-!
# Rounding to binary floats

Rounding keeps the order of quotients, and does not change a quotient that a
format can hold.  The bits of a float without its sign count the floats below
it, so both are said of bits: greater quotients have greater bits, and the bits
of a quotient that a format can hold stand for just that quotient.
-/

namespace Keyspace

/-! ## Rounded quotients -/

namespace Digits

/-- Whether a number is a quotient rounded to the nearest integer, halves to the
even neighbour. -/
structure Rounds (numerator denominator rounded : Nat) : Prop where
  /-- At most one half was taken away. -/
  below : 2 * numerator ≤ (2 * rounded + 1) * denominator
  /-- At most one half was added. -/
  above : 2 * rounded * denominator ≤ 2 * numerator + denominator
  /-- Only an even number is one half below the quotient. -/
  evenBelow : 2 * numerator = (2 * rounded + 1) * denominator -> rounded % 2 = 0
  /-- Only an even number is one half above the quotient. -/
  evenAbove : 2 * rounded * denominator = 2 * numerator + denominator -> rounded % 2 = 0

theorem rounds_roundHalfEven
    {denominator : Nat}
    (numerator : Nat)
    (positive : 0 < denominator) :
    Rounds numerator denominator (roundHalfEven numerator denominator) := by
  have divided := Nat.div_add_mod numerator denominator
  have small := Nat.mod_lt numerator positive
  unfold roundHalfEven
  generalize numerator / denominator = quotient at *
  generalize numerator % denominator = rest at *
  subst divided
  dsimp only
  split
  case isTrue less =>
    refine ⟨by linarith, by linarith, fun tie => absurd tie ?_, fun tie => absurd tie ?_⟩
    · exact ne_of_lt (by linarith)
    · exact ne_of_lt (by linarith)
  case isFalse notLess =>
    split
    case isTrue greater =>
      refine ⟨by linarith, by linarith, fun tie => absurd tie ?_, fun tie => absurd tie ?_⟩
      · exact ne_of_lt (by linarith)
      · exact ne_of_lt (by linarith)
    case isFalse notGreater =>
      have half : 2 * rest = denominator := by omega
      split
      case isTrue even => exact ⟨by linarith, by linarith, fun _ => even, fun _ => even⟩
      case isFalse odd =>
        refine ⟨by linarith, by linarith, fun _ => by omega, fun _ => by omega⟩

theorem Rounds.mono
    {numerator denominator rounded otherNumerator otherDenominator otherRounded : Nat}
    (rounds : Rounds numerator denominator rounded)
    (otherRounds : Rounds otherNumerator otherDenominator otherRounded)
    (positive : 0 < denominator)
    (otherPositive : 0 < otherDenominator)
    (ordered : numerator * otherDenominator ≤ otherNumerator * denominator) :
    rounded ≤ otherRounded := by
  by_contra! less
  have above := Nat.mul_le_mul_right otherDenominator rounds.above
  have below := Nat.mul_le_mul_right denominator otherRounds.below
  have product : 0 < denominator * otherDenominator := Nat.mul_pos positive otherPositive
  -- The two can only cross at a half that both of them round.
  have next : rounded = otherRounded + 1 := by
    by_contra! far
    have apart : otherRounded + 2 ≤ rounded := by omega
    nlinarith [Nat.mul_le_mul_right (denominator * otherDenominator) apart]
  subst next
  have tie : 2 * (otherRounded + 1) * denominator = 2 * numerator + denominator := by
    refine le_antisymm rounds.above (Nat.le_of_mul_le_mul_right ?_ otherPositive)
    linarith
  have otherTie : 2 * otherNumerator = (2 * otherRounded + 1) * otherDenominator := by
    refine le_antisymm otherRounds.below (Nat.le_of_mul_le_mul_right ?_ positive)
    linarith
  have even := rounds.evenAbove tie
  have otherEven := otherRounds.evenBelow otherTie
  omega

theorem rounds_self
    (number : Nat) :
    Rounds number 1 number := by
  constructor <;> intros <;> omega

end Digits

namespace BinaryFormat

/-! ## Binary logarithms -/

theorem two_zpow_pos
    (exponent : Int) :
    (0 : ℚ) < 2 ^ exponent :=
  zpow_pos two_pos exponent

theorem two_zpow_eq
    (exponent : Int) :
    (2 : ℚ) ^ exponent = 2 ^ exponent.toNat / 2 ^ (-exponent).toNat := by
  rcases le_total 0 exponent with nonnegative | nonpositive
  · obtain ⟨size, rfl⟩ := Int.eq_ofNat_of_zero_le nonnegative
    simp
  · obtain ⟨size, same⟩ := Int.eq_ofNat_of_zero_le (Int.neg_nonneg_of_nonpos nonpositive)
    obtain rfl : exponent = -(size : Int) := by omega
    simp

theorem div_zpow_eq
    (numerator denominator : Nat)
    (exponent : Int) :
    (numerator / denominator : ℚ) / 2 ^ exponent =
      (numerator * 2 ^ (-exponent).toNat : Nat) / (denominator * 2 ^ exponent.toNat : Nat) := by
  rw [two_zpow_eq, div_div_div_eq]
  push_cast
  rfl

/-- A multiple of a power of two is at most a quotient if this holds of natural
numbers. -/
theorem mul_zpow_le_div_iff
    {denominator : Nat}
    (numerator : Nat)
    (positive : 0 < denominator)
    (count : Nat)
    (exponent : Int) :
    (count : ℚ) * 2 ^ exponent ≤ numerator / denominator ↔
      count * (denominator * 2 ^ exponent.toNat) ≤ numerator * 2 ^ (-exponent).toNat := by
  have scaled : 0 < denominator * 2 ^ exponent.toNat := Nat.mul_pos positive (Nat.two_pow_pos _)
  rw [← le_div_iff₀ (two_zpow_pos exponent), div_zpow_eq,
    le_div_iff₀ (Nat.cast_pos.mpr scaled)]
  exact_mod_cast Iff.rfl

theorem div_le_mul_zpow_iff
    {denominator : Nat}
    (numerator : Nat)
    (positive : 0 < denominator)
    (count : Nat)
    (exponent : Int) :
    (numerator / denominator : ℚ) ≤ count * 2 ^ exponent ↔
      numerator * 2 ^ (-exponent).toNat ≤ count * (denominator * 2 ^ exponent.toNat) := by
  have scaled : 0 < denominator * 2 ^ exponent.toNat := Nat.mul_pos positive (Nat.two_pow_pos _)
  rw [← div_le_iff₀ (two_zpow_pos exponent), div_zpow_eq,
    div_le_iff₀ (Nat.cast_pos.mpr scaled)]
  exact_mod_cast Iff.rfl

theorem two_zpow_log2_le
    {number : Nat}
    (positive : 0 < number) :
    (2 : ℚ) ^ (number.log2 : Int) ≤ number := by
  exact_mod_cast Nat.log2_self_le positive.ne'

theorem lt_two_zpow_log2
    (number : Nat) :
    (number : ℚ) < 2 ^ ((number.log2 : Int) + 1) := by
  have less : number < 2 ^ (number.log2 + 1) := Nat.lt_log2_self
  exact_mod_cast less

theorem two_zpow_le_iff_le_log
    {exponent : Int}
    {ratio : ℚ}
    (positive : 0 < ratio) :
    2 ^ exponent ≤ ratio ↔ exponent ≤ Int.log 2 ratio :=
  Int.zpow_le_iff_le_log (b := 2) (by decide) positive

theorem lt_two_zpow_iff_log_lt
    {exponent : Int}
    {ratio : ℚ}
    (positive : 0 < ratio) :
    ratio < 2 ^ exponent ↔ Int.log 2 ratio < exponent :=
  Int.lt_zpow_iff_log_lt (b := 2) (by decide) positive

theorem log2_sub_log2_le_log
    {numerator denominator : Nat}
    (numeratorPositive : 0 < numerator)
    (positive : 0 < denominator) :
    (numerator.log2 : Int) - denominator.log2 - 1 ≤
      Int.log 2 (numerator / denominator : ℚ) := by
  have numeratorRat : (0 : ℚ) < numerator := by exact_mod_cast numeratorPositive
  have positiveRat : (0 : ℚ) < denominator := by exact_mod_cast positive
  rw [← two_zpow_le_iff_le_log (div_pos numeratorRat positiveRat), le_div_iff₀ positiveRat]
  calc (2 : ℚ) ^ ((numerator.log2 : Int) - denominator.log2 - 1) * denominator
      ≤ 2 ^ ((numerator.log2 : Int) - denominator.log2 - 1) *
          2 ^ ((denominator.log2 : Int) + 1) := by
        exact mul_le_mul_of_nonneg_left (lt_two_zpow_log2 denominator).le (two_zpow_pos _).le
    _ = 2 ^ (numerator.log2 : Int) := by
        rw [← zpow_add₀ (by decide)]
        congr 1
        ring
    _ ≤ numerator := two_zpow_log2_le numeratorPositive

theorem log_lt_log2_sub_log2
    {numerator denominator : Nat}
    (numeratorPositive : 0 < numerator)
    (positive : 0 < denominator) :
    Int.log 2 (numerator / denominator : ℚ) < (numerator.log2 : Int) - denominator.log2 + 1 := by
  have numeratorRat : (0 : ℚ) < numerator := by exact_mod_cast numeratorPositive
  have positiveRat : (0 : ℚ) < denominator := by exact_mod_cast positive
  rw [← lt_two_zpow_iff_log_lt (div_pos numeratorRat positiveRat), div_lt_iff₀ positiveRat]
  calc (numerator : ℚ)
      < 2 ^ ((numerator.log2 : Int) + 1) := lt_two_zpow_log2 numerator
    _ = 2 ^ ((numerator.log2 : Int) - denominator.log2 + 1) * 2 ^ (denominator.log2 : Int) := by
        rw [← zpow_add₀ (by decide)]
        congr 1
        ring
    _ ≤ 2 ^ ((numerator.log2 : Int) - denominator.log2 + 1) * denominator := by
        exact mul_le_mul_of_nonneg_left (two_zpow_log2_le positive) (two_zpow_pos _).le

theorem floorLog2_eq_log
    {numerator denominator : Nat}
    (numeratorPositive : 0 < numerator)
    (positive : 0 < denominator) :
    floorLog2 numerator denominator = Int.log 2 (numerator / denominator : ℚ) := by
  have numeratorRat : (0 : ℚ) < numerator := by exact_mod_cast numeratorPositive
  have positiveRat : (0 : ℚ) < denominator := by exact_mod_cast positive
  -- The logarithms of numerator and denominator leave two candidates.
  have least := log2_sub_log2_le_log numeratorPositive positive
  have greatest := log_lt_log2_sub_log2 numeratorPositive positive
  have tested := mul_zpow_le_div_iff numerator positive 1
    ((numerator.log2 : Int) - denominator.log2)
  rw [Nat.cast_one, one_mul, one_mul,
    two_zpow_le_iff_le_log (div_pos numeratorRat positiveRat)] at tested
  unfold floorLog2
  simp only [Nat.pow_eq]
  split
  case isTrue reached => exact le_antisymm (tested.mpr reached) (Int.lt_add_one_iff.mp greatest)
  case isFalse missed =>
    have below := fun reached => missed (tested.mp reached)
    omega

/-! ## The nearest float -/

section Nearest

variable (format : BinaryFormat) {numerator denominator : Nat}

/-- The exponent of the last bit that a format keeps of a quotient. -/
def lastExponent (numerator denominator : Nat) : Int :=
  max (floorLog2 numerator denominator - format.fractionBits) format.leastExponent

/-- The digits that a format keeps of a quotient, as an integer. -/
def keptDigits (numerator denominator : Nat) : Nat :=
  let exponent := format.lastExponent numerator denominator
  Digits.roundHalfEven (numerator * 2 ^ (-exponent).toNat) (denominator * 2 ^ exponent.toNat)

/-- How far the last bit kept is above the last bit of the smallest floats. -/
def lift (numerator denominator : Nat) : Nat :=
  (format.lastExponent numerator denominator - format.leastExponent).toNat

theorem lastExponent_eq
    (numerator denominator : Nat) :
    format.lastExponent numerator denominator =
      format.leastExponent + format.lift numerator denominator := by
  rw [lift, lastExponent]
  omega

theorem nearest_eq
    (numeratorPositive : 0 < numerator) :
    format.nearest numerator denominator =
      min format.infinityBits (format.lift numerator denominator * 2 ^ format.fractionBits +
        format.keptDigits numerator denominator) :=
  if_neg numeratorPositive.ne'

theorem rounds_keptDigits
    (numerator : Nat)
    (positive : 0 < denominator) :
    Digits.Rounds
      (numerator * 2 ^ (-format.lastExponent numerator denominator).toNat)
      (denominator * 2 ^ (format.lastExponent numerator denominator).toNat)
      (format.keptDigits numerator denominator) :=
  Digits.rounds_roundHalfEven _ (Nat.mul_pos positive (Nat.two_pow_pos _))

/-- What a power of two times a number of digits is at most, has at least so many
digits kept. -/
theorem le_keptDigits_of_le
    {count : Nat}
    (positive : 0 < denominator)
    (reached : (count : ℚ) * 2 ^ format.lastExponent numerator denominator ≤
      numerator / denominator) :
    count ≤ format.keptDigits numerator denominator := by
  rw [mul_zpow_le_div_iff _ positive] at reached
  refine (Digits.rounds_self count).mono (format.rounds_keptDigits _ positive) one_pos
    (Nat.mul_pos positive (Nat.two_pow_pos _)) ?_
  rwa [mul_one]

theorem keptDigits_le_of_le
    {count : Nat}
    (positive : 0 < denominator)
    (missed : (numerator / denominator : ℚ) ≤
      count * 2 ^ format.lastExponent numerator denominator) :
    format.keptDigits numerator denominator ≤ count := by
  rw [div_le_mul_zpow_iff _ positive] at missed
  refine (format.rounds_keptDigits _ positive).mono (Digits.rounds_self count)
    (Nat.mul_pos positive (Nat.two_pow_pos _)) one_pos ?_
  rwa [mul_one]

theorem keptDigits_le
    (numeratorPositive : 0 < numerator)
    (positive : 0 < denominator) :
    format.keptDigits numerator denominator ≤ 2 ^ (format.fractionBits + 1) := by
  refine format.keptDigits_le_of_le positive ?_
  have ratio : (0 : ℚ) < numerator / denominator := by positivity
  have shape : ((2 ^ (format.fractionBits + 1) : Nat) : ℚ) *
      2 ^ format.lastExponent numerator denominator =
        2 ^ ((format.fractionBits + 1 : Int) + format.lastExponent numerator denominator) := by
    rw [zpow_add₀ two_ne_zero]
    norm_cast
  refine le_of_lt ?_
  rw [shape, lt_two_zpow_iff_log_lt ratio, ← floorLog2_eq_log numeratorPositive positive,
    lastExponent]
  omega

theorem le_keptDigits
    (numeratorPositive : 0 < numerator)
    (positive : 0 < denominator)
    (lifted : format.lift numerator denominator ≠ 0) :
    2 ^ format.fractionBits ≤ format.keptDigits numerator denominator := by
  refine format.le_keptDigits_of_le positive ?_
  have ratio : (0 : ℚ) < numerator / denominator := by positivity
  have shape : ((2 ^ format.fractionBits : Nat) : ℚ) *
      2 ^ format.lastExponent numerator denominator =
        2 ^ ((format.fractionBits : Int) + format.lastExponent numerator denominator) := by
    rw [zpow_add₀ two_ne_zero]
    norm_cast
  rw [lift, lastExponent] at lifted
  rw [shape, two_zpow_le_iff_le_log ratio, ← floorLog2_eq_log numeratorPositive positive,
    lastExponent]
  omega

theorem lift_mono
    {otherNumerator otherDenominator : Nat}
    (numeratorPositive : 0 < numerator)
    (positive : 0 < denominator)
    (otherPositive : 0 < otherDenominator)
    (ordered : numerator * otherDenominator ≤ otherNumerator * denominator) :
    format.lift numerator denominator ≤ format.lift otherNumerator otherDenominator := by
  have otherNumeratorPositive : 0 < otherNumerator :=
    Nat.pos_of_mul_pos_right ((Nat.mul_pos numeratorPositive otherPositive).trans_le ordered)
  have ratio : (0 : ℚ) < numerator / denominator := by positivity
  have quotients : (numerator / denominator : ℚ) ≤ otherNumerator / otherDenominator := by
    rw [div_le_div_iff₀ (by positivity) (by positivity)]
    exact_mod_cast ordered
  have logs := Int.log_mono_right (b := 2) ratio quotients
  rw [← floorLog2_eq_log numeratorPositive positive,
    ← floorLog2_eq_log otherNumeratorPositive otherPositive] at logs
  rw [lift, lift, lastExponent, lastExponent]
  omega

theorem keptDigits_mono
    {otherNumerator otherDenominator : Nat}
    (positive : 0 < denominator)
    (otherPositive : 0 < otherDenominator)
    (level : format.lift numerator denominator = format.lift otherNumerator otherDenominator)
    (ordered : numerator * otherDenominator ≤ otherNumerator * denominator) :
    format.keptDigits numerator denominator ≤
      format.keptDigits otherNumerator otherDenominator := by
  have rounds := format.rounds_keptDigits numerator positive
  have otherRounds := format.rounds_keptDigits otherNumerator otherPositive
  rw [lastExponent_eq, ← level, ← lastExponent_eq] at otherRounds
  refine rounds.mono otherRounds (by positivity) (by positivity) ?_
  rw [mul_mul_mul_comm, mul_mul_mul_comm otherNumerator]
  exact Nat.mul_le_mul_right _ ordered

/-- Rounding keeps the order of quotients. -/
theorem nearest_mono
    {otherNumerator otherDenominator : Nat}
    (positive : 0 < denominator)
    (otherPositive : 0 < otherDenominator)
    (ordered : numerator * otherDenominator ≤ otherNumerator * denominator) :
    format.nearest numerator denominator ≤ format.nearest otherNumerator otherDenominator := by
  rcases Nat.eq_zero_or_pos numerator with rfl | numeratorPositive
  · exact Nat.zero_le _
  have otherNumeratorPositive : 0 < otherNumerator :=
    Nat.pos_of_mul_pos_right ((Nat.mul_pos numeratorPositive otherPositive).trans_le ordered)
  rw [format.nearest_eq numeratorPositive, format.nearest_eq otherNumeratorPositive]
  refine min_le_min_left _ ?_
  rcases (format.lift_mono numeratorPositive positive otherPositive ordered).eq_or_lt with
    level | raised
  · rw [level]
    exact Nat.add_le_add_left (format.keptDigits_mono positive otherPositive level ordered) _
  · -- One exponent further up begins where the digits kept below end.
    have most := format.keptDigits_le numeratorPositive positive
    have least := format.le_keptDigits otherNumeratorPositive otherPositive (by omega)
    have steps := Nat.mul_le_mul_right (2 ^ format.fractionBits) (Nat.succ_le_of_lt raised)
    rw [Nat.succ_mul] at steps
    rw [pow_succ] at most
    omega

end Nearest

/-! ## What bits stand for -/

section Units

variable (format : BinaryFormat)

/-- What the bits of a float without its sign stand for, counted in units of the
smallest float. -/
def units (bits : Nat) : Nat :=
  if bits < 2 ^ format.fractionBits then bits
  else
    (2 ^ format.fractionBits + bits % 2 ^ format.fractionBits) *
      2 ^ (bits / 2 ^ format.fractionBits - 1)

/-- Digits that are lifted stand for a multiple of a power of two. -/
theorem units_lifted
    {lift digits : Nat}
    (full : lift ≠ 0 -> 2 ^ format.fractionBits ≤ digits)
    (fit : digits ≤ 2 ^ (format.fractionBits + 1)) :
    format.units (lift * 2 ^ format.fractionBits + digits) = digits * 2 ^ lift := by
  have positive := Nat.two_pow_pos format.fractionBits
  rw [pow_succ] at fit
  unfold units
  generalize 2 ^ format.fractionBits = size at *
  rcases lt_or_ge digits size with short | long
  · obtain rfl : lift = 0 := by
      by_contra lifted
      exact absurd (full lifted) (by omega)
    simp [short]
  · obtain ⟨fraction, rfl⟩ := Nat.exists_eq_add_of_le long
    have regrouped : lift * size + (size + fraction) = fraction + size * (lift + 1) := by ring
    rw [regrouped, if_neg (by nlinarith), Nat.add_mul_mod_self_left,
      Nat.add_mul_div_left _ _ positive]
    rcases (show fraction ≤ size by omega).lt_or_eq with inside | rfl
    · rw [Nat.mod_eq_of_lt inside, Nat.div_eq_of_lt inside]
      congr 2
      omega
    · rw [Nat.mod_self, Nat.div_self positive, show 1 + (lift + 1) - 1 = lift + 1 by omega]
      ring

/-- All bits are digits that are lifted. -/
theorem exists_lifted
    (bits : Nat) :
    ∃ lift digits, bits = lift * 2 ^ format.fractionBits + digits ∧
      (lift ≠ 0 -> 2 ^ format.fractionBits ≤ digits) ∧
      digits < 2 ^ (format.fractionBits + 1) := by
  have positive := Nat.two_pow_pos format.fractionBits
  have divided := Nat.div_add_mod' bits (2 ^ format.fractionBits)
  have inside := Nat.mod_lt bits positive
  rw [pow_succ]
  rcases Nat.eq_zero_or_pos (bits / 2 ^ format.fractionBits) with zero | more
  · exact ⟨0, bits, by simp, by simp, by rw [zero] at divided; omega⟩
  · obtain ⟨lift, above⟩ := Nat.exists_eq_add_of_lt more
    rw [above] at divided
    refine ⟨lift, 2 ^ format.fractionBits + bits % 2 ^ format.fractionBits, ?_, ?_, ?_⟩
    · linarith
    · exact fun _ => Nat.le_add_right _ _
    · omega

/-- Greater bits stand for greater numbers. -/
theorem units_strictMono : StrictMono format.units := by
  refine strictMono_nat_of_lt_succ fun bits => ?_
  obtain ⟨lift, digits, rfl, full, fit⟩ := format.exists_lifted bits
  rw [add_assoc, format.units_lifted full fit.le,
    format.units_lifted (fun lifted => (full lifted).trans (Nat.le_succ _)) fit]
  exact Nat.mul_lt_mul_of_pos_right (Nat.lt_succ_self _) (Nat.two_pow_pos _)

end Units

/-! ## Quotients that a format can hold -/

section Held

variable
  (format : BinaryFormat)
  {numerator denominator digits : Nat}
  {exponent : Int}

/-- No digit lies below the last one that is kept. -/
theorem lastExponent_le_of_held
    (numeratorPositive : 0 < numerator)
    (positive : 0 < denominator)
    (fit : digits < 2 ^ (format.fractionBits + 1))
    (least : format.leastExponent ≤ exponent)
    (held : (numerator / denominator : ℚ) = digits * 2 ^ exponent) :
    format.lastExponent numerator denominator ≤ exponent := by
  have ratio : (0 : ℚ) < numerator / denominator := by positivity
  have small : (numerator / denominator : ℚ) <
      2 ^ ((format.fractionBits + 1 : Int) + exponent) := by
    rw [held, zpow_add₀ two_ne_zero]
    refine mul_lt_mul_of_pos_right ?_ (two_zpow_pos exponent)
    exact_mod_cast fit
  rw [lt_two_zpow_iff_log_lt ratio, ← floorLog2_eq_log numeratorPositive positive] at small
  rw [lastExponent]
  omega

theorem keptDigits_of_held
    (positive : 0 < denominator)
    (kept : format.lastExponent numerator denominator ≤ exponent)
    (held : (numerator / denominator : ℚ) = digits * 2 ^ exponent) :
    format.keptDigits numerator denominator =
      digits * 2 ^ (exponent - format.lastExponent numerator denominator).toNat := by
  have whole : (numerator / denominator : ℚ) =
      (digits * 2 ^ (exponent - format.lastExponent numerator denominator).toNat : Nat) *
        2 ^ format.lastExponent numerator denominator := by
    rw [held]
    push_cast
    rw [mul_assoc, ← zpow_natCast, ← zpow_add₀ two_ne_zero]
    congr 2
    omega
  exact le_antisymm (format.keptDigits_le_of_le positive whole.le)
    (format.le_keptDigits_of_le positive whole.ge)

/-- A quotient that a format can hold is not changed. -/
theorem units_nearest
    (positive : 0 < denominator)
    (fit : digits < 2 ^ (format.fractionBits + 1))
    (least : format.leastExponent ≤ exponent)
    (finite : exponent + 4 ≤ format.leastExponent + 2 ^ format.exponentBits)
    (held : (numerator / denominator : ℚ) = digits * 2 ^ exponent) :
    format.nearest numerator denominator < format.infinityBits ∧
      format.units (format.nearest numerator denominator) =
        digits * 2 ^ (exponent - format.leastExponent).toNat := by
  have size := Nat.two_pow_pos format.fractionBits
  have fields : (((2 ^ format.exponentBits : Nat) : Int)) = 2 ^ format.exponentBits := by
    norm_cast
  have infinity : format.infinityBits =
      (2 ^ format.exponentBits - 1) * 2 ^ format.fractionBits := rfl
  rcases Nat.eq_zero_or_pos numerator with rfl | numeratorPositive
  · have none : digits = 0 := by
      rw [Nat.cast_zero, zero_div] at held
      simpa [(two_zpow_pos exponent).ne'] using held.symm
    rw [none, zero_mul, infinity]
    exact ⟨Nat.mul_pos (by omega) size, if_pos size⟩
  have kept := format.lastExponent_le_of_held numeratorPositive positive fit least held
  have most := format.keptDigits_le numeratorPositive positive
  have lifts := format.lastExponent_eq numerator denominator
  have room : format.lift numerator denominator + 2 < 2 ^ format.exponentBits - 1 := by omega
  have below : format.lift numerator denominator * 2 ^ format.fractionBits +
      format.keptDigits numerator denominator < format.infinityBits := by
    have steps := Nat.mul_lt_mul_of_pos_right room size
    rw [pow_succ] at most
    rw [infinity]
    linarith
  rw [format.nearest_eq numeratorPositive, min_eq_right below.le]
  refine ⟨below, ?_⟩
  rw [format.units_lifted (format.le_keptDigits numeratorPositive positive) most,
    format.keptDigits_of_held positive kept held, mul_assoc, ← pow_add]
  congr 2
  omega

theorem units_nearestScaled
    (fit : digits < 2 ^ (format.fractionBits + 1))
    (least : format.leastExponent ≤ exponent)
    (finite : exponent + 4 ≤ format.leastExponent + 2 ^ format.exponentBits) :
    format.nearestScaled digits exponent < format.infinityBits ∧
      format.units (format.nearestScaled digits exponent) =
        digits * 2 ^ (exponent - format.leastExponent).toNat := by
  refine format.units_nearest (Nat.two_pow_pos _) fit least finite ?_
  rw [two_zpow_eq, ← mul_div_assoc, Nat.pow_eq, Nat.pow_eq]
  push_cast
  rfl

end Held

/-! ## Reading bits -/

section Decode

variable (format : BinaryFormat) {bits : Nat}

theorem decode_of_infinite
    (inRange : bits < 2 * format.signBit)
    (infinite : bits % format.signBit = format.infinityBits) :
    format.decode bits = .infinite (decide (format.signBit ≤ bits)) := by
  unfold decode
  dsimp only
  rw [if_pos infinite, Nat.mod_eq_of_lt inRange]

theorem decode_of_nan
    (notNumber : format.infinityBits < bits % format.signBit) :
    format.decode bits = .nan := by
  unfold decode
  dsimp only
  rw [if_neg notNumber.ne', if_pos notNumber]

/-- The digits and the exponent of a float are those that its bits stand for. -/
theorem decode_of_finite
    (inRange : bits < 2 * format.signBit)
    (finite : bits % format.signBit < format.infinityBits) :
    ∃ digits exponent,
      format.decode bits = .finite (decide (format.signBit ≤ bits)) digits exponent ∧
        digits < 2 ^ (format.fractionBits + 1) ∧
        format.leastExponent ≤ exponent ∧
        exponent + 2 ≤ format.leastExponent + 2 ^ format.exponentBits ∧
        format.units (bits % format.signBit) =
          digits * 2 ^ (exponent - format.leastExponent).toNat := by
  have size := Nat.two_pow_pos format.fractionBits
  unfold decode
  dsimp only
  rw [if_neg finite.ne, if_neg finite.not_gt, Nat.mod_eq_of_lt inRange]
  simp only [Nat.pow_eq]
  have inside := Nat.mod_lt (bits % format.signBit) size
  have divided := Nat.div_add_mod' (bits % format.signBit) (2 ^ format.fractionBits)
  generalize bits % format.signBit = unsigned at *
  have fieldSmall : unsigned / 2 ^ format.fractionBits < 2 ^ format.exponentBits - 1 :=
    Nat.div_lt_of_lt_mul (by rw [mul_comm]; exact finite)
  have fields : (((2 ^ format.exponentBits : Nat) : Int)) = 2 ^ format.exponentBits := by
    norm_cast
  unfold units
  rw [pow_succ]
  by_cases small : unsigned < 2 ^ format.fractionBits
  · have least : unsigned / 2 ^ format.fractionBits = 0 := Nat.div_eq_of_lt small
    refine ⟨_, _, if_pos least, by omega, le_refl _, by omega, ?_⟩
    rw [if_pos small, Nat.mod_eq_of_lt small]
    simp
  · have more : unsigned / 2 ^ format.fractionBits ≠ 0 :=
      fun least => small ((Nat.div_eq_zero_iff_lt size).mp least)
    rw [if_neg small]
    generalize unsigned / 2 ^ format.fractionBits = field at *
    refine ⟨_, _, if_neg more, by omega, by omega, by omega, ?_⟩
    congr 2
    omega

theorem decode_eq_nan_iff
    (inRange : bits < 2 * format.signBit) :
    format.decode bits = .nan ↔ format.infinityBits < bits % format.signBit := by
  rcases lt_trichotomy (bits % format.signBit) format.infinityBits with
    finite | infinite | notNumber
  · obtain ⟨digits, exponent, decoded, _⟩ := format.decode_of_finite inRange finite
    simp [decoded, finite.le]
  · simp [format.decode_of_infinite inRange infinite, infinite]
  · simp [format.decode_of_nan notNumber, notNumber]

end Decode

end BinaryFormat
end Keyspace
