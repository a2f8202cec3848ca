import Keyspace.Number.Digits
import Keyspace.Proofs.Bytes.Order
import Mathlib.Data.List.DropRight

/-!
# Stored digits

A decimal is stored with its digits from the most significant one down to the
last one that is not zero, each shifted by one, and a closing zero byte.  For
equally many digits this layout keeps the order of the numbers, and zeros at
the end make no difference to it.
-/

namespace Keyspace
namespace Digits

theorem upward_eq_digits
    {fuel value : Nat}
    (enough : value < 2 ^ fuel) :
    upward fuel value = Nat.digits 10 value := by
  induction fuel generalizing value with
  | zero =>
      have zero : value = 0 := by simpa using enough
      simp [zero, upward]
  | succ fuel inductionHypothesis =>
      rw [upward]
      split
      · next zero => simp [zero]
      · next nonzero =>
          rw [pow_succ] at enough
          rw [inductionHypothesis (by omega)]
          exact (Nat.digits_def' (by decide) (Nat.pos_of_ne_zero nonzero)).symm

/-- The digits of a number are those of the library. -/
theorem lowFirst_eq_digits
    (value : Nat) :
    lowFirst value = Nat.digits 10 value :=
  upward_eq_digits Nat.lt_log2_self

/-! ## Values of digits -/

/-- The number that digits stand for, the most significant first. -/
def value (digits : List Nat) : Nat :=
  Nat.ofDigits 10 digits.reverse

@[simp] theorem value_nil : value [] = 0 := rfl

theorem value_cons
    (digit : Nat)
    (digits : List Nat) :
    value (digit :: digits) = digit * 10 ^ digits.length + value digits := by
  simp only [value, List.reverse_cons, Nat.ofDigits_append, Nat.ofDigits_singleton,
    List.length_reverse]
  ring

theorem value_append_zeros
    (digits : List Nat)
    (count : Nat) :
    value (digits ++ List.replicate count 0) = value digits * 10 ^ count := by
  induction digits with
  | nil => simp [value, Nat.ofDigits_replicate_zero]
  | cons digit digits inductionHypothesis =>
      rw [List.cons_append, value_cons, value_cons, inductionHypothesis, List.length_append,
        List.length_replicate, pow_add]
      ring

theorem value_lt
    {digits : List Nat}
    (small : ∀ digit ∈ digits, digit < 10) :
    value digits < 10 ^ digits.length := by
  have bound := Nat.ofDigits_lt_base_pow_length (b := 10) (l := digits.reverse) (by decide)
    (by simpa using small)
  simpa [value] using bound

@[simp] theorem value_ofNat
    (number : Nat) :
    value (ofNat number) = number := by
  simp [value, ofNat, lowFirst_eq_digits, Nat.ofDigits_digits]

theorem lt_ten_of_mem_ofNat
    {number digit : Nat}
    (present : digit ∈ ofNat number) :
    digit < 10 := by
  rw [ofNat, lowFirst_eq_digits, List.mem_reverse] at present
  exact Nat.digits_lt_base (by decide) present

theorem ofNat_mul_pow
    {number : Nat}
    (positive : 0 < number)
    (count : Nat) :
    ofNat (number * 10 ^ count) = ofNat number ++ List.replicate count 0 := by
  rw [ofNat, ofNat, lowFirst_eq_digits, lowFirst_eq_digits, mul_comm,
    Nat.digits_base_pow_mul (by decide) positive]
  simp

theorem lt_pow_length_ofNat
    (number : Nat) :
    number < 10 ^ (ofNat number).length := by
  rw [ofNat, lowFirst_eq_digits, List.length_reverse]
  exact Nat.lt_base_pow_length_digits (by decide)

theorem pow_length_ofNat_le
    {number : Nat}
    (positive : 0 < number) :
    10 ^ (ofNat number).length ≤ 10 * number := by
  rw [ofNat, lowFirst_eq_digits, List.length_reverse]
  exact Nat.base_pow_length_digits_le 10 number (by decide) positive.ne'

/-! ## Digits without zeros at the end -/

/-- The digits up to the last one that is not zero. -/
def significant (digits : List Nat) : List Nat :=
  digits.rdropWhile fun digit => digit == 0

theorem significant_append_zeros
    (digits : List Nat)
    (count : Nat) :
    significant (digits ++ List.replicate count 0) = significant digits := by
  simp [significant, List.rdropWhile, List.dropWhile_append_of_pos]

/-- What is dropped are zeros. -/
theorem exists_significant_append_zeros
    (digits : List Nat) :
    ∃ count, digits = significant digits ++ List.replicate count 0 := by
  let dropped := digits.rtakeWhile fun digit => digit == 0
  have zeros : dropped = List.replicate dropped.length 0 :=
    List.eq_replicate_of_mem fun digit present => by
      simpa using List.mem_rtakeWhile_imp present
  refine ⟨dropped.length, ?_⟩
  rw [← zeros]
  exact (List.rdropWhile_append_rtakeWhile).symm

theorem mem_of_mem_significant
    {digits : List Nat}
    {digit : Nat}
    (present : digit ∈ significant digits) :
    digit ∈ digits :=
  (List.rdropWhile_prefix _ digits).subset present

theorem significant_eq_nil
    {digits : List Nat}
    (zeros : ∀ digit ∈ digits, digit = 0) :
    significant digits = [] :=
  List.rdropWhile_eq_nil_iff.mpr (by simpa using zeros)

theorem significant_cons
    {digit : Nat}
    {digits : List Nat}
    (nonzero : digit ≠ 0 ∨ ∃ later ∈ digits, later ≠ 0) :
    significant (digit :: digits) = digit :: significant digits := by
  rw [significant, List.rdropWhile, List.reverse_cons, List.dropWhile_append]
  split
  · next empty =>
      have zeros : ∀ later ∈ digits, later = 0 := by
        simpa [List.isEmpty_iff, List.dropWhile_eq_nil_iff] using empty
      have leading : digit ≠ 0 :=
        nonzero.resolve_right fun ⟨later, present, different⟩ => different (zeros later present)
      simp [significant_eq_nil zeros, leading]
  · simp [significant, List.rdropWhile]

theorem value_significant_mod
    {digits : List Nat}
    (small : ∀ digit ∈ digits, digit < 10)
    (nonempty : significant digits ≠ []) :
    value (significant digits) % 10 ≠ 0 := by
  have last : (significant digits).getLast nonempty ≠ 0 := by
    simpa [significant] using
      List.rdropWhile_last_not (fun digit : Nat => digit == 0) digits nonempty
  have bound : (significant digits).getLast nonempty < 10 :=
    small _ (mem_of_mem_significant (List.getLast_mem nonempty))
  rw [← List.dropLast_append_getLast nonempty]
  simp only [value, List.reverse_append, List.reverse_singleton, List.singleton_append,
    Nat.ofDigits_cons]
  omega

/-! ## Stored digits -/

/-- The byte that stores a digit. -/
def toByte (digit : Nat) : UInt8 :=
  UInt8.ofNat (digit + 1)

/-- Digits as they are stored, closed by a zero byte. -/
def stored (digits : List Nat) : Bytes :=
  (significant digits).map toByte ++ [0]

theorem toNat_toByte
    {digit : Nat}
    (small : digit < 10) :
    (toByte digit).toNat = digit + 1 := by
  rw [toByte, UInt8.toNat_ofNat_of_lt']
  simp only [UInt8.size]
  omega

theorem toByte_lt_toByte
    {lower upper : Nat}
    (smaller : lower < upper)
    (small : upper < 10) :
    toByte lower < toByte upper := by
  rw [UInt8.lt_iff_toNat_lt, toNat_toByte small, toNat_toByte (smaller.trans small)]
  omega

theorem zero_lt_toByte
    {digit : Nat}
    (small : digit < 10) :
    0 < toByte digit := by
  rw [UInt8.lt_iff_toNat_lt, toNat_toByte small]
  exact Nat.succ_pos digit

theorem stored_append_zeros
    (digits : List Nat)
    (count : Nat) :
    stored (digits ++ List.replicate count 0) = stored digits := by
  rw [stored, significant_append_zeros, stored]

theorem stored_of_zeros
    {digits : List Nat}
    (zeros : ∀ digit ∈ digits, digit = 0) :
    stored digits = [0] := by
  rw [stored, significant_eq_nil zeros, List.map_nil, List.nil_append]

theorem stored_cons
    {digit : Nat}
    {digits : List Nat}
    (nonzero : digit ≠ 0 ∨ ∃ later ∈ digits, later ≠ 0) :
    stored (digit :: digits) = toByte digit :: stored digits := by
  rw [stored, significant_cons nonzero, List.map_cons, List.cons_append, stored]

theorem exists_ne_zero_of_value_pos
    {digits : List Nat}
    (positive : 0 < value digits) :
    ∃ digit ∈ digits, digit ≠ 0 := by
  by_contra none
  push Not at none
  rw [List.eq_replicate_of_mem none] at positive
  simp [value, Nat.ofDigits_replicate_zero] at positive

/-- The closing zero byte lies below every digit, so stored digits compare
like digits padded with zeros. -/
theorem below_stored
    {left right : List Nat}
    (sameLength : left.length = right.length)
    (leftSmall : ∀ digit ∈ left, digit < 10)
    (rightSmall : ∀ digit ∈ right, digit < 10)
    (less : value left < value right) :
    Bytes.Below (stored left) (stored right) := by
  induction left generalizing right with
  | nil =>
      rw [List.eq_nil_of_length_eq_zero sameLength.symm] at less
      exact absurd less (lt_irrefl _)
  | cons first left inductionHypothesis =>
      obtain _ | ⟨second, right⟩ := right
      · simp at sameLength
      have tailLength : left.length = right.length := by simpa using sameLength
      rw [List.forall_mem_cons] at leftSmall rightSmall
      have leftValue := value_lt leftSmall.2
      have rightValue := value_lt rightSmall.2
      have nonzero : second ≠ 0 ∨ ∃ later ∈ right, later ≠ 0 :=
        by simpa using exists_ne_zero_of_value_pos (pos_of_gt less)
      rw [value_cons, value_cons, tailLength] at less
      rw [stored_cons nonzero]
      by_cases zeros : ∀ digit ∈ first :: left, digit = 0
      · rw [stored_of_zeros zeros]
        exact .here _ _ (zero_lt_toByte rightSmall.1)
      · rw [stored_cons (by simpa [imp_iff_not_or] using zeros)]
        rcases lt_trichotomy first second with smaller | equal | greater
        · exact .here _ _ (toByte_lt_toByte smaller rightSmall.1)
        · subst equal
          exact .there _ (inductionHypothesis tailLength leftSmall.2 rightSmall.2 (by omega))
        · have wider : (second + 1) * 10 ^ right.length ≤ first * 10 ^ right.length :=
            Nat.mul_le_mul_right _ greater
          rw [Nat.add_mul, Nat.one_mul] at wider
          rw [tailLength] at leftValue
          omega

end Digits
end Keyspace
