import Keyspace.Proofs.Tuple.Order
import Keyspace.Tuple.Reader

/-!
# Reading packed tuples back

Reading undoes packing.  An element in front of anything that may follow it is
read back and leaves what follows, so a packed tuple is read element by
element.  Two things are not kept: an integer comes back as narrow as it can
be, and a decimal comes back without zeros at its end.
-/

namespace Keyspace

open Bytes (Continues)

/-! ## What comes back -/

/-- Whether a decimal has no zero behind its point that could be dropped. -/
def Decimal.IsStripped (decimal : Decimal) : Prop :=
  decimal.scale = 0 ∨ ¬ (10 : Int) ∣ decimal.mantissa

/-- Whether reading a packed element may give the other one.  Floats come back
with their bits. -/
def Element.ReadsAs : Element -> Element -> Prop
  | bigInteger number, back =>
      (∃ narrow : Int64, narrow.toInt = number ∧ back = integer narrow) ∨
        (∀ narrow : Int64, narrow.toInt ≠ number) ∧ back = bigInteger number
  | decimal number, back =>
      ∃ stripped : Decimal,
        back = decimal stripped ∧ stripped.compare number = .eq ∧ stripped.IsStripped
  | element, back => back = element

namespace Decoder

/-! ## Steps of reading -/

theorem bind_of_ok
    {α β : Type}
    {step : Decoder α}
    {next : α -> Decoder β}
    {reader behind : Reader}
    {result : α}
    (ran : step reader = .ok result behind) :
    (step >>= next) reader = next result behind := by
  simp [bind, EStateM.bind, ran]

theorem byte_cons
    (position : Nat)
    (first : UInt8)
    (rest : Bytes) :
    byte ⟨position, first :: rest⟩ = .ok first ⟨position + 1, rest⟩ := rfl

theorem take_append
    (position : Nat)
    (taken rest : Bytes) :
    take taken.length ⟨position, taken ++ rest⟩ =
      .ok taken ⟨position + taken.length, rest⟩ := by
  simp [take]

theorem take_of_length
    {count : Nat}
    {taken : Bytes}
    (position : Nat)
    (rest : Bytes)
    (length : taken.length = count) :
    take count ⟨position, taken ++ rest⟩ = .ok taken ⟨position + count, rest⟩ := by
  subst length
  exact take_append position taken rest

/-- An element is read by its type code, and then by what the code stands
for. -/
theorem element_cons
    (position : Nat)
    (code : UInt8)
    (rest : Bytes) :
    element ⟨position, code :: rest⟩ = value position code ⟨position + 1, rest⟩ := rfl

/-! ## Escaped content -/

theorem unescapeOnto_cons
    {first : UInt8}
    (nonzero : first ≠ 0)
    (done : Bytes)
    (position : Nat)
    (rest : Bytes) :
    unescapeOnto done position (first :: rest) =
      unescapeOnto (first :: done) (position + 1) rest := by
  cases rest <;> simp [unescapeOnto, nonzero]

theorem unescapeOnto_escaped
    {rest : Bytes}
    (continues : Continues rest)
    (content done : Bytes)
    (position : Nat) :
    unescapeOnto done position (Element.escaped content ++ rest) =
      .ok (done.reverse ++ content)
        ⟨position + (Element.escaped content).length, rest⟩ := by
  induction content generalizing done position with
  | nil =>
      obtain _ | ⟨next, beyond⟩ := rest
      · simp [Element.escaped, unescapeOnto]
      · have notEscape : next ≠ TypeCode.escape := by simpa [Continues] using continues
        simp [Element.escaped, unescapeOnto, notEscape]
  | cons first content inductionHypothesis =>
      rw [Element.escaped_cons, List.append_assoc]
      split
      · next zero =>
          simp only [List.cons_append, List.nil_append, unescapeOnto, if_true]
          rw [inductionHypothesis]
          simp [zero]
          omega
      · next nonzero =>
          rw [List.singleton_append, List.cons_append, unescapeOnto_cons nonzero,
            inductionHypothesis]
          simp
          omega

theorem escaped_append
    {rest : Bytes}
    (continues : Continues rest)
    (content : Bytes)
    (position : Nat) :
    escaped ⟨position, Element.escaped content ++ rest⟩ =
      .ok content ⟨position + (Element.escaped content).length, rest⟩ :=
  unescapeOnto_escaped continues content [] position

/-! ## Integers -/

theorem integer_magnitude
    (position : Nat)
    (value : Nat)
    (rest : Bytes) :
    integer false (Bytes.byteLength value) ⟨position, Bytes.magnitude value ++ rest⟩ =
      .ok (Element.ofInt value) ⟨position + Bytes.byteLength value, rest⟩ := by
  rw [integer, bind_of_ok (take_of_length position rest (Bytes.length_magnitude value))]
  simp [signed, pure, EStateM.pure]

theorem integer_complement
    (position : Nat)
    (value : Nat)
    (rest : Bytes) :
    integer true (Bytes.byteLength value)
        ⟨position, Bytes.complement (Bytes.magnitude value) ++ rest⟩ =
      .ok (Element.ofInt (-value)) ⟨position + Bytes.byteLength value, rest⟩ := by
  have length : (Bytes.complement (Bytes.magnitude value)).length = Bytes.byteLength value := by
    simp
  rw [integer, bind_of_ok (take_of_length position rest length)]
  simp [signed, pure, EStateM.pure]

theorem value_integerCode
    {length : Nat}
    (start : Nat)
    (short : length ≤ 8)
    (nonzero : 0 < length) :
    value start (TypeCode.integerZero + UInt8.ofNat length) = integer false length := by
  interval_cases length <;> rfl

theorem value_negativeIntegerCode
    {length : Nat}
    (start : Nat)
    (short : length ≤ 8)
    (nonzero : 0 < length) :
    value start (TypeCode.integerZero - UInt8.ofNat length) = integer true length := by
  interval_cases length <;> rfl

theorem value_positiveLong
    {length : Nat}
    (start position : Nat)
    (rest : Bytes)
    (short : length ≤ Element.maxMagnitudeBytes) :
    value start TypeCode.positiveLong ⟨position, UInt8.ofNat length :: rest⟩ =
      integer false length ⟨position + 1, rest⟩ := by
  change (byte >>= fun count => integer false count.toNat) _ = _
  rw [bind_of_ok (byte_cons position _ rest), Element.toNat_lengthByte short]

theorem value_negativeLong
    {length : Nat}
    (start position : Nat)
    (rest : Bytes)
    (short : length ≤ Element.maxMagnitudeBytes) :
    value start TypeCode.negativeLong ⟨position, ~~~(UInt8.ofNat length) :: rest⟩ =
      integer true length ⟨position + 1, rest⟩ := by
  change (byte >>= fun count => integer true (~~~count).toNat) _ = _
  rw [bind_of_ok (byte_cons position _ rest), UInt8.not_not, Element.toNat_lengthByte short]

/-- An integer is read back from any layout that its magnitude can have. -/
theorem element_packInteger
    {number : Int}
    (short : Bytes.byteLength number.natAbs ≤ Element.maxMagnitudeBytes)
    (position : Nat)
    (rest : Bytes) :
    element ⟨position, Element.packInteger number ++ rest⟩ =
      .ok (Element.ofInt number)
        ⟨position + (Element.packInteger number).length, rest⟩ := by
  rcases lt_trichotomy number 0 with negative | zero | positive
  · have nonzero : 0 < Bytes.byteLength number.natAbs := Bytes.byteLength_pos (by omega)
    have signedValue : (-(number.natAbs : Nat) : Int) = number := by omega
    rw [Element.packInteger_of_neg negative, Element.negativeLengthCode]
    split
    · next fewBytes =>
        rw [List.singleton_append, List.cons_append, element_cons,
          value_negativeIntegerCode _ fewBytes nonzero, integer_complement, signedValue]
        simp
        omega
    · simp only [List.cons_append, List.nil_append]
      rw [element_cons, value_negativeLong _ _ _ short, integer_complement, signedValue]
      simp
      omega
  · subst zero
    rfl
  · have nonzero : 0 < Bytes.byteLength number.natAbs := Bytes.byteLength_pos (by omega)
    have signedValue : ((number.natAbs : Nat) : Int) = number := by omega
    rw [Element.packInteger_of_nonneg positive.le, Element.lengthCode]
    split
    · next fewBytes =>
        rw [List.singleton_append, List.cons_append, element_cons,
          value_integerCode _ fewBytes nonzero, integer_magnitude, signedValue]
        simp
        omega
    · simp only [List.cons_append, List.nil_append]
      rw [element_cons, value_positiveLong _ _ _ short, integer_magnitude, signedValue]
      simp
      omega

/-! ## Decimals -/

/-- Bytes as a decimal of a given sign stores them. -/
def signedBytes (negative : Bool) (bytes : Bytes) : Bytes :=
  if negative then Bytes.complement bytes else bytes

@[simp] theorem length_signedBytes
    (negative : Bool)
    (bytes : Bytes) :
    (signedBytes negative bytes).length = bytes.length := by
  cases negative <;> simp [signedBytes]

theorem signedBytes_cons
    (negative : Bool)
    (byte : UInt8)
    (bytes : Bytes) :
    signedBytes negative (byte :: bytes) =
      (if negative then ~~~byte else byte) :: signedBytes negative bytes := by
  cases negative <;> rfl

theorem unsigned_signedByte
    (negative : Bool)
    (byte : UInt8) :
    (if negative then ~~~(if negative then ~~~byte else byte)
      else (if negative then ~~~byte else byte)) = byte := by
  cases negative <;> simp

theorem digitsOnto_zero
    (start : Nat)
    (negative : Bool)
    (position mantissa count : Nat)
    (rest : Bytes) :
    digitsOnto start negative position mantissa count (signedBytes negative [0] ++ rest) =
      .ok (mantissa, count) ⟨position + 1, rest⟩ := by
  cases negative <;> simp [signedBytes, Bytes.complement, digitsOnto]

/-- One digit is collected as long as what is collected stays in range. -/
theorem digitsOnto_toByte
    {digit mantissa : Nat}
    (small : digit < 10)
    (inRange : mantissa * 10 + digit ≤ maxCollected)
    (start : Nat)
    (negative : Bool)
    (position count : Nat)
    (bytes : Bytes) :
    digitsOnto start negative position mantissa count
        ((if negative then ~~~(Digits.toByte digit) else Digits.toByte digit) :: bytes) =
      digitsOnto start negative (position + 1) (mantissa * 10 + digit) (count + 1) bytes := by
  have number := Digits.toNat_toByte small
  have nonzero : Digits.toByte digit ≠ 0 := by
    intro zero
    rw [zero] at number
    exact absurd number (Nat.succ_ne_zero digit).symm
  have isDigit : ¬ 10 < Digits.toByte digit := by
    rw [UInt8.lt_iff_toNat_lt, number]
    change ¬ 10 < digit + 1
    omega
  rw [digitsOnto]
  simp only [unsigned_signedByte, if_neg nonzero, if_neg isDigit, number, Nat.add_sub_cancel,
    if_neg (not_lt.mpr inRange)]

theorem digitsOnto_digits
    {digits : List Nat}
    {mantissa : Nat}
    (small : ∀ digit ∈ digits, digit < 10)
    (inRange : mantissa * 10 ^ digits.length + Digits.value digits ≤ maxCollected)
    (start : Nat)
    (negative : Bool)
    (position count : Nat)
    (rest : Bytes) :
    digitsOnto start negative position mantissa count
        (signedBytes negative (digits.map Digits.toByte ++ [0]) ++ rest) =
      .ok (mantissa * 10 ^ digits.length + Digits.value digits, count + digits.length)
        ⟨position + (digits.length + 1), rest⟩ := by
  induction digits generalizing mantissa position count with
  | nil => simp [digitsOnto_zero]
  | cons digit digits inductionHypothesis =>
      rw [List.forall_mem_cons] at small
      have shifted : mantissa * 10 ^ (digits.length + 1) + Digits.value (digit :: digits) =
          (mantissa * 10 + digit) * 10 ^ digits.length + Digits.value digits := by
        rw [Digits.value_cons, pow_succ]
        ring
      rw [List.length_cons, shifted] at inRange ⊢
      have leading : mantissa * 10 + digit ≤ (mantissa * 10 + digit) * 10 ^ digits.length :=
        Nat.le_mul_of_pos_right _ (by positivity)
      rw [List.map_cons, List.cons_append, signedBytes_cons, List.cons_append,
        digitsOnto_toByte small.1 (by omega), inductionHypothesis small.2 inRange]
      simp
      omega

end Decoder

namespace Decimal

/-- How the digits of a nonzero mantissa split into those that are stored and
the zeros that are dropped. -/
theorem exists_significant
    (decimal : Decimal)
    (nonzero : decimal.mantissa ≠ 0) :
    ∃ digits zeros,
      Digits.significant (Digits.ofNat decimal.mantissa.natAbs) = digits ∧
        (∀ digit ∈ digits, digit < 10) ∧
        0 < digits.length ∧
        ¬ 10 ∣ Digits.value digits ∧
        decimal.mantissa.natAbs = Digits.value digits * 10 ^ zeros ∧
        (Digits.ofNat decimal.mantissa.natAbs).length = digits.length + zeros := by
  obtain ⟨zeros, split⟩ :=
    Digits.exists_significant_append_zeros (Digits.ofNat decimal.mantissa.natAbs)
  have number := congrArg Digits.value split
  have length := congrArg List.length split
  rw [Digits.value_ofNat, Digits.value_append_zeros] at number
  rw [List.length_append, List.length_replicate] at length
  have nonempty : Digits.significant (Digits.ofNat decimal.mantissa.natAbs) ≠ [] := by
    intro empty
    rw [empty, Digits.value_nil, Nat.zero_mul] at number
    omega
  refine ⟨_, zeros, rfl, ?_, List.length_pos_iff.mpr nonempty, ?_, number, length⟩
  · exact fun digit present =>
      Digits.lt_ten_of_mem_ofNat (Digits.mem_of_mem_significant present)
  · intro divides
    exact Digits.value_significant_mod (fun digit => Digits.lt_ten_of_mem_ofNat) nonempty
      (Nat.mod_eq_zero_of_dvd divides)

/-- What is left of the places when the zeros are dropped is in range. -/
theorem scale_sub_zeros_le
    (decimal : Decimal)
    {number zeros : Nat}
    (notDivisible : ¬ 10 ∣ number)
    (split : decimal.mantissa.natAbs = number * 10 ^ zeros) :
    decimal.scale - zeros ≤ maxScale := by
  rcases decimal.scale_le with unpadded | ⟨_, padded⟩
  · exact (Nat.sub_le _ _).trans unpadded
  · by_contra far
    unfold maxScale at far
    have longer : 10 ^ (zeros + 1) ∣ number * 10 ^ zeros := by
      rw [← split]
      exact (Nat.pow_dvd_pow 10 (by omega)).trans padded
    rw [pow_succ, mul_comm] at longer
    exact notDivisible (Nat.dvd_of_mul_dvd_mul_right (by positivity) longer)

/-- A number with the sign of a decimal. -/
def withSign (decimal : Decimal) (magnitude : Nat) : Int :=
  if decimal.isNegative then -(magnitude : Int) else magnitude

@[simp] theorem natAbs_withSign
    (decimal : Decimal)
    (magnitude : Nat) :
    (decimal.withSign magnitude).natAbs = magnitude := by
  unfold withSign
  split <;> simp

theorem withSign_natAbs
    (decimal : Decimal) :
    decimal.withSign decimal.mantissa.natAbs = decimal.mantissa := by
  unfold withSign isNegative
  split
  · next negative =>
      rw [decide_eq_true_eq] at negative
      omega
  · next notNegative =>
      rw [decide_eq_true_eq] at notNegative
      omega

theorem withSign_mul
    (decimal : Decimal)
    (magnitude factor : Nat) :
    decimal.withSign (magnitude * factor) = decimal.withSign magnitude * factor := by
  unfold withSign
  split <;> simp

/-- The number that stored digits are assembled to, once what was dropped
before the point is put back. -/
theorem exists_stripped
    (decimal : Decimal)
    {number zeros : Nat}
    (notDivisible : ¬ 10 ∣ number)
    (split : decimal.mantissa.natAbs = number * 10 ^ zeros) :
    ∃ stripped : Decimal,
      ofParts? (decimal.withSign (number * 10 ^ (zeros - decimal.scale)))
          (decimal.scale - zeros) = some stripped ∧
        stripped.compare decimal = .eq ∧ stripped.IsStripped := by
  have smaller : number * 10 ^ (zeros - decimal.scale) ≤ decimal.mantissa.natAbs := by
    rw [split]
    exact Nat.mul_le_mul_left _ (Nat.pow_le_pow_right (by decide) (Nat.sub_le _ _))
  have mantissaFits :
      (decimal.withSign (number * 10 ^ (zeros - decimal.scale))).natAbs <
        0x1000000000000000000000000 := by
    rw [natAbs_withSign]
    exact smaller.trans_lt decimal.mantissa_lt
  have scaleFits : decimal.scale - zeros ≤ 28 := decimal.scale_sub_zeros_le notDivisible split
  refine ⟨⟨_, _, mantissaFits, .inl scaleFits⟩, dif_pos ⟨mantissaFits, scaleFits⟩, ?_, ?_⟩
  · have magnitudes : number * 10 ^ (zeros - decimal.scale) * 10 ^ decimal.scale =
        decimal.mantissa.natAbs * 10 ^ (decimal.scale - zeros) := by
      rw [split, mul_assoc, mul_assoc, ← pow_add, ← pow_add]
      congr 2
      omega
    rw [compare, Std.compare_eq_iff_eq]
    calc decimal.withSign (number * 10 ^ (zeros - decimal.scale)) *
          (Nat.pow 10 decimal.scale : Nat)
        = decimal.withSign (number * 10 ^ (zeros - decimal.scale) * 10 ^ decimal.scale) :=
          (decimal.withSign_mul _ _).symm
      _ = decimal.withSign (decimal.mantissa.natAbs * 10 ^ (decimal.scale - zeros)) := by
          rw [magnitudes]
      _ = decimal.mantissa * (Nat.pow 10 (decimal.scale - zeros) : Nat) := by
          rw [withSign_mul, withSign_natAbs]
          rfl
  · rcases Nat.le_total decimal.scale zeros with whole | fractional
    · exact .inl (Nat.sub_eq_zero_of_le whole)
    · refine .inr fun divides => notDivisible ?_
      have magnitude := Int.natAbs_dvd_natAbs.mpr divides
      rw [natAbs_withSign, Nat.sub_eq_zero_of_le fractional, pow_zero, mul_one] at magnitude
      exact magnitude

end Decimal

namespace Decoder

theorem assemble_significant
    (decimal : Decimal)
    {number zeros count : Nat}
    (counted : 0 < count)
    (notDivisible : ¬ 10 ∣ number)
    (split : decimal.mantissa.natAbs = number * 10 ^ zeros)
    (length : (Digits.ofNat decimal.mantissa.natAbs).length = count + zeros)
    (start : Nat) :
    ∃ stripped : Decimal,
      assemble start decimal.isNegative number count
          ((Element.biasedExponent decimal : Int) - TypeCode.decimalBias) = .ok stripped ∧
        stripped.compare decimal = .eq ∧ stripped.IsStripped := by
  obtain ⟨stripped, parts, equal, isStripped⟩ := decimal.exists_stripped notDivisible split
  refine ⟨stripped, ?_, equal, isStripped⟩
  have exponent := Element.biasedExponent_add_scale decimal
  have below : (-((count : Int) - ((Element.biasedExponent decimal : Int) - 128))).toNat =
      zeros - decimal.scale := by omega
  have behind : ((count : Int) - ((Element.biasedExponent decimal : Int) - 128)).toNat =
      decimal.scale - zeros := by omega
  have scale := decimal.scale_sub_zeros_le notDivisible split
  have positive : 0 < number := Nat.pos_of_ne_zero fun zero => notDivisible (zero ▸ dvd_zero 10)
  have smaller : number * 10 ^ (zeros - decimal.scale) ≤ decimal.mantissa.natAbs := by
    rw [split]
    exact Nat.mul_le_mul_left _ (Nat.pow_le_pow_right (by decide) (Nat.sub_le _ _))
  have factor : 10 ^ (zeros - decimal.scale) ≤ number * 10 ^ (zeros - decimal.scale) :=
    Nat.le_mul_of_pos_left _ positive
  have small := decimal.mantissa_lt
  unfold assemble
  simp only [TypeCode.decimalBias, Nat.cast_ofNat, Nat.pow_eq, below, behind]
  rw [if_neg (by omega), if_neg (by unfold maxCollected; omega), if_neg (by omega)]
  unfold Decimal.withSign at parts
  rw [parts]

theorem digits_stored
    (decimal : Decimal)
    (nonzero : decimal.mantissa ≠ 0)
    (start position : Nat)
    (rest : Bytes) :
    ∃ number count stripped,
      digits start decimal.isNegative ⟨position,
          signedBytes decimal.isNegative
            (Digits.stored (Digits.ofNat decimal.mantissa.natAbs)) ++ rest⟩ =
        .ok (number, count) ⟨position +
          (Digits.stored (Digits.ofNat decimal.mantissa.natAbs)).length, rest⟩ ∧
      assemble start decimal.isNegative number count
          ((Element.biasedExponent decimal : Int) - TypeCode.decimalBias) = .ok stripped ∧
      stripped.compare decimal = .eq ∧ stripped.IsStripped := by
  obtain ⟨kept, zeros, significant, small, counted, notDivisible, split, length⟩ :=
    decimal.exists_significant nonzero
  obtain ⟨stripped, assembled, equal, isStripped⟩ :=
    assemble_significant decimal counted notDivisible split length start
  refine ⟨Digits.value kept, kept.length, stripped, ?_, assembled, equal, isStripped⟩
  have smaller : Digits.value kept ≤ decimal.mantissa.natAbs := by
    rw [split]
    exact Nat.le_mul_of_pos_right _ (by positivity)
  have inRange : 0 * 10 ^ kept.length + Digits.value kept ≤ maxCollected := by
    have bound := decimal.mantissa_lt
    unfold maxCollected
    omega
  have read := digitsOnto_digits small inRange start decimal.isNegative position 0 rest
  rw [Nat.zero_mul, Nat.zero_add, Nat.zero_add] at read
  rw [digits, Digits.stored, significant, read]
  simp

theorem decimal_negative
    (start position : Nat)
    (exponent : UInt8)
    (rest : Bytes) :
    decimal start ⟨position, TypeCode.decimalNegative :: ~~~exponent :: rest⟩ =
      (digits start true >>= fun (mantissa, count) =>
        match assemble start true mantissa count
          ((exponent.toNat : Int) - TypeCode.decimalBias) with
        | .ok number => pure (Element.decimal number)
        | .error error => throw error) ⟨position + 2, rest⟩ := by
  rw [decimal, bind_of_ok (byte_cons position _ _), if_neg (by decide), if_pos (by decide),
    bind_of_ok (byte_cons _ _ _)]
  have restored : ~~~(~~~exponent) = exponent := UInt8.not_not
  change (digits start true >>= fun (mantissa, count) =>
    match assemble start true mantissa count
      (((~~~(~~~exponent)).toNat : Int) - TypeCode.decimalBias) with
    | .ok number => pure (Element.decimal number)
    | .error error => throw error) ⟨position + 2, rest⟩ = _
  rw [restored]

theorem decimal_positive
    (start position : Nat)
    (exponent : UInt8)
    (rest : Bytes) :
    decimal start ⟨position, TypeCode.decimalPositive :: exponent :: rest⟩ =
      (digits start false >>= fun (mantissa, count) =>
        match assemble start false mantissa count
          ((exponent.toNat : Int) - TypeCode.decimalBias) with
        | .ok number => pure (Element.decimal number)
        | .error error => throw error) ⟨position + 2, rest⟩ := by
  rw [decimal, bind_of_ok (byte_cons position _ _), if_neg (by decide), if_pos (by decide),
    bind_of_ok (byte_cons _ _ _)]
  rfl

/-- A decimal is read back without the zeros at its end. -/
theorem decimal_packDecimal
    (number : Decimal)
    (start position : Nat)
    (rest : Bytes) :
    ∃ stripped : Decimal,
      decimal start ⟨position, Element.packDecimal number ++ rest⟩ =
          .ok (.decimal stripped) ⟨position + (Element.packDecimal number).length, rest⟩ ∧
        stripped.compare number = .eq ∧ stripped.IsStripped := by
  by_cases zero : number.mantissa = 0
  · refine ⟨Decimal.zero, ?_, ?_, .inl rfl⟩
    · rw [Element.packDecimal_of_zero zero]
      rfl
    · simp [Decimal.compare, Decimal.zero, zero]
  · obtain ⟨value, count, stripped, read, assembled, equal, isStripped⟩ :=
      digits_stored number zero start (position + 2) rest
    refine ⟨stripped, ?_, equal, isStripped⟩
    rcases lt_or_gt_of_ne zero with negative | positive
    · have sign : number.isNegative = true := decide_eq_true negative
      rw [sign] at read assembled
      rw [Element.packDecimal_of_neg negative, Element.packDigits_eq]
      change decimal start ⟨position, _ :: ~~~_ ::
        (signedBytes true (Digits.stored (Digits.ofNat number.mantissa.natAbs)) ++ rest)⟩ = _
      rw [decimal_negative, bind_of_ok read, Element.toNat_biasedExponent]
      simp only [assembled]
      simp [pure, EStateM.pure]
      omega
    · have sign : number.isNegative = false := decide_eq_false (by omega)
      rw [sign] at read assembled
      rw [Element.packDecimal_of_pos positive, Element.packDigits_eq]
      change decimal start ⟨position, _ :: _ ::
        (signedBytes false (Digits.stored (Digits.ofNat number.mantissa.natAbs)) ++ rest)⟩ = _
      rw [decimal_positive, bind_of_ok read, Element.toNat_biasedExponent]
      simp only [assembled]
      simp [pure, EStateM.pure]
      omega

/-! ## Elements -/

theorem single_bigEndian
    (start position : Nat)
    (number : Single)
    (rest : Bytes) :
    value start TypeCode.float ⟨position, Bytes.bigEndian 4 number.orderKey ++ rest⟩ =
      .ok (.float number) ⟨position + 4, rest⟩ := by
  have fits : number.orderKey < 256 ^ 4 := BinaryFormat.single.orderKey_lt number.bits_lt
  change (take 4 >>= fun stored => pure (Element.float ⟨UInt32.ofNat
    (BinaryFormat.single.ofOrderKey (Bytes.toNat stored))⟩)) _ = _
  rw [bind_of_ok (take_of_length position rest (Bytes.length_bigEndian 4 _)),
    Bytes.toNat_bigEndian fits, Single.orderKey,
    BinaryFormat.ofOrderKey_orderKey _ number.bits_lt, UInt32.ofNat_toNat]
  rfl

theorem double_bigEndian
    (start position : Nat)
    (number : Double)
    (rest : Bytes) :
    value start TypeCode.double ⟨position, Bytes.bigEndian 8 number.orderKey ++ rest⟩ =
      .ok (.double number) ⟨position + 8, rest⟩ := by
  have fits : number.orderKey < 256 ^ 8 := BinaryFormat.double.orderKey_lt number.bits_lt
  change (take 8 >>= fun stored => pure (Element.double ⟨UInt64.ofNat
    (BinaryFormat.double.ofOrderKey (Bytes.toNat stored))⟩)) _ = _
  rw [bind_of_ok (take_of_length position rest (Bytes.length_bigEndian 8 _)),
    Bytes.toNat_bigEndian fits, Double.orderKey,
    BinaryFormat.ofOrderKey_orderKey _ number.bits_lt, UInt64.ofNat_toNat]
  rfl

theorem value_uuid
    (start : Nat) :
    value start TypeCode.uuid = (take 16 >>= fun stored =>
      match Uuid.ofBytes? stored with
      | some identifier => pure (Element.uuid identifier)
      | none => fail start "identifier is not sixteen bytes long") := rfl

theorem uuid_bytes
    (start position : Nat)
    (identifier : Uuid)
    (rest : Bytes) :
    value start TypeCode.uuid ⟨position, identifier.bytes ++ rest⟩ =
      .ok (.uuid identifier) ⟨position + 16, rest⟩ := by
  rw [value_uuid, bind_of_ok (take_of_length position rest identifier.length_bytes)]
  simp [Uuid.ofBytes?, identifier.length_bytes, pure, EStateM.pure]

theorem value_string
    (start : Nat) :
    value start TypeCode.string = (escaped >>= fun stored =>
      match Utf8.decode? stored with
      | some text => pure (Element.string text)
      | none => fail start "string element is not UTF-8") := rfl

theorem string_escaped
    {rest : Bytes}
    (continues : Continues rest)
    (start position : Nat)
    (content : String) :
    value start TypeCode.string
        ⟨position, Element.escaped (Utf8.encode content) ++ rest⟩ =
      .ok (.string content)
        ⟨position + (Element.escaped (Utf8.encode content)).length, rest⟩ := by
  rw [value_string, bind_of_ok (escaped_append continues (Utf8.encode content) position)]
  simp [pure, EStateM.pure]

theorem bytes_escaped
    {rest : Bytes}
    (continues : Continues rest)
    (start position : Nat)
    (content : Bytes) :
    value start TypeCode.bytes ⟨position, Element.escaped content ++ rest⟩ =
      .ok (.bytes content) ⟨position + (Element.escaped content).length, rest⟩ := by
  change (escaped >>= fun stored => pure (Element.bytes stored)) _ = _
  rw [bind_of_ok (escaped_append continues content position)]
  rfl

end Decoder

namespace Element

theorem fitsInt64_toInt
    (narrow : Int64) :
    fitsInt64 narrow.toInt = true := by
  have least := narrow.le_toInt
  have greatest := narrow.toInt_lt
  exact decide_eq_true ⟨least, greatest⟩

/-- An integer of 64 bits is its own narrowest element. -/
@[simp] theorem ofInt_toInt
    (narrow : Int64) :
    ofInt narrow.toInt = integer narrow := by
  rw [ofInt, if_pos (fitsInt64_toInt narrow), Int64.ofInt_toInt]

theorem readsAs_ofInt
    (number : Int) :
    (bigInteger number).ReadsAs (ofInt number) := by
  unfold ofInt
  split
  · next fits =>
      obtain ⟨least, greatest⟩ := of_decide_eq_true fits
      exact .inl ⟨_, Int64.toInt_ofInt_of_le least greatest, rfl⟩
  · next wide =>
      refine .inr ⟨?_, rfl⟩
      rintro narrow rfl
      exact wide (fitsInt64_toInt narrow)

end Element

namespace Decoder

/-- An element in front of anything that may follow it is read back, and what
follows is left. -/
theorem element_pack
    {packedElement : Element}
    {bytes rest : Bytes}
    (packed : packedElement.pack = .ok bytes)
    (continues : Continues rest)
    (position : Nat) :
    ∃ back, element ⟨position, bytes ++ rest⟩ =
        .ok back ⟨position + bytes.length, rest⟩ ∧ packedElement.ReadsAs back := by
  cases packedElement with
  | integer number =>
      obtain ⟨rfl, short⟩ := Element.pack_of_asInteger rfl packed
      refine ⟨.integer number, ?_, rfl⟩
      rw [element_packInteger short, Element.ofInt_toInt]
  | bigInteger number =>
      obtain ⟨rfl, short⟩ := Element.pack_of_asInteger rfl packed
      exact ⟨_, element_packInteger short position rest, Element.readsAs_ofInt number⟩
  | null =>
      obtain rfl := Except.ok.inj packed
      exact ⟨_, rfl, rfl⟩
  | bytes content =>
      obtain rfl := Except.ok.inj packed
      refine ⟨.bytes content, ?_, rfl⟩
      rw [List.cons_append, element_cons, bytes_escaped continues]
      simp
      omega
  | string content =>
      obtain rfl := Except.ok.inj packed
      refine ⟨.string content, ?_, rfl⟩
      rw [List.cons_append, element_cons, string_escaped continues]
      simp
      omega
  | float number =>
      obtain rfl := Except.ok.inj packed
      refine ⟨.float number, ?_, rfl⟩
      rw [List.cons_append, element_cons, single_bigEndian]
      simp
  | double number =>
      obtain rfl := Except.ok.inj packed
      refine ⟨.double number, ?_, rfl⟩
      rw [List.cons_append, element_cons, double_bigEndian]
      simp
  | boolean truth =>
      obtain rfl := Except.ok.inj packed
      exact ⟨.boolean truth, by cases truth <;> rfl, rfl⟩
  | uuid identifier =>
      obtain rfl := Except.ok.inj packed
      refine ⟨.uuid identifier, ?_, rfl⟩
      rw [List.cons_append, element_cons, uuid_bytes]
      simp [identifier.length_bytes]
  | decimal number =>
      obtain rfl := Except.ok.inj packed
      obtain ⟨stripped, read, equal, isStripped⟩ :=
        decimal_packDecimal number position (position + 1) rest
      refine ⟨.decimal stripped, ?_, stripped, rfl, equal, isStripped⟩
      rw [List.cons_append, element_cons]
      change decimal position ⟨position + 1, Element.packDecimal number ++ rest⟩ = _
      rw [read]
      simp
      omega

theorem elementsOnto_succ
    {reader : Reader}
    (notAtEnd : reader.rest ≠ [])
    (done : List Element)
    (steps : Nat) :
    elementsOnto done (steps + 1) reader =
      (element >>= fun next => elementsOnto (next :: done) steps) reader := by
  have more : reader.isAtEnd = false := by simpa [Reader.isAtEnd] using notAtEnd
  rw [elementsOnto, bind_of_ok (show (get : Decoder Reader) reader = .ok reader reader from rfl),
    more]
  rfl

theorem elementsOnto_nil
    (done : List Element)
    (steps position : Nat) :
    elementsOnto done steps ⟨position, []⟩ = .ok done.reverse ⟨position, []⟩ := by
  cases steps <;> rfl

/-- Elements are read one after the other.  Each takes at least one byte, so
the number of bytes bounds the number of steps. -/
theorem elementsOnto_pack
    {tuple : Tuple}
    {bytes : Bytes}
    (packed : tuple.pack = .ok bytes)
    (done : List Element)
    (position : Nat)
    {steps : Nat}
    (enough : bytes.length ≤ steps) :
    ∃ back, elementsOnto done steps ⟨position, bytes⟩ =
        .ok (done.reverse ++ back) ⟨position + bytes.length, []⟩ ∧
      List.Forall₂ Element.ReadsAs tuple back := by
  induction tuple generalizing bytes done position steps with
  | nil =>
      obtain rfl := Except.ok.inj (Tuple.pack_nil.symm.trans packed)
      refine ⟨[], ?_, .nil⟩
      rw [elementsOnto_nil]
      simp
  | cons first tuple inductionHypothesis =>
      obtain ⟨code, behind, shape⟩ := Tuple.pack_cons_ne_nil packed
      obtain ⟨firstBytes, others, firstPacked, othersPacked, split⟩ :=
        Tuple.pack_cons_eq_ok.mp packed
      obtain ⟨firstBack, read, firstReads⟩ :=
        element_pack firstPacked (Tuple.continues_pack othersPacked) position
      obtain ⟨firstCode, firstBehind, firstShape, _⟩ := Element.exists_pack_eq_cons firstPacked
      have lengths : bytes.length = firstBytes.length + others.length := by
        rw [split, List.length_append]
      have firstNonempty : 0 < firstBytes.length := by
        rw [firstShape]
        exact Nat.succ_pos _
      obtain _ | steps := steps
      · omega
      · obtain ⟨back, readOthers, othersRead⟩ :=
          inductionHypothesis othersPacked (firstBack :: done)
            (position + firstBytes.length) (show others.length ≤ steps by omega)
        refine ⟨firstBack :: back, ?_, .cons firstReads othersRead⟩
        rw [elementsOnto_succ (by simp [shape]), split, bind_of_ok read, readOthers]
        simp
        omega

end Decoder
/-! ## Tuples -/

namespace Element

/-- An element has no packed form exactly if it is an integer whose magnitude
takes more than 255 bytes. -/
theorem exists_pack_eq_error_iff
    (element : Element) :
    (∃ error, element.pack = .error error) ↔
      ∃ number, element = bigInteger number ∧ 256 ^ 255 ≤ number.natAbs := by
  cases element with
  | bigInteger number =>
      have wide : Bytes.byteLength number.natAbs ≤ maxMagnitudeBytes ↔
          number.natAbs < 256 ^ 255 := Bytes.byteLength_le_iff _ 255
      simp only [pack]
      split
      · next short => simpa using wide.mp short
      · next long => simpa using mt wide.mpr long
  | _ => simp [pack]

end Element

namespace Tuple

theorem exists_pack_eq_error_iff_mem
    (tuple : Tuple) :
    (∃ error, tuple.pack = .error error) ↔
      ∃ element ∈ tuple, ∃ error, element.pack = .error error := by
  induction tuple with
  | nil => simp
  | cons element tuple inductionHypothesis =>
      simp only [List.mem_cons, exists_eq_or_imp, ← inductionHypothesis]
      cases packedFirst : element.pack with
      | error error => simp [pack, packedFirst, bind, Except.bind]
      | ok first =>
          cases packedOthers : tuple.mapM Element.pack <;>
            simp [pack, packedFirst, packedOthers, bind, Except.bind, pure, Except.pure]

theorem unpack_of_pack
    {tuple : Tuple}
    {bytes : Bytes}
    (packed : tuple.pack = .ok bytes) :
    ∃ back, unpack bytes = .ok back ∧ List.Forall₂ Element.ReadsAs tuple back := by
  obtain ⟨back, read, reads⟩ := Decoder.elementsOnto_pack packed [] 0 le_rfl
  refine ⟨back, ?_, reads⟩
  rw [unpack, Reader.start, read]
  rfl

/-- Packing fails exactly on integers of more than 255 magnitude bytes, and
what it packs is read back: integers as narrow as they can be, decimals without
the zeros at their end, and everything else as it was. -/
theorem unpack_pack
    (tuple : Tuple) :
    ((∃ error, tuple.pack = .error error) ↔
        ∃ number, Element.bigInteger number ∈ tuple ∧ 256 ^ 255 ≤ number.natAbs) ∧
      ∀ bytes, tuple.pack = .ok bytes ->
        ∃ back, unpack bytes = .ok back ∧ List.Forall₂ Element.ReadsAs tuple back := by
  refine ⟨?_, fun bytes packed => unpack_of_pack packed⟩
  rw [exists_pack_eq_error_iff_mem]
  constructor
  · rintro ⟨element, present, failure⟩
    obtain ⟨number, rfl, wide⟩ := (Element.exists_pack_eq_error_iff element).mp failure
    exact ⟨number, present, wide⟩
  · rintro ⟨number, present, wide⟩
    exact ⟨_, present, (Element.exists_pack_eq_error_iff _).mpr ⟨number, rfl, wide⟩⟩

/-- A wide integer element that fits 64 bits, a decimal with a zero at its end
and a NaN with a payload. -/
theorem unpack_pack_mixed :
    ∃ bytes, Tuple.pack [.bigInteger (-3), .decimal ⟨150, 2, by decide, .inl (by decide)⟩,
        .double ⟨0xFFF8000000000001⟩] = .ok bytes ∧
      ∃ back, unpack bytes = .ok back ∧ List.Forall₂ Element.ReadsAs
        [.bigInteger (-3), .decimal ⟨150, 2, by decide, .inl (by decide)⟩,
          .double ⟨0xFFF8000000000001⟩] back :=
  ⟨_, rfl, (unpack_pack _).2 _ rfl⟩

end Tuple
end Keyspace
