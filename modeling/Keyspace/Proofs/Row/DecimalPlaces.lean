import Keyspace.Proofs.Row.DecodedRows

/-!
# Places of decimal columns

A decimal that was read from bytes is padded with zeros up to the places of its
column.  That keeps the number, and only stops short where the mantissa is full.
Zeros do go beyond the places that a decimal may have, if the column has more of
them.
-/

namespace Keyspace

/-! ## Padding with zeros -/

namespace Decimal

/-- No zero can be appended to a full mantissa, nor to a zero with all its places. -/
theorem full_of_appendZero_none
    {decimal : Decimal}
    (full : decimal.appendZero? = none) :
    mantissaBound ≤ decimal.mantissa.natAbs * 10 ∨
      decimal.mantissa = 0 ∧ decimal.scale = maxScale := by
  unfold appendZero? at full
  split at full
  · split at full
    · cases full
    · next notFits =>
        obtain ⟨zero, placed⟩ := not_or.mp notFits
        rw [not_not] at zero
        refine .inr ⟨zero, ?_⟩
        have least := decimal.scale_le.resolve_right fun nonzero => nonzero.1 zero
        unfold maxScale
        omega
  · next beyond =>
      rw [Int.natAbs_mul] at beyond
      exact .inl (Nat.le_of_not_lt beyond)

theorem scale_le_appendZeros
    (steps : Nat)
    (decimal : Decimal) :
    decimal.scale ≤ (appendZeros steps decimal).scale ∧
      (appendZeros steps decimal).scale ≤ decimal.scale + steps := by
  induction steps generalizing decimal with
  | zero => exact ⟨Nat.le_refl _, Nat.le_refl _⟩
  | succ steps inductionHypothesis =>
      rw [appendZeros]
      cases appended : decimal.appendZero? with
      | none => exact ⟨Nat.le_refl _, Nat.le_add_right _ _⟩
      | some longer =>
          have scale := scale_of_appendZero appended
          have bounds := inductionHypothesis longer
          dsimp only
          omega

/-- Raising the scale never passes the scale that is asked for. -/
theorem scale_raiseScale
    (decimal : Decimal)
    (scale : Nat) :
    decimal.scale ≤ (decimal.raiseScale scale).scale ∧
      (decimal.raiseScale scale).scale ≤ max decimal.scale scale := by
  have bounds := scale_le_appendZeros (scale - decimal.scale) decimal
  unfold raiseScale
  omega

/-- The scale that is asked for is reached, unless no further zero fits. -/
theorem scale_le_raiseScale_or_full
    (decimal : Decimal)
    (scale : Nat) :
    scale ≤ (decimal.raiseScale scale).scale ∨
      mantissaBound ≤ (decimal.raiseScale scale).mantissa.natAbs * 10 ∨
        (decimal.raiseScale scale).mantissa = 0 ∧
          (decimal.raiseScale scale).scale = maxScale := by
  unfold raiseScale
  rcases scale_appendZeros (scale - decimal.scale) decimal with raised | full
  · refine .inl ?_
    omega
  · exact .inr (full_of_appendZero_none full)

/-- The zeros that are appended multiply the mantissa. -/
theorem natAbs_mantissa_raiseScale
    (decimal : Decimal)
    (scale : Nat) :
    (decimal.raiseScale scale).mantissa.natAbs =
      decimal.mantissa.natAbs * 10 ^ ((decimal.raiseScale scale).scale - decimal.scale) := by
  have longer : decimal.scale + ((decimal.raiseScale scale).scale - decimal.scale) =
      (decimal.raiseScale scale).scale := by
    have bounds := scale_raiseScale decimal scale
    omega
  rw [mantissa_of_compare_eq (compare_raiseScale decimal scale) longer, Int.natAbs_mul,
    Int.natAbs_pow]
  rfl

/-- A raised scale stays within the places of a decimal exactly if no more are asked
for, the number is zero, or the mantissa is full before. -/
theorem scale_raiseScale_le_maxScale_iff
    {decimal : Decimal}
    (short : decimal.scale ≤ maxScale)
    (scale : Nat) :
    (decimal.raiseScale scale).scale ≤ maxScale ↔
      scale ≤ maxScale ∨ decimal.mantissa = 0 ∨
        mantissaBound ≤ decimal.mantissa.natAbs * 10 ^ (maxScale + 1 - decimal.scale) := by
  have bounds := scale_raiseScale decimal scale
  have mantissa := natAbs_mantissa_raiseScale decimal scale
  constructor
  · intro within
    by_contra beyond
    obtain ⟨more, nonzero, roomy⟩ : maxScale < scale ∧ decimal.mantissa ≠ 0 ∧
        decimal.mantissa.natAbs * 10 ^ (maxScale + 1 - decimal.scale) < mantissaBound := by
      simpa only [not_or, Nat.not_le] using beyond
    rcases scale_le_raiseScale_or_full decimal scale with reached | full | ⟨zero, _⟩
    · omega
    · -- one more zero still fits, as there is room up to the place behind the last one
      have fewer : decimal.mantissa.natAbs *
            10 ^ ((decimal.raiseScale scale).scale - decimal.scale + 1) ≤
          decimal.mantissa.natAbs * 10 ^ (maxScale + 1 - decimal.scale) :=
        Nat.mul_le_mul_left _ (Nat.pow_le_pow_right (by decide) (by omega))
      rw [mantissa, Nat.mul_assoc, ← pow_succ] at full
      omega
    · rw [zero, Int.natAbs_zero, eq_comm, Nat.mul_eq_zero, Int.natAbs_eq_zero] at mantissa
      exact mantissa.elim nonzero fun none => absurd none (Nat.pow_pos (by decide)).ne'
  · rintro (few | zero | full)
    · omega
    · rw [zero, Int.natAbs_zero, Nat.zero_mul, Int.natAbs_eq_zero] at mantissa
      exact (decimal.raiseScale scale).scale_le.resolve_right fun nonzero => nonzero.1 mantissa
    · by_contra beyond
      have more : decimal.mantissa.natAbs * 10 ^ (maxScale + 1 - decimal.scale) ≤
          decimal.mantissa.natAbs *
            10 ^ ((decimal.raiseScale scale).scale - decimal.scale) :=
        Nat.mul_le_mul_left _ (Nat.pow_le_pow_right (by decide) (by omega))
      have inRange : (decimal.raiseScale scale).mantissa.natAbs < mantissaBound :=
        (decimal.raiseScale scale).mantissa_lt
      omega

end Decimal

/-! ## Values of a decimal column -/

namespace Column

open Decimal (mantissaBound maxScale)

/-- A decimal that is read has no padding. -/
theorem scale_of_element
    {reader behind : Reader}
    {number : Decimal}
    (read : Decoder.element reader = .ok (.decimal number) behind) :
    number.scale ≤ maxScale :=
  (Decoder.reads_element read).1

/-- What a decimal is after it was padded up to the places of its column. -/
structure PaddedTo (scale : Nat) (number given : Decimal) : Prop where
  /-- The number is kept. -/
  same : given.sameNumber number = true
  /-- The mantissa is in range. -/
  inRange : given.mantissa.natAbs < mantissaBound
  /-- No place is dropped. -/
  keeps : number.scale ≤ given.scale
  /-- No more places are added than the column has. -/
  stops : given.scale ≤ max number.scale scale
  /-- There are the places of the column, unless the mantissa has no room for one
  more zero or a zero has all its places. -/
  reaches : scale ≤ given.scale ∨ mantissaBound ≤ given.mantissa.natAbs * 10 ∨
    given.mantissa = 0 ∧ given.scale = maxScale
  /-- There are more places than a decimal may have exactly if the column has more,
  the number is not zero, and its mantissa has room for them. -/
  within : given.scale ≤ maxScale ↔ scale ≤ maxScale ∨ number.mantissa = 0 ∨
    mantissaBound ≤ number.mantissa.natAbs * 10 ^ (maxScale + 1 - number.scale)

/-- Whatever decimal is read from bytes, a decimal column gives the same number,
padded up to its places.  The result may have more places than a decimal may have. -/
theorem valueOfElement_paddedTo
    {column : Column}
    {precision scale : UInt8}
    {reader behind : Reader}
    {number : Decimal}
    (isDecimal : column.dataType = .decimal precision scale)
    (read : Decoder.element reader = .ok (.decimal number) behind) :
    ∃ given, column.valueOfElement (.decimal number) = .ok (.decimal given) ∧
      PaddedTo scale.toNat number given := by
  have bounds := number.scale_raiseScale scale.toNat
  refine ⟨number.raiseScale scale.toNat, ?_,
    { same := beq_iff_eq.mpr (number.compare_raiseScale scale.toNat)
      inRange := (number.raiseScale scale.toNat).mantissa_lt
      keeps := bounds.1
      stops := bounds.2
      reaches := number.scale_le_raiseScale_or_full scale.toNat
      within := Decimal.scale_raiseScale_le_maxScale_iff (scale_of_element read) scale.toNat }⟩
  simp [valueOfElement, otherOfElement, isDecimal, Element.isNull, DataType.integerRange?]

/-- A half, as it is packed. -/
def halfBytes : Bytes := [0x40, 0x03, 0x80, 0x06, 0x00]

/-- The decimal that is read from it. -/
def half : Decimal := ⟨5, 1, by decide, .inl (by decide)⟩

theorem element_halfBytes :
    Decoder.element (Reader.start halfBytes) = .ok (.decimal half) ⟨5, []⟩ :=
  rfl

/-- A half in a column of two places. -/
theorem valueOfElement_paddedTo_half :
    let price : Column := ⟨"price", .decimal 5 2, true, none, false⟩
    price.dataType = .decimal 5 2 ∧
      Decoder.element (Reader.start halfBytes) = .ok (.decimal half) ⟨5, []⟩ ∧
      ∃ given, price.valueOfElement (.decimal half) = .ok (.decimal given) ∧
        PaddedTo 2 half given := by
  intro price
  have isDecimal : price.dataType = .decimal 5 2 := rfl
  exact ⟨isDecimal, element_halfBytes, valueOfElement_paddedTo isDecimal element_halfBytes⟩

/-- A half in a column of thirty places is given twenty-nine, one more than a decimal
may have. -/
theorem valueOfElement_half_beyond_places :
    let share : Column := ⟨"share", .decimal 30 30, true, none, false⟩
    Decoder.element (Reader.start halfBytes) = .ok (.decimal half) ⟨5, []⟩ ∧
      ∃ given, share.valueOfElement (.decimal half) = .ok (.decimal given) ∧
        given.scale = 29 ∧ ¬ given.scale ≤ maxScale :=
  ⟨element_halfBytes, half.raiseScale 30, rfl, by decide +kernel, by decide +kernel⟩

end Column
end Keyspace
