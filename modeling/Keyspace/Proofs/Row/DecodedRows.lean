import Keyspace.Proofs.HKey.RowKeys

/-!
# Rows that were decoded

Whatever bytes a row type decodes, the row fits the columns: its values are of
the classes that the columns store and in their ranges.  It can be stored, and
the same row is decoded again.  Decimals are given the places of their columns,
and only those that were stored with more may come back with fewer.
-/

namespace Keyspace

/-! ## Padding with zeros -/

namespace Decimal

theorem eq_of_parts
    {left right : Decimal}
    (mantissa : left.mantissa = right.mantissa)
    (scale : left.scale = right.scale) :
    left = right := by
  cases left
  cases right
  obtain rfl := mantissa
  obtain rfl := scale
  rfl

theorem appendZero?_eq_some
    {decimal longer : Decimal}
    (mantissa : longer.mantissa = decimal.mantissa * 10)
    (scale : longer.scale = decimal.scale + 1) :
    decimal.appendZero? = some longer := by
  have inRange : (decimal.mantissa * 10).natAbs < 0x1000000000000000000000000 :=
    mantissa ▸ longer.mantissa_lt
  have fits : decimal.mantissa ≠ 0 ∨ decimal.scale < 28 := by
    rcases longer.scale_le with short | ⟨nonzero, _⟩
    · exact .inr (by omega)
    · exact .inl (by omega)
  rw [appendZero?, dif_pos inRange, dif_pos fits]
  exact congrArg some (eq_of_parts mantissa.symm scale.symm)

theorem scale_of_appendZero
    {decimal longer : Decimal}
    (appended : decimal.appendZero? = some longer) :
    longer.scale = decimal.scale + 1 := by
  unfold appendZero? at appended
  split at appended
  · split at appended
    · obtain rfl := Option.some.inj appended
      rfl
    · cases appended
  · cases appended

theorem appendZeros_of_none
    {decimal : Decimal}
    (full : decimal.appendZero? = none)
    (steps : Nat) :
    appendZeros steps decimal = decimal := by
  cases steps with
  | zero => rfl
  | succ steps => rw [appendZeros, full]

theorem appendZeros_add
    (steps more : Nat)
    (decimal : Decimal) :
    appendZeros (steps + more) decimal = appendZeros more (appendZeros steps decimal) := by
  induction steps generalizing decimal with
  | zero => rw [Nat.zero_add, appendZeros]
  | succ steps inductionHypothesis =>
      rw [Nat.add_right_comm, appendZeros, appendZeros]
      cases appended : decimal.appendZero? with
      | none => exact (appendZeros_of_none appended more).symm
      | some longer => exact inductionHypothesis longer

/-- Zeros are appended until there are as many as asked for or no more fit. -/
theorem scale_appendZeros
    (steps : Nat)
    (decimal : Decimal) :
    (appendZeros steps decimal).scale = decimal.scale + steps ∨
      (appendZeros steps decimal).appendZero? = none := by
  induction steps generalizing decimal with
  | zero => exact .inl rfl
  | succ steps inductionHypothesis =>
      rw [appendZeros]
      cases appended : decimal.appendZero? with
      | none => exact .inr appended
      | some longer =>
          have scale := scale_of_appendZero appended
          exact (inductionHypothesis longer).imp_left fun whole => by
            dsimp only
            omega

theorem raiseScale_raiseScale
    (decimal : Decimal)
    (scale : Nat) :
    (decimal.raiseScale scale).raiseScale scale = decimal.raiseScale scale := by
  unfold raiseScale
  rcases scale_appendZeros (scale - decimal.scale) decimal with raised | full
  · rw [raised, show scale - (decimal.scale + (scale - decimal.scale)) = 0 by omega, appendZeros]
  · rw [appendZeros_of_none full]

theorem mantissa_of_compare_eq
    {short long : Decimal}
    {steps : Nat}
    (equal : long.compare short = .eq)
    (longer : short.scale + steps = long.scale) :
    long.mantissa = short.mantissa * 10 ^ steps := by
  rw [compare_eq_iff, ← longer] at equal
  simp only [Nat.pow_eq, pow_add] at equal
  push_cast at equal
  have nonzero : ((10 : Int) ^ short.scale) ≠ 0 := by positivity
  apply Int.eq_of_mul_eq_mul_right nonzero
  rw [equal]
  ring

/-- Appending zeros to a number gives every longer form of it. -/
theorem appendZeros_of_compare_eq
    {short long : Decimal}
    {steps : Nat}
    (equal : long.compare short = .eq)
    (longer : short.scale + steps = long.scale) :
    appendZeros steps short = long := by
  induction steps generalizing short with
  | zero =>
      have mantissa := mantissa_of_compare_eq equal longer
      rw [pow_zero, Int.mul_one] at mantissa
      exact eq_of_parts mantissa.symm longer
  | succ steps inductionHypothesis =>
      have mantissa := mantissa_of_compare_eq equal longer
      have nearer : (short.mantissa * 10).natAbs ≤ long.mantissa.natAbs := by
        rw [mantissa, pow_succ', ← mul_assoc, Int.natAbs_mul _ ((10 : Int) ^ steps)]
        exact Nat.le_mul_of_pos_right _ (Int.natAbs_pos.mpr (by positivity))
      have fits : short.mantissa ≠ 0 ∨ short.scale < 28 := by
        rcases long.scale_le with few | ⟨nonzero, _⟩
        · exact .inr (by omega)
        · refine .inl fun zero => nonzero ?_
          rw [mantissa, zero, Int.zero_mul]
      have appended : short.appendZero? = some
          ⟨short.mantissa * 10, short.scale + 1, nearer.trans_lt long.mantissa_lt,
            scale_le_appendZero fits⟩ :=
        appendZero?_eq_some rfl rfl
      rw [appendZeros, appended]
      refine inductionHypothesis ?_ (by dsimp only; omega)
      exact compare_trans equal (compare_symm (compare_appendZero appended))

/-- No form of a number is shorter than the stripped one. -/
theorem IsStripped.scale_le
    {stripped decimal : Decimal}
    (isStripped : stripped.IsStripped)
    (equal : stripped.compare decimal = .eq) :
    stripped.scale ≤ decimal.scale := by
  rcases isStripped with whole | notDivisible
  · omega
  · by_contra shorter
    obtain ⟨steps, longer⟩ := Nat.exists_eq_add_of_lt (Nat.lt_of_not_le shorter)
    refine notDivisible ⟨decimal.mantissa * 10 ^ steps, ?_⟩
    rw [mantissa_of_compare_eq equal (show decimal.scale + (steps + 1) = _ by omega), pow_succ]
    ring

/-- Stripping a number that has been raised to a scale is undone by raising it
again. -/
theorem IsStripped.raiseScale_eq
    {stripped decimal : Decimal}
    {scale : Nat}
    (isStripped : stripped.IsStripped)
    (equal : stripped.compare (decimal.raiseScale scale) = .eq)
    (within : (decimal.raiseScale scale).scale ≤ scale) :
    stripped.raiseScale scale = decimal.raiseScale scale := by
  have shorter := isStripped.scale_le equal
  calc stripped.raiseScale scale
    _ = appendZeros (((decimal.raiseScale scale).scale - stripped.scale) +
          (scale - (decimal.raiseScale scale).scale)) stripped := by
      rw [raiseScale]
      congr 1
      omega
    _ = (decimal.raiseScale scale).raiseScale scale := by
      rw [appendZeros_add, appendZeros_of_compare_eq (compare_symm equal) (by omega)]
      rfl
    _ = decimal.raiseScale scale := raiseScale_raiseScale decimal scale

end Decimal

/-! ## Values of a column -/

namespace Column

/-- Whether a column can hold a value that is stored: an absent one, or one of its
class and in its integer range, and an interval column only an absent one. -/
structure Holds (column : Column) (value : Value) : Prop where
  /-- The value is absent or of the class of the column. -/
  admits : column.dataType.admits value = true
  /-- An integer column holds integers of its range. -/
  inRange : ∀ least greatest, column.dataType.integerRange? = some (least, greatest) ->
    value = .null ∨ ∃ number, value.asInteger? = some number ∧ least ≤ number ∧ number ≤ greatest
  /-- An interval column holds nothing. -/
  storable : column.dataType.isTupleEncodable = true ∨ value = .null

theorem asInteger_of_admits
    {dataType : DataType}
    {value : Value}
    {bounds : Int × Int}
    (range : dataType.integerRange? = some bounds)
    (admits : dataType.admits value = true) :
    value = .null ∨ ∃ number, value.asInteger? = some number := by
  cases value with
  | null => exact .inl rfl
  | tinyInt _ | smallInt _ | int _ | bigInt _ | unsigned _ => exact .inr ⟨_, rfl⟩
  | _ => cases dataType <;> cases range <;> cases admits

theorem holds_of_admits
    {column : Column}
    {value : Value}
    (admits : column.dataType.admits value = true) :
    column.Holds value := by
  refine ⟨admits, fun least greatest range => ?_, ?_⟩
  · refine (asInteger_of_admits range admits).imp_right fun ⟨number, isInteger⟩ => ?_
    obtain ⟨_, _, again, above, below, _⟩ := integerValue_of_admits admits isInteger
    obtain ⟨rfl, rfl⟩ := Prod.mk.inj (Option.some.inj (again.symm.trans range))
    exact ⟨number, isInteger, above, below⟩
  · cases isType : column.dataType
    -- an interval type takes no value
    case intervalMonths | intervalMillis =>
      rw [isType] at admits
      cases value with
      | null => exact .inr rfl
      | _ => cases admits
    all_goals exact .inl rfl

/-- What a decimal column gives is absent or has been raised to its places. -/
theorem valueOfElement_decimal
    {column : Column}
    {precision scale : UInt8}
    {element : Element}
    {value : Value}
    (isDecimal : column.dataType = .decimal precision scale)
    (given : column.valueOfElement element = .ok value) :
    (element = .null ∧ value = .null) ∨
      ∃ number, element = .decimal number ∧ value = .decimal (number.raiseScale scale.toNat) := by
  unfold valueOfElement otherOfElement at given
  rw [isDecimal] at given
  cases element <;> simp only [Element.isNull, DataType.integerRange?, Bool.false_eq_true,
    if_false, if_true, reduceCtorEq, Except.ok.injEq] at given
  · exact .inl ⟨rfl, given.symm⟩
  · exact .inr ⟨_, rfl, given.symm⟩

/-- A value is given again by its own element, unless it is a decimal with more
places than its column has. -/
theorem valueOfElement_again
    {column : Column}
    {element stored back : Element}
    {value again : Value}
    (given : column.valueOfElement element = .ok value)
    (encoded : value.toElement = .ok stored)
    (reads : stored.ReadsAs back)
    (givenAgain : column.valueOfElement back = .ok again)
    (alike : again.Alike value)
    (within : ∀ number precision scale, value = .decimal number ->
      column.dataType = .decimal precision scale -> number.scale ≤ scale.toNat) :
    again = value := by
  obtain rfl | ⟨_, number, rfl, rfl, _⟩ := Value.alike_cases alike
  · rfl
  · obtain ⟨precision, scale, isDecimal⟩ : ∃ precision scale,
        column.dataType = .decimal precision scale := by
      have admits := admits_of_valueOfElement given
      cases dataType : column.dataType <;> rw [dataType] at admits <;> cases admits
      exact ⟨_, _, rfl⟩
    obtain rfl := Except.ok.inj encoded
    obtain ⟨stripped, rfl, equal, isStripped⟩ := reads
    rcases valueOfElement_decimal isDecimal given with ⟨_, absent⟩ | ⟨decimal, _, raised⟩
    · cases absent
    · obtain rfl := Value.decimal.inj raised
      rcases valueOfElement_decimal isDecimal givenAgain with ⟨absent, _⟩ | ⟨_, same, whole⟩
      · cases absent
      · obtain rfl := Element.decimal.inj same
        rw [whole, isStripped.raiseScale_eq equal (within _ precision scale rfl isDecimal)]

end Column

/-! ## Rows -/

namespace Row

/-- Whether no decimal has more places than its column. -/
def KeepsPlaces (columns : List Column) (values : List Value) : Prop :=
  ∀ column number precision scale, (column, Value.decimal number) ∈ columns.zip values ->
    column.dataType = .decimal precision scale -> number.scale ≤ scale.toNat

theorem values_again
    {columns : List Column}
    {first stored back : Tuple}
    {values again : List Value}
    (sameLength : first.length = columns.length)
    (given : List.Forall₂ (fun pair value => pair.1.valueOfElement pair.2 = .ok value)
      (columns.zip first) values)
    (encoded : List.Forall₂ (fun value element => value.toElement = .ok element) values stored)
    (reads : List.Forall₂ Element.ReadsAs stored back)
    (givenAgain : List.Forall₂ (fun pair value => pair.1.valueOfElement pair.2 = .ok value)
      (columns.zip back) again)
    (alike : List.Forall₂ Value.Alike again values)
    (within : KeepsPlaces columns values) :
    again = values := by
  induction alike generalizing columns first stored back with
  | nil => rfl
  | @cons valueAgain value again values alikeFirst _ inductionHypothesis =>
      obtain ⟨element, stored, encodedFirst, encodedOthers, rfl⟩ :=
        List.forall₂_cons_left_iff.mp encoded
      obtain ⟨elementBack, back, readsFirst, readsOthers, rfl⟩ :=
        List.forall₂_cons_left_iff.mp reads
      obtain _ | ⟨column, columns⟩ := columns
      · cases given
      obtain _ | ⟨elementFirst, first⟩ := first
      · cases given
      obtain ⟨givenFirst, givenOthers⟩ := List.forall₂_cons.mp given
      obtain ⟨againFirst, againOthers⟩ := List.forall₂_cons.mp givenAgain
      rw [Column.valueOfElement_again givenFirst encodedFirst readsFirst againFirst alikeFirst
        fun number precision scale isDecimal =>
          within column number precision scale (by rw [← isDecimal]; exact List.mem_cons_self),
        inductionHypothesis (Nat.succ.inj sameLength) givenOthers encodedOthers readsOthers
          againOthers fun column number precision scale paired =>
            within column number precision scale (List.mem_cons_of_mem _ paired)]

/-- Whatever bytes are decoded as a row, the row fits its type: each column holds
its value.  The row is stored again, and decoding that gives the same values,
decimals by number and with their places unless those are more than the column's,
from the same bytes. -/
theorem decoded_row_fits
    {rowType : RowType}
    {bytes : Bytes}
    {row : Row}
    (decoded : decode rowType bytes = .ok row) :
    row.rowType = rowType ∧ List.Forall₂ Column.Holds rowType.columns row.values ∧
      ∃ stored again, row.encode = .ok stored ∧ decode rowType stored = .ok again ∧
        again.rowType = rowType ∧ List.Forall₂ Value.Alike again.values row.values ∧
        again.encode = .ok stored ∧
        (KeepsPlaces rowType.columns row.values -> again = row) := by
  obtain ⟨tuple, values, _, sameLength, given, rfl⟩ := decode_eq_ok.mp decoded
  have takes : rowType.Takes values := takes_of_given sameLength given
  obtain ⟨stored, encoded⟩ := exists_encode takes
  obtain ⟨again, decodedAgain, alike⟩ := exists_decode takes encoded
  refine ⟨rfl, takes.imp fun _ _ admits => Column.holds_of_admits admits, stored,
    ofValues rowType again, encoded, decodedAgain, rfl, alike,
    (takes_of_decode encoded decodedAgain).2, fun within => ?_⟩
  obtain ⟨elements, formed, packed⟩ := bind_eq_ok.mp encoded
  obtain ⟨back, unpacked, reads⟩ := Tuple.unpack_of_pack packed
  obtain ⟨other, valuesAgain, unpackedAgain, _, givenAgain, same⟩ :=
    decode_eq_ok.mp decodedAgain
  obtain rfl := Except.ok.inj (unpacked.symm.trans unpackedAgain)
  obtain rfl : again = valuesAgain := congrArg Row.values same
  rw [values_again sameLength given (toTuple_eq_ok.mp formed).2 reads givenAgain alike within]

/-- A row type of a long integer, a short one, a price and an interval. -/
def lotType : RowType :=
  ⟨⟨1⟩, ⟨"s", "lots"⟩,
    [⟨"number", .unsignedBigInt, false, none, false⟩, ⟨"level", .mediumInt, true, none, false⟩,
      ⟨"price", .decimal 10 2, true, none, false⟩,
      ⟨"term", .intervalMonths, true, none, false⟩]⟩

/-- Padded integers at the ends of their ranges and a price with too many places. -/
def lotBytes : Bytes :=
  [0x1D, 0x09, 0x00, 0xFF, 0xFF, 0xFF, 0xFF, 0xFF, 0xFF, 0xFF, 0xFF, 0x10, 0xFF, 0x7F, 0xFF, 0xFF,
    0x40, 0x03, 0x81, 0x02, 0x06, 0x01, 0x01, 0x00, 0x00]

/-- The row of the padded bytes. -/
def lot : Row :=
  ofValues lotType [.unsigned 0xFFFFFFFFFFFFFFFF, .int (-0x800000),
    .decimal ⟨1500, 3, by decide, .inl (by decide)⟩, .null]

/-- The row of the padded bytes fits and is stored again. -/
theorem decoded_row_fits_lot :
    decode lotType lotBytes = .ok lot ∧
      lot.rowType = lotType ∧ List.Forall₂ Column.Holds lotType.columns lot.values ∧
        ∃ stored again, lot.encode = .ok stored ∧ decode lotType stored = .ok again ∧
          again.rowType = lotType ∧ List.Forall₂ Value.Alike again.values lot.values ∧
          again.encode = .ok stored ∧
          (KeepsPlaces lotType.columns lot.values -> again = lot) := by
  have decoded : decode lotType lotBytes = .ok lot := by decide +kernel
  exact ⟨decoded, decoded_row_fits decoded⟩

end Row
end Keyspace
