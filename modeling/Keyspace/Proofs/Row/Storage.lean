import Keyspace.Proofs.Traversal
import Keyspace.Proofs.Tuple.RoundTrip
import Keyspace.Row.Row

/-!
# Values and rows in storage

A value of the class that a column stores is read back from its packed element,
and a row from its packed tuple.  Only the zeros at the end of a decimal may
differ: the column's places decide how many there are.
-/

namespace Keyspace

/-! ## Equal numbers -/

namespace Decimal

theorem compare_eq_iff
    {left right : Decimal} :
    left.compare right = .eq ↔
      left.mantissa * Nat.pow 10 right.scale = right.mantissa * Nat.pow 10 left.scale :=
  Std.compare_eq_iff_eq

@[simp] theorem compare_self
    (decimal : Decimal) :
    decimal.compare decimal = .eq :=
  compare_eq_iff.mpr rfl

theorem compare_symm
    {left right : Decimal}
    (equal : left.compare right = .eq) :
    right.compare left = .eq :=
  compare_eq_iff.mpr (compare_eq_iff.mp equal).symm

theorem compare_trans
    {first second third : Decimal}
    (firstSecond : first.compare second = .eq)
    (secondThird : second.compare third = .eq) :
    first.compare third = .eq := by
  rw [compare_eq_iff] at *
  have nonzero : ((Nat.pow 10 second.scale : Nat) : Int) ≠ 0 :=
    Int.natCast_ne_zero.mpr (Nat.pow_pos (by decide)).ne'
  apply Int.eq_of_mul_eq_mul_right nonzero
  calc first.mantissa * Nat.pow 10 third.scale * Nat.pow 10 second.scale
    _ = first.mantissa * Nat.pow 10 second.scale * Nat.pow 10 third.scale := by ring
    _ = second.mantissa * Nat.pow 10 third.scale * Nat.pow 10 first.scale := by
      rw [firstSecond]
      ring
    _ = third.mantissa * Nat.pow 10 first.scale * Nat.pow 10 second.scale := by
      rw [secondThird]
      ring

theorem compare_appendZero
    {decimal longer : Decimal}
    (appended : decimal.appendZero? = some longer) :
    longer.compare decimal = .eq := by
  unfold appendZero? at appended
  split at appended
  · split at appended
    · obtain rfl := Option.some.inj appended
      rw [compare_eq_iff]
      simp only [Nat.pow_eq, pow_succ]
      push_cast
      ring
    · simp at appended
  · simp at appended

theorem compare_appendZeros
    (steps : Nat)
    (decimal : Decimal) :
    (appendZeros steps decimal).compare decimal = .eq := by
  induction steps generalizing decimal with
  | zero => exact compare_self decimal
  | succ steps inductionHypothesis =>
      unfold appendZeros
      cases appended : decimal.appendZero? with
      | none => exact compare_self decimal
      | some longer =>
          exact compare_trans (inductionHypothesis longer) (compare_appendZero appended)

/-- Padding with zeros keeps the number. -/
theorem compare_raiseScale
    (decimal : Decimal)
    (scale : Nat) :
    (decimal.raiseScale scale).compare decimal = .eq :=
  compare_appendZeros _ decimal

end Decimal

namespace Value

/-- Whether two values are equal up to the zeros at the end of a decimal.
Floats are told apart by their bits. -/
def Alike : Value -> Value -> Prop
  | decimal left, decimal right => left.compare right = .eq
  | left, right => left = right

@[simp] theorem alike_refl
    (value : Value) :
    value.Alike value := by
  cases value <;> simp [Alike]

theorem alike_cases
    {left right : Value}
    (alike : left.Alike right) :
    left = right ∨ ∃ leftNumber rightNumber, left = decimal leftNumber ∧
      right = decimal rightNumber ∧ leftNumber.compare rightNumber = .eq := by
  unfold Alike at alike
  split at alike
  · exact .inr ⟨_, _, rfl, rfl, alike⟩
  · exact .inl alike

theorem Alike.symm
    {left right : Value}
    (alike : left.Alike right) :
    right.Alike left := by
  obtain rfl | ⟨leftNumber, rightNumber, rfl, rfl, equal⟩ := alike_cases alike
  · exact alike_refl left
  · exact Decimal.compare_symm equal

theorem Alike.trans
    {first second third : Value}
    (firstSecond : first.Alike second)
    (secondThird : second.Alike third) :
    first.Alike third := by
  obtain rfl | ⟨firstNumber, secondNumber, rfl, rfl, firstEqual⟩ := alike_cases firstSecond
  · exact secondThird
  · obtain rfl | ⟨_, thirdNumber, same, rfl, secondEqual⟩ := alike_cases secondThird
    · exact firstEqual
    · obtain rfl := Value.decimal.inj same
      exact Decimal.compare_trans firstEqual secondEqual

theorem Alike.admits
    {left right : Value}
    {dataType : DataType}
    (alike : left.Alike right)
    (admits : dataType.admits right = true) :
    dataType.admits left = true := by
  obtain rfl | ⟨leftNumber, rightNumber, rfl, rfl, _⟩ := alike_cases alike
  · exact admits
  · cases dataType <;> first | rfl | cases admits

/-! ## Values as bytes -/

/-- The packed element of a value. -/
def packed (value : Value) : Except Error Bytes := do
  (← value.toElement).pack

theorem packed_eq_ok
    {value : Value}
    {bytes : Bytes} :
    value.packed = .ok bytes ↔
      ∃ element, value.toElement = .ok element ∧ element.pack = .ok bytes :=
  bind_eq_ok

/-- A value that a type stores has a packed element. -/
theorem exists_packed
    {value : Value}
    {dataType : DataType}
    (admits : dataType.admits value = true) :
    ∃ bytes, value.packed = .ok bytes := by
  cases value with
  | interval length => cases dataType <;> cases admits
  | unsigned number =>
      have short : Bytes.byteLength (number.toNat : Int).natAbs ≤ Element.maxMagnitudeBytes :=
        (Bytes.byteLength_le_iff _ 255).mpr (number.toNat_lt.trans (by decide))
      refine (exists_congr fun bytes => packed_eq_ok).mpr ?_
      simp only [toElement, Element.ofInt]
      split
      · exact ⟨_, _, rfl, rfl⟩
      · exact ⟨_, _, rfl, if_pos short⟩
  | _ => exact ⟨_, rfl⟩

/-- Values that are alike are stored alike. -/
theorem Alike.packed_eq
    {left right : Value}
    (alike : left.Alike right) :
    left.packed = right.packed := by
  obtain rfl | ⟨leftNumber, rightNumber, rfl, rfl, equal⟩ := alike_cases alike
  · rfl
  · exact congrArg (fun bytes => Except.ok (TypeCode.decimal :: bytes))
      (Element.packDecimal_congr equal)

theorem asInteger_of_toElement
    {value : Value}
    {element : Element}
    {number : Int}
    (isInteger : value.asInteger? = some number)
    (encoded : value.toElement = .ok element) :
    element.asInteger? = some number := by
  cases value with
  | tinyInt small =>
      obtain rfl := Option.some.inj isInteger
      obtain rfl := Except.ok.inj encoded
      have least := small.le_toInt
      have greatest := small.toInt_lt
      exact congrArg some (Int64.toInt_ofInt_of_le (by omega) (by omega))
  | smallInt small =>
      obtain rfl := Option.some.inj isInteger
      obtain rfl := Except.ok.inj encoded
      have least := small.le_toInt
      have greatest := small.toInt_lt
      exact congrArg some (Int64.toInt_ofInt_of_le (by omega) (by omega))
  | int small =>
      obtain rfl := Option.some.inj isInteger
      obtain rfl := Except.ok.inj encoded
      have least := small.le_toInt
      have greatest := small.toInt_lt
      exact congrArg some (Int64.toInt_ofInt_of_le (by omega) (by omega))
  | bigInt small =>
      obtain rfl := Except.ok.inj encoded
      exact isInteger
  | unsigned natural =>
      obtain rfl := Option.some.inj isInteger
      obtain rfl := Except.ok.inj encoded
      rcases Element.readsAs_ofInt (natural.toNat : Int) with ⟨narrow, same, read⟩ | ⟨_, read⟩
      · rw [read, ← same]
        rfl
      · rw [read]
        rfl
  | _ => simp [asInteger?] at isInteger

end Value

namespace Element

theorem ReadsAs.asInteger
    {element back : Element}
    {number : Int}
    (reads : element.ReadsAs back)
    (isInteger : element.asInteger? = some number) :
    back.asInteger? = some number := by
  cases element with
  | integer small =>
      obtain rfl := reads
      exact isInteger
  | bigInteger wide =>
      obtain rfl := Option.some.inj isInteger
      rcases reads with ⟨narrow, rfl, rfl⟩ | ⟨_, rfl⟩ <;> rfl
  | _ => simp [asInteger?] at isInteger

end Element

/-! ## Values of a column -/

namespace Column

/-- An admitted integer is in the range of its type, which gives it back. -/
theorem integerValue_of_admits
    {dataType : DataType}
    {value : Value}
    {number : Int}
    (admits : dataType.admits value = true)
    (isInteger : value.asInteger? = some number) :
    ∃ least greatest, dataType.integerRange? = some (least, greatest) ∧
      least ≤ number ∧ number ≤ greatest ∧ integerValue dataType number = value := by
  cases value with
  | tinyInt small =>
      obtain rfl := Option.some.inj isInteger
      have least := small.le_toInt
      have greatest := small.toInt_lt
      cases dataType <;> simp only [DataType.admits, Bool.false_eq_true] at admits
      exact ⟨_, _, rfl, by omega, by omega, congrArg Value.tinyInt (Int8.ofInt_toInt small)⟩
  | smallInt small =>
      obtain rfl := Option.some.inj isInteger
      have least := small.le_toInt
      have greatest := small.toInt_lt
      cases dataType <;> simp only [DataType.admits, Bool.false_eq_true] at admits
      exact ⟨_, _, rfl, by omega, by omega, congrArg Value.smallInt (Int16.ofInt_toInt small)⟩
  | int small =>
      obtain rfl := Option.some.inj isInteger
      have least := small.le_toInt
      have greatest := small.toInt_lt
      have back : Value.int (Int32.ofInt small.toInt) = Value.int small :=
        congrArg Value.int (Int32.ofInt_toInt small)
      cases dataType <;>
        simp only [DataType.admits, Bool.false_eq_true, decide_eq_true_eq] at admits
      · exact ⟨_, _, rfl, by omega, by omega, back⟩
      · exact ⟨_, _, rfl, by omega, by omega, back⟩
  | bigInt small =>
      obtain rfl := Option.some.inj isInteger
      have least := small.le_toInt
      have greatest := small.toInt_lt
      cases dataType <;> simp only [DataType.admits, Bool.false_eq_true] at admits
      exact ⟨_, _, rfl, by omega, by omega, congrArg Value.bigInt (Int64.ofInt_toInt small)⟩
  | unsigned natural =>
      obtain rfl := Option.some.inj isInteger
      have greatest := natural.toNat_lt
      have back : Value.unsigned (UInt64.ofNat (natural.toNat : Int).toNat) =
          Value.unsigned natural :=
        congrArg Value.unsigned UInt64.ofNat_toNat
      cases dataType <;>
        simp only [DataType.admits, Bool.false_eq_true, decide_eq_true_eq] at admits
      · exact ⟨_, _, rfl, by omega, by omega, back⟩
      · exact ⟨_, _, rfl, by omega, by omega, back⟩
      · exact ⟨_, _, rfl, by omega, by omega, back⟩
      · exact ⟨_, _, rfl, by omega, by omega, back⟩
      · exact ⟨_, _, rfl, by omega, by omega, back⟩
  | _ => simp [Value.asInteger?] at isInteger

theorem integerOfElement_of_le
    {column : Column}
    {element : Element}
    {least greatest number : Int}
    (isInteger : element.asInteger? = some number)
    (isWide : fitsWide number = true)
    (above : least ≤ number)
    (below : number ≤ greatest) :
    column.integerOfElement least greatest element =
      .ok (integerValue column.dataType number) := by
  have inRange : ¬ (number < least ∨ greatest < number) := by omega
  simp [integerOfElement, isInteger, Option.filter, isWide, inRange]

theorem fitsWide_of_asInteger
    {value : Value}
    {number : Int}
    (isInteger : value.asInteger? = some number) :
    fitsWide number = true := by
  have bounds : -0x8000000000000000 ≤ number ∧ number < 0x10000000000000000 := by
    cases value with
    | tinyInt small =>
        obtain rfl := Option.some.inj isInteger
        have least := small.le_toInt
        have greatest := small.toInt_lt
        omega
    | smallInt small =>
        obtain rfl := Option.some.inj isInteger
        have least := small.le_toInt
        have greatest := small.toInt_lt
        omega
    | int small =>
        obtain rfl := Option.some.inj isInteger
        have least := small.le_toInt
        have greatest := small.toInt_lt
        omega
    | bigInt small =>
        obtain rfl := Option.some.inj isInteger
        have least := small.le_toInt
        have greatest := small.toInt_lt
        omega
    | unsigned natural =>
        obtain rfl := Option.some.inj isInteger
        have greatest := natural.toNat_lt
        omega
    | _ => simp [Value.asInteger?] at isInteger
  apply decide_eq_true
  omega

theorem valueOfElement_of_asInteger
    {column : Column}
    {value : Value}
    {back : Element}
    {number : Int}
    (admits : column.dataType.admits value = true)
    (isInteger : value.asInteger? = some number)
    (backIsInteger : back.asInteger? = some number) :
    column.valueOfElement back = .ok value := by
  obtain ⟨least, greatest, range, above, below, same⟩ := integerValue_of_admits admits isInteger
  have notNull : back.isNull = false := by
    cases back with
    | null => simp [Element.asInteger?] at backIsInteger
    | _ => rfl
  simp only [valueOfElement, notNull, Bool.false_eq_true, if_false, range]
  rw [integerOfElement_of_le backIsInteger (fitsWide_of_asInteger isInteger) above below, same]

/-- What a column takes is read back from its element. -/
theorem exists_valueOfElement
    {column : Column}
    {value : Value}
    {element back : Element}
    (admits : column.dataType.admits value = true)
    (encoded : value.toElement = .ok element)
    (reads : element.ReadsAs back) :
    ∃ decoded, column.valueOfElement back = .ok decoded ∧ decoded.Alike value := by
  cases isInteger : value.asInteger? with
  | some number =>
      have backIsInteger := reads.asInteger (Value.asInteger_of_toElement isInteger encoded)
      exact ⟨value, valueOfElement_of_asInteger admits isInteger backIsInteger,
        Value.alike_refl value⟩
  | none =>
      obtain ⟨name, dataType, nullable, collation, internal⟩ := column
      cases value with
      | null =>
          obtain rfl := Except.ok.inj encoded
          obtain rfl := reads
          exact ⟨.null, rfl, rfl⟩
      | decimal number =>
          obtain rfl := Except.ok.inj encoded
          obtain ⟨stripped, rfl, equal, _⟩ := reads
          cases dataType <;> simp only [DataType.admits, Bool.false_eq_true] at admits
          exact ⟨_, rfl, Decimal.compare_trans (Decimal.compare_raiseScale stripped _) equal⟩
      | date day =>
          obtain rfl := Except.ok.inj encoded
          obtain rfl := reads
          have least := day.le_toInt
          have greatest := day.toInt_lt
          cases dataType <;> simp only [DataType.admits, Bool.false_eq_true] at admits
          refine ⟨.date day, ?_, rfl⟩
          simp [valueOfElement, Element.isNull, DataType.integerRange?, otherOfElement]
          omega
      | year number =>
          obtain rfl := Except.ok.inj encoded
          obtain rfl := reads
          have greatest := number.toNat_lt
          have stored : (Int64.ofInt (number.toNat : Int)).toInt = number.toNat :=
            Int64.toInt_ofInt_of_le (by omega) (by omega)
          cases dataType <;> simp only [DataType.admits, Bool.false_eq_true] at admits
          refine ⟨.year number, ?_, rfl⟩
          simp [valueOfElement, Element.isNull, DataType.integerRange?, otherOfElement, stored]
          omega
      | interval length => simp [Value.toElement] at encoded
      | tinyInt _ | smallInt _ | int _ | bigInt _ | unsigned _ =>
          simp [Value.asInteger?] at isInteger
      | boolean _ | float _ | double _ | string _ | bytes _ | time _ | timestamp _ | guid _
      | blob _ =>
          obtain rfl := Except.ok.inj encoded
          obtain rfl := reads
          cases dataType <;> simp only [DataType.admits, Bool.false_eq_true] at admits <;>
            exact ⟨_, rfl, rfl⟩

end Column

/-! ## Rows -/

/-- Whether there is one value per column, absent or of the class that the
column stores and in its integer range. -/
def RowType.Takes (rowType : RowType) (values : List Value) : Prop :=
  List.Forall₂ (fun column value => column.dataType.admits value = true) rowType.columns values

namespace Row

/-- A row with one value, and all others absent. -/
def lone (columns : List Column) (position : Nat) (value : Value) : List Value :=
  (columns.map fun _ => Value.null).set position value

theorem forall₂_lone
    {relation : Column -> Value -> Prop}
    {columns : List Column}
    {position : Nat}
    {column : Column}
    {value : Value}
    (absent : ∀ column, relation column .null)
    (here : columns[position]? = some column)
    (fits : relation column value) :
    List.Forall₂ relation columns (lone columns position value) := by
  apply forall₂_set
  · exact List.forall₂_map_right_iff.mpr (List.forall₂_same.mpr fun other _ => absent other)
  · rintro other found
    obtain rfl := Option.some.inj (here.symm.trans found)
    exact fits

theorem takes_lone
    {columns : List Column}
    {position : Nat}
    {column : Column}
    {value : Value}
    (here : columns[position]? = some column)
    (admits : column.dataType.admits value = true) :
    List.Forall₂ (fun column value => column.dataType.admits value = true) columns
      (lone columns position value) :=
  forall₂_lone (fun other => by cases other.dataType <;> rfl) here admits

theorem getElem?_lone
    {columns : List Column}
    {position : Nat}
    {column : Column}
    (here : columns[position]? = some column)
    (value : Value) :
    (lone columns position value)[position]? = some value := by
  rw [lone, List.getElem?_set_self (by simpa using (List.getElem?_eq_some_iff.mp here).1)]

theorem toTuple_eq_ok
    {row : Row}
    {tuple : Tuple} :
    row.toTuple = .ok tuple ↔ row.values.length = row.rowType.columns.length ∧
      List.Forall₂ (fun value element => value.toElement = .ok element) row.values tuple := by
  rw [← mapM_eq_ok]
  by_cases shaped : row.values.length = row.rowType.columns.length <;> simp [toTuple, shaped]

/-- The values of the elements that packed values are read back as. -/
theorem exists_valuesOfElements
    {columns : List Column}
    {values : List Value}
    {tuple back : Tuple}
    (fits : List.Forall₂ (fun column value => column.dataType.admits value = true) columns values)
    (encoded : List.Forall₂ (fun value element => value.toElement = .ok element) values tuple)
    (reads : List.Forall₂ Element.ReadsAs tuple back) :
    ∃ decoded, (columns.zip back).mapM (fun pair => pair.1.valueOfElement pair.2) = .ok decoded ∧
      List.Forall₂ Value.Alike decoded values := by
  induction encoded generalizing columns back with
  | nil =>
      obtain rfl := List.forall₂_nil_right_iff.mp fits
      obtain rfl := List.forall₂_nil_left_iff.mp reads
      exact ⟨[], rfl, .nil⟩
  | cons first _ inductionHypothesis =>
      obtain ⟨backFirst, backOthers, readsFirst, readsOthers, rfl⟩ :=
        List.forall₂_cons_left_iff.mp reads
      obtain ⟨column, columns, admits, othersFit, rfl⟩ := List.forall₂_cons_right_iff.mp fits
      obtain ⟨decoded, valueRead, alike⟩ := Column.exists_valueOfElement admits first readsFirst
      obtain ⟨others, othersRead, othersAlike⟩ := inductionHypothesis othersFit readsOthers
      refine ⟨decoded :: others, ?_, .cons alike othersAlike⟩
      rw [mapM_eq_ok] at othersRead ⊢
      exact .cons valueRead othersRead

theorem decode_eq_ok
    {rowType : RowType}
    {bytes : Bytes}
    {row : Row} :
    decode rowType bytes = .ok row ↔
      ∃ tuple values, Tuple.unpack bytes = .ok tuple ∧ tuple.length = rowType.columns.length ∧
        List.Forall₂ (fun pair value => pair.1.valueOfElement pair.2 = .ok value)
          (rowType.columns.zip tuple) values ∧
        row = ofValues rowType values := by
  constructor
  · intro decoded
    obtain ⟨tuple, unpacked, formed⟩ := bind_eq_ok.mp decoded
    unfold ofTuple at formed
    dsimp only at formed
    split at formed
    · next sameLength =>
        obtain ⟨values, given, same⟩ := bind_eq_ok.mp formed
        exact ⟨tuple, values, unpacked, sameLength, mapM_eq_ok.mp given,
          (pure_eq_ok.mp same).symm⟩
    · cases formed
  · rintro ⟨tuple, values, unpacked, sameLength, given, rfl⟩
    refine bind_eq_ok.mpr ⟨tuple, unpacked, ?_⟩
    rw [ofTuple, if_pos sameLength]
    exact bind_eq_ok.mpr ⟨values, mapM_eq_ok.mpr given, rfl⟩

/-- A row is read back, by the type of a row with columns that take its values,
from the bytes that store it. -/
theorem exists_decode
    {row : Row}
    {rowType : RowType}
    {bytes : Bytes}
    (fits : rowType.Takes row.values)
    (encoded : row.encode = .ok bytes) :
    ∃ values, decode rowType bytes = .ok (ofValues rowType values) ∧
      List.Forall₂ Value.Alike values row.values := by
  obtain ⟨tuple, formed, packed⟩ := bind_eq_ok.mp encoded
  have elements := (toTuple_eq_ok.mp formed).2
  obtain ⟨back, unpacked, reads⟩ := Tuple.unpack_of_pack packed
  obtain ⟨values, decoded, alike⟩ := exists_valuesOfElements fits elements reads
  refine ⟨values, ?_, alike⟩
  have backLength : back.length = rowType.columns.length := by
    rw [← reads.length_eq, ← elements.length_eq, fits.length_eq]
  exact decode_eq_ok.mpr ⟨back, values, unpacked, backLength, mapM_eq_ok.mp decoded, rfl⟩

end Row
end Keyspace
