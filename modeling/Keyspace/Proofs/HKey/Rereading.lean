import Keyspace.Proofs.HKey.Decoding
import Keyspace.Proofs.Tuple.Repacking

/-!
# Bytes that are read

Packed elements may be read by columns that they were not packed for.  What is
read from them nevertheless has the same packed form, so that bytes are read as
a row or as a key exactly if they are those of a row that fits or of a path.
-/

namespace Keyspace

open Bytes (Continues)

/-! ## Values -/

namespace Column

theorem asInteger_integerValue
    {dataType : DataType}
    {least greatest number : Int}
    (range : dataType.integerRange? = some (least, greatest))
    (above : least ≤ number)
    (below : number ≤ greatest) :
    (integerValue dataType number).asInteger? = some number := by
  cases dataType <;> simp only [DataType.integerRange?, Option.some.injEq, Prod.mk.injEq,
    reduceCtorEq] at range
  all_goals
    obtain ⟨rfl, rfl⟩ := range
    simp only [integerValue, Value.asInteger?, Option.some.injEq]
  · exact Int8.toInt_ofInt_of_le (by omega) (by omega)
  · exact Int16.toInt_ofInt_of_le (by omega) (by omega)
  · exact Int32.toInt_ofInt_of_le (by omega) (by omega)
  · exact Int32.toInt_ofInt_of_le (by omega) (by omega)
  · exact Int64.toInt_ofInt_of_le (by omega) (by omega)
  all_goals
    rw [UInt64.toNat_ofNat']
    omega

/-- Integers have one packed form, whatever their widths. -/
theorem packed_of_asInteger
    {dataType : DataType}
    {element : Element}
    {value : Value}
    {number : Int}
    {bytes : Bytes}
    (admits : dataType.admits value = true)
    (isInteger : value.asInteger? = some number)
    (alsoInteger : element.asInteger? = some number)
    (packed : element.pack = .ok bytes) :
    value.packed = .ok bytes := by
  obtain ⟨others, valuePacked⟩ := Value.exists_packed admits
  obtain ⟨other, encoded, otherPacked⟩ := Value.packed_eq_ok.mp valuePacked
  have otherInteger := Value.asInteger_of_toElement isInteger encoded
  obtain ⟨rfl, _⟩ := Element.pack_of_asInteger otherInteger otherPacked
  obtain ⟨rfl, _⟩ := Element.pack_of_asInteger alsoInteger packed
  exact valuePacked

theorem packed_of_otherOfElement
    {column : Column}
    {element : Element}
    {value : Value}
    {bytes : Bytes}
    (given : column.otherOfElement element = .ok value)
    (packed : element.pack = .ok bytes) :
    value.packed = .ok bytes := by
  unfold otherOfElement at given
  split at given
  -- a decimal may have gained zeros
  case h_1 =>
    obtain rfl := Except.ok.inj given
    obtain rfl := Except.ok.inj packed
    exact congrArg (fun digits => Except.ok (TypeCode.decimal :: digits))
      (Element.packDecimal_congr (Decimal.compare_raiseScale _ _))
  -- days and years are integers of a range
  case h_12 number _ =>
    split at given
    · next inRange =>
        obtain rfl := Except.ok.inj given
        have same : (Int32.ofInt number.toInt).toInt = number.toInt :=
          Int32.toInt_ofInt_of_le (by omega) (by omega)
        rw [Value.packed_eq_ok]
        refine ⟨.integer number, ?_, packed⟩
        rw [Value.toElement, same, Int64.ofInt_toInt]
    · simp at given
  case h_16 number _ =>
    split at given
    · next inRange =>
        obtain rfl := Except.ok.inj given
        have same : ((UInt16.ofNat number.toInt.toNat).toNat : Int) = number.toInt := by
          rw [UInt16.toNat_ofNat']
          omega
        rw [Value.packed_eq_ok]
        refine ⟨.integer number, ?_, packed⟩
        rw [Value.toElement, same, Int64.ofInt_toInt]
    · simp at given
  case h_17 | h_18 | h_19 => simp at given
  all_goals
    obtain rfl := Except.ok.inj given
    exact packed

/-- What a column gives for an element has the packed form of the element. -/
theorem packed_of_valueOfElement
    {column : Column}
    {element : Element}
    {value : Value}
    {bytes : Bytes}
    (given : column.valueOfElement element = .ok value)
    (packed : element.pack = .ok bytes) :
    value.packed = .ok bytes := by
  have admits := admits_of_valueOfElement given
  unfold valueOfElement at given
  split at given
  · next isNull =>
      obtain rfl := Except.ok.inj given
      cases element <;> simp only [Element.isNull, Bool.false_eq_true] at isNull
      exact packed
  · split at given
    · next least greatest range =>
        unfold integerOfElement at given
        split at given
        · simp at given
        · next number isInteger =>
            split at given
            · simp at given
            · next inRange =>
                obtain rfl := Except.ok.inj given
                have valueInteger := asInteger_integerValue range
                  (show least ≤ number by omega) (show number ≤ greatest by omega)
                exact packed_of_asInteger admits valueInteger
                  (Option.filter_eq_some_iff.mp isInteger).1 packed
    · exact packed_of_otherOfElement given packed

end Column

/-! ## Rows -/

namespace Row

/-- What columns give for elements they also take. -/
theorem takes_of_given
    {columns : List Column}
    {tuple : Tuple}
    {values : List Value}
    (sameLength : tuple.length = columns.length)
    (given : List.Forall₂ (fun pair value => pair.1.valueOfElement pair.2 = .ok value)
      (columns.zip tuple) values) :
    List.Forall₂ (fun column value => column.dataType.admits value = true) columns values := by
  induction columns generalizing tuple values with
  | nil =>
      obtain rfl := List.forall₂_nil_left_iff.mp given
      exact .nil
  | cons column columns inductionHypothesis =>
      obtain _ | ⟨element, tuple⟩ := tuple
      · simp at sameLength
      · obtain ⟨value, values, first, others, rfl⟩ := List.forall₂_cons_left_iff.mp given
        exact .cons (Column.admits_of_valueOfElement first)
          (inductionHypothesis (Nat.succ.inj sameLength) others)

/-- The values that columns give for elements have the packed forms of these. -/
theorem packed_of_given
    {columns : List Column}
    {tuple back : Tuple}
    {parts : List Bytes}
    {values : List Value}
    (reads : List.Forall₂ Element.ReadsAs tuple back)
    (packed : List.Forall₂ (fun element part => element.pack = .ok part) tuple parts)
    (sameLength : back.length = columns.length)
    (given : List.Forall₂ (fun pair value => pair.1.valueOfElement pair.2 = .ok value)
      (columns.zip back) values) :
    List.Forall₂ (fun value part => value.packed = .ok part) values parts := by
  induction reads generalizing columns parts values with
  | nil =>
      obtain rfl := List.length_eq_zero_iff.mp sameLength.symm
      obtain rfl := List.forall₂_nil_left_iff.mp packed
      obtain rfl := List.forall₂_nil_left_iff.mp given
      exact .nil
  | cons first _ inductionHypothesis =>
      obtain _ | ⟨column, columns⟩ := columns
      · simp at sameLength
      · obtain ⟨part, parts, firstPacked, othersPacked, rfl⟩ :=
          List.forall₂_cons_left_iff.mp packed
        obtain ⟨value, values, valueGiven, othersGiven, rfl⟩ :=
          List.forall₂_cons_left_iff.mp given
        exact .cons (Column.packed_of_valueOfElement valueGiven (first.pack_eq firstPacked))
          (inductionHypothesis othersPacked (Nat.succ.inj sameLength) othersGiven)

theorem encode_of_packed
    {rowType : RowType}
    {values : List Value}
    {parts : List Bytes}
    (sameLength : values.length = rowType.columns.length)
    (packed : values.mapM Value.packed = .ok parts) :
    (ofValues rowType values).encode = .ok parts.flatten := by
  obtain ⟨elements, formed, elementsPacked⟩ := mapM_packed_eq_ok.mp packed
  have tuple : (ofValues rowType values).toTuple = .ok elements :=
    toTuple_eq_ok.mpr ⟨sameLength, mapM_eq_ok.mp formed⟩
  exact bind_eq_ok.mpr ⟨elements, tuple, bind_eq_ok.mpr ⟨parts, elementsPacked, rfl⟩⟩

/-- What a row type reads from a stored row fits its columns, and is stored by
the same bytes. -/
theorem takes_of_decode
    {row read : Row}
    {rowType : RowType}
    {bytes : Bytes}
    (encoded : row.encode = .ok bytes)
    (decoded : decode rowType bytes = .ok read) :
    rowType.Takes read.values ∧ (ofValues rowType read.values).encode = .ok bytes := by
  obtain ⟨tuple, _, packed⟩ := bind_eq_ok.mp encoded
  obtain ⟨back, unpacked, reads⟩ := Tuple.unpack_of_pack packed
  obtain ⟨parts, elementsPacked, whole⟩ := bind_eq_ok.mp packed
  obtain rfl := pure_eq_ok.mp whole
  obtain ⟨other, values, unpackedAgain, sameLength, given, rfl⟩ := decode_eq_ok.mp decoded
  obtain rfl := Except.ok.inj (unpacked.symm.trans unpackedAgain)
  have takes : rowType.Takes values := takes_of_given sameLength given
  have valuesPacked := packed_of_given reads (mapM_eq_ok.mp elementsPacked) sameLength given
  exact ⟨takes, encode_of_packed takes.length_eq.symm (mapM_eq_ok.mpr valuesPacked)⟩

end Row

/-! ## Packed bytes -/

/-- Whether bytes are packed elements, one after the other. -/
inductive Bytes.IsPacked : Bytes -> Prop
  | nil : IsPacked []
  | cons
      {element : Element}
      {part rest : Bytes}
      (packed : element.pack = .ok part)
      (others : IsPacked rest) :
      IsPacked (part ++ rest)

namespace Bytes.IsPacked

theorem continues
    {bytes : Bytes}
    (isPacked : bytes.IsPacked) :
    Continues bytes := by
  cases isPacked with
  | nil => exact continues_nil
  | cons packed _ => exact Element.continues_pack_append packed _

theorem append_parts
    {values : List Value}
    {parts : List Bytes}
    {rest : Bytes}
    (packed : List.Forall₂ (fun value part => value.packed = .ok part) values parts)
    (others : IsPacked rest) :
    IsPacked (parts.flatten ++ rest) := by
  induction packed with
  | nil => exact others
  | cons first _ inductionHypothesis =>
      obtain ⟨element, _, elementPacked⟩ := Value.packed_eq_ok.mp first
      rw [List.flatten_cons, List.append_assoc]
      exact .cons elementPacked inductionHypothesis

end Bytes.IsPacked

/-! ## Keys -/

namespace HKey

theorem pack_place
    (id : TableId) :
    (Element.bigInteger id.ordinal.toNat).pack =
      .ok (Element.packInteger id.ordinal.toNat) :=
  if_pos (Element.byteLength_uint32_le id.ordinal)

/-- Encoded keys are packed elements, those of paths and all others. -/
theorem isPacked_of_encode
    {segments : List Segment}
    {bytes : Bytes}
    (encoded : encode ⟨segments⟩ = .ok bytes) :
    bytes.IsPacked := by
  induction segments generalizing bytes with
  | nil =>
      obtain rfl := Except.ok.inj encoded
      exact .nil
  | cons segment segments inductionHypothesis =>
      obtain ⟨parts, others, packed, othersEncoded, rfl⟩ := encode_cons_eq_ok.mp encoded
      exact .cons (pack_place segment.table)
        (.append_parts (mapM_eq_ok.mp packed) (inductionHypothesis othersEncoded))

theorem pack_of_element
    {reader behind : Reader}
    {back : Element}
    (isPacked : reader.rest.IsPacked)
    (read : Decoder.element reader = .ok back behind) :
    ∃ part, back.pack = .ok part ∧ reader.rest = part ++ behind.rest ∧
      behind.rest.IsPacked := by
  obtain ⟨position, bytes⟩ := reader
  cases isPacked with
  | nil => cases read
  | @cons element part rest packed others =>
      obtain ⟨other, readOther, reads⟩ := Decoder.element_pack packed others.continues position
      obtain ⟨rfl, rfl⟩ := EStateM.Result.ok.inj (readOther.symm.trans read)
      exact ⟨part, reads.pack_eq packed, rfl, others⟩

theorem packed_of_decodeValue
    {table : Table}
    {position : Nat}
    {reader behind : Reader}
    {value : Value}
    (isPacked : reader.rest.IsPacked)
    (read : decodeValue table position reader = .ok value behind) :
    ∃ part, value.packed = .ok part ∧ reader.rest = part ++ behind.rest ∧
      behind.rest.IsPacked := by
  cases found : table.columns[position]? with
  | none => simp [decodeValue, found, Decoder.throw_eq_error] at read
  | some column =>
      simp only [decodeValue, found] at read
      obtain ⟨element, between, first, read⟩ := Decoder.bind_eq_ok.mp read
      obtain ⟨part, packed, split, others⟩ := pack_of_element isPacked first
      obtain ⟨given, rfl⟩ := Decoder.lift_eq_ok.mp read
      exact ⟨part, Column.packed_of_valueOfElement given packed, split, others⟩

theorem packed_of_decodeValues
    {table : Table}
    {positions : List Nat}
    {reader behind : Reader}
    {values : List Value}
    (isPacked : reader.rest.IsPacked)
    (read : positions.mapM (decodeValue table) reader = .ok values behind) :
    ∃ parts, values.mapM Value.packed = .ok parts ∧
      reader.rest = parts.flatten ++ behind.rest ∧ behind.rest.IsPacked := by
  induction positions generalizing reader values with
  | nil =>
      obtain ⟨rfl, rfl⟩ := Decoder.pure_eq_ok.mp read
      exact ⟨[], rfl, rfl, isPacked⟩
  | cons position positions inductionHypothesis =>
      rw [List.mapM_cons] at read
      obtain ⟨value, between, first, read⟩ := Decoder.bind_eq_ok.mp read
      obtain ⟨others, _, further, whole⟩ := Decoder.bind_eq_ok.mp read
      obtain ⟨rfl, rfl⟩ := Decoder.pure_eq_ok.mp whole
      obtain ⟨part, packed, split, left⟩ := packed_of_decodeValue isPacked first
      obtain ⟨parts, othersPacked, othersSplit, behindPacked⟩ := inductionHypothesis left further
      refine ⟨part :: parts, ?_, ?_, behindPacked⟩
      · exact mapM_eq_ok.mpr (.cons packed (mapM_eq_ok.mp othersPacked))
      · rw [split, othersSplit, List.flatten_cons, List.append_assoc]

theorem pack_of_tableOfElement
    {group : Group}
    {position : Nat}
    {element : Element}
    {table : Table}
    (numbered : group.Numbered)
    (found : tableOfElement group position element = .ok table) :
    element.pack = .ok (Element.packInteger table.id.ordinal.toNat) := by
  unfold tableOfElement at found
  split at found
  · next number =>
      dsimp only at found
      split at found
      · next same =>
          rw [Except.ok.inj found] at same
          split at same
          · next inRange =>
              obtain ⟨least, greatest⟩ := of_decide_eq_true inRange
              obtain ⟨_, sameId⟩ := numbered.table?_eq_some.mp same
              have place : (table.id.ordinal.toNat : Int) = number.toInt := by
                rw [sameId, UInt32.toNat_ofNat']
                omega
              rw [place]
              rfl
          · simp at same
      · simp at found
  · simp at found

theorem parts_of_decodeSegment
    {group : Group}
    {above : Option TableId}
    {reader behind : Reader}
    {segment : Segment}
    (numbered : group.Numbered)
    (isPacked : reader.rest.IsPacked)
    (read : decodeSegment group above reader = .ok segment behind) :
    ∃ parts, segment.parts = .ok parts ∧
      reader.rest = Element.packInteger segment.table.ordinal.toNat ++
        (parts.flatten ++ behind.rest) ∧
      behind.rest.IsPacked := by
  obtain ⟨_, start, got, read⟩ := Decoder.bind_eq_ok.mp read
  obtain ⟨rfl, rfl⟩ := EStateM.Result.ok.inj got
  obtain ⟨element, between, first, read⟩ := Decoder.bind_eq_ok.mp read
  obtain ⟨place, placePacked, split, left⟩ := pack_of_element isPacked first
  obtain ⟨table, _, found, read⟩ := Decoder.bind_eq_ok.mp read
  obtain ⟨isPlace, rfl⟩ := Decoder.lift_eq_ok.mp found
  obtain rfl := Except.ok.inj (placePacked.symm.trans (pack_of_tableOfElement numbered isPlace))
  split at read
  · simp [Decoder.throw_eq_error] at read
  · obtain ⟨values, _, given, whole⟩ := Decoder.bind_eq_ok.mp read
    obtain ⟨rfl, rfl⟩ := Decoder.pure_eq_ok.mp whole
    obtain ⟨parts, packed, valuesSplit, others⟩ := packed_of_decodeValues left given
    exact ⟨parts, packed, by rw [split, valuesSplit], others⟩

theorem encode_of_decodeSegments
    {group : Group}
    {steps : Nat}
    {above : Option TableId}
    {reader behind : Reader}
    {segments : List Segment}
    (numbered : group.Numbered)
    (isPacked : reader.rest.IsPacked)
    (enough : reader.rest.length ≤ steps)
    (read : decodeSegments group steps above reader = .ok segments behind) :
    encode ⟨segments⟩ = .ok reader.rest := by
  -- Without steps left there are no bytes left: each segment takes its place's byte at least.
  induction steps generalizing above reader segments with
  | zero =>
      obtain ⟨rfl, _⟩ := Decoder.pure_eq_ok.mp read
      rw [List.length_eq_zero_iff.mp (Nat.le_zero.mp enough)]
      rfl
  | succ steps inductionHypothesis =>
      obtain ⟨_, start, got, read⟩ := Decoder.bind_eq_ok.mp read
      obtain ⟨rfl, rfl⟩ := EStateM.Result.ok.inj got
      split at read
      · next atEnd =>
          obtain ⟨rfl, _⟩ := Decoder.pure_eq_ok.mp read
          rw [List.isEmpty_iff.mp atEnd]
          rfl
      · obtain ⟨segment, between, first, read⟩ := Decoder.bind_eq_ok.mp read
        obtain ⟨others, _, further, whole⟩ := Decoder.bind_eq_ok.mp read
        obtain ⟨rfl, rfl⟩ := Decoder.pure_eq_ok.mp whole
        obtain ⟨parts, packed, split, left⟩ := parts_of_decodeSegment numbered isPacked first
        obtain ⟨code, beyond, shape, _⟩ :=
          Element.exists_packInteger_eq_cons (segment.table.ordinal.toNat : Int)
        have othersEnough : between.rest.length ≤ steps := by
          simp only [split, shape, List.length_append, List.length_cons] at enough
          omega
        exact encode_cons_eq_ok.mpr
          ⟨parts, between.rest, packed, inductionHypothesis left othersEnough further, split⟩

/-- What is read from an encoded key has that encoding. -/
theorem encode_of_decode
    {group : Group}
    {hkey path : HKey}
    {bytes : Bytes}
    (numbered : group.Numbered)
    (encoded : hkey.encode = .ok bytes)
    (read : decode group bytes = .ok path) :
    path.encode = .ok bytes := by
  unfold decode at read
  split at read
  · next segments _ ran =>
      obtain rfl := Except.ok.inj read
      have isPacked : (Reader.start bytes).rest.IsPacked := isPacked_of_encode encoded
      exact encode_of_decodeSegments numbered isPacked le_rfl ran
  · simp at read

end HKey
end Keyspace
