import Keyspace.Proofs.Tuple.ReaderSteps

/-!
# Repacking what was read

Byte strings that no packing gives are read as tuples too: with integers that
are longer than they need be, and decimals with zeros at both ends.  What is read
can be packed, and reading that gives the same elements, so packing brings the
bytes into a normal form.
-/

namespace Keyspace

namespace Element

/-- Whether two elements are equal up to the zeros at the end of a decimal.
Floats are told apart by their bits. -/
def Alike : Element -> Element -> Prop
  | decimal left, decimal right => left.compare right = .eq
  | left, right => left = right

/-- A narrow element is read back as it is, but for zeros at the end of a
decimal. -/
theorem ReadsAs.alike
    {element back : Element}
    (reads : element.ReadsAs back)
    (narrow : element.IsNarrow) :
    back.Alike element := by
  cases element with
  | bigInteger number =>
      rcases reads with ⟨small, rfl, _⟩ | ⟨_, rfl⟩
      · exact absurd (fitsInt64_toInt small) (by simp [narrow.1])
      · rfl
  | decimal number =>
      obtain ⟨stripped, rfl, equal, _⟩ := reads
      exact equal
  | _ =>
      obtain rfl := reads
      rfl

/-- An element that is read back has the packed form that it was read from. -/
theorem ReadsAs.pack_eq
    {element back : Element}
    {bytes : Bytes}
    (reads : element.ReadsAs back)
    (packed : element.pack = .ok bytes) :
    back.pack = .ok bytes := by
  cases element with
  | bigInteger number =>
      rcases reads with ⟨narrow, rfl, rfl⟩ | ⟨_, rfl⟩
      · obtain ⟨rfl, _⟩ := pack_of_asInteger rfl packed
        rfl
      · exact packed
  | decimal number =>
      obtain ⟨stripped, rfl, equal, _⟩ := reads
      obtain rfl := Except.ok.inj packed
      exact congrArg (fun digits => Except.ok (TypeCode.decimal :: digits))
        (packDecimal_congr equal)
  | _ =>
      obtain rfl := reads
      exact packed

theorem exists_pack_of_isNarrow
    {element : Element}
    (narrow : element.IsNarrow) :
    ∃ bytes, element.pack = .ok bytes := by
  cases element with
  | bigInteger number => exact ⟨_, if_pos narrow.2⟩
  | _ => exact ⟨_, rfl⟩

end Element

namespace Tuple

theorem exists_pack_of_isNarrow
    {tuple : Tuple}
    (narrow : ∀ element ∈ tuple, element.IsNarrow) :
    ∃ bytes, tuple.pack = .ok bytes := by
  induction tuple with
  | nil => exact ⟨[], pack_nil⟩
  | cons element tuple inductionHypothesis =>
      obtain ⟨narrowFirst, narrowOthers⟩ := List.forall_mem_cons.mp narrow
      obtain ⟨first, firstPacked⟩ := Element.exists_pack_of_isNarrow narrowFirst
      obtain ⟨others, othersPacked⟩ := inductionHypothesis narrowOthers
      exact ⟨first ++ others, pack_cons_eq_ok.mpr ⟨first, others, firstPacked, othersPacked, rfl⟩⟩

/-- A tuple that is read back has the packed form that it was read from. -/
theorem pack_of_readsAs
    {tuple back : Tuple}
    {bytes : Bytes}
    (reads : List.Forall₂ Element.ReadsAs tuple back)
    (packed : tuple.pack = .ok bytes) :
    back.pack = .ok bytes := by
  induction reads generalizing bytes with
  | nil => exact packed
  | cons readsFirst _ inductionHypothesis =>
      obtain ⟨first, others, firstPacked, othersPacked, rfl⟩ := pack_cons_eq_ok.mp packed
      exact pack_cons_eq_ok.mpr
        ⟨first, others, readsFirst.pack_eq firstPacked, inductionHypothesis othersPacked, rfl⟩

/-- A tuple that was read from whatever bytes can be packed.  Reading the packed
form gives the same elements, and they have the same packed form. -/
theorem repack_unpack
    {bytes : Bytes}
    {tuple : Tuple}
    (unpacked : unpack bytes = .ok tuple) :
    ∃ packed back, tuple.pack = .ok packed ∧ unpack packed = .ok back ∧
      List.Forall₂ Element.Alike back tuple ∧ back.pack = .ok packed := by
  rcases unpack_ok_or_error bytes with ⟨_, again, narrow⟩ | ⟨_, _, failed, _⟩
  · obtain rfl := Except.ok.inj (again.symm.trans unpacked)
    obtain ⟨packed, isPacked⟩ := exists_pack_of_isNarrow narrow
    obtain ⟨back, read, reads⟩ := unpack_of_pack isPacked
    refine ⟨packed, back, isPacked, read, ?_, pack_of_readsAs reads isPacked⟩
    refine List.Forall₂.flip (List.forall₂_iff_zip.mpr ⟨reads.length_eq, fun paired => ?_⟩)
    exact ((List.forall₂_iff_zip.mp reads).2 paired).alike
      (narrow _ (List.of_mem_zip paired).1)
  · rw [failed] at unpacked
    cases unpacked

/-- A padded integer, a small one and a zero with length bytes, a decimal with
zeros at both ends, a negative zero and a NaN. -/
def paddedBytes : Bytes :=
  [0x17, 0x00, 0x00, 0x05, 0x1D, 0x01, 0x07, 0x0B, 0xFF,
    0x40, 0x03, 0x82, 0x01, 0x02, 0x06, 0x01, 0x00, 0x40, 0x01, 0x7E, 0xFE, 0xFF,
    0x21, 0xFF, 0xF8, 0x00, 0x00, 0x00, 0x00, 0x00, 0x01]

/-- What is read from the padded bytes. -/
def paddedTuple : Tuple :=
  [.integer 5, .integer 7, .integer 0, .decimal ⟨150, 2, by decide, .inl (by decide)⟩,
    .decimal Decimal.zero, .double ⟨0x7FF8000000000001⟩]

theorem unpack_paddedBytes :
    unpack paddedBytes = .ok paddedTuple := by
  decide +kernel

/-- The padded bytes are brought into the normal form. -/
theorem repack_unpack_padded :
    unpack paddedBytes = .ok paddedTuple ∧
      ∃ packed back, paddedTuple.pack = .ok packed ∧ unpack packed = .ok back ∧
        List.Forall₂ Element.Alike back paddedTuple ∧ back.pack = .ok packed :=
  ⟨unpack_paddedBytes, repack_unpack unpack_paddedBytes⟩

end Tuple
end Keyspace
