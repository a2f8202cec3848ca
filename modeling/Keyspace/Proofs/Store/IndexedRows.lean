import Keyspace.Proofs.Store.Answers
import Keyspace.Proofs.Store.IndexEntries
import Keyspace.Proofs.Store.NumberRuns

/-!
# Entries of rows that are written

A row is written at the key that its values give once it has its number, but its
entry in an index names the key that the row is known by, if it is known by one,
and otherwise the key that its values give without the number.  So the entry of a
row names what has just been written exactly if the row is known by that key or by
none, and has its number.  The entry of a row that is known by the key that writing
it gave back always does.
-/

namespace Keyspace

/-! ## The last element of a key -/

/-- The elements of a key end with that of its last value. -/
theorem HKey.getLast?_elements
    {hkey : HKey}
    {tuple : Tuple}
    {table : TableId}
    {value : Value}
    (known : hkey.elements = .ok tuple)
    (last : hkey.segments.getLast? = some ⟨table, [value]⟩) :
    ∃ element, value.toElement = .ok element ∧ tuple.getLast? = some element := by
  obtain ⟨parts, encoded, tupleParts⟩ := bind_eq_ok.mp known
  obtain rfl := pure_eq_ok.mp tupleParts
  have ends := getLast?_of_forall₂ (mapM_eq_ok.mp encoded)
  rw [last] at ends
  generalize shape : parts.getLast? = lastPart at ends
  cases ends with
  | @some _ part elements =>
      obtain ⟨earlier, rfl⟩ := List.getLast?_eq_some_iff.mp shape
      obtain ⟨values, valuesEncoded, whole⟩ := bind_eq_ok.mp elements
      obtain rfl := pure_eq_ok.mp whole
      obtain ⟨element, others, valueEncoded, nothing, rfl⟩ :=
        List.forall₂_cons_left_iff.mp (mapM_eq_ok.mp valuesEncoded)
      obtain rfl := List.forall₂_nil_left_iff.mp nothing
      exact ⟨element, valueEncoded, by simp⟩

/-- Keys with one encoding end with values that are stored alike. -/
theorem HKey.last_of_encode_eq
    {left right : HKey}
    {place : Bytes}
    {leftTable rightTable : TableId}
    {leftValue rightValue : Value}
    (leftEncoded : left.encode = .ok place)
    (rightEncoded : right.encode = .ok place)
    (leftLast : left.segments.getLast? = some ⟨leftTable, [leftValue]⟩)
    (rightLast : right.segments.getLast? = some ⟨rightTable, [rightValue]⟩) :
    ∃ leftElement rightElement back, leftValue.toElement = .ok leftElement ∧
      rightValue.toElement = .ok rightElement ∧ leftElement.ReadsAs back ∧
      rightElement.ReadsAs back := by
  obtain ⟨leftTuple, leftElements, leftPacked⟩ := exists_elements leftEncoded
  obtain ⟨rightTuple, rightElements, rightPacked⟩ := exists_elements rightEncoded
  obtain ⟨leftElement, leftIs, leftEnds⟩ := getLast?_elements leftElements leftLast
  obtain ⟨rightElement, rightIs, rightEnds⟩ := getLast?_elements rightElements rightLast
  obtain ⟨back, read, leftReads⟩ := Tuple.unpack_of_pack leftPacked
  obtain ⟨backAgain, readAgain, rightReads⟩ := Tuple.unpack_of_pack rightPacked
  obtain rfl := Except.ok.inj (read.symm.trans readAgain)
  have leftLastReads := getLast?_of_forall₂ leftReads
  have rightLastReads := getLast?_of_forall₂ rightReads
  rw [leftEnds] at leftLastReads
  rw [rightEnds] at rightLastReads
  generalize back.getLast? = last at leftLastReads rightLastReads
  cases leftLastReads with
  | some leftRead =>
      cases rightLastReads with
      | some rightRead => exact ⟨_, _, _, leftIs, rightIs, leftRead, rightRead⟩

/-! ## Rows with their numbers -/

/-- A row that gets a number has it in the added column. -/
theorem Row.Completed.exists_number
    {table : Table}
    {row written : Row}
    {position : Nat}
    (completed : row.Completed table written)
    (added : table.hiddenKeyPosition? = some position)
    (absent : (row.valueOrNull position).isNull = true) :
    ∃ number, written.values[position]? = some (.bigInt number) := by
  cases completed with
  | complete present => exact absurd absent (by simp [present position added])
  | @filled other number _ addedAgain _ set =>
      obtain rfl := Option.some.inj (added.symm.trans addedAgain)
      exact ⟨number, Row.getElem?_of_set set⟩

namespace GroupStore

/-- Whether a key of an index names a row: behind the start of the index and the key
fields of the row that was entered comes the encoded key of the row that is named. -/
def EntryNames
    (index : Index)
    (spatial : Option SpatialIndex)
    (entered : Row)
    (key : Bytes)
    (named : HKey) : Prop :=
  ∃ fields place, KeyLayout.indexFields index spatial entered = .ok fields ∧
    named.encode = .ok place ∧ key = KeyLayout.indexStart index.id ++ fields ++ place

variable {declaration : GroupDeclaration} {session after : GroupStore} {store indexed : Store}
  {group : Group} {index : Index} {spatial : Option SpatialIndex} {row : Row} {hkey : HKey}
  {key : Bytes}

/-- The entry of a row names the key that the row is known by, or that its values give. -/
theorem entryNames_iff
    (entered : writeIndexRow store group index spatial row = .ok (key, indexed)) :
    EntryNames index spatial row key hkey ↔
      ∃ known, hkeyOf group row = .ok known ∧ known.encode = hkey.encode := by
  obtain ⟨_, ⟨fields, known, place, given, isKnown, encoded, rfl⟩, _⟩ := writesEntry_of_ok entered
  constructor
  · rintro ⟨sameFields, namedPlace, givenAgain, namedEncoded, same⟩
    obtain rfl := Except.ok.inj (given.symm.trans givenAgain)
    obtain rfl := List.append_cancel_left same
    exact ⟨known, isKnown, encoded.trans namedEncoded.symm⟩
  · rintro ⟨other, isOther, sameEncoding⟩
    obtain rfl := Except.ok.inj (isKnown.symm.trans isOther)
    exact ⟨fields, place, given, sameEncoding ▸ encoded, rfl⟩

/-- A row that has its number is written at the key that its values give. -/
theorem ofValues_of_complete
    {table : Table}
    (has : ∀ id, ¬ group.LacksNumber id row)
    (found : tableOf group row.rowType = .ok table)
    (stored : session.writeRow group row = (.ok hkey, after)) :
    HKey.ofValues table row.values = .ok hkey := by
  obtain ⟨_, written, foundAgain, completed, derived, _⟩ := writeRow_eq_ok stored
  obtain rfl := Except.ok.inj (found.symm.trans foundAgain)
  cases completed with
  | complete _ => exact derived
  | filled added absent _ => exact absurd ⟨_, _, found, rfl, added, absent⟩ (has table.id)

/-- The key that the values of a row give without its number is not the one that the row
is written at. -/
theorem encode_ne_of_lacksNumber
    {table : TableId}
    {owner : Table}
    {unnumbered : HKey}
    {place : Bytes}
    (built : declaration.build = .ok group)
    (lacks : group.LacksNumber table row)
    (found : tableOf group row.rowType = .ok owner)
    (given : HKey.ofValues owner row.values = .ok unnumbered)
    (encoded : unnumbered.encode = .ok place)
    (stored : session.writeRow group row = (.ok hkey, after)) :
    hkey.encode ≠ .ok place := by
  intro same
  obtain ⟨_, position, foundAgain, rfl, added, absent⟩ := lacks
  obtain rfl := Except.ok.inj (found.symm.trans foundAgain)
  obtain ⟨_, written, foundAgain, completed, derived, _⟩ := writeRow_eq_ok stored
  obtain rfl := Except.ok.inj (found.symm.trans foundAgain)
  have layout := derived_of_tableOf built found
  obtain ⟨value, here, last⟩ := exists_last_of_ofValues layout added given
  obtain ⟨filled, filledHere, filledLast⟩ := exists_last_of_ofValues layout added derived
  obtain ⟨number, numberHere⟩ := completed.exists_number added absent
  obtain rfl := Option.some.inj (filledHere.symm.trans numberHere)
  obtain rfl : value = .null := by
    rw [Row.valueOrNull, here] at absent
    cases value <;> simp_all [Value.isNull]
  obtain ⟨_, _, back, isNull, isNumber, nullRead, numberRead⟩ :=
    HKey.last_of_encode_eq encoded same last filledLast
  obtain rfl := Except.ok.inj isNull
  obtain rfl := Except.ok.inj isNumber
  -- one element cannot be read back as a null and as an integer
  exact absurd (nullRead.symm.trans numberRead) (by simp)

/-- The entry of a row names what was just written exactly if the row is known by no other
key, and has its number if it is known by none.  The entry of the row as it is known by
the key that it was written at always names it. -/
theorem entry_names_written_row_iff
    (built : declaration.build = .ok group)
    (stored : session.writeRow group row = (.ok hkey, after))
    (entered : writeIndexRow store group index spatial row = .ok (key, indexed)) :
    (EntryNames index spatial row key hkey ↔
      (∀ known ∈ row.hkey, known.encode = hkey.encode) ∧
        (row.hkey = none -> ∀ table, ¬ group.LacksNumber table row)) ∧
      ∀ key indexed, writeIndexRow store group index spatial (row.withHKey hkey) =
        .ok (key, indexed) -> EntryNames index spatial row key hkey := by
  constructor
  · rw [entryNames_iff entered]
    cases attached : row.hkey with
    | some known => simp [hkeyOf, attached]
    | none =>
        obtain ⟨⟨table, found, _⟩, ⟨_, known, place, _, isKnown, encoded, _⟩, _⟩ :=
          writesEntry_of_ok entered
        have given : HKey.ofValues table row.values = .ok known := by
          simpa only [hkeyOf, attached, found, bind, Except.bind] using isKnown
        constructor
        · rintro ⟨other, isOther, sameEncoding⟩
          obtain rfl := Except.ok.inj (isKnown.symm.trans isOther)
          refine ⟨by simp, fun _ table lacks => ?_⟩
          exact encode_ne_of_lacksNumber built lacks found given encoded stored
            (sameEncoding ▸ encoded)
        · rintro ⟨_, has⟩
          have written := ofValues_of_complete (has rfl) found stored
          obtain rfl := Except.ok.inj (given.symm.trans written)
          exact ⟨known, isKnown, rfl⟩
  · intro key indexed renamed
    exact (entryNames_iff renamed).mpr ⟨hkey, rfl, rfl⟩

end GroupStore

/-! ## An index of the diary -/

namespace Diary

open GroupStore

/-- An index of notes by their texts. -/
def byText : Index :=
  ⟨40, "by_text", ⟨1⟩, [0], [⟨"text", .text, true, none, false⟩], ["s.notes.text"], none⟩

theorem declare_byText : Index.declare 40 "by_text" notes ["text"] none = .ok byText := by
  decide +kernel

/-- The entry of a note that is written under a number of its own names it, and so does
that of a note that gets its number, once the note is known by its key. -/
theorem entry_names_written_note :
    (∃ after key indexed,
      (ofStore Store.empty).writeRow group (row "a" (.bigInt 3)) = (.ok (Diary.key 3), after) ∧
        writeIndexRow after.store group byText none (row "a" (.bigInt 3)) = .ok (key, indexed) ∧
        EntryNames byText none (row "a" (.bigInt 3)) key (Diary.key 3)) ∧
      ∃ after key indexed,
        (ofStore Store.empty).writeRow group (row "a" .null) = (.ok (Diary.key 1), after) ∧
          writeIndexRow after.store group byText none ((row "a" .null).withHKey (Diary.key 1)) =
            .ok (key, indexed) ∧
          EntryNames byText none (row "a" .null) key (Diary.key 1) := by
  constructor
  · have has : ∀ table, ¬ group.LacksNumber table (row "a" (.bigInt 3)) := by
      rintro table ⟨owner, position, found, _, added, absent⟩
      obtain rfl : notes = owner := Except.ok.inj found
      obtain rfl : 1 = position := Option.some.inj added
      exact absurd absent (by decide)
    have stored : (ofStore Store.empty).writeRow group (row "a" (.bigInt 3)) =
        (.ok (Diary.key 3), _) := rfl
    have entered (store : Store) : writeIndexRow store group byText none (row "a" (.bigInt 3)) =
        .ok (_, _) := rfl
    exact ⟨_, _, _, stored, entered _,
      (entry_names_written_row_iff build_declaration stored (entered Store.empty)).1.mpr
        ⟨by rintro _ ⟨⟩, fun _ => has⟩⟩
  · have stored : (ofStore Store.empty).writeRow group (row "a" .null) =
        (.ok (Diary.key 1), _) := rfl
    have unnamed : writeIndexRow Store.empty group byText none (row "a" .null) =
        .ok (_, _) := rfl
    have named (store : Store) : writeIndexRow store group byText none
        ((row "a" .null).withHKey (Diary.key 1)) = .ok (_, _) := rfl
    exact ⟨_, _, _, stored, named _,
      (entry_names_written_row_iff build_declaration stored unnamed).2 _ _ (named Store.empty)⟩

/-- A note gets its first number, but its entry names a note without one.  A note that is
read and gets another number is written there, and its entry names where it was read. -/
theorem entries_of_other_notes :
    declaration.build = .ok group ∧
      Index.declare 40 "by_text" notes ["text"] none = .ok byText ∧
      (∃ after key indexed,
        (ofStore Store.empty).writeRow group (row "a" .null) = (.ok (Diary.key 1), after) ∧
          writeIndexRow after.store group byText none (row "a" .null) = .ok (key, indexed) ∧
          ¬ EntryNames byText none (row "a" .null) key (Diary.key 1)) ∧
      ∃ before read moved after key indexed,
        (ofStore Store.empty).writeRow group (row "a" (.bigInt 1)) = (.ok (Diary.key 1), before) ∧
          readRow before.store group (Diary.key 1) = .ok (some read) ∧
          read.set 1 (.bigInt 2) = .ok moved ∧
          before.writeRow group moved = (.ok (Diary.key 2), after) ∧
          writeIndexRow after.store group byText none moved = .ok (key, indexed) ∧
          ¬ EntryNames byText none moved key (Diary.key 2) := by
  refine ⟨build_declaration, declare_byText, ⟨_, _, _, rfl, rfl, ?_⟩,
    _, _, _, _, _, _, rfl, rfl, rfl, rfl, rfl, ?_⟩
  · rintro ⟨fields, place, given, encoded, same⟩
    obtain rfl := Except.ok.inj given
    obtain rfl := Except.ok.inj encoded
    exact absurd same (by decide)
  · rintro ⟨fields, place, given, encoded, same⟩
    obtain rfl := Except.ok.inj given
    obtain rfl := Except.ok.inj encoded
    exact absurd same (by decide)

end Diary
end Keyspace
