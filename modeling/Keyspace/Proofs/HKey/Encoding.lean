import Keyspace.Proofs.Row.Storage

/-!
# Encoded hierarchical keys

The encoded key of a path tells where each of its values ends, so one encoded
key goes on from another exactly if the path does.  The number of values in a
segment is not encoded: it follows from the table, whose place stands in front
of them.
-/

namespace Keyspace

open Bytes (Continues)

/-! ## Paths that agree -/

namespace Segment

/-- The packed key values. -/
def parts (segment : Segment) : Except Error (List Bytes) :=
  segment.values.mapM Value.packed

/-- Whether two segments name one table and their key values have the same
packed forms. -/
def agrees (left right : Segment) : Bool :=
  left.table == right.table &&
    match left.parts, right.parts with
    | .ok leftParts, .ok rightParts => leftParts == rightParts
    | _, _ => false

/-- Whether a path starts with the segments of another. -/
def startWith : List Segment -> List Segment -> Bool
  | _, [] => true
  | [], _ :: _ => false
  | segment :: segments, start :: starts => segment.agrees start && startWith segments starts

/-- Whether two segments are equal up to the zeros at the end of decimals. -/
def Alike (left right : Segment) : Prop :=
  left.table = right.table ∧ List.Forall₂ Value.Alike left.values right.values

theorem agrees_iff
    {left right : Segment}
    {leftParts rightParts : List Bytes}
    (leftPacked : left.parts = .ok leftParts)
    (rightPacked : right.parts = .ok rightParts) :
    left.agrees right = true ↔ left.table = right.table ∧ leftParts = rightParts := by
  simp [agrees, leftPacked, rightPacked]

theorem mapM_packed_congr
    {lefts rights : List Value}
    (alike : List.Forall₂ Value.Alike lefts rights) :
    lefts.mapM Value.packed = rights.mapM Value.packed := by
  induction alike with
  | nil => rfl
  | cons first _ inductionHypothesis =>
      rw [List.mapM_cons, List.mapM_cons, first.packed_eq, inductionHypothesis]

theorem Alike.parts_eq
    {left right : Segment}
    (alike : left.Alike right) :
    left.parts = right.parts :=
  mapM_packed_congr alike.2

end Segment

namespace HKey

/-- Whether a key starts with the segments of another. -/
def startsWith (hkey start : HKey) : Bool :=
  Segment.startWith hkey.segments start.segments

/-- Whether two keys are equal up to the zeros at the end of decimals. -/
def Alike (left right : HKey) : Prop :=
  List.Forall₂ Segment.Alike left.segments right.segments

end HKey

/-! ## Shapes of encoded keys -/

theorem mapM_packed_eq_ok
    {values : List Value}
    {parts : List Bytes} :
    values.mapM Value.packed = .ok parts ↔
      ∃ elements, values.mapM Value.toElement = .ok elements ∧
        elements.mapM Element.pack = .ok parts := by
  induction values generalizing parts with
  | nil => simp [pure, Except.pure]
  | cons value values inductionHypothesis =>
      simp only [List.mapM_cons, bind_eq_ok, pure_eq_ok, inductionHypothesis, Value.packed]
      constructor
      · rintro ⟨part, ⟨element, encoded, packed⟩, _, ⟨elements, rest, others⟩, rfl⟩
        exact ⟨element :: elements, ⟨element, encoded, elements, rest, rfl⟩,
          by simp [List.mapM_cons, bind_eq_ok, packed, others]⟩
      · rintro ⟨_, ⟨element, encoded, elements, rest, rfl⟩, packedAll⟩
        simp only [List.mapM_cons, bind_eq_ok, pure_eq_ok] at packedAll
        obtain ⟨part, packed, others, packedOthers, rfl⟩ := packedAll
        exact ⟨part, ⟨element, encoded, packed⟩, others, ⟨elements, rest, packedOthers⟩, rfl⟩

namespace Segment

/-- An encoded segment is its table's place with the packed values behind. -/
theorem encode_eq_ok
    {segment : Segment}
    {bytes : Bytes} :
    segment.encode = .ok bytes ↔ ∃ parts, segment.parts = .ok parts ∧
      bytes = Element.packInteger segment.table.ordinal.toNat ++ parts.flatten := by
  simp only [encode, bind_eq_ok, pure_eq_ok, parts, mapM_packed_eq_ok]
  constructor
  · rintro ⟨elements, encoded, parts, packed, rfl⟩
    exact ⟨parts, ⟨elements, encoded, packed⟩, rfl⟩
  · rintro ⟨parts, ⟨elements, encoded, packed⟩, rfl⟩
    exact ⟨elements, encoded, parts, packed, rfl⟩

end Segment

namespace HKey

theorem encode_cons_eq_ok
    {segment : Segment}
    {segments : List Segment}
    {bytes : Bytes} :
    encode ⟨segment :: segments⟩ = .ok bytes ↔
      ∃ parts others, segment.parts = .ok parts ∧ encode ⟨segments⟩ = .ok others ∧
        bytes = Element.packInteger segment.table.ordinal.toNat ++ (parts.flatten ++ others) := by
  simp only [encode, List.mapM_cons, bind_eq_ok, pure_eq_ok, Segment.encode_eq_ok]
  constructor
  · rintro ⟨_, ⟨_, ⟨parts, packed, rfl⟩, others, encoded, rfl⟩, rfl⟩
    exact ⟨parts, _, packed, ⟨others, encoded, rfl⟩, by simp⟩
  · rintro ⟨parts, _, packed, ⟨others, encoded, rfl⟩, rfl⟩
    exact ⟨_, ⟨_, ⟨parts, packed, rfl⟩, others, encoded, rfl⟩, by simp⟩

end HKey

/-! ## Where encoded parts end -/

namespace Value

theorem continues_packed_append
    {value : Value}
    {bytes : Bytes}
    (packed : value.packed = .ok bytes)
    (rest : Bytes) :
    Continues (bytes ++ rest) := by
  obtain ⟨element, _, elementPacked⟩ := packed_eq_ok.mp packed
  exact Element.continues_pack_append elementPacked rest

theorem packed_split
    {left right : Value}
    {leftBytes rightBytes leftRest rightRest : Bytes}
    (leftPacked : left.packed = .ok leftBytes)
    (rightPacked : right.packed = .ok rightBytes)
    (leftContinues : Continues leftRest)
    (rightContinues : Continues rightRest)
    (equal : leftBytes ++ leftRest = rightBytes ++ rightRest) :
    leftBytes = rightBytes ∧ leftRest = rightRest := by
  obtain ⟨leftElement, _, leftElementPacked⟩ := packed_eq_ok.mp leftPacked
  obtain ⟨rightElement, _, rightElementPacked⟩ := packed_eq_ok.mp rightPacked
  exact ((Element.ordersAs_pack leftElementPacked rightElementPacked).split
    leftContinues rightContinues equal).2

end Value

namespace Segment

theorem continues_parts_append
    {values : List Value}
    {parts : List Bytes}
    {rest : Bytes}
    (packed : List.Forall₂ (fun value part => value.packed = .ok part) values parts)
    (continues : Continues rest) :
    Continues (parts.flatten ++ rest) := by
  cases packed with
  | nil => exact continues
  | cons first _ =>
      rw [List.flatten_cons, List.append_assoc]
      exact Value.continues_packed_append first _

/-- Equally many packed values end where they end, whatever follows them. -/
theorem parts_split
    {lefts rights : List Value}
    {leftParts rightParts : List Bytes}
    {leftRest rightRest : Bytes}
    (leftPacked : List.Forall₂ (fun value part => value.packed = .ok part) lefts leftParts)
    (rightPacked : List.Forall₂ (fun value part => value.packed = .ok part) rights rightParts)
    (sameLength : lefts.length = rights.length)
    (leftContinues : Continues leftRest)
    (rightContinues : Continues rightRest)
    (equal : leftParts.flatten ++ leftRest = rightParts.flatten ++ rightRest) :
    leftParts = rightParts ∧ leftRest = rightRest := by
  induction leftPacked generalizing rights rightParts with
  | nil =>
      obtain rfl := List.length_eq_zero_iff.mp sameLength.symm
      obtain rfl := List.forall₂_nil_left_iff.mp rightPacked
      exact ⟨rfl, equal⟩
  | cons leftFirst leftOthers inductionHypothesis =>
      cases rightPacked with
      | nil => simp at sameLength
      | cons rightFirst rightOthers =>
          rw [List.flatten_cons, List.append_assoc, List.flatten_cons, List.append_assoc] at equal
          obtain ⟨rfl, others⟩ := Value.packed_split leftFirst rightFirst
            (continues_parts_append leftOthers leftContinues)
            (continues_parts_append rightOthers rightContinues) equal
          obtain ⟨rfl, rests⟩ :=
            inductionHypothesis rightOthers (Nat.succ.inj sameLength) others
          exact ⟨rfl, rests⟩

end Segment

namespace Element

theorem byteLength_uint32_le
    (number : UInt32) :
    Bytes.byteLength (number.toNat : Int).natAbs ≤ maxMagnitudeBytes :=
  (Bytes.byteLength_le_iff _ 255).mpr (number.toNat_lt.trans (by decide))

theorem continues_packInteger_append
    (number : Int)
    (rest : Bytes) :
    Continues (packInteger number ++ rest) := by
  obtain ⟨code, behind, shape, bounds⟩ := exists_packInteger_eq_cons number
  rw [shape]
  refine Bytes.continues_cons _ ?_
  rintro rfl
  exact absurd bounds.2 (by decide)

/-- Packed integers end where they end, whatever follows them. -/
theorem packInteger_split
    {left right : UInt32}
    {leftRest rightRest : Bytes}
    (equal : packInteger left.toNat ++ leftRest = packInteger right.toNat ++ rightRest) :
    left = right ∧ leftRest = rightRest := by
  have differ : ∀ {lower upper : UInt32} (lowerRest upperRest : Bytes),
      lower.toNat < upper.toNat ->
        packInteger lower.toNat ++ lowerRest ≠ packInteger upper.toNat ++ upperRest := by
    intro lower upper lowerRest upperRest less same
    have below := (below_packInteger (Int.ofNat_lt.mpr less) (byteLength_uint32_le lower)
      (byteLength_uint32_le upper)).append lowerRest upperRest
    rw [same] at below
    exact Bytes.not_precedes_self _ below.compare_eq
  rcases Nat.lt_trichotomy left.toNat right.toNat with less | same | greater
  · exact absurd equal (differ _ _ less)
  · obtain rfl := UInt32.toNat_inj.mp same
    exact ⟨rfl, List.append_cancel_left equal⟩
  · exact absurd equal.symm (differ _ _ greater)

end Element

namespace HKey

theorem continues_encode
    {segments : List Segment}
    {bytes : Bytes}
    (encoded : encode ⟨segments⟩ = .ok bytes) :
    Continues bytes := by
  obtain _ | ⟨segment, segments⟩ := segments
  · obtain rfl := Except.ok.inj encoded
    exact Bytes.continues_nil
  · obtain ⟨parts, others, _, _, rfl⟩ := encode_cons_eq_ok.mp encoded
    exact Element.continues_packInteger_append _ _

/-- Segments of one table have equally many values. -/
theorem length_values_eq
    {group : Group}
    {leftAbove rightAbove : Option TableId}
    {left right : Segment}
    {lefts rights : List Segment}
    (leftFollows : FollowsJoins group leftAbove (left :: lefts))
    (rightFollows : FollowsJoins group rightAbove (right :: rights))
    (sameTable : left.table = right.table) :
    left.values.length = right.values.length := by
  obtain ⟨⟨leftTable, leftFound, _, _, leftLength, _⟩, _⟩ := leftFollows
  obtain ⟨⟨rightTable, rightFound, _, _, rightLength, _⟩, _⟩ := rightFollows
  rw [sameTable, rightFound] at leftFound
  obtain rfl := Option.some.inj leftFound
  rw [leftLength, rightLength]

/-- A path whose encoding goes on from the encoding of another goes on from
it. -/
theorem startWith_of_encode
    {group : Group}
    {above startAbove : Option TableId}
    {segments starts : List Segment}
    {bytes startBytes rest : Bytes}
    (follows : FollowsJoins group above segments)
    (startFollows : FollowsJoins group startAbove starts)
    (encoded : encode ⟨segments⟩ = .ok bytes)
    (startEncoded : encode ⟨starts⟩ = .ok startBytes)
    (continues : Continues rest)
    (goesOn : bytes = startBytes ++ rest) :
    Segment.startWith segments starts = true := by
  induction starts generalizing above startAbove segments bytes startBytes with
  | nil => cases segments <;> rfl
  | cons start starts inductionHypothesis =>
      obtain ⟨startParts, startOthers, startPacked, startOthersEncoded, rfl⟩ :=
        encode_cons_eq_ok.mp startEncoded
      obtain _ | ⟨segment, segments⟩ := segments
      · obtain rfl := Except.ok.inj encoded
        obtain ⟨code, behind, shape, _⟩ :=
          Element.exists_packInteger_eq_cons (start.table.ordinal.toNat : Int)
        simp [shape] at goesOn
      · obtain ⟨parts, others, packed, othersEncoded, rfl⟩ := encode_cons_eq_ok.mp encoded
        have startOthersContinue : Continues (startOthers ++ rest) := by
          obtain _ | ⟨next, starts⟩ := starts
          · obtain rfl := Except.ok.inj startOthersEncoded
            exact continues
          · obtain ⟨_, _, _, _, rfl⟩ := encode_cons_eq_ok.mp startOthersEncoded
            rw [List.append_assoc]
            exact Element.continues_packInteger_append _ _
        have valuesPacked := mapM_eq_ok.mp packed
        have startValuesPacked := mapM_eq_ok.mp startPacked
        rw [List.append_assoc, List.append_assoc] at goesOn
        obtain ⟨samePlace, values⟩ := Element.packInteger_split goesOn
        have sameTable : segment.table = start.table := congrArg TableId.mk samePlace
        obtain ⟨sameParts, sameOthers⟩ := Segment.parts_split valuesPacked startValuesPacked
          (length_values_eq follows startFollows sameTable) (continues_encode othersEncoded)
          startOthersContinue values
        rw [Segment.startWith, (Segment.agrees_iff packed startPacked).mpr ⟨sameTable, sameParts⟩,
          Bool.true_and]
        exact inductionHypothesis follows.2 startFollows.2 othersEncoded startOthersEncoded
          sameOthers

theorem exists_rest_of_startWith
    {segments starts : List Segment}
    {bytes startBytes : Bytes}
    (encoded : encode ⟨segments⟩ = .ok bytes)
    (startEncoded : encode ⟨starts⟩ = .ok startBytes)
    (goesOn : Segment.startWith segments starts = true) :
    ∃ rest, Continues rest ∧ bytes = startBytes ++ rest := by
  induction starts generalizing segments bytes startBytes with
  | nil =>
      obtain rfl := Except.ok.inj startEncoded
      exact ⟨bytes, continues_encode encoded, rfl⟩
  | cons start starts inductionHypothesis =>
      obtain _ | ⟨segment, segments⟩ := segments
      · simp [Segment.startWith] at goesOn
      · obtain ⟨startParts, startOthers, startPacked, startOthersEncoded, rfl⟩ :=
          encode_cons_eq_ok.mp startEncoded
        obtain ⟨parts, others, packed, othersEncoded, rfl⟩ := encode_cons_eq_ok.mp encoded
        obtain ⟨agrees, further⟩ := Bool.and_eq_true_iff.mp goesOn
        obtain ⟨sameTable, rfl⟩ := (Segment.agrees_iff packed startPacked).mp agrees
        obtain ⟨rest, continues, rfl⟩ :=
          inductionHypothesis othersEncoded startOthersEncoded further
        exact ⟨rest, continues, by simp [sameTable]⟩

/-- The encoded key of a path goes on from that of another, by something that
does not start with the escape byte, exactly if the path goes on from it. -/
theorem startsWith_iff
    {group : Group}
    {hkey start : HKey}
    {bytes startBytes : Bytes}
    (rooted : hkey.Rooted group)
    (startRooted : start.Rooted group)
    (encoded : hkey.encode = .ok bytes)
    (startEncoded : start.encode = .ok startBytes) :
    hkey.startsWith start = true ↔ ∃ rest, Continues rest ∧ bytes = startBytes ++ rest := by
  constructor
  · exact exists_rest_of_startWith encoded startEncoded
  · rintro ⟨rest, continues, goesOn⟩
    exact startWith_of_encode rooted startRooted encoded startEncoded continues goesOn

end HKey
/-! ## Reading encoded keys -/

namespace HKey

theorem tableOfElement_ofInt
    {group : Group}
    {id : TableId}
    {table : Table}
    (found : group.table? id = some table)
    (position : Nat) :
    tableOfElement group position (Element.ofInt id.ordinal.toNat) = .ok table := by
  have bound := id.ordinal.toNat_lt
  have narrow : Element.fitsInt64 (id.ordinal.toNat : Int) = true :=
    decide_eq_true (by omega)
  have stored : (Int64.ofInt (id.ordinal.toNat : Int)).toInt = id.ordinal.toNat :=
    Int64.toInt_ofInt_of_le (by omega) (by omega)
  have inRange : decide ((0 : Int) ≤ id.ordinal.toNat ∧
      (id.ordinal.toNat : Int) < 0x100000000) = true := decide_eq_true (by omega)
  rw [Element.ofInt, if_pos narrow, tableOfElement]
  simp only [stored, inRange, if_true, Int.toNat_natCast, UInt32.ofNat_toNat, found]

theorem exists_decodeValue
    {table : Table}
    {column : Column}
    {value : Value}
    {position : Nat}
    {part rest : Bytes}
    (found : table.columns[position]? = some column)
    (admits : column.dataType.admits value = true)
    (packed : value.packed = .ok part)
    (continues : Continues rest)
    (start : Nat) :
    ∃ decoded, decodeValue table position ⟨start, part ++ rest⟩ =
        .ok decoded ⟨start + part.length, rest⟩ ∧ decoded.Alike value := by
  obtain ⟨element, encoded, elementPacked⟩ := Value.packed_eq_ok.mp packed
  obtain ⟨back, read, reads⟩ := Decoder.element_pack elementPacked continues start
  obtain ⟨decoded, converted, alike⟩ := Column.exists_valueOfElement admits encoded reads
  refine ⟨decoded, ?_, alike⟩
  simp only [decodeValue, found]
  rw [Decoder.bind_of_ok read, converted]
  rfl

theorem exists_decodeValues
    {table : Table}
    {positions : List Nat}
    {values : List Value}
    {parts : List Bytes}
    {rest : Bytes}
    (sameLength : values.length = positions.length)
    (fits : ∀ pair ∈ positions.zip values, ∃ column,
      table.columns[pair.1]? = some column ∧ column.dataType.admits pair.2 = true)
    (packed : List.Forall₂ (fun value part => value.packed = .ok part) values parts)
    (continues : Continues rest)
    (start : Nat) :
    ∃ decoded, (positions.mapM (decodeValue table)) ⟨start, parts.flatten ++ rest⟩ =
        .ok decoded ⟨start + parts.flatten.length, rest⟩ ∧
      List.Forall₂ Value.Alike decoded values := by
  induction packed generalizing positions start with
  | nil =>
      obtain rfl := List.length_eq_zero_iff.mp sameLength.symm
      exact ⟨[], rfl, .nil⟩
  | @cons value part values parts first others inductionHypothesis =>
      obtain _ | ⟨position, positions⟩ := positions
      · simp at sameLength
      · obtain ⟨column, found, admits⟩ := fits (position, value) (by simp)
        obtain ⟨decoded, read, alike⟩ := exists_decodeValue found admits first
          (Segment.continues_parts_append others continues) start
        obtain ⟨further, readFurther, furtherAlike⟩ := inductionHypothesis
          (Nat.succ.inj sameLength) (fun pair present => fits pair (by simp [present]))
          (start + part.length)
        refine ⟨decoded :: further, ?_, .cons alike furtherAlike⟩
        rw [List.mapM_cons, List.flatten_cons, List.append_assoc, Decoder.bind_of_ok read,
          Decoder.bind_of_ok readFurther, List.length_append, Nat.add_assoc]
        rfl

theorem exists_decodeSegment
    {group : Group}
    {above : Option TableId}
    {segment : Segment}
    {segments : List Segment}
    {parts : List Bytes}
    {rest : Bytes}
    (follows : FollowsJoins group above (segment :: segments))
    (packed : segment.parts = .ok parts)
    (continues : Continues rest)
    (start : Nat) :
    ∃ decoded behind,
      decodeSegment group above
          ⟨start, Element.packInteger segment.table.ordinal.toNat ++ (parts.flatten ++ rest)⟩ =
        .ok decoded ⟨behind, rest⟩ ∧ decoded.Alike segment := by
  obtain ⟨⟨table, found, named, placed, sameLength, fits⟩, _⟩ := follows
  have valuesPacked := mapM_eq_ok.mp packed
  obtain ⟨values, read, alike⟩ := exists_decodeValues sameLength fits valuesPacked continues
    (start + (Element.packInteger segment.table.ordinal.toNat).length)
  refine ⟨⟨table.id, values⟩,
    start + (Element.packInteger segment.table.ordinal.toNat).length + parts.flatten.length,
    ?_, named, alike⟩
  have placeRead := Decoder.element_packInteger
    (Element.byteLength_uint32_le segment.table.ordinal) start (parts.flatten ++ rest)
  rw [decodeSegment, Decoder.bind_of_ok (show (get : Decoder Reader) _ = .ok _ _ from rfl),
    Decoder.bind_of_ok placeRead, tableOfElement_ofInt found,
    Decoder.bind_of_ok (show lift (.ok table) _ = .ok table _ from rfl),
    if_neg (not_not_intro placed.symm), Decoder.bind_of_ok read]
  rfl

theorem exists_decodeSegments
    {group : Group}
    {above : Option TableId}
    {segments : List Segment}
    {bytes : Bytes}
    (follows : FollowsJoins group above segments)
    (encoded : encode ⟨segments⟩ = .ok bytes)
    {steps : Nat}
    (enough : bytes.length ≤ steps)
    (start : Nat) :
    ∃ decoded behind, decodeSegments group steps above ⟨start, bytes⟩ =
        .ok decoded behind ∧ List.Forall₂ Segment.Alike decoded segments := by
  induction segments generalizing above bytes steps start with
  | nil =>
      obtain rfl := Except.ok.inj encoded
      cases steps <;> exact ⟨[], _, rfl, .nil⟩
  | cons segment segments inductionHypothesis =>
      obtain ⟨parts, others, packed, othersEncoded, rfl⟩ := encode_cons_eq_ok.mp encoded
      obtain ⟨code, beyond, shape, _⟩ :=
        Element.exists_packInteger_eq_cons (segment.table.ordinal.toNat : Int)
      obtain _ | steps := steps
      · simp [shape] at enough
      · have othersEnough : others.length ≤ steps := by
          simp only [shape, List.length_append, List.length_cons] at enough
          omega
        obtain ⟨decoded, behind, read, alike⟩ :=
          exists_decodeSegment follows packed (continues_encode othersEncoded) start
        obtain ⟨further, last, readFurther, furtherAlike⟩ :=
          inductionHypothesis follows.2 othersEncoded othersEnough behind
        refine ⟨decoded :: further, last, ?_, .cons alike furtherAlike⟩
        have more : Reader.isAtEnd ⟨start, Element.packInteger segment.table.ordinal.toNat ++
            (parts.flatten ++ others)⟩ = false := by
          simp [Reader.isAtEnd, shape]
        rw [decodeSegments, Decoder.bind_of_ok (show (get : Decoder Reader) _ = .ok _ _ from rfl),
          more, if_neg Bool.false_ne_true, Decoder.bind_of_ok read, alike.1,
          Decoder.bind_of_ok readFurther]
        rfl

/-- The encoded key of a path is read back, up to the zeros at the end of
decimals. -/
theorem exists_decode
    {group : Group}
    {hkey : HKey}
    {bytes : Bytes}
    (rooted : hkey.Rooted group)
    (encoded : hkey.encode = .ok bytes) :
    ∃ back, decode group bytes = .ok back ∧ back.Alike hkey := by
  obtain ⟨segments, behind, read, alike⟩ := exists_decodeSegments rooted encoded le_rfl 0
  refine ⟨⟨segments⟩, ?_, alike⟩
  rw [decode, Reader.start, read]

/-! ## Keys that are alike -/

theorem admits_of_alike
    {columns : List Column}
    {positions : List Nat}
    {lefts rights : List Value}
    (alike : List.Forall₂ Value.Alike lefts rights)
    (fits : ∀ pair ∈ positions.zip rights, ∃ column,
      columns[pair.1]? = some column ∧ column.dataType.admits pair.2 = true) :
    ∀ pair ∈ positions.zip lefts, ∃ column,
      columns[pair.1]? = some column ∧ column.dataType.admits pair.2 = true := by
  induction alike generalizing positions with
  | nil => simp
  | @cons left right lefts rights first _ inductionHypothesis =>
      obtain _ | ⟨position, positions⟩ := positions
      · simp
      · obtain ⟨column, found, admits⟩ := fits (position, right) (by simp)
        have othersFit := fun pair (present : pair ∈ positions.zip rights) =>
          fits pair (List.mem_cons_of_mem _ present)
        intro pair present
        rcases List.mem_cons.mp present with rfl | further
        · exact ⟨column, found, first.admits admits⟩
        · exact inductionHypothesis othersFit pair further

theorem Alike.symm
    {left right : HKey}
    (alike : left.Alike right) :
    right.Alike left := by
  refine List.Forall₂.flip (alike.imp fun _ _ segments => ?_)
  exact ⟨segments.1.symm, (segments.2.imp fun _ _ values => values.symm).flip⟩

theorem Alike.trans
    {first second third : HKey}
    (firstSecond : first.Alike second)
    (secondThird : second.Alike third) :
    first.Alike third := by
  refine forall₂_trans ?_ firstSecond secondThird
  intro _ _ _ leftAlike rightAlike
  exact ⟨leftAlike.1.trans rightAlike.1,
    forall₂_trans (@Value.Alike.trans) leftAlike.2 rightAlike.2⟩

theorem encode_of_alike
    {lefts rights : List Segment}
    {bytes : Bytes}
    (alike : List.Forall₂ Segment.Alike lefts rights)
    (encoded : encode ⟨rights⟩ = .ok bytes) :
    encode ⟨lefts⟩ = .ok bytes := by
  induction alike generalizing bytes with
  | nil => exact encoded
  | cons first _ inductionHypothesis =>
      obtain ⟨parts, others, packed, othersEncoded, rfl⟩ := encode_cons_eq_ok.mp encoded
      exact encode_cons_eq_ok.mpr
        ⟨parts, others, first.parts_eq.trans packed, inductionHypothesis othersEncoded,
          by rw [first.1]⟩

theorem Alike.encode
    {left right : HKey}
    {bytes : Bytes}
    (alike : left.Alike right)
    (encoded : right.encode = .ok bytes) :
    left.encode = .ok bytes :=
  encode_of_alike alike encoded

theorem followsJoins_of_alike
    {group : Group}
    {above : Option TableId}
    {lefts rights : List Segment}
    (alike : List.Forall₂ Segment.Alike lefts rights)
    (follows : FollowsJoins group above rights) :
    FollowsJoins group above lefts := by
  induction alike generalizing above with
  | nil => exact trivial
  | @cons left right lefts rights first _ inductionHypothesis =>
      obtain ⟨⟨table, found, named, placed, sameLength, fits⟩, further⟩ := follows
      obtain ⟨sameTable, values⟩ := first
      refine ⟨⟨table, sameTable ▸ found, sameTable ▸ named, placed,
        values.length_eq.trans sameLength, ?_⟩, sameTable ▸ inductionHypothesis further⟩
      exact admits_of_alike values fits

theorem Alike.rooted
    {group : Group}
    {left right : HKey}
    (alike : left.Alike right)
    (rooted : right.Rooted group) :
    left.Rooted group :=
  followsJoins_of_alike alike rooted

theorem Alike.table?_eq
    {left right : HKey}
    (alike : left.Alike right) :
    left.table? = right.table? := by
  have tables : left.segments.map (·.table) = right.segments.map (·.table) := by
    rw [← List.forall₂_eq_eq_eq, List.forall₂_map_left_iff, List.forall₂_map_right_iff]
    exact alike.imp fun _ _ segments => segments.1
  rw [table?, table?, ← List.getLast?_map, ← List.getLast?_map, tables]

/-- Paths with one encoded key are alike. -/
theorem alike_of_encode_eq
    {group : Group}
    {left right : HKey}
    {bytes : Bytes}
    (leftRooted : left.Rooted group)
    (rightRooted : right.Rooted group)
    (leftEncoded : left.encode = .ok bytes)
    (rightEncoded : right.encode = .ok bytes) :
    left.Alike right := by
  obtain ⟨back, read, leftAlike⟩ := exists_decode leftRooted leftEncoded
  obtain ⟨otherBack, otherRead, rightAlike⟩ := exists_decode rightRooted rightEncoded
  obtain rfl := Except.ok.inj (read.symm.trans otherRead)
  exact leftAlike.symm.trans rightAlike

theorem exists_parts
    {columns : List Column}
    {positions : List Nat}
    {values : List Value}
    (sameLength : values.length = positions.length)
    (fits : ∀ pair ∈ positions.zip values, ∃ column,
      columns[pair.1]? = some column ∧ column.dataType.admits pair.2 = true) :
    ∃ parts, values.mapM Value.packed = .ok parts := by
  induction values generalizing positions with
  | nil => exact ⟨[], rfl⟩
  | cons value values inductionHypothesis =>
      obtain _ | ⟨position, positions⟩ := positions
      · simp at sameLength
      · obtain ⟨column, _, admits⟩ := fits (position, value) (by simp)
        obtain ⟨part, packed⟩ := Value.exists_packed admits
        obtain ⟨parts, others⟩ := inductionHypothesis (Nat.succ.inj sameLength)
          fun pair present => fits pair (List.mem_cons_of_mem _ present)
        exact ⟨part :: parts, mapM_eq_ok.mpr (.cons packed (mapM_eq_ok.mp others))⟩

theorem exists_encode_of_followsJoins
    {group : Group}
    {above : Option TableId}
    {segments : List Segment}
    (follows : FollowsJoins group above segments) :
    ∃ bytes, encode ⟨segments⟩ = .ok bytes := by
  induction segments generalizing above with
  | nil => exact ⟨[], rfl⟩
  | cons segment segments inductionHypothesis =>
      obtain ⟨⟨table, _, _, _, sameLength, fits⟩, further⟩ := follows
      obtain ⟨parts, packed⟩ := exists_parts sameLength fits
      obtain ⟨others, othersEncoded⟩ := inductionHypothesis further
      exact ⟨_, encode_cons_eq_ok.mpr ⟨parts, others, packed, othersEncoded, rfl⟩⟩

/-- Every path has an encoded key. -/
theorem exists_encode
    {group : Group}
    {hkey : HKey}
    (rooted : hkey.Rooted group) :
    ∃ bytes, hkey.encode = .ok bytes :=
  exists_encode_of_followsJoins rooted

end HKey
end Keyspace
