import Keyspace.Proofs.Cursor.Subtree
import Keyspace.Proofs.Number.SameNumber
import Keyspace.Proofs.Schema.KeyLayout
import Keyspace.Schema.Storability

/-!
# Ancestry and encoded keys

Keys are compared in two ways: their values as numbers, and their encodings byte
by byte.  The two agree but on floats: zeros of both signs are one number, and
what is no number is not equal to itself.
-/

namespace Keyspace

/-! ## Equal values -/

/-- What is replaced by a zero if it is one is the same of two zeros, and else of
nothing but equal things. -/
theorem ite_zero_eq_iff
    {α : Type}
    {size : α -> Nat}
    {zero left right : α}
    (isZero : size zero = 0) :
    ((if size left = 0 then zero else left) = if size right = 0 then zero else right) ↔
      left = right ∨ size left = 0 ∧ size right = 0 := by
  by_cases leftZero : size left = 0
  · by_cases rightZero : size right = 0
    · simp [leftZero, rightZero]
    · rw [if_pos leftZero, if_neg rightZero]
      refine iff_of_false (fun same => rightZero (same ▸ isZero)) ?_
      rintro (rfl | both)
      · exact rightZero leftZero
      · exact rightZero both.2
  · rw [if_neg leftZero]
    split
    · next rightZero =>
        refine iff_of_false (fun same => leftZero (same ▸ isZero)) ?_
        rintro (rfl | both)
        · exact leftZero rightZero
        · exact leftZero both.1
    · tauto

/-- Numbers of which only zeros of both signs are the same are told apart without
the signs of zeros. -/
theorem numbers_same_iff
    {α : Type}
    {left right : α}
    (size : α -> Nat)
    (isNumber : α -> Prop)
    (zero : α)
    (isZero : size zero = 0)
    (zerosAreNumbers : ∀ other, size other = 0 -> isNumber other) :
    isNumber left ∧ isNumber right ∧ (left = right ∨ size left = 0 ∧ size right = 0) ↔
      (isNumber right ∧ isNumber right ∧ (right = right ∨ size right = 0 ∧ size right = 0)) ∧
        (if size left = 0 then zero else left) = if size right = 0 then zero else right := by
  rw [ite_zero_eq_iff isZero]
  constructor
  · tauto
  · rintro ⟨⟨rightIsNumber, _⟩, rfl | ⟨leftZero, rightZero⟩⟩
    · tauto
    · exact ⟨zerosAreNumbers left leftZero, rightIsNumber, .inr ⟨leftZero, rightZero⟩⟩

namespace Single

/-- A zero without its sign, and everything else as it is. -/
def unsignedZero (single : Single) : Single :=
  if single.unsigned = 0 then ⟨0⟩ else single

theorem sameNumber_iff_unsignedZero
    {left right : Single} :
    left.sameNumber right = true ↔
      right.sameNumber right = true ∧ left.unsignedZero = right.unsignedZero := by
  rw [sameNumber_iff, sameNumber_iff]
  unfold unsignedZero
  refine numbers_same_iff unsigned (fun single => single.value ≠ .nan) ⟨0⟩ rfl ?_
  intro single isZero
  rw [ne_eq, value_eq_nan_iff, isZero]
  exact Nat.not_lt_zero _

end Single

namespace Double

/-- A zero without its sign, and everything else as it is. -/
def unsignedZero (double : Double) : Double :=
  if double.unsigned = 0 then ⟨0⟩ else double

theorem sameNumber_iff_unsignedZero
    {left right : Double} :
    left.sameNumber right = true ↔
      right.sameNumber right = true ∧ left.unsignedZero = right.unsignedZero := by
  rw [sameNumber_iff, sameNumber_iff]
  unfold unsignedZero
  refine numbers_same_iff unsigned (fun double => double.value ≠ .nan) ⟨0⟩ rfl ?_
  intro double isZero
  rw [ne_eq, value_eq_nan_iff, isZero]
  exact Nat.not_lt_zero _

end Double

namespace Value

/-- A zero without its sign, and everything else as it is. -/
def unsignedZero : Value -> Value
  | float number => float number.unsignedZero
  | double number => double number.unsignedZero
  | other => other

/-- Values are equal as numbers if they are stored alike but for signs of zeros,
and are not something unequal to itself. -/
theorem same_iff
    (left right : Value) :
    left.same right = true ↔
      right.same right = true ∧ left.unsignedZero.Alike right.unsignedZero := by
  cases left with
  | decimal leftNumber =>
      cases right <;> simp [same, unsignedZero, Alike, Decimal.sameNumber]
  | float leftNumber =>
      cases right <;> simp [same, unsignedZero, Alike]
      exact Single.sameNumber_iff_unsignedZero
  | double leftNumber =>
      cases right <;> simp [same, unsignedZero, Alike]
      exact Double.sameNumber_iff_unsignedZero
  | _ => cases right <;> simp [same, unsignedZero, Alike]

@[simp] theorem admits_unsignedZero
    (dataType : DataType)
    (value : Value) :
    dataType.admits value.unsignedZero = dataType.admits value := by
  cases value <;> cases dataType <;> rfl

end Value

namespace Value

/-- Whether a value is no float or the only one equal to itself as a number. -/
def IsPlain : Value -> Prop
  | float number => number.value ≠ .nan ∧ (number.unsigned = 0 -> number = ⟨0⟩)
  | double number => number.value ≠ .nan ∧ (number.unsigned = 0 -> number = ⟨0⟩)
  | _ => True

theorem IsPlain.same_self
    {value : Value}
    (plain : value.IsPlain) :
    value.same value = true := by
  cases value with
  | decimal number => simp [same, Decimal.sameNumber]
  | float number => exact Single.sameNumber_iff.mpr ⟨plain.1, plain.1, .inl rfl⟩
  | double number => exact Double.sameNumber_iff.mpr ⟨plain.1, plain.1, .inl rfl⟩
  | _ => simp [same]

theorem IsPlain.unsignedZero_eq
    {value : Value}
    (plain : value.IsPlain) :
    value.unsignedZero = value := by
  cases value with
  | float number =>
      rw [unsignedZero, Single.unsignedZero]
      split
      · next zero => rw [plain.2 zero]
      · rfl
  | double number =>
      rw [unsignedZero, Double.unsignedZero]
      split
      · next zero => rw [plain.2 zero]
      · rfl
  | _ => rfl

end Value

/-- A relation that asks something of the right side and relates both sides in
another way does so along lists. -/
theorem forall₂_iff_of_iff
    {α β : Type}
    {relates other : α -> β -> Prop}
    {holds : β -> Prop}
    (pointwise : ∀ left right, relates left right ↔ holds right ∧ other left right)
    (lefts : List α)
    (rights : List β) :
    List.Forall₂ relates lefts rights ↔
      (∀ right ∈ rights, holds right) ∧ List.Forall₂ other lefts rights := by
  induction lefts generalizing rights with
  | nil => cases rights <;> simp
  | cons left lefts inductionHypothesis =>
      cases rights with
      | nil => simp
      | cons right rights =>
          simp only [List.forall₂_cons, List.forall_mem_cons, pointwise, inductionHypothesis]
          tauto

/-- Equality along lists, as it is computed. -/
theorem all_zip_iff
    {α : Type}
    (same : α -> α -> Bool)
    (lefts rights : List α) :
    (lefts.length == rights.length && (lefts.zip rights).all fun pair => same pair.1 pair.2) =
        true ↔
      List.Forall₂ (fun left right => same left right = true) lefts rights := by
  rw [Bool.and_eq_true, beq_iff_eq, List.all_eq_true, List.forall₂_iff_zip]
  simp only [Prod.forall]

namespace Segment

/-- The segment with all zeros without their signs. -/
def unsignedZeros (segment : Segment) : Segment :=
  ⟨segment.table, segment.values.map Value.unsignedZero⟩

theorem same_iff_forall₂
    {left right : Segment} :
    left.same right = true ↔ left.table = right.table ∧
      List.Forall₂ (fun left right => Value.same left right = true) left.values right.values := by
  rw [same, Bool.and_assoc, Bool.and_eq_true, beq_iff_eq, all_zip_iff]

/-- Segments are equal as numbers if they are alike but for signs of zeros, and
hold nothing that is unequal to itself. -/
theorem same_iff
    (left right : Segment) :
    left.same right = true ↔
      right.same right = true ∧ left.unsignedZeros.Alike right.unsignedZeros := by
  rw [same_iff_forall₂, same_iff_forall₂, forall₂_iff_of_iff Value.same_iff,
    forall₂_iff_of_iff Value.same_iff, Alike, unsignedZeros, unsignedZeros,
    List.forall₂_map_left_iff, List.forall₂_map_right_iff]
  have alike : List.Forall₂ (fun left right : Value =>
      left.unsignedZero.Alike right.unsignedZero) right.values right.values :=
    List.forall₂_same.mpr fun value _ => Value.alike_refl _
  tauto

end Segment

namespace HKey

/-- The key with all zeros without their signs. -/
def unsignedZeros (hkey : HKey) : HKey :=
  ⟨hkey.segments.map Segment.unsignedZeros⟩

/-- Paths are equal as numbers if they are alike but for signs of zeros, and hold
nothing that is unequal to itself. -/
theorem sameSegments_iff
    (lefts rights : List Segment) :
    sameSegments lefts rights = true ↔ sameSegments rights rights = true ∧
      List.Forall₂ Segment.Alike (lefts.map Segment.unsignedZeros)
        (rights.map Segment.unsignedZeros) := by
  rw [sameSegments, sameSegments, all_zip_iff, all_zip_iff, forall₂_iff_of_iff Segment.same_iff,
    forall₂_iff_of_iff Segment.same_iff, List.forall₂_map_left_iff, List.forall₂_map_right_iff]
  have alike : List.Forall₂ (fun left right : Segment =>
      left.unsignedZeros.Alike right.unsignedZeros) rights rights :=
    List.forall₂_same.mpr fun segment _ =>
      ⟨rfl, List.forall₂_same.mpr fun value _ => Value.alike_refl _⟩
  tauto

theorem followsJoins_unsignedZeros
    {group : Group}
    {above : Option TableId}
    {segments : List Segment}
    (follows : FollowsJoins group above segments) :
    FollowsJoins group above (segments.map Segment.unsignedZeros) := by
  induction segments generalizing above with
  | nil => exact trivial
  | cons segment segments inductionHypothesis =>
      obtain ⟨⟨table, found, named, placed, sameLength, fits⟩, further⟩ := follows
      refine ⟨⟨table, found, named, placed, by simpa [Segment.unsignedZeros] using sameLength, ?_⟩,
        inductionHypothesis further⟩
      intro pair present
      rw [Segment.unsignedZeros, List.zip_map_right] at present
      obtain ⟨⟨position, value⟩, inside, rfl⟩ := List.mem_map.mp present
      simpa using fits _ inside

theorem Rooted.unsignedZeros
    {group : Group}
    {hkey : HKey}
    (rooted : hkey.Rooted group) :
    hkey.unsignedZeros.Rooted group :=
  followsJoins_unsignedZeros rooted

theorem followsJoins_take
    {group : Group}
    {above : Option TableId}
    {segments : List Segment}
    (follows : FollowsJoins group above segments)
    (count : Nat) :
    FollowsJoins group above (segments.take count) := by
  induction segments generalizing above count with
  | nil => simpa using follows
  | cons segment segments inductionHypothesis =>
      cases count with
      | zero => exact trivial
      | succ count => exact ⟨follows.1, inductionHypothesis follows.2 count⟩

theorem startWith_take
    {segments starts : List Segment}
    (goesOn : Segment.startWith segments starts = true) :
    Segment.startWith (segments.take starts.length) starts = true := by
  induction starts generalizing segments with
  | nil => rfl
  | cons start starts inductionHypothesis =>
      obtain _ | ⟨segment, segments⟩ := segments
      · simp [Segment.startWith] at goesOn
      · obtain ⟨agrees, further⟩ := Bool.and_eq_true_iff.mp goesOn
        exact Bool.and_eq_true_iff.mpr ⟨agrees, inductionHypothesis further⟩

theorem encode_ne_nil
    {segments : List Segment}
    {bytes : Bytes}
    (encoded : encode ⟨segments⟩ = .ok bytes)
    (nonempty : segments ≠ []) :
    bytes ≠ [] := by
  obtain _ | ⟨segment, segments⟩ := segments
  · exact absurd rfl nonempty
  · obtain ⟨parts, others, _, _, rfl⟩ := encode_cons_eq_ok.mp encoded
    obtain ⟨code, behind, shape, _⟩ :=
      Element.exists_packInteger_eq_cons (segment.table.ordinal.toNat : Int)
    simp [shape]

/-- The encoding of a path goes on from that of another, by at least one byte and
not by the escape byte, exactly if it is a longer path with the other's segments. -/
theorem encode_eq_append_iff
    {group : Group}
    {hkey anchor : HKey}
    {bytes anchorBytes : Bytes}
    (rooted : hkey.Rooted group)
    (anchorRooted : anchor.Rooted group)
    (encoded : hkey.encode = .ok bytes)
    (anchorEncoded : anchor.encode = .ok anchorBytes) :
    (∃ first rest, first ≠ TypeCode.escape ∧ bytes = anchorBytes ++ first :: rest) ↔
      anchor.segments.length < hkey.segments.length ∧
        Alike ⟨hkey.segments.take anchor.segments.length⟩ anchor := by
  have cut : encode ⟨hkey.segments.take anchor.segments.length ++
      hkey.segments.drop anchor.segments.length⟩ = .ok bytes := by
    rwa [List.take_append_drop]
  obtain ⟨start, rest, startEncoded, restEncoded, rfl⟩ := encode_append_eq_ok.mp cut
  constructor
  · rintro ⟨first, further, notEscape, goesOn⟩
    have starts := (startsWith_iff rooted anchorRooted encoded anchorEncoded).mpr
      ⟨first :: further, Bytes.continues_cons _ notEscape, goesOn⟩
    have longEnough := Segment.length_le_of_startWith starts
    obtain rfl := encode_eq_of_startWith startEncoded anchorEncoded (startWith_take starts)
      (List.length_take_of_le longEnough)
    refine ⟨longEnough.lt_of_ne fun sameLength => ?_,
      alike_of_encode_eq (followsJoins_take rooted _) anchorRooted startEncoded anchorEncoded⟩
    rw [sameLength, List.drop_length] at restEncoded
    obtain rfl := Except.ok.inj restEncoded
    simp at goesOn
  · rintro ⟨longer, alike⟩
    obtain rfl := Except.ok.inj (startEncoded.symm.trans (alike.encode anchorEncoded))
    have behind : hkey.segments.drop anchor.segments.length ≠ [] := by
      simpa [List.drop_eq_nil_iff] using longer
    have continues := continues_encode restEncoded
    obtain _ | ⟨first, further⟩ := rest
    · exact absurd rfl (encode_ne_nil restEncoded behind)
    · exact ⟨first, further, by simpa [Bytes.Continues] using continues, rfl⟩

theorem isAncestorOf_iff
    (anchor hkey : HKey) :
    anchor.isAncestorOf hkey = true ↔ anchor.same anchor = true ∧
      anchor.segments.length < hkey.segments.length ∧
        Alike ⟨hkey.unsignedZeros.segments.take anchor.segments.length⟩ anchor.unsignedZeros := by
  rw [isAncestorOf, Bool.and_eq_true, decide_eq_true_eq, sameSegments_iff, List.map_take]
  exact and_left_comm

theorem same_iff
    (left right : HKey) :
    left.same right = true ↔
      right.same right = true ∧ left.unsignedZeros.Alike right.unsignedZeros :=
  sameSegments_iff left.segments right.segments

/-- Paths are alike exactly if they have one encoded key. -/
theorem alike_iff_encode
    {group : Group}
    {left right : HKey}
    {bytes otherBytes : Bytes}
    (leftRooted : left.Rooted group)
    (rightRooted : right.Rooted group)
    (leftEncoded : left.encode = .ok bytes)
    (rightEncoded : right.encode = .ok otherBytes) :
    left.Alike right ↔ bytes = otherBytes := by
  constructor
  · exact fun alike => Except.ok.inj (leftEncoded.symm.trans (alike.encode rightEncoded))
  · rintro rfl
    exact alike_of_encode_eq leftRooted rightRooted leftEncoded rightEncoded

/-- Two paths name one row, or one a row above the other, exactly if their encoded
keys without signs of zeros say so and the first is equal to itself. -/
theorem same_isAncestorOf_iff_unsignedZeros
    {group : Group}
    {hkey anchor : HKey}
    {bytes anchorBytes : Bytes}
    (rooted : hkey.Rooted group)
    (anchorRooted : anchor.Rooted group)
    (encoded : hkey.unsignedZeros.encode = .ok bytes)
    (anchorEncoded : anchor.unsignedZeros.encode = .ok anchorBytes) :
    (anchor.isAncestorOf hkey = true ↔ anchor.same anchor = true ∧
        anchor.segments.length < hkey.segments.length ∧
          ∃ first rest, first ≠ 0xFF ∧ bytes = anchorBytes ++ first :: rest) ∧
      (hkey.same anchor = true ↔ anchor.same anchor = true ∧ bytes = anchorBytes) := by
  refine ⟨?_, ?_⟩
  · have goesOn := encode_eq_append_iff rooted.unsignedZeros anchorRooted.unsignedZeros encoded
      anchorEncoded
    have sameLength : hkey.unsignedZeros.segments.length = hkey.segments.length :=
      List.length_map ..
    have anchorLength : anchor.unsignedZeros.segments.length = anchor.segments.length :=
      List.length_map ..
    rw [sameLength, anchorLength] at goesOn
    change (∃ first rest, first ≠ 0xFF ∧ _) ↔ _ at goesOn
    rw [isAncestorOf_iff, goesOn]
    tauto
  · rw [same_iff, alike_iff_encode rooted.unsignedZeros anchorRooted.unsignedZeros
      encoded anchorEncoded]

/-- Whether all values in a key are plain. -/
def IsPlain (hkey : HKey) : Prop :=
  ∀ segment ∈ hkey.segments, ∀ value ∈ segment.values, value.IsPlain

theorem IsPlain.unsignedZeros_eq
    {hkey : HKey}
    (plain : hkey.IsPlain) :
    hkey.unsignedZeros = hkey := by
  have segments : hkey.segments.map Segment.unsignedZeros = hkey.segments := by
    refine (List.map_congr_left fun segment present => ?_).trans (List.map_id _)
    have values : segment.values.map Value.unsignedZero = segment.values := by
      refine (List.map_congr_left fun value member => ?_).trans (List.map_id _)
      exact (plain segment present value member).unsignedZero_eq
    rw [Segment.unsignedZeros, values]
    rfl
  rw [unsignedZeros, segments]

theorem IsPlain.same_self
    {hkey : HKey}
    (plain : hkey.IsPlain) :
    hkey.same hkey = true := by
  rw [same, sameSegments, all_zip_iff, List.forall₂_same]
  intro segment present
  rw [Segment.same_iff_forall₂, List.forall₂_same]
  exact ⟨rfl, fun value member => (plain segment present value member).same_self⟩

/-- Two paths name one row, or one a row above the other, exactly if their encoded
keys without signs of zeros say so and the first is equal to itself.  So plain
keys say so themselves. -/
theorem same_isAncestorOf_iff_encode
    {group : Group}
    {hkey anchor : HKey}
    (rooted : hkey.Rooted group)
    (anchorRooted : anchor.Rooted group) :
    (∃ bytes anchorBytes,
      hkey.unsignedZeros.encode = .ok bytes ∧ anchor.unsignedZeros.encode = .ok anchorBytes ∧
      (anchor.isAncestorOf hkey = true ↔ anchor.same anchor = true ∧
        anchor.segments.length < hkey.segments.length ∧
          ∃ first rest, first ≠ 0xFF ∧ bytes = anchorBytes ++ first :: rest) ∧
      (hkey.same anchor = true ↔ anchor.same anchor = true ∧ bytes = anchorBytes)) ∧
    (hkey.IsPlain -> anchor.IsPlain -> ∃ bytes anchorBytes,
      hkey.encode = .ok bytes ∧ anchor.encode = .ok anchorBytes ∧
      (anchor.isAncestorOf hkey = true ↔
        anchor.segments.length < hkey.segments.length ∧
          ∃ first rest, first ≠ 0xFF ∧ bytes = anchorBytes ++ first :: rest) ∧
      (hkey.same anchor = true ↔ bytes = anchorBytes)) := by
  obtain ⟨bytes, encoded⟩ := exists_encode rooted.unsignedZeros
  obtain ⟨anchorBytes, anchorEncoded⟩ := exists_encode anchorRooted.unsignedZeros
  have decided :=
    same_isAncestorOf_iff_unsignedZeros rooted anchorRooted encoded anchorEncoded
  refine ⟨⟨bytes, anchorBytes, encoded, anchorEncoded, decided⟩, fun plain anchorPlain => ?_⟩
  rw [plain.unsignedZeros_eq] at encoded
  rw [anchorPlain.unsignedZeros_eq] at anchorEncoded
  rw [anchorPlain.same_self] at decided
  exact ⟨bytes, anchorBytes, encoded, anchorEncoded, by simpa using decided⟩

end HKey

/-! ## A sounding -/

namespace Sounding

/-- A column of depths. -/
def depth : Column := ⟨"depth", .double, true, none, false⟩

/-- The depths of a sounding and the samples taken there. -/
def declaration : GroupDeclaration where
  id := 11
  name := "sounding"
  root := some ⟨⟨"s", "depths"⟩, [depth], ["depth"]⟩
  children :=
    [⟨"depths", ⟨⟨"s", "samples"⟩, [Shop.number "sample", depth], ["sample"]⟩,
      ⟨["depth"], ["depth"]⟩⟩]

/-- The depths. -/
def depths : Table :=
  ⟨⟨1⟩, ⟨"s", "depths"⟩, [depth], [0], none, [⟨2⟩], 0, [⟨⟨1⟩, [0]⟩]⟩

/-- The samples of a depth. -/
def samples : Table :=
  ⟨⟨2⟩, ⟨"s", "samples"⟩, [Shop.number "sample", depth], [0], some ⟨⟨1⟩, [⟨1, 0⟩]⟩, [], 1,
    [⟨⟨1⟩, [1]⟩, ⟨⟨2⟩, [0]⟩]⟩

/-- The built sounding. -/
def group : Group := ⟨11, "sounding", [depths, samples]⟩

/-- The key of a depth. -/
def depthKey (depth : UInt64) : HKey := ⟨[⟨⟨1⟩, [.double ⟨depth⟩]⟩]⟩

/-- The key of the first sample of a depth. -/
def sampleKey (depth : UInt64) : HKey :=
  ⟨[⟨⟨1⟩, [.double ⟨depth⟩]⟩, ⟨⟨2⟩, [.bigInt 1]⟩]⟩

theorem rooted_sampleKey
    (depth : UInt64) :
    (sampleKey depth).Rooted group := by
  refine ⟨⟨depths, rfl, rfl, rfl, rfl, ?_⟩, ⟨samples, rfl, rfl, rfl, rfl, ?_⟩, trivial⟩
  · intro pair present
    obtain rfl := List.mem_singleton.mp present
    exact ⟨_, rfl, rfl⟩
  · intro pair present
    obtain rfl := List.mem_singleton.mp present
    exact ⟨_, rfl, rfl⟩

theorem rooted_depthKey
    (depth : UInt64) :
    (depthKey depth).Rooted group :=
  HKey.followsJoins_take (rooted_sampleKey depth) 1

/-- The depth of a half is above its sample in both ways. -/
theorem half_isAncestorOf_iff :
    ∃ bytes anchorBytes,
      (sampleKey 0x3FE0000000000000).encode = .ok bytes ∧
      (depthKey 0x3FE0000000000000).encode = .ok anchorBytes ∧
      ((depthKey 0x3FE0000000000000).isAncestorOf (sampleKey 0x3FE0000000000000) = true ↔
        1 < 2 ∧ ∃ first rest, first ≠ 0xFF ∧ bytes = anchorBytes ++ first :: rest) ∧
      ((sampleKey 0x3FE0000000000000).same (depthKey 0x3FE0000000000000) = true ↔
        bytes = anchorBytes) := by
  have half : (Value.double ⟨0x3FE0000000000000⟩).IsPlain :=
    ⟨by decide +kernel, fun zero => absurd zero (by decide +kernel)⟩
  refine (HKey.same_isAncestorOf_iff_encode (rooted_sampleKey 0x3FE0000000000000)
    (rooted_depthKey 0x3FE0000000000000)).2 ?_ ?_
  · rintro _ (_ | ⟨_, _ | ⟨_, ⟨⟩⟩⟩) _ (_ | ⟨_, ⟨⟩⟩)
    · exact half
    · trivial
  · rintro _ (_ | ⟨_, ⟨⟩⟩) _ (_ | ⟨_, ⟨⟩⟩)
    exact half

/-- Zero is above a sample at zero with a sign, though its encoded key says that it
is not, and a depth that is no number is not the depth with the same encoded key. -/
theorem zero_isAncestorOf_negative_zero :
    declaration.build = .ok group ∧ group.validate = .ok () ∧
      (depthKey 0).isAncestorOf (sampleKey 0x8000000000000000) = true ∧
      (∃ bytes anchorBytes, (sampleKey 0x8000000000000000).encode = .ok bytes ∧
        (depthKey 0).encode = .ok anchorBytes ∧ ¬ anchorBytes <+: bytes) ∧
      (depthKey 0x7FF8000000000000).same (depthKey 0x7FF8000000000000) = false := by
  refine ⟨rfl, rfl, by decide +kernel, ⟨_, _, rfl, rfl, by decide +kernel⟩, by decide +kernel⟩

end Sounding
end Keyspace
