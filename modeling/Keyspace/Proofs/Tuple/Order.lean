import Keyspace.Proofs.Tuple.Layouts

/-!
# The order of packed tuples

Packed tuples compare like the tuples.  Encodings of elements are not free of
initial parts: escaped content is an initial part of content that goes on with
a zero byte.  What keeps the order is that nothing which may follow an element
starts with the escape byte, so each comparison of two elements is stated
together with what follows them.
-/

namespace Keyspace

open Bytes (Below)

/-! ## What may follow an element -/

namespace Bytes

/-- What may follow a packed element: anything that does not start with the
escape byte. -/
def Continues (rest : Bytes) : Prop :=
  rest.head? ≠ some TypeCode.escape

@[simp] theorem continues_nil : Continues [] := by
  simp [Continues]

theorem continues_cons
    {code : UInt8}
    (rest : Bytes)
    (notEscape : code ≠ TypeCode.escape) :
    Continues (code :: rest) := by
  simpa [Continues] using notEscape

/-- No byte is above the escape byte. -/
theorem lt_escape
    {byte : UInt8}
    (different : byte ≠ TypeCode.escape) :
    byte < TypeCode.escape := by
  have differentNumber : byte.toNat ≠ 255 := fun same => different (UInt8.toNat_inj.mp same)
  have bound := byte.toNat_lt
  rw [UInt8.lt_iff_toNat_lt]
  change byte.toNat < 255
  omega

/-- What follows an element lies below a longer content that goes on with an
escaped zero byte. -/
theorem compare_escape
    {rest : Bytes}
    (continues : Continues rest)
    (beyond : Bytes) :
    compare rest (TypeCode.escape :: beyond) = .lt := by
  obtain _ | ⟨code, rest⟩ := rest
  · rfl
  · have different : code ≠ TypeCode.escape := by simpa [Continues] using continues
    simp [compare, lt_escape different]

/-- Whatever may follow them, the strings compare in a given order, and what
follows decides only if they are equal in it. -/
def OrdersAs (left right : Bytes) (order : Ordering) : Prop :=
  ∀ leftRest rightRest, Continues leftRest -> Continues rightRest ->
    compare (left ++ leftRest) (right ++ rightRest) =
      order.then (compare leftRest rightRest)

/-- Strings that differ at a byte wherever the order tells them apart. -/
theorem OrdersAs.of_below
    {left right : Bytes}
    {order : Ordering}
    (less : order = .lt -> Below left right)
    (greater : order = .gt -> Below right left)
    (equal : order = .eq -> left = right) :
    OrdersAs left right order := by
  intro leftRest rightRest _ _
  cases order with
  | lt => exact ((less rfl).append _ _).compare_eq
  | gt => exact ((greater rfl).append _ _).compare_swap
  | eq =>
      rw [equal rfl, compare_append_self]
      rfl

/-- Strings of one length are ordered by themselves. -/
theorem OrdersAs.of_length_eq
    {left right : Bytes}
    (sameLength : left.length = right.length) :
    OrdersAs left right (compare left right) := by
  apply OrdersAs.of_below
  · exact below_of_compare_eq_lt sameLength
  · intro greater
    exact below_of_compare_eq_lt sameLength.symm (Std.OrientedCmp.lt_of_gt greater)
  · exact eq_of_compare_eq

theorem OrdersAs.cons
    {left right : Bytes}
    {order : Ordering}
    (code : UInt8)
    (orders : OrdersAs left right order) :
    OrdersAs (code :: left) (code :: right) order := by
  intro leftRest rightRest leftContinues rightContinues
  rw [List.cons_append, List.cons_append, compare_cons_self]
  exact orders leftRest rightRest leftContinues rightContinues

/-- Equal concatenations have equal parts. -/
theorem OrdersAs.split
    {left right leftRest rightRest : Bytes}
    {order : Ordering}
    (orders : OrdersAs left right order)
    (leftContinues : Continues leftRest)
    (rightContinues : Continues rightRest)
    (equal : left ++ leftRest = right ++ rightRest) :
    order = .eq ∧ left = right ∧ leftRest = rightRest := by
  have comparison := orders leftRest rightRest leftContinues rightContinues
  rw [equal, compare_self] at comparison
  obtain ⟨sameOrder, sameRest⟩ := Ordering.then_eq_eq.mp comparison.symm
  have rests := eq_of_compare_eq sameRest
  rw [rests, List.append_cancel_right_eq] at equal
  exact ⟨sameOrder, equal, rests⟩

end Bytes

namespace Element

open Bytes (Continues OrdersAs)

/-! ## Escaped content -/

theorem escaped_cons
    (byte : UInt8)
    (content : Bytes) :
    escaped (byte :: content) =
      (if byte = 0 then [0, TypeCode.escape] else [byte]) ++ escaped content := by
  simp [escaped]

theorem zero_lt_of_ne
    {byte : UInt8}
    (nonzero : byte ≠ 0) :
    0 < byte := by
  rw [UInt8.lt_iff_toNat_lt]
  exact Nat.pos_of_ne_zero fun same => nonzero (UInt8.toNat_inj.mp same)

/-- Content that ends lies below content that goes on. -/
theorem compare_escaped_nil_cons
    {leftRest : Bytes}
    (leftContinues : Continues leftRest)
    (byte : UInt8)
    (content rightRest : Bytes) :
    Bytes.compare (escaped [] ++ leftRest) (escaped (byte :: content) ++ rightRest) = .lt := by
  rw [escaped_cons]
  split
  · exact Bytes.compare_escape leftContinues _
  · next nonzero => exact (Below.here _ _ (zero_lt_of_ne nonzero)).compare_eq

theorem below_escaped_cons
    {lower upper : UInt8}
    (smaller : lower < upper)
    (left right : Bytes) :
    Below (escaped (lower :: left)) (escaped (upper :: right)) := by
  have upperNonzero : upper ≠ 0 := by
    rintro rfl
    simp at smaller
  rw [escaped_cons, escaped_cons, if_neg upperNonzero]
  split
  · exact .here _ _ (zero_lt_of_ne upperNonzero)
  · exact .here _ _ smaller

/-- Escaped content keeps the bytewise order. -/
theorem ordersAs_escaped
    (left right : Bytes) :
    OrdersAs (escaped left) (escaped right) (Bytes.compare left right) := by
  induction left generalizing right with
  | nil =>
      intro leftRest rightRest leftContinues _
      obtain _ | ⟨second, right⟩ := right
      · rw [Bytes.compare_append_self]
        rfl
      · rw [compare_escaped_nil_cons leftContinues]
        rfl
  | cons first left inductionHypothesis =>
      intro leftRest rightRest leftContinues rightContinues
      obtain _ | ⟨second, right⟩ := right
      · rw [Std.OrientedCmp.gt_of_lt (compare_escaped_nil_cons rightContinues _ _ _)]
        rfl
      · rcases Nat.lt_trichotomy first.toNat second.toNat with smaller | equal | greater
        · have less := UInt8.lt_iff_toNat_lt.mpr smaller
          rw [((below_escaped_cons less left right).append _ _).compare_eq,
            (Below.here left right less).compare_eq]
          rfl
        · rw [UInt8.toNat_inj] at equal
          subst equal
          rw [escaped_cons, escaped_cons, List.append_assoc, List.append_assoc,
            Bytes.compare_append_self, Bytes.compare_cons_self]
          exact inductionHypothesis right leftRest rightRest leftContinues rightContinues
        · have less := UInt8.lt_iff_toNat_lt.mpr greater
          rw [((below_escaped_cons less right left).append _ _).compare_swap,
            (Below.here right left less).compare_swap]
          rfl

/-! ## Integers of every width -/

theorem byteLength_int64_le
    (number : Int64) :
    Bytes.byteLength number.toInt.natAbs ≤ 8 := by
  rw [Bytes.byteLength_le_iff]
  have least := number.le_toInt
  have greatest := number.toInt_lt
  omega

theorem pack_of_asInteger
    {element : Element}
    {number : Int}
    {bytes : Bytes}
    (isInteger : element.asInteger? = some number)
    (packed : element.pack = .ok bytes) :
    bytes = packInteger number ∧ Bytes.byteLength number.natAbs ≤ maxMagnitudeBytes := by
  cases element with
  | integer small =>
      obtain rfl : small.toInt = number := by simpa [asInteger?] using isInteger
      exact ⟨by simpa [pack] using packed.symm,
        (byteLength_int64_le small).trans (by decide)⟩
  | bigInteger wide =>
      obtain rfl : wide = number := by simpa [asInteger?] using isInteger
      simp only [pack] at packed
      split at packed
      · next short => exact ⟨by simpa using packed.symm, short⟩
      · simp at packed
  | _ => simp [asInteger?] at isInteger

theorem compare_of_asInteger
    {left right : Element}
    {leftNumber rightNumber : Int}
    (leftIsInteger : left.asInteger? = some leftNumber)
    (rightIsInteger : right.asInteger? = some rightNumber) :
    left.compare right = Ord.compare leftNumber rightNumber := by
  cases left <;> simp only [asInteger?, Option.some.injEq, reduceCtorEq] at leftIsInteger <;>
    cases right <;> simp only [asInteger?, Option.some.injEq, reduceCtorEq] at rightIsInteger <;>
    simp [compare, leftIsInteger, rightIsInteger]

theorem ordersAs_packInteger
    {left right : Int}
    (leftShort : Bytes.byteLength left.natAbs ≤ maxMagnitudeBytes)
    (rightShort : Bytes.byteLength right.natAbs ≤ maxMagnitudeBytes) :
    OrdersAs (packInteger left) (packInteger right) (Ord.compare left right) := by
  apply OrdersAs.of_below
  · intro less
    exact below_packInteger (Std.compare_eq_lt.mp less) leftShort rightShort
  · intro greater
    exact below_packInteger (Std.compare_eq_gt.mp greater) rightShort leftShort
  · intro equal
    rw [Std.compare_eq_iff_eq.mp equal]

/-! ## The remaining classes -/

theorem ordersAs_single
    (left right : Single) :
    OrdersAs (Bytes.bigEndian 4 left.orderKey) (Bytes.bigEndian 4 right.orderKey)
      (left.compareTotal right) := by
  apply OrdersAs.of_below
  · intro less
    exact Single.below_orderKey (Std.compare_eq_lt.mp less)
  · intro greater
    exact Single.below_orderKey (Std.compare_eq_gt.mp greater)
  · intro equal
    rw [Single.eq_of_totalPlace_eq (Std.compare_eq_iff_eq.mp equal)]

theorem ordersAs_double
    (left right : Double) :
    OrdersAs (Bytes.bigEndian 8 left.orderKey) (Bytes.bigEndian 8 right.orderKey)
      (left.compareTotal right) := by
  apply OrdersAs.of_below
  · intro less
    exact Double.below_orderKey (Std.compare_eq_lt.mp less)
  · intro greater
    exact Double.below_orderKey (Std.compare_eq_gt.mp greater)
  · intro equal
    rw [Double.eq_of_totalPlace_eq (Std.compare_eq_iff_eq.mp equal)]

theorem ordersAs_uuid
    (left right : Uuid) :
    OrdersAs left.bytes right.bytes (left.compare right) :=
  OrdersAs.of_length_eq (left.length_bytes.trans right.length_bytes.symm)

theorem compare_decimal_swap
    {left right : Decimal}
    (greater : left.compare right = .gt) :
    right.compare left = .lt :=
  Std.compare_eq_lt.mpr (Std.compare_eq_gt.mp greater)

theorem ordersAs_decimal
    (left right : Decimal) :
    OrdersAs (packDecimal left) (packDecimal right) (left.compare right) := by
  apply OrdersAs.of_below
  · exact below_packDecimal
  · intro greater
    exact below_packDecimal (compare_decimal_swap greater)
  · exact packDecimal_congr

theorem ordersAs_boolean
    (left right : Bool) :
    OrdersAs [if left then TypeCode.true else TypeCode.false]
      [if right then TypeCode.true else TypeCode.false]
      (Ord.compare left.toNat right.toNat) := by
  apply OrdersAs.of_below
  · cases left <;> cases right <;> intro less
    · simp at less
    · exact .here _ _ (by decide)
    · simp [Nat.compare_eq_lt] at less
    · simp at less
  · cases left <;> cases right <;> intro greater
    · simp at greater
    · simp [Nat.compare_eq_gt] at greater
    · exact .here _ _ (by decide)
    · simp at greater
  · cases left <;> cases right <;> simp

/-! ## Classes -/

/-- The least type code of a class or of those after it. -/
def leastCode : Nat -> Nat
  | 0 => 0x00
  | 1 => 0x01
  | 2 => 0x02
  | 3 => 0x0B
  | 4 => 0x20
  | 5 => 0x21
  | 6 => 0x26
  | 7 => 0x30
  | 8 => 0x40
  | _ => 0x41

theorem leastCode_le_succ
    (rank : Nat) :
    leastCode rank ≤ leastCode (rank + 1) := by
  match rank with
  | 0 | 1 | 2 | 3 | 4 | 5 | 6 | 7 | 8 => decide
  | _ + 9 => exact le_rfl

theorem leastCode_mono
    {lower upper : Nat}
    (less : lower ≤ upper) :
    leastCode lower ≤ leastCode upper :=
  monotone_nat_of_le_succ leastCode_le_succ less

theorem classRank_of_asInteger
    {element : Element}
    {number : Int}
    (isInteger : element.asInteger? = some number) :
    element.classRank = 3 := by
  cases element <;> simp_all [asInteger?, classRank]

/-- A packed element starts with a type code of its class. -/
theorem exists_pack_eq_cons
    {element : Element}
    {bytes : Bytes}
    (packed : element.pack = .ok bytes) :
    ∃ code rest, bytes = code :: rest ∧
      leastCode element.classRank ≤ code.toNat ∧
      code.toNat < leastCode (element.classRank + 1) := by
  cases isInteger : element.asInteger? with
  | some number =>
      obtain ⟨code, rest, shape, bounds⟩ := exists_packInteger_eq_cons number
      rw [(pack_of_asInteger isInteger packed).1, shape, classRank_of_asInteger isInteger]
      exact ⟨code, rest, rfl, bounds.1, Nat.lt_succ_of_le (bounds.2.trans (by decide))⟩
  | none =>
      cases element with
      | integer number => simp [asInteger?] at isInteger
      | bigInteger number => simp [asInteger?] at isInteger
      | boolean truth =>
          obtain rfl := Except.ok.inj packed
          exact ⟨_, _, rfl, by cases truth <;> simp only [classRank] <;> decide⟩
      | _ =>
          obtain rfl := Except.ok.inj packed
          exact ⟨_, _, rfl, by simp only [classRank]; decide⟩

theorem continues_pack_append
    {element : Element}
    {bytes : Bytes}
    (packed : element.pack = .ok bytes)
    (rest : Bytes) :
    Continues (bytes ++ rest) := by
  obtain ⟨code, behind, rfl, _, greatest⟩ := exists_pack_eq_cons packed
  refine Bytes.continues_cons _ fun escape => ?_
  have small : leastCode (element.classRank + 1) ≤ 0x41 := by
    cases element <;> simp only [classRank] <;> decide
  rw [escape] at greatest
  exact absurd greatest (not_lt.mpr (small.trans (by decide)))

theorem below_of_classRank_lt
    {left right : Element}
    {leftBytes rightBytes : Bytes}
    (leftPacked : left.pack = .ok leftBytes)
    (rightPacked : right.pack = .ok rightBytes)
    (less : left.classRank < right.classRank) :
    Below leftBytes rightBytes := by
  obtain ⟨leftCode, leftRest, rfl, _, leftBound⟩ := exists_pack_eq_cons leftPacked
  obtain ⟨rightCode, rightRest, rfl, rightBound, _⟩ := exists_pack_eq_cons rightPacked
  apply Below.here
  rw [UInt8.lt_iff_toNat_lt]
  exact leftBound.trans_le ((leastCode_mono less).trans rightBound)

theorem compare_of_classRank_ne
    {left right : Element}
    (different : left.classRank ≠ right.classRank) :
    left.compare right = Ord.compare left.classRank right.classRank := by
  cases left <;> cases right <;> first | rfl | exact absurd rfl different

theorem ordersAs_pack_of_classRank_eq
    {left right : Element}
    {leftBytes rightBytes : Bytes}
    (leftPacked : left.pack = .ok leftBytes)
    (rightPacked : right.pack = .ok rightBytes)
    (sameClass : left.classRank = right.classRank)
    (notInteger : left.asInteger? = none) :
    OrdersAs leftBytes rightBytes (left.compare right) := by
  cases left with
  | null =>
      cases right with
      | null =>
          obtain rfl := Except.ok.inj (leftPacked.symm.trans rightPacked)
          exact OrdersAs.of_below nofun nofun fun _ => rfl
      | _ => simp [classRank] at sameClass
  | bytes content =>
      cases right with
      | bytes other =>
          obtain rfl := Except.ok.inj leftPacked
          obtain rfl := Except.ok.inj rightPacked
          exact (ordersAs_escaped content other).cons _
      | _ => simp [classRank] at sameClass
  | string content =>
      cases right with
      | string other =>
          obtain rfl := Except.ok.inj leftPacked
          obtain rfl := Except.ok.inj rightPacked
          exact (ordersAs_escaped (Utf8.encode content) (Utf8.encode other)).cons _
      | _ => simp [classRank] at sameClass
  | integer number => simp [asInteger?] at notInteger
  | bigInteger number => simp [asInteger?] at notInteger
  | float number =>
      cases right with
      | float other =>
          obtain rfl := Except.ok.inj leftPacked
          obtain rfl := Except.ok.inj rightPacked
          exact (ordersAs_single number other).cons _
      | _ => simp [classRank] at sameClass
  | double number =>
      cases right with
      | double other =>
          obtain rfl := Except.ok.inj leftPacked
          obtain rfl := Except.ok.inj rightPacked
          exact (ordersAs_double number other).cons _
      | _ => simp [classRank] at sameClass
  | boolean truth =>
      cases right with
      | boolean other =>
          obtain rfl := Except.ok.inj leftPacked
          obtain rfl := Except.ok.inj rightPacked
          exact ordersAs_boolean truth other
      | _ => simp [classRank] at sameClass
  | uuid identifier =>
      cases right with
      | uuid other =>
          obtain rfl := Except.ok.inj leftPacked
          obtain rfl := Except.ok.inj rightPacked
          exact (ordersAs_uuid identifier other).cons _
      | _ => simp [classRank] at sameClass
  | decimal number =>
      cases right with
      | decimal other =>
          obtain rfl := Except.ok.inj leftPacked
          obtain rfl := Except.ok.inj rightPacked
          exact (ordersAs_decimal number other).cons _
      | _ => simp [classRank] at sameClass

theorem exists_asInteger_of_classRank
    {element : Element}
    (rank : element.classRank = 3) :
    ∃ number, element.asInteger? = some number := by
  cases element <;> simp_all [asInteger?, classRank]

/-- Packed elements compare like the elements, and what follows them decides
only between equal ones. -/
theorem ordersAs_pack
    {left right : Element}
    {leftBytes rightBytes : Bytes}
    (leftPacked : left.pack = .ok leftBytes)
    (rightPacked : right.pack = .ok rightBytes) :
    OrdersAs leftBytes rightBytes (left.compare right) := by
  by_cases sameClass : left.classRank = right.classRank
  · cases leftInteger : left.asInteger? with
    | some leftNumber =>
        obtain ⟨rightNumber, rightInteger⟩ := exists_asInteger_of_classRank
          (sameClass ▸ classRank_of_asInteger leftInteger)
        obtain ⟨rfl, leftShort⟩ := pack_of_asInteger leftInteger leftPacked
        obtain ⟨rfl, rightShort⟩ := pack_of_asInteger rightInteger rightPacked
        rw [compare_of_asInteger leftInteger rightInteger]
        exact ordersAs_packInteger leftShort rightShort
    | none => exact ordersAs_pack_of_classRank_eq leftPacked rightPacked sameClass leftInteger
  · rw [compare_of_classRank_ne sameClass]
    apply OrdersAs.of_below
    · intro less
      exact below_of_classRank_lt leftPacked rightPacked (Std.compare_eq_lt.mp less)
    · intro greater
      exact below_of_classRank_lt rightPacked leftPacked (Std.compare_eq_gt.mp greater)
    · intro equal
      exact absurd (Std.compare_eq_iff_eq.mp equal) sameClass

end Element

/-! ## Tuples -/

namespace Tuple

open Bytes (Continues)

@[simp] theorem pack_nil : pack [] = .ok [] := rfl

/-- A packed tuple is its packed first element, followed by the others. -/
theorem pack_cons_eq_ok
    {element : Element}
    {tuple : Tuple}
    {bytes : Bytes} :
    pack (element :: tuple) = .ok bytes ↔
      ∃ first others, element.pack = .ok first ∧ pack tuple = .ok others ∧
        bytes = first ++ others := by
  cases packedFirst : element.pack with
  | error error => simp [pack, packedFirst, bind, Except.bind]
  | ok first =>
      cases packedOthers : tuple.mapM Element.pack with
      | error error => simp [pack, packedFirst, packedOthers, bind, Except.bind]
      | ok others =>
          simp [pack, packedFirst, packedOthers, bind, Except.bind, pure, Except.pure, eq_comm]

theorem continues_pack
    {tuple : Tuple}
    {bytes : Bytes}
    (packed : pack tuple = .ok bytes) :
    Continues bytes := by
  obtain _ | ⟨element, tuple⟩ := tuple
  · obtain rfl := Except.ok.inj packed
    exact Bytes.continues_nil
  · obtain ⟨first, others, packedFirst, _, rfl⟩ := pack_cons_eq_ok.mp packed
    exact Element.continues_pack_append packedFirst others

theorem pack_cons_ne_nil
    {element : Element}
    {tuple : Tuple}
    {bytes : Bytes}
    (packed : pack (element :: tuple) = .ok bytes) :
    ∃ code rest, bytes = code :: rest := by
  obtain ⟨first, others, packedFirst, _, rfl⟩ := pack_cons_eq_ok.mp packed
  obtain ⟨code, rest, rfl, _⟩ := Element.exists_pack_eq_cons packedFirst
  exact ⟨code, rest ++ others, rfl⟩

theorem bytes_compare_pack
    {left right : Tuple}
    {leftBytes rightBytes : Bytes}
    (leftPacked : left.pack = .ok leftBytes)
    (rightPacked : right.pack = .ok rightBytes) :
    Bytes.compare leftBytes rightBytes = left.compare right := by
  induction left generalizing right leftBytes rightBytes with
  | nil =>
      obtain rfl := Except.ok.inj leftPacked
      obtain _ | ⟨element, right⟩ := right
      · obtain rfl := Except.ok.inj rightPacked
        rfl
      · obtain ⟨code, rest, rfl⟩ := pack_cons_ne_nil rightPacked
        rfl
  | cons element left inductionHypothesis =>
      obtain _ | ⟨other, right⟩ := right
      · obtain ⟨code, rest, rfl⟩ := pack_cons_ne_nil leftPacked
        obtain rfl := Except.ok.inj rightPacked
        rfl
      · obtain ⟨leftFirst, leftOthers, leftFirstPacked, leftOthersPacked, rfl⟩ :=
          pack_cons_eq_ok.mp leftPacked
        obtain ⟨rightFirst, rightOthers, rightFirstPacked, rightOthersPacked, rfl⟩ :=
          pack_cons_eq_ok.mp rightPacked
        rw [Element.ordersAs_pack leftFirstPacked rightFirstPacked _ _
            (continues_pack leftOthersPacked) (continues_pack rightOthersPacked),
          inductionHypothesis leftOthersPacked rightOthersPacked]
        exact List.compareLex_cons_cons.symm

/-- Tuples compare as equal exactly if they are equally long and their
elements compare as equal in pairs. -/
theorem compare_eq_eq_iff
    (left right : Tuple) :
    left.compare right = .eq ↔
      List.Forall₂ (fun first second => Element.compare first second = .eq) left right := by
  induction left generalizing right with
  | nil => cases right <;> simp [compare, List.compareLex_nil_cons, List.compareLex_nil_nil]
  | cons element left inductionHypothesis =>
      cases right with
      | nil => simp [compare, List.compareLex_cons_nil]
      | cons other right =>
          rw [List.forall₂_cons, ← inductionHypothesis, compare, List.compareLex_cons_cons,
            Ordering.then_eq_eq]
          rfl

/-- Packed tuples compare bytewise exactly as the tuples compare, element by
element and a proper initial part first.  So two tuples have one packed form
exactly if they are equally long and their elements compare as equal. -/
theorem pack_preserves_order
    {left right : Tuple}
    {leftBytes rightBytes : Bytes}
    (leftPacked : left.pack = .ok leftBytes)
    (rightPacked : right.pack = .ok rightBytes) :
    Bytes.compare leftBytes rightBytes = left.compare right ∧
      (leftBytes = rightBytes ↔ left.length = right.length ∧
        ∀ pair ∈ left.zip right, Element.compare pair.1 pair.2 = .eq) := by
  have comparison := bytes_compare_pack leftPacked rightPacked
  refine ⟨comparison, ?_⟩
  calc leftBytes = rightBytes
    _ ↔ Bytes.compare leftBytes rightBytes = .eq := Std.LawfulEqCmp.compare_eq_iff_eq.symm
    _ ↔ left.compare right = .eq := by rw [comparison]
    _ ↔ List.Forall₂ (fun first second => Element.compare first second = .eq) left right :=
      compare_eq_eq_iff left right
    _ ↔ left.length = right.length ∧
        ∀ pair ∈ left.zip right, Element.compare pair.1 pair.2 = .eq := by
      simp [List.forall₂_iff_zip]

/-- A content that goes on with a zero byte comes second, also if what follows
the shorter one is large. -/
theorem pack_preserves_order_embedded_zero :
    Tuple.pack [.bytes [0x61], .decimal Decimal.zero] = .ok [0x01, 0x61, 0x00, 0x40, 0x02] ∧
      Tuple.pack [.bytes [0x61, 0x00], .null] = .ok [0x01, 0x61, 0x00, 0xFF, 0x00, 0x00] ∧
      Bytes.compare [0x01, 0x61, 0x00, 0x40, 0x02] [0x01, 0x61, 0x00, 0xFF, 0x00, 0x00] =
        Tuple.compare [.bytes [0x61], .decimal Decimal.zero] [.bytes [0x61, 0x00], .null] :=
  ⟨rfl, rfl, (pack_preserves_order rfl rfl).1⟩

end Tuple
end Keyspace
