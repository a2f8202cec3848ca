import Keyspace.Proofs.HKey.Encoding

/-!
# The natural order of hierarchical keys

Encoded keys compare bytewise like the paths that they encode: segment by
segment, by the places of the tables and then by the natural order of the key
values, with a path before those that go on from it.  Two values of one column
are of one class unless one is absent, and inside a class the order of elements
is the natural order of values.
-/

namespace Keyspace

open Bytes (Continues OrdersAs)

/-! ## Values of one column -/

namespace Value

/-- Whether two values can stand in one column. -/
inductive Comparable : Value -> Value -> Prop
  /-- The first value is absent. -/
  | absentLeft (value : Value) : Comparable null value
  /-- The second value is absent. -/
  | absentRight (value : Value) : Comparable value null
  /-- Both are truth values. -/
  | booleans (left right : Bool) : Comparable (boolean left) (boolean right)
  /-- Both are decimals. -/
  | decimals (left right : Decimal) : Comparable (decimal left) (decimal right)
  /-- Both are single precision floats. -/
  | floats (left right : Single) : Comparable (float left) (float right)
  /-- Both are double precision floats. -/
  | doubles (left right : Double) : Comparable (double left) (double right)
  /-- Both are texts. -/
  | strings (left right : String) : Comparable (string left) (string right)
  /-- Both are byte strings. -/
  | byteStrings (left right : Bytes) : Comparable (bytes left) (bytes right)
  /-- Both are days. -/
  | dates (left right : Int32) : Comparable (date left) (date right)
  /-- Both are times of day. -/
  | times (left right : Int64) : Comparable (time left) (time right)
  /-- Both are moments. -/
  | timestamps (left right : Int64) : Comparable (timestamp left) (timestamp right)
  /-- Both are years. -/
  | years (left right : UInt16) : Comparable (year left) (year right)
  /-- Both are identifiers. -/
  | guids (left right : Uuid) : Comparable (guid left) (guid right)
  /-- Both are references. -/
  | blobs (left right : Uuid) : Comparable (blob left) (blob right)
  /-- Both are integers. -/
  | integers
      {left right : Value}
      {leftNumber rightNumber : Int}
      (leftIsInteger : left.asInteger? = some leftNumber)
      (rightIsInteger : right.asInteger? = some rightNumber) : Comparable left right

/-- What one type admits can stand in one column. -/
theorem comparable_of_admits
    {dataType : DataType}
    {left right : Value}
    (leftAdmits : dataType.admits left = true)
    (rightAdmits : dataType.admits right = true) :
    Comparable left right := by
  cases left with
  | null => exact .absentLeft right
  | _ =>
      cases dataType <;> simp only [DataType.admits, Bool.false_eq_true] at leftAdmits <;>
        cases right <;> simp only [DataType.admits, Bool.false_eq_true] at rightAdmits <;>
        constructor <;> rfl

theorem compareNatural_null_left
    (value : Value) :
    compareNatural null value = if value.isNull then .eq else .lt := by
  cases value <;> rfl

theorem compareNatural_null_right
    (value : Value) :
    compareNatural value null = if value.isNull then .eq else .gt := by
  cases value <;> rfl

theorem compareNatural_of_asInteger
    {left right : Value}
    {leftNumber rightNumber : Int}
    (leftIsInteger : left.asInteger? = some leftNumber)
    (rightIsInteger : right.asInteger? = some rightNumber) :
    left.compareNatural right = compare leftNumber rightNumber := by
  have mixed : left.compareNatural right = left.compareMixed right := by
    cases left <;> simp only [asInteger?, reduceCtorEq] at leftIsInteger <;>
      cases right <;> rfl
  have leftRank : left.classRank = numericRank := by
    cases left <;> first | rfl | simp [asInteger?] at leftIsInteger
  have rightRank : right.classRank = numericRank := by
    cases right <;> first | rfl | simp [asInteger?] at rightIsInteger
  rw [mixed, compareMixed, if_pos ⟨leftRank, rightRank⟩, leftIsInteger, rightIsInteger]

theorem isNull_toElement
    {value : Value}
    {element : Element}
    (encoded : value.toElement = .ok element) :
    element.isNull = value.isNull := by
  cases value with
  | unsigned number =>
      obtain rfl := Except.ok.inj encoded
      rw [Element.ofInt]
      split <;> rfl
  | interval length => simp [toElement] at encoded
  | _ =>
      obtain rfl := Except.ok.inj encoded
      rfl

end Value

namespace Element

theorem compare_null_left
    (element : Element) :
    compare null element = if element.isNull then .eq else .lt := by
  cases element <;> rfl

theorem compare_null_right
    (element : Element) :
    compare element null = if element.isNull then .eq else .gt := by
  cases element <;> rfl

end Element

theorem compare_natCast
    (left right : Nat) :
    compare (left : Int) (right : Int) = compare left right := by
  rw [← cmp_eq_compare, ← cmp_eq_compare, Nat.strictMono_cast.cmp_map_eq]

namespace Value

/-- Elements of one column compare like the values that they store. -/
theorem compare_toElement
    {left right : Value}
    {leftElement rightElement : Element}
    (comparable : Comparable left right)
    (leftEncoded : left.toElement = .ok leftElement)
    (rightEncoded : right.toElement = .ok rightElement) :
    leftElement.compare rightElement = left.compareNatural right := by
  cases comparable with
  | absentLeft =>
      obtain rfl := Except.ok.inj leftEncoded
      rw [Element.compare_null_left, compareNatural_null_left, isNull_toElement rightEncoded]
  | absentRight =>
      obtain rfl := Except.ok.inj rightEncoded
      rw [Element.compare_null_right, compareNatural_null_right, isNull_toElement leftEncoded]
  | integers leftIsInteger rightIsInteger =>
      rw [compareNatural_of_asInteger leftIsInteger rightIsInteger]
      exact Element.compare_of_asInteger (asInteger_of_toElement leftIsInteger leftEncoded)
        (asInteger_of_toElement rightIsInteger rightEncoded)
  | dates first second =>
      obtain rfl := Except.ok.inj leftEncoded
      obtain rfl := Except.ok.inj rightEncoded
      have firstLeast := first.le_toInt
      have firstGreatest := first.toInt_lt
      have secondLeast := second.le_toInt
      have secondGreatest := second.toInt_lt
      simp only [Element.compare, compareNatural]
      rw [Int64.toInt_ofInt_of_le (by omega) (by omega),
        Int64.toInt_ofInt_of_le (by omega) (by omega)]
  | years first second =>
      obtain rfl := Except.ok.inj leftEncoded
      obtain rfl := Except.ok.inj rightEncoded
      have firstGreatest := first.toNat_lt
      have secondGreatest := second.toNat_lt
      simp only [Element.compare, compareNatural]
      rw [Int64.toInt_ofInt_of_le (by omega) (by omega),
        Int64.toInt_ofInt_of_le (by omega) (by omega), compare_natCast]
  | _ =>
      obtain rfl := Except.ok.inj leftEncoded
      obtain rfl := Except.ok.inj rightEncoded
      rfl

/-- Packed values of one column compare in their natural order, whatever
follows them. -/
theorem ordersAs_packed
    {left right : Value}
    {leftBytes rightBytes : Bytes}
    (comparable : Comparable left right)
    (leftPacked : left.packed = .ok leftBytes)
    (rightPacked : right.packed = .ok rightBytes) :
    OrdersAs leftBytes rightBytes (left.compareNatural right) := by
  obtain ⟨leftElement, leftEncoded, leftElementPacked⟩ := packed_eq_ok.mp leftPacked
  obtain ⟨rightElement, rightEncoded, rightElementPacked⟩ := packed_eq_ok.mp rightPacked
  rw [← compare_toElement comparable leftEncoded rightEncoded]
  exact Element.ordersAs_pack leftElementPacked rightElementPacked

/-- Fitting values of one key stand column by column. -/
theorem forall₂_comparable
    {columns : List Column}
    {positions : List Nat}
    {lefts rights : List Value}
    (leftLength : lefts.length = positions.length)
    (rightLength : rights.length = positions.length)
    (leftFits : ∀ pair ∈ positions.zip lefts, ∃ column,
      columns[pair.1]? = some column ∧ column.dataType.admits pair.2 = true)
    (rightFits : ∀ pair ∈ positions.zip rights, ∃ column,
      columns[pair.1]? = some column ∧ column.dataType.admits pair.2 = true) :
    List.Forall₂ Comparable lefts rights := by
  induction positions generalizing lefts rights with
  | nil =>
      obtain rfl := List.length_eq_zero_iff.mp leftLength
      obtain rfl := List.length_eq_zero_iff.mp rightLength
      exact .nil
  | cons position positions inductionHypothesis =>
      obtain ⟨left, lefts, rfl⟩ := List.exists_cons_of_length_eq_add_one leftLength
      obtain ⟨right, rights, rfl⟩ := List.exists_cons_of_length_eq_add_one rightLength
      obtain ⟨column, found, leftAdmits⟩ := leftFits (position, left) (by simp)
      obtain ⟨_, foundAgain, rightAdmits⟩ := rightFits (position, right) (by simp)
      obtain rfl := Option.some.inj (found.symm.trans foundAgain)
      exact .cons (comparable_of_admits leftAdmits rightAdmits)
        (inductionHypothesis (Nat.succ.inj leftLength) (Nat.succ.inj rightLength)
          (fun pair present => leftFits pair (List.mem_cons_of_mem _ present))
          (fun pair present => rightFits pair (List.mem_cons_of_mem _ present)))

end Value

/-- The values of a row that its type takes fit their columns. -/
theorem Row.admits_of_takes
    {rowType : RowType}
    {row : Row}
    {position : Nat}
    {column : Column}
    (takes : rowType.Takes row.values)
    (here : rowType.columns[position]? = some column) :
    column.dataType.admits (row.valueOrNull position) = true := by
  obtain ⟨value, found, admits⟩ := exists_getElem?_of_forall₂ takes here
  rw [valueOrNull, found]
  exact admits

/-- Whether the values of a row at positions fit the columns there. -/
def Row.FitsAt (row : Row) (columns : List Column) (positions : List Nat) : Prop :=
  ∀ position ∈ positions, ∀ column, columns[position]? = some column ->
    column.dataType.admits (row.valueOrNull position) = true

/-- Values of rows at positions that they fit stand column by column. -/
theorem Row.forall₂_comparable
    {columns : List Column}
    {positions : List Nat}
    {left right : Row}
    (inside : ∀ position ∈ positions, ∃ column, columns[position]? = some column)
    (leftFits : left.FitsAt columns positions)
    (rightFits : right.FitsAt columns positions) :
    List.Forall₂ Value.Comparable (positions.map left.valueOrNull)
      (positions.map right.valueOrNull) := by
  rw [List.forall₂_map_left_iff, List.forall₂_map_right_iff, List.forall₂_same]
  intro position present
  obtain ⟨column, here⟩ := inside position present
  exact Value.comparable_of_admits (leftFits position present column here)
    (rightFits position present column here)

/-! ## Segments and paths -/

namespace Segment

/-- The natural order of segments: by the places of the tables, and in one table
by the key values. -/
def compareNatural (left right : Segment) : Ordering :=
  (Ord.compare left.table.ordinal.toNat right.table.ordinal.toNat).then
    (List.compareLex Value.compareNatural left.values right.values)

/-- Packed keys of one table compare in the natural order of their values. -/
theorem ordersAs_parts
    {lefts rights : List Value}
    {leftParts rightParts : List Bytes}
    (comparable : List.Forall₂ Value.Comparable lefts rights)
    (leftPacked : List.Forall₂ (fun value part => value.packed = .ok part) lefts leftParts)
    (rightPacked : List.Forall₂ (fun value part => value.packed = .ok part) rights rightParts) :
    OrdersAs leftParts.flatten rightParts.flatten
      (List.compareLex Value.compareNatural lefts rights) := by
  induction comparable generalizing leftParts rightParts with
  | nil =>
      obtain rfl := List.forall₂_nil_left_iff.mp leftPacked
      obtain rfl := List.forall₂_nil_left_iff.mp rightPacked
      intro leftRest rightRest _ _
      rfl
  | cons first _ inductionHypothesis =>
      obtain ⟨leftPart, leftOthers, leftFirst, leftRemaining, rfl⟩ :=
        List.forall₂_cons_left_iff.mp leftPacked
      obtain ⟨rightPart, rightOthers, rightFirst, rightRemaining, rfl⟩ :=
        List.forall₂_cons_left_iff.mp rightPacked
      intro leftRest rightRest leftContinues rightContinues
      rw [List.flatten_cons, List.flatten_cons, List.append_assoc, List.append_assoc,
        Value.ordersAs_packed first leftFirst rightFirst _ _
          (continues_parts_append leftRemaining leftContinues)
          (continues_parts_append rightRemaining rightContinues),
        inductionHypothesis leftRemaining rightRemaining leftRest rightRest leftContinues
          rightContinues,
        List.compareLex_cons_cons, Ordering.then_assoc]

end Segment

namespace HKey

/-- The natural order of keys: segment by segment, a proper initial part
first. -/
def compareNatural (left right : HKey) : Ordering :=
  List.compareLex Segment.compareNatural left.segments right.segments

theorem forall₂_comparable
    {group : Group}
    {leftAbove rightAbove : Option TableId}
    {left right : Segment}
    {lefts rights : List Segment}
    (leftFollows : FollowsJoins group leftAbove (left :: lefts))
    (rightFollows : FollowsJoins group rightAbove (right :: rights))
    (sameTable : left.table = right.table) :
    List.Forall₂ Value.Comparable left.values right.values := by
  obtain ⟨⟨_, leftFound, _, _, leftLength, leftFits⟩, _⟩ := leftFollows
  obtain ⟨⟨_, rightFound, _, _, rightLength, rightFits⟩, _⟩ := rightFollows
  rw [sameTable, rightFound] at leftFound
  obtain rfl := Option.some.inj leftFound
  exact Value.forall₂_comparable leftLength rightLength leftFits rightFits

/-- Encodings compare in the natural order of the paths, wherever in the group
the paths start. -/
theorem compare_encode_of_followsJoins
    {group : Group}
    {leftAbove rightAbove : Option TableId}
    {lefts rights : List Segment}
    {leftBytes rightBytes : Bytes}
    (leftFollows : FollowsJoins group leftAbove lefts)
    (rightFollows : FollowsJoins group rightAbove rights)
    (leftEncoded : encode ⟨lefts⟩ = .ok leftBytes)
    (rightEncoded : encode ⟨rights⟩ = .ok rightBytes) :
    Bytes.compare leftBytes rightBytes =
      List.compareLex Segment.compareNatural lefts rights := by
  induction lefts generalizing leftAbove rightAbove rights leftBytes rightBytes with
  | nil =>
      obtain rfl := Except.ok.inj leftEncoded
      obtain _ | ⟨right, rights⟩ := rights
      · obtain rfl := Except.ok.inj rightEncoded
        rfl
      · obtain ⟨_, _, _, _, rfl⟩ := encode_cons_eq_ok.mp rightEncoded
        obtain ⟨code, behind, shape, _⟩ :=
          Element.exists_packInteger_eq_cons (right.table.ordinal.toNat : Int)
        rw [shape]
        rfl
  | cons left lefts inductionHypothesis =>
      obtain ⟨leftParts, leftOthers, leftPacked, leftOthersEncoded, rfl⟩ :=
        encode_cons_eq_ok.mp leftEncoded
      obtain _ | ⟨right, rights⟩ := rights
      · obtain rfl := Except.ok.inj rightEncoded
        obtain ⟨code, behind, shape, _⟩ :=
          Element.exists_packInteger_eq_cons (left.table.ordinal.toNat : Int)
        rw [shape]
        rfl
      · obtain ⟨rightParts, rightOthers, rightPacked, rightOthersEncoded, rfl⟩ :=
          encode_cons_eq_ok.mp rightEncoded
        have leftContinues := continues_encode leftOthersEncoded
        have rightContinues := continues_encode rightOthersEncoded
        rw [Element.ordersAs_packInteger (Element.byteLength_uint32_le _)
            (Element.byteLength_uint32_le _) _ _
            (Segment.continues_parts_append (mapM_eq_ok.mp leftPacked) leftContinues)
            (Segment.continues_parts_append (mapM_eq_ok.mp rightPacked) rightContinues),
          compare_natCast, List.compareLex_cons_cons, Segment.compareNatural,
          Ordering.then_assoc]
        -- The values count only in one table, and only there they are comparable.
        cases place : Ord.compare left.table.ordinal.toNat right.table.ordinal.toNat with
        | lt => rfl
        | gt => rfl
        | eq =>
            have sameTable : left.table = right.table :=
              congrArg TableId.mk (UInt32.toNat_inj.mp (Nat.compare_eq_eq.mp place))
            rw [Segment.ordersAs_parts (forall₂_comparable leftFollows rightFollows sameTable)
                (mapM_eq_ok.mp leftPacked) (mapM_eq_ok.mp rightPacked) _ _ leftContinues
                rightContinues,
              inductionHypothesis leftFollows.2 rightFollows.2 leftOthersEncoded
                rightOthersEncoded]

/-- Encoded keys compare bytewise in the natural order of the paths. -/
theorem compare_encode
    {group : Group}
    {left right : HKey}
    {leftBytes rightBytes : Bytes}
    (leftRooted : left.Rooted group)
    (rightRooted : right.Rooted group)
    (leftEncoded : left.encode = .ok leftBytes)
    (rightEncoded : right.encode = .ok rightBytes) :
    Bytes.compare leftBytes rightBytes = left.compareNatural right :=
  compare_encode_of_followsJoins leftRooted rightRooted leftEncoded rightEncoded

end HKey
end Keyspace
