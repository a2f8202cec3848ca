import Keyspace.Row.BufferedComparator
import Keyspace.Proofs.Row.ValueOrder
import Mathlib.Algebra.Order.Field.Rat

/-!
# The order of rows

A comparator sorts rows whose compared values are of the classes of their
columns.  In one class values compare by their numbers exactly and then by their
bytes, texts by their sort keys, and the lexicographic order of such orders is
one again.  The buffers of a comparator do not count: each is emptied before it
is read, so what was compared before changes no answer.
-/

namespace Keyspace

/-! ## Values of a class -/

/-- Whether a value is of the class of a type.  Integer types share the class of
integers. -/
def DataType.isClassOf (dataType : DataType) (value : Value) : Bool :=
  match dataType, value with
  | .decimal _ _, .decimal _ => true
  | .float, .float _ => true
  | .double, .double _ => true
  | .char _, .string _ => true
  | .varchar _, .string _ => true
  | .text, .string _ => true
  | .binary _, .bytes _ => true
  | .varbinary _, .bytes _ => true
  | .blob, .blob _ => true
  | .date, .date _ => true
  | .time, .time _ => true
  | .dateTime, .timestamp _ => true
  | .timestamp, .timestamp _ => true
  | .year, .year _ => true
  | .guid, .guid _ => true
  | .boolean, .boolean _ => true
  | .intervalMonths, .interval _ => true
  | .intervalMillis, .interval _ => true
  | dataType, value => dataType.isInteger && value.asInteger?.isSome

/-- The number that a decimal stands for. -/
def Decimal.ratio (decimal : Decimal) : ℚ :=
  decimal.mantissa / 10 ^ decimal.scale

theorem Decimal.ratio_mul
    (decimal : Decimal)
    (scale : Nat) :
    decimal.ratio * (10 ^ decimal.scale * 10 ^ scale) =
      ((decimal.mantissa * Nat.pow 10 scale : Int) : ℚ) := by
  have power : (10 : ℚ) ^ decimal.scale ≠ 0 := by positivity
  rw [ratio, ← mul_assoc, div_mul_cancel₀ _ power, Nat.pow_eq]
  push_cast
  rfl

/-- Decimals compare as the numbers that they stand for. -/
theorem Decimal.compare_eq_ratio
    (left right : Decimal) :
    left.compare right = Ord.compare left.ratio right.ratio := by
  have scaled : StrictMono fun number : ℚ => number * (10 ^ left.scale * 10 ^ right.scale) :=
    fun _ _ less => mul_lt_mul_of_pos_right less (by positivity)
  rw [Decimal.compare, ← cmp_eq_compare, ← cmp_eq_compare, ← scaled.cmp_map_eq, left.ratio_mul,
    mul_comm (10 ^ left.scale : ℚ), right.ratio_mul]
  exact (Int.cast_strictMono.cmp_map_eq _ _).symm

theorem compare_intCast
    (left right : Int) :
    compare (left : ℚ) (right : ℚ) = compare left right := by
  rw [← cmp_eq_compare, ← cmp_eq_compare]
  exact Int.cast_strictMono.cmp_map_eq left right

namespace Value

/-- The number that places a value among those of its class. -/
def exactPlace : Value -> ℚ
  | decimal number => number.ratio
  | float number => number.totalPlace
  | double number => number.totalPlace
  | other => ((other.asInteger?.getD other.rankNumber : Int) : ℚ)

theorem exactPlace_of_asInteger
    {value : Value}
    {number : Int}
    (isInteger : value.asInteger? = some number) :
    value.exactPlace = number := by
  cases value <;> simp_all [exactPlace, asInteger?]

theorem exactPlace_of_not_number
    {value : Value}
    (notNumber : value.classRank ≠ numericRank) :
    value.exactPlace = value.rankNumber := by
  cases value <;> first | exact absurd rfl notNumber | rfl

theorem exists_asInteger_of_isClassOf
    {dataType : DataType}
    {value : Value}
    (integers : dataType.isInteger = true)
    (inClass : dataType.isClassOf value = true) :
    ∃ number, value.asInteger? = some number := by
  cases dataType <;> first | exact Option.isSome_iff_exists.mp inClass | contradiction

/-- Two numbers of one class can stand in one column. -/
theorem comparable_of_isClassOf
    {dataType : DataType}
    {left right : Value}
    (leftInClass : dataType.isClassOf left = true)
    (rightInClass : dataType.isClassOf right = true)
    (number : left.classRank = numericRank) :
    Comparable left right := by
  by_cases integers : dataType.isInteger = true
  · obtain ⟨_, leftIsInteger⟩ := exists_asInteger_of_isClassOf integers leftInClass
    obtain ⟨_, rightIsInteger⟩ := exists_asInteger_of_isClassOf integers rightInClass
    exact .integers leftIsInteger rightIsInteger
  · cases left <;> first | exact absurd number (Nat.ne_of_beq_eq_false rfl) | skip
    all_goals
      cases dataType <;> first | contradiction | skip
    all_goals
      cases right <;> first | contradiction | constructor

theorem asString?_eq_none_iff
    {value : Value} :
    value.asString? = none ↔ value.classRank ≠ 3 := by
  cases value <;> simp [asString?, classRank]

theorem exists_eq_string_iff
    {value : Value} :
    (∃ content, value = string content) ↔ value.classRank = 3 := by
  cases value <;> simp [classRank]

/-- Numbers of one class compare by their places. -/
theorem compareNatural_of_isClassOf
    {dataType : DataType}
    {left right : Value}
    (leftInClass : dataType.isClassOf left = true)
    (rightInClass : dataType.isClassOf right = true)
    (leftIsNumber : left.classRank = numericRank)
    (rightIsNumber : right.classRank = numericRank) :
    left.compareNatural right = compare left.exactPlace right.exactPlace := by
  cases comparable_of_isClassOf leftInClass rightInClass leftIsNumber with
  | decimals left right => exact left.compare_eq_ratio right
  | floats left right => exact (compare_intCast _ _).symm
  | doubles left right => exact (compare_intCast _ _).symm
  | integers leftIsInteger rightIsInteger =>
      rw [compareNatural_of_asInteger leftIsInteger rightIsInteger,
        exactPlace_of_asInteger leftIsInteger, exactPlace_of_asInteger rightIsInteger,
        compare_intCast]
  | _ => first | cases leftIsNumber | cases rightIsNumber

/-- Values of one class compare by their places, and then by their bytes. -/
theorem compareNatural_of_held
    {dataType : DataType}
    {left right : Value}
    (leftHeld : left = null ∨ dataType.isClassOf left = true)
    (rightHeld : right = null ∨ dataType.isClassOf right = true)
    (same : left.classRank = right.classRank) :
    left.compareNatural right =
      (compare left.exactPlace right.exactPlace).then
        (Bytes.compare left.rankBytes right.rankBytes) := by
  by_cases number : left.classRank = numericRank
  · have rightNumber := same.symm.trans number
    have leftInClass := leftHeld.resolve_left fun absent => by subst absent; cases number
    have rightInClass := rightHeld.resolve_left fun absent => by subst absent; cases rightNumber
    obtain ⟨_, leftDouble⟩ := exists_toDouble? number
    obtain ⟨_, rightDouble⟩ := exists_toDouble? rightNumber
    rw [compareNatural_of_isClassOf leftInClass rightInClass number rightNumber,
      (rankNumber_of_toDouble? leftDouble).2, (rankNumber_of_toDouble? rightDouble).2,
      Bytes.compare_self, Ordering.then_eq]
  · rw [compareNatural_of_classRank_eq same number, exactPlace_of_not_number number,
      exactPlace_of_not_number (same ▸ number), compare_intCast]

end Value

/-! ## Values of a column -/

namespace ComparedColumn

variable {column : ComparedColumn} {left right : Value}

/-- The bytes that place a value in its class: for a text its sort key, where the
column has a collation. -/
def placeBytes (column : ComparedColumn) (value : Value) : Bytes :=
  match value, column.collator with
  | .string content, some collator => collator.sortKey content
  | other, _ => other.rankBytes

/-- The order of values by class, then by number and then by bytes. -/
def compareExact (column : ComparedColumn) : Value -> Value -> Ordering :=
  compareLex (compareOn Value.classRank)
    (compareLex (compareOn Value.exactPlace) fun left right =>
      Bytes.compare (column.placeBytes left) (column.placeBytes right))

instance (column : ComparedColumn) : Std.TransCmp column.compareExact := by
  have bytewise : Std.TransCmp fun left right : Value =>
      Bytes.compare (column.placeBytes left) (column.placeBytes right) :=
    { eq_swap := Std.OrientedCmp.eq_swap
      isLE_trans := Std.TransCmp.isLE_trans }
  unfold compareExact
  infer_instance

theorem compareExact_of_classRank_ne
    (different : left.classRank ≠ right.classRank) :
    column.compareExact left right = Ord.compare left.classRank right.classRank := by
  have ranks : Ord.compare left.classRank right.classRank ≠ .eq :=
    mt Std.compare_eq_iff_eq.mp different
  rw [compareExact, compareLex, compareOn]
  generalize Ord.compare left.classRank right.classRank = order at *
  cases order <;> first | rfl | exact absurd rfl ranks

theorem compareExact_of_classRank_eq
    (same : left.classRank = right.classRank) :
    column.compareExact left right =
      (Ord.compare left.exactPlace right.exactPlace).then
        (Bytes.compare (column.placeBytes left) (column.placeBytes right)) := by
  have ranks : Ord.compare left.classRank right.classRank = .eq :=
    Std.compare_eq_iff_eq.mpr same
  simp only [compareExact, compareLex, compareOn, ranks, Ordering.then]

theorem compareValues_collated
    {leftText rightText : String}
    {collator : Collator}
    (isCollated : column.collator = some collator) :
    column.compareValues (.string leftText) (.string rightText) =
      collator.compare leftText rightText := by
  unfold compareValues
  rw [isCollated]

theorem compareValues_plain
    (plain : ∀ leftText rightText collator, left = .string leftText ->
      right = .string rightText -> column.collator = some collator -> False) :
    column.compareValues left right = left.compareNatural right := by
  unfold compareValues
  split
  · next isCollated => exact (plain _ _ _ rfl rfl isCollated).elim
  · rfl

/-- Texts compare by their bytes, or by their sort keys. -/
theorem compareValues_string
    (column : ComparedColumn)
    (left right : String) :
    column.compareValues (.string left) (.string right) =
      Bytes.compare (column.placeBytes (.string left)) (column.placeBytes (.string right)) := by
  unfold compareValues placeBytes
  cases column.collator <;> rfl

theorem compareValues_of_not_string
    (notString : left.asString? = none ∨ right.asString? = none) :
    column.compareValues left right = left.compareNatural right := by
  refine compareValues_plain ?_
  rintro _ _ _ rfl rfl _
  simp [Value.asString?] at notString

theorem placeBytes_of_not_string
    (notString : left.asString? = none) :
    column.placeBytes left = left.rankBytes := by
  unfold placeBytes
  split
  · simp [Value.asString?] at notString
  · rfl

/-- Values that are held by one column compare exactly. -/
theorem compareValues_eq_compareExact
    {dataType : DataType}
    (leftHeld : left = .null ∨ dataType.isClassOf left = true)
    (rightHeld : right = .null ∨ dataType.isClassOf right = true) :
    column.compareValues left right = column.compareExact left right := by
  by_cases same : left.classRank = right.classRank
  · rw [compareExact_of_classRank_eq same]
    by_cases text : left.classRank = 3
    · obtain ⟨leftText, rfl⟩ := Value.exists_eq_string_iff.mpr text
      obtain ⟨rightText, rfl⟩ := Value.exists_eq_string_iff.mpr (same ▸ text)
      exact column.compareValues_string leftText rightText
    · have leftNot := Value.asString?_eq_none_iff.mpr text
      have rightNot := Value.asString?_eq_none_iff.mpr (same ▸ text)
      rw [compareValues_of_not_string (.inl leftNot), placeBytes_of_not_string leftNot,
        placeBytes_of_not_string rightNot]
      exact Value.compareNatural_of_held leftHeld rightHeld same
  · rw [compareExact_of_classRank_ne same, ← Value.compareNatural_of_classRank_ne same]
    refine compareValues_of_not_string ?_
    rw [Value.asString?_eq_none_iff, Value.asString?_eq_none_iff]
    omega

end ComparedColumn

/-! ## Rows -/

/-- Whether the values of a row at positions are absent, missing or of the classes
of the columns there. -/
def RowType.Holds (rowType : RowType) (positions : List Nat) (row : Row) : Prop :=
  ∀ position ∈ positions, ∀ column ∈ rowType.columns[position]?,
    row.valueOrNull position = .null ∨
      column.dataType.isClassOf (row.valueOrNull position) = true

namespace RowComparator

/-- The exact order of rows by columns, the most significant first. -/
def compareExact : List ComparedColumn -> Row -> Row -> Ordering
  | [] => fun _ _ => .eq
  | column :: rest =>
      compareLex
        (fun left right => column.compareExact (left.valueOrNull column.position)
          (right.valueOrNull column.position))
        (compareExact rest)

theorem transCmp_compareExact
    (columns : List ComparedColumn) :
    Std.TransCmp (compareExact columns) := by
  induction columns with
  | nil => exact { eq_swap := rfl, isLE_trans := fun _ _ => rfl }
  | cons column rest inductionHypothesis =>
      have first : Std.TransCmp fun left right : Row => column.compareExact
          (left.valueOrNull column.position) (right.valueOrNull column.position) :=
        { eq_swap := Std.OrientedCmp.eq_swap
          isLE_trans := Std.TransCmp.isLE_trans }
      unfold compareExact
      infer_instance

/-- A column that was found for a position stands there. -/
theorem columnAt_ok
    {cache : ComparatorCache}
    {rowType : RowType}
    {position now : Nat}
    {compared : ComparedColumn}
    (found : (columnAt cache rowType position now).1 = .ok compared) :
    compared.position = position ∧ ∃ column, rowType.columns[position]? = some column := by
  unfold columnAt at found
  split at found
  · cases found
  · next column present =>
      refine ⟨?_, column, present⟩
      split at found
      · cases found
        rfl
      · dsimp only at found
        obtain ⟨collator, _, rfl⟩ := map_eq_ok.mp found
        rfl

/-- The columns that were found for positions stand there one by one. -/
theorem columnsAt_ok
    {rowType : RowType}
    {now : Nat}
    {cache : ComparatorCache}
    {positions : List Nat}
    {columns : List ComparedColumn}
    (found : (columnsAt rowType now cache positions).1 = .ok columns) :
    List.Forall₂
      (fun position compared => compared.position = position ∧
        ∃ column, rowType.columns[position]? = some column)
      positions columns := by
  induction positions generalizing cache columns with
  | nil =>
      cases found
      exact .nil
  | cons position positions inductionHypothesis =>
      unfold columnsAt at found
      split at found
      · cases found
      · next column used first =>
          dsimp only at found
          obtain ⟨rest, others, rfl⟩ := map_eq_ok.mp found
          exact .cons (columnAt_ok (congrArg Prod.fst first)) (inductionHypothesis others)

/-- A comparator sorts rows that hold values of the classes of its columns like
their exact order. -/
theorem compare_eq_compareExact
    {rowType : RowType}
    {positions : List Nat}
    {columns : List ComparedColumn}
    (found : List.Forall₂
      (fun position compared => compared.position = position ∧
        ∃ column, rowType.columns[position]? = some column)
      positions columns)
    {left right : Row}
    (leftHeld : rowType.Holds positions left)
    (rightHeld : rowType.Holds positions right) :
    (RowComparator.mk columns).compare left right = compareExact columns left right := by
  induction found with
  | nil => rfl
  | @cons position compared positions columns first _ inductionHypothesis =>
      obtain ⟨rfl, column, present⟩ := first
      have others := inductionHypothesis
        (fun position inside => leftHeld position (List.mem_cons_of_mem _ inside))
        (fun position inside => rightHeld position (List.mem_cons_of_mem _ inside))
      have order := compared.compareValues_eq_compareExact
        (leftHeld _ List.mem_cons_self column present)
        (rightHeld _ List.mem_cons_self column present)
      unfold RowComparator.compare at others ⊢
      rw [List.foldr_cons, others, ComparedColumn.compare, order]
      rfl

end RowComparator

/-! ## Buffers -/

/-- What a buffer held does not show in the key written over it. -/
theorem Recipe.writeSortKey_eq
    (recipe : Recipe)
    (text : String)
    (buffer : Bytes) :
    recipe.writeSortKey text buffer = recipe.sortKey text :=
  rfl

theorem Collator.compareIn_fst
    (collator : Collator)
    (buffers : KeyBuffers)
    (left right : String) :
    (collator.compareIn buffers left right).1 = collator.compare left right := by
  unfold compareIn
  split
  · next binary =>
      unfold isBinary at binary
      simp only [compare, Recipe.compare, Recipe.sortKey, Recipe.sortKeyOver, binary, if_true]
      rfl
  · simp only [Recipe.writeSortKey_eq]
    rfl

namespace BufferedColumn

variable (buffered : BufferedColumn) (left right : Row)

theorem compare_fst :
    (buffered.compare left right).1 = buffered.column.compare left right := by
  unfold BufferedColumn.compare ComparedColumn.compare
  dsimp only
  split
  · next leftIs rightIs isCollated =>
      rw [leftIs, rightIs, ComparedColumn.compareValues_collated isCollated]
      exact Collator.compareIn_fst ..
  · next plain => exact (ComparedColumn.compareValues_plain plain).symm

theorem compare_snd_column :
    (buffered.compare left right).2.column = buffered.column := by
  unfold BufferedColumn.compare
  dsimp only
  split <;> rfl

end BufferedColumn

namespace BufferedComparator

/-- The comparator without its buffers. -/
def comparator (buffered : BufferedComparator) : RowComparator :=
  ⟨buffered.columns.map (·.column)⟩

@[simp] theorem comparator_start
    (comparator : RowComparator) :
    (start comparator).comparator = comparator := by
  simp [start, BufferedComparator.comparator, Function.comp_def]

theorem compareColumns_eq
    (columns : List BufferedColumn)
    (left right : Row) :
    (compareColumns columns left right).1 =
        (RowComparator.mk (columns.map (·.column))).compare left right ∧
      (compareColumns columns left right).2.map (·.column) = columns.map (·.column) := by
  unfold RowComparator.compare
  induction columns with
  | nil => exact ⟨rfl, rfl⟩
  | cons column rest inductionHypothesis =>
      have order := column.compare_fst left right
      have kept := column.compare_snd_column left right
      unfold compareColumns
      rw [List.map_cons, List.foldr_cons, ← order]
      split
      · next used equal =>
          rw [equal] at kept ⊢
          exact ⟨inductionHypothesis.1, congrArg₂ List.cons kept inductionHypothesis.2⟩
      · next first used notEqual different =>
          rw [different] at kept ⊢
          refine ⟨?_, congrArg (List.cons · _) kept⟩
          cases first <;> first | rfl | exact (notEqual rfl).elim

/-- The order of two rows does not depend on the buffers. -/
theorem compare_fst
    (buffered : BufferedComparator)
    (left right : Row) :
    (buffered.compare left right).1 = buffered.comparator.compare left right :=
  (compareColumns_eq buffered.columns left right).1

theorem comparator_compare
    (buffered : BufferedComparator)
    (left right : Row) :
    (buffered.compare left right).2.comparator = buffered.comparator :=
  congrArg RowComparator.mk (compareColumns_eq buffered.columns left right).2

/-- Comparing rows changes buffers only. -/
theorem comparator_compareAll
    (buffered : BufferedComparator)
    (pairs : List (Row × Row)) :
    (buffered.compareAll pairs).2.comparator = buffered.comparator := by
  induction pairs generalizing buffered with
  | nil => rfl
  | cons pair rest inductionHypothesis =>
      exact (inductionHypothesis _).trans (buffered.comparator_compare pair.1 pair.2)

/-- Whatever pairs were compared before, rows that hold values of the classes of the
compared columns are sorted: the order of two of them goes both ways alike, and what is not
above another is not above what the other is not above. -/
theorem compare_sorts_held_rows
    {cache : ComparatorCache}
    {rowType : RowType}
    {positions : List Nat}
    {now : Nat}
    {comparator : RowComparator}
    (made : (RowComparator.make cache rowType positions now).1 = .ok comparator) :
    let answer := fun (earlier : List (Row × Row)) (left right : Row) =>
      (((start comparator).compareAll earlier).2.compare left right).1
    (∀ earlier otherwise left right,
      rowType.Holds positions left -> rowType.Holds positions right ->
        answer earlier left right = (answer otherwise right left).swap) ∧
      ∀ earlier otherwise later first second third,
        rowType.Holds positions first -> rowType.Holds positions second ->
        rowType.Holds positions third ->
        (answer earlier first second).isLE -> (answer otherwise second third).isLE ->
          (answer later first third).isLE := by
  intro answer
  obtain ⟨columns, found, rfl⟩ := map_eq_ok.mp made
  have stand := RowComparator.columnsAt_ok found
  have exact : ∀ earlier left right,
      rowType.Holds positions left -> rowType.Holds positions right ->
        answer earlier left right = RowComparator.compareExact columns left right := by
    intro earlier left right leftHeld rightHeld
    simp only [answer, compare_fst, comparator_compareAll, comparator_start]
    exact RowComparator.compare_eq_compareExact stand leftHeld rightHeld
  have := RowComparator.transCmp_compareExact columns
  constructor
  · intro earlier otherwise left right leftHeld rightHeld
    rw [exact earlier left right leftHeld rightHeld,
      exact otherwise right left rightHeld leftHeld]
    exact Std.OrientedCmp.eq_swap
  · intro earlier otherwise later first second third firstHeld secondHeld thirdHeld
    rw [exact earlier first second firstHeld secondHeld,
      exact otherwise second third secondHeld thirdHeld,
      exact later first third firstHeld thirdHeld]
    exact Std.TransCmp.isLE_trans

/-- A short row, capital letters and decimals of several scales are sorted, whatever
is in the buffers. -/
theorem compare_sorts_held_rows_sv_ci :
    let rowType : RowType := ⟨⟨1⟩, ⟨"s", "people"⟩,
      [⟨"name", .varchar 20, true, some "sv_ci", false⟩, ⟨"fee", .decimal 8 2, true, none, false⟩]⟩
    let swedish := Recipe.build (.locale .swedish none .secondary)
    let comparator : RowComparator := ⟨[⟨0, some ⟨"sv_ci", 1, ⟨1, swedish⟩⟩⟩, ⟨1, none⟩]⟩
    let short := Row.ofValues rowType [.string "anna"]
    let scaled := Row.ofValues rowType [.string "Anna", .decimal ⟨50, 2, by decide, by decide⟩]
    (RowComparator.make (ComparatorCache.empty .strict ⟨4, none⟩) rowType [0, 1] 0).1 =
        .ok comparator ∧
      ∀ earlier,
        (((start comparator).compareAll earlier).2.compare short scaled).1.isLE = true := by
  intro rowType swedish comparator short scaled
  have made : (RowComparator.make (ComparatorCache.empty .strict ⟨4, none⟩) rowType [0, 1] 0).1 =
      .ok comparator := by decide +kernel
  have held : ∀ values : List Value, rowType.Holds [0, 1] (Row.ofValues rowType values) ↔
      (values[0]?.getD .null = .null ∨
        (DataType.varchar 20).isClassOf (values[0]?.getD .null) = true) ∧
      (values[1]?.getD .null = .null ∨
        (DataType.decimal 8 2).isClassOf (values[1]?.getD .null) = true) := by
    intro values
    simp [RowType.Holds, rowType, Row.ofValues, Row.valueOrNull]
  let middle := Row.ofValues rowType [.string "ANNA", .decimal ⟨5, 1, by decide, by decide⟩]
  exact ⟨made, fun earlier => (compare_sorts_held_rows made).2 [(middle, middle)]
    [(scaled, short)] earlier short middle scaled ((held _).mpr (by decide))
    ((held _).mpr (by decide)) ((held _).mpr (by decide)) (by decide +kernel) (by decide +kernel)⟩

end BufferedComparator
end Keyspace
