import Keyspace.Proofs.HKey.NaturalOrder
import Keyspace.Proofs.Number.Doubles
import Mathlib.Data.Set.Insert

/-!
# How far the natural order of values is an order

Values of one class compare exactly, and so do integers of all widths.  Numbers
of different classes compare as doubles.  The two ways agree unless rounding to
doubles merges or swaps two numbers that compare exactly, and where they agree
the natural order is a total preorder.
-/

namespace Keyspace
namespace Value

/-! ## Numbers -/

/-- Whether two values compare like the doubles nearest to them, if both are
numbers. -/
def KeepsOrder (left right : Value) : Prop :=
  ∀ leftDouble rightDouble, left.toDouble? = some leftDouble ->
    right.toDouble? = some rightDouble ->
    left.compareNatural right = leftDouble.compareTotal rightDouble

/-- How two numbers compare. -/
inductive NumbersCompare : Value -> Value -> Prop
  /-- Integers compare exactly. -/
  | integers
      {left right : Value}
      {leftNumber rightNumber : Int}
      (leftIsInteger : left.asInteger? = some leftNumber)
      (rightIsInteger : right.asInteger? = some rightNumber) : NumbersCompare left right
  /-- Decimals compare exactly. -/
  | decimals (left right : Decimal) : NumbersCompare (decimal left) (decimal right)
  /-- Single precision floats compare by their bits. -/
  | floats (left right : Single) : NumbersCompare (float left) (float right)
  /-- All other pairs compare as doubles. -/
  | mixed
      {left right : Value}
      (forward : KeepsOrder left right)
      (backward : KeepsOrder right left) : NumbersCompare left right

theorem classRank_of_toDouble?
    {value : Value}
    {double : Double}
    (isNumber : value.toDouble? = some double) :
    value.classRank = numericRank := by
  cases value <;> first | rfl | simp [toDouble?, asInteger?] at isNumber

theorem exists_toDouble?
    {value : Value}
    (isNumber : value.classRank = numericRank) :
    ∃ double, value.toDouble? = some double := by
  cases value <;> first | exact ⟨_, rfl⟩ | simp [classRank, numericRank] at isNumber

theorem toDouble?_of_asInteger?
    {value : Value}
    {number : Int}
    (isInteger : value.asInteger? = some number) :
    value.toDouble? = some (Double.ofInt number) := by
  cases value <;> simp only [asInteger?, reduceCtorEq, Option.some.injEq] at isInteger <;>
    subst isInteger <;> rfl

theorem compareMixed_of_doubles
    {left right : Value}
    {leftDouble rightDouble : Double}
    (leftIsNumber : left.toDouble? = some leftDouble)
    (rightIsNumber : right.toDouble? = some rightDouble)
    (notIntegers : left.asInteger? = none ∨ right.asInteger? = none) :
    left.compareMixed right = leftDouble.compareTotal rightDouble := by
  rw [compareMixed,
    if_pos ⟨classRank_of_toDouble? leftIsNumber, classRank_of_toDouble? rightIsNumber⟩,
    leftIsNumber, rightIsNumber]
  rcases notIntegers with leftNot | rightNot
  · rw [leftNot]
  · rw [rightNot]
    cases left.asInteger? <;> rfl

theorem keepsOrder_of_mixed
    {left right : Value}
    (mixed : left.compareNatural right = left.compareMixed right)
    (notIntegers : left.asInteger? = none ∨ right.asInteger? = none) :
    KeepsOrder left right := by
  intro leftDouble rightDouble leftIsNumber rightIsNumber
  rw [mixed, compareMixed_of_doubles leftIsNumber rightIsNumber notIntegers]

theorem numbersCompare
    {left right : Value}
    (leftIsNumber : left.classRank = numericRank)
    (rightIsNumber : right.classRank = numericRank) :
    NumbersCompare left right := by
  cases left <;> simp [classRank, numericRank] at leftIsNumber <;>
    cases right <;> simp [classRank, numericRank] at rightIsNumber <;>
    first
    | exact .integers rfl rfl
    | exact .decimals _ _
    | exact .floats _ _
    | exact .mixed (keepsOrder_of_mixed rfl (.inl rfl)) (keepsOrder_of_mixed rfl (.inr rfl))
    | exact .mixed (keepsOrder_of_mixed rfl (.inr rfl)) (keepsOrder_of_mixed rfl (.inl rfl))

/-! ## Ranks -/

/-- The number that places a value in its class. -/
def rankNumber : Value -> Int
  | boolean truth => truth.toNat
  | date day => day.toInt
  | time microseconds => microseconds.toInt
  | timestamp microseconds => microseconds.toInt
  | year number => number.toNat
  | interval length => length.toInt
  | other => (other.toDouble?.map Double.totalPlace).getD 0

/-- The bytes that place a value in its class. -/
def rankBytes : Value -> Bytes
  | string content => Utf8.encode content
  | bytes content => content
  | guid identifier => identifier.bytes
  | blob identifier => identifier.bytes
  | _ => []

/-- The order by class, with all numbers taken as doubles. -/
def compareRanks : Value -> Value -> Ordering :=
  compareLex (compareOn classRank)
    (compareLex (compareOn rankNumber) fun left right =>
      Bytes.compare left.rankBytes right.rankBytes)

instance : Std.TransCmp compareRanks := by
  have bytewise : Std.TransCmp fun left right : Value =>
      Bytes.compare left.rankBytes right.rankBytes :=
    { eq_swap := Std.OrientedCmp.eq_swap
      isLE_trans := Std.TransCmp.isLE_trans }
  unfold compareRanks
  infer_instance

theorem compareNatural_of_classRank_ne
    {left right : Value}
    (different : left.classRank ≠ right.classRank) :
    left.compareNatural right = compare left.classRank right.classRank := by
  have mixed : left.compareNatural right = left.compareMixed right := by
    cases left <;> cases right <;> first | rfl | exact absurd rfl different
  rw [mixed, compareMixed, if_neg]
  rintro ⟨leftIsNumber, rightIsNumber⟩
  exact different (leftIsNumber.trans rightIsNumber.symm)

theorem compareNatural_of_classRank_eq
    {left right : Value}
    (same : left.classRank = right.classRank)
    (notNumbers : left.classRank ≠ numericRank) :
    left.compareNatural right =
      (compare left.rankNumber right.rankNumber).then
        (Bytes.compare left.rankBytes right.rankBytes) := by
  cases left <;> first | exact absurd rfl notNumbers | cases right <;>
    first
    | exact absurd same (Nat.ne_of_beq_eq_false rfl)
    | rfl
    | simp only [compareNatural, rankNumber, rankBytes, Bytes.compare, compare_natCast,
        Ordering.then_eq]

theorem compareRanks_of_classRank_eq
    {left right : Value}
    (same : left.classRank = right.classRank) :
    left.compareRanks right =
      (compare left.rankNumber right.rankNumber).then
        (Bytes.compare left.rankBytes right.rankBytes) := by
  have ranks : compare left.classRank right.classRank = .eq := Std.compare_eq_iff_eq.mpr same
  simp only [compareRanks, compareLex, compareOn, ranks, Ordering.then]

theorem rankNumber_of_toDouble?
    {value : Value}
    {double : Double}
    (isNumber : value.toDouble? = some double) :
    value.rankNumber = double.totalPlace ∧ value.rankBytes = [] := by
  have places : (value.toDouble?.map Double.totalPlace).getD 0 = double.totalPlace := by
    rw [isNumber]
    rfl
  cases value <;> first | exact ⟨places, rfl⟩ | simp [toDouble?, asInteger?] at isNumber

/-- Where numbers compare like doubles, the natural order is that of the ranks. -/
theorem compareNatural_eq_compareRanks
    {left right : Value}
    (keeps : KeepsOrder left right) :
    left.compareNatural right = left.compareRanks right := by
  by_cases same : left.classRank = right.classRank
  · rw [compareRanks_of_classRank_eq same]
    by_cases leftIsNumber : left.classRank = numericRank
    · obtain ⟨leftDouble, leftIsDouble⟩ := exists_toDouble? leftIsNumber
      obtain ⟨rightDouble, rightIsDouble⟩ := exists_toDouble? (same.symm.trans leftIsNumber)
      obtain ⟨leftNumber, leftBytes⟩ := rankNumber_of_toDouble? leftIsDouble
      obtain ⟨rightNumber, rightBytes⟩ := rankNumber_of_toDouble? rightIsDouble
      rw [keeps _ _ leftIsDouble rightIsDouble, leftNumber, rightNumber, leftBytes, rightBytes,
        Bytes.compare_self, Ordering.then_eq]
      rfl
    · exact compareNatural_of_classRank_eq same leftIsNumber
  · rw [compareNatural_of_classRank_ne same]
    have ranks : compare left.classRank right.classRank ≠ .eq :=
      mt Std.compare_eq_iff_eq.mp same
    rw [compareRanks, compareLex, compareOn]
    generalize compare left.classRank right.classRank = order at *
    cases order <;> first | rfl | exact absurd rfl ranks

theorem keepsOrder_of_not_numbers
    {left right : Value}
    (notNumbers : ¬ (left.classRank = numericRank ∧ right.classRank = numericRank)) :
    KeepsOrder left right := by
  intro leftDouble rightDouble leftIsNumber rightIsNumber
  exact absurd ⟨classRank_of_toDouble? leftIsNumber, classRank_of_toDouble? rightIsNumber⟩
    notNumbers

theorem compareNatural_swap_of_keepsOrder
    {left right : Value}
    (forward : KeepsOrder left right)
    (backward : KeepsOrder right left) :
    left.compareNatural right = (right.compareNatural left).swap := by
  rw [compareNatural_eq_compareRanks forward, compareNatural_eq_compareRanks backward]
  exact Std.OrientedCmp.eq_swap

theorem compareNatural_swap
    (left right : Value) :
    left.compareNatural right = (right.compareNatural left).swap := by
  by_cases numbers : left.classRank = numericRank ∧ right.classRank = numericRank
  · cases numbersCompare numbers.1 numbers.2 with
    | integers leftIsInteger rightIsInteger =>
        rw [compareNatural_of_asInteger leftIsInteger rightIsInteger,
          compareNatural_of_asInteger rightIsInteger leftIsInteger]
        exact Std.OrientedOrd.eq_swap
    | decimals leftNumber rightNumber =>
        rw [compareNatural, compareNatural, Decimal.compare, Decimal.compare]
        exact Std.OrientedOrd.eq_swap
    | floats leftNumber rightNumber =>
        rw [compareNatural, compareNatural, Single.compareTotal, Single.compareTotal]
        exact Std.OrientedOrd.eq_swap
    | mixed forward backward => exact compareNatural_swap_of_keepsOrder forward backward
  · exact compareNatural_swap_of_keepsOrder (keepsOrder_of_not_numbers numbers)
      (keepsOrder_of_not_numbers (mt And.symm numbers))

/-! ## Total preorders -/

/-- Whether values can be sorted: what is not above another is not above what the
other is not above. -/
def Sortable (values : Set Value) : Prop :=
  ∀ first ∈ values, ∀ second ∈ values, ∀ third ∈ values,
    (first.compareNatural second).isLE -> (second.compareNatural third).isLE ->
      (first.compareNatural third).isLE

theorem sortable_of_keepsOrder
    {values : Set Value}
    (keeps : ∀ left ∈ values, ∀ right ∈ values, KeepsOrder left right) :
    Sortable values := by
  intro first firstIn second secondIn third thirdIn
  rw [compareNatural_eq_compareRanks (keeps first firstIn second secondIn),
    compareNatural_eq_compareRanks (keeps second secondIn third thirdIn),
    compareNatural_eq_compareRanks (keeps first firstIn third thirdIn)]
  exact Std.TransCmp.isLE_trans

/-- A number compares with doubles like the double nearest to it. -/
theorem compareNatural_double
    {value : Value}
    {nearest : Double}
    (isNumber : value.toDouble? = some nearest)
    (other : Double) :
    value.compareNatural (double other) = nearest.compareTotal other := by
  have keeps : KeepsOrder value (double other) := by
    cases numbersCompare (classRank_of_toDouble? isNumber)
      (show (double other).classRank = numericRank from rfl) with
    | integers _ rightIsInteger => simp [asInteger?] at rightIsInteger
    | mixed forward _ => exact forward
  exact keeps _ _ isNumber rfl

theorem eq_of_isLE_iff
    {order other : Ordering}
    (less : order.isLE ↔ other.isLE)
    (greater : order.swap.isLE ↔ other.swap.isLE) :
    order = other := by
  cases order <;> cases other <;> simp_all

/-- Numbers that do not compare like their doubles cannot be sorted with them. -/
theorem keepsOrder_of_sortable
    {left right : Value}
    (sortable : ∀ nearest, right.toDouble? = some nearest ->
      Sortable {left, right, double nearest}) :
    KeepsOrder left right := by
  intro leftDouble rightDouble leftIsNumber rightIsNumber
  have equal : right.compareNatural (double rightDouble) = .eq := by
    rw [compareNatural_double rightIsNumber]
    exact Std.compare_self
  have equalBack : (double rightDouble).compareNatural right = .eq := by
    rw [compareNatural_swap, equal]
    rfl
  have sorted := sortable rightDouble rightIsNumber
  have leftIn : left ∈ ({left, right, double rightDouble} : Set Value) := by simp
  have rightIn : right ∈ ({left, right, double rightDouble} : Set Value) := by simp
  have doubleIn : double rightDouble ∈ ({left, right, double rightDouble} : Set Value) := by simp
  rw [← compareNatural_double leftIsNumber rightDouble]
  refine eq_of_isLE_iff ⟨fun less => ?_, fun less => ?_⟩ ?_
  · exact sorted left leftIn right rightIn _ doubleIn less (by rw [equal]; rfl)
  · exact sorted left leftIn _ doubleIn right rightIn less (by rw [equalBack]; rfl)
  · rw [← compareNatural_swap, ← compareNatural_swap]
    exact ⟨sorted _ doubleIn right rightIn left leftIn (by rw [equalBack]; rfl),
      sorted right rightIn _ doubleIn left leftIn (by rw [equal]; rfl)⟩

/-! ## Where rounding keeps the order -/

theorem keepsOrder_of_integers
    {left right : Value}
    {leftNumber rightNumber : Int}
    (leftIsInteger : left.asInteger? = some leftNumber)
    (rightIsInteger : right.asInteger? = some rightNumber)
    (apart : Double.ofInt leftNumber = Double.ofInt rightNumber -> leftNumber = rightNumber) :
    KeepsOrder left right := by
  intro leftDouble rightDouble leftIsNumber rightIsNumber
  rw [toDouble?_of_asInteger? leftIsInteger, Option.some.injEq] at leftIsNumber
  rw [toDouble?_of_asInteger? rightIsInteger, Option.some.injEq] at rightIsNumber
  rw [compareNatural_of_asInteger leftIsInteger rightIsInteger, Double.compareTotal,
    ← leftIsNumber, ← rightIsNumber]
  rcases lt_trichotomy leftNumber rightNumber with less | rfl | greater
  · have places := (Double.totalPlace_ofInt_mono less.le).lt_of_ne
      fun same => less.ne (apart (Double.eq_of_totalPlace_eq same))
    rw [compare_lt_iff_lt.mpr less, compare_lt_iff_lt.mpr places]
  · rw [Std.compare_self, Std.compare_self]
  · have places := (Double.totalPlace_ofInt_mono greater.le).lt_of_ne
      fun same => greater.ne' (apart (Double.eq_of_totalPlace_eq same.symm))
    rw [compare_gt_iff_gt.mpr greater, compare_gt_iff_gt.mpr places]

end Value

namespace Double

/-- Integers of at most 53 bits have doubles of their own. -/
theorem ofInt_injective_of_small
    {left right : Int}
    (leftSmall : left.natAbs ≤ 2 ^ 53)
    (rightSmall : right.natAbs ≤ 2 ^ 53)
    (same : ofInt left = ofInt right) :
    left = right := by
  rcases lt_trichotomy left right with less | equal | greater
  · exact absurd (congrArg totalPlace same)
      (totalPlace_ofInt_strict less leftSmall rightSmall).ne
  · exact equal
  · exact absurd (congrArg totalPlace same)
      (totalPlace_ofInt_strict greater rightSmall leftSmall).ne'

end Double

namespace Value

/-- The pairs of numbers whose order rounding to doubles may lose. -/
inductive LosesOrder : Value -> Value -> Prop
  /-- Integers of which one has more than 53 bits, with one nearest double. -/
  | integers
      {left right : Value}
      {leftNumber rightNumber : Int}
      (leftIsInteger : left.asInteger? = some leftNumber)
      (rightIsInteger : right.asInteger? = some rightNumber)
      (different : leftNumber ≠ rightNumber)
      (merged : Double.ofInt leftNumber = Double.ofInt rightNumber)
      (large : 2 ^ 53 < leftNumber.natAbs ∨ 2 ^ 53 < rightNumber.natAbs) : LosesOrder left right
  /-- Decimals whose doubles compare in another way. -/
  | decimals
      {left right : Decimal}
      (crossed : left.compare right ≠ left.toDouble.compareTotal right.toDouble) :
      LosesOrder (decimal left) (decimal right)
  /-- Floats that are no numbers, whose doubles compare in another way. -/
  | floats
      {left right : Single}
      (leftIsNaN : left.value = .nan)
      (rightIsNaN : right.value = .nan)
      (crossed : left.compareTotal right ≠ left.toDouble.compareTotal right.toDouble) :
      LosesOrder (float left) (float right)

theorem keepsOrder_of_not_losesOrder
    {left right : Value}
    (holds : ¬ LosesOrder left right) :
    KeepsOrder left right := by
  by_cases numbers : left.classRank = numericRank ∧ right.classRank = numericRank
  · cases numbersCompare numbers.1 numbers.2 with
    | integers leftIsInteger rightIsInteger =>
        refine keepsOrder_of_integers leftIsInteger rightIsInteger fun merged => ?_
        by_contra different
        refine holds (.integers leftIsInteger rightIsInteger different merged ?_)
        by_contra! small
        exact different (Double.ofInt_injective_of_small small.1 small.2 merged)
    | decimals leftNumber rightNumber =>
        rintro _ _ ⟨⟩ ⟨⟩
        by_contra crossed
        exact holds (.decimals crossed)
    | floats leftNumber rightNumber =>
        rintro _ _ ⟨⟩ ⟨⟩
        by_contra crossed
        by_cases number : leftNumber.value ≠ .nan ∨ rightNumber.value ≠ .nan
        · exact crossed (Single.compareTotal_toDouble number).symm
        · push Not at number
          exact holds (.floats number.1 number.2 crossed)
    | mixed forward _ => exact forward
  · exact keepsOrder_of_not_numbers numbers

theorem not_keepsOrder_of_losesOrder
    {left right : Value}
    (loses : LosesOrder left right) :
    ¬ KeepsOrder left right := by
  intro keeps
  cases loses with
  | integers leftIsInteger rightIsInteger different merged large =>
      have same := keeps _ _ (toDouble?_of_asInteger? leftIsInteger)
        (toDouble?_of_asInteger? rightIsInteger)
      rw [compareNatural_of_asInteger leftIsInteger rightIsInteger, merged, Double.compareTotal,
        Std.compare_self] at same
      exact different (Std.compare_eq_iff_eq.mp same)
  | decimals crossed => exact crossed (keeps _ _ rfl rfl)
  | floats _ _ crossed => exact crossed (keeps _ _ rfl rfl)

/-- The natural order goes both ways alike, and sorts values of which no two lose
their order in doubles.  It cannot sort two that do, with a double between. -/
theorem compareNatural_total_preorder
    (values : Set Value) :
    (∀ left right : Value, left.compareNatural right = (right.compareNatural left).swap) ∧
      ((∀ left ∈ values, ∀ right ∈ values, ¬ LosesOrder left right) -> Sortable values) ∧
      ∀ left ∈ values, ∀ right ∈ values, LosesOrder left right ->
        ∃ nearest, right.toDouble? = some nearest ∧ ¬ Sortable {left, right, double nearest} := by
  refine ⟨compareNatural_swap, fun holds => ?_, fun left _ right _ loses => ?_⟩
  · exact sortable_of_keepsOrder fun left leftIn right rightIn =>
      keepsOrder_of_not_losesOrder (holds left leftIn right rightIn)
  · have notKept := mt keepsOrder_of_sortable (not_keepsOrder_of_losesOrder loses)
    push Not at notKept
    exact notKept

/-- Numbers of three classes with few bits can be sorted. -/
theorem sortable_of_few_bits :
    Sortable {bigInt (-3), double ⟨0x3FF8000000000000⟩, unsigned 9007199254740992} := by
  refine (compareNatural_total_preorder _).2.1 fun left leftIn right rightIn loses => ?_
  have few : ∀ value ∈ ({bigInt (-3), double ⟨0x3FF8000000000000⟩,
      unsigned 9007199254740992} : Set Value), ∀ number, value.asInteger? = some number ->
        number.natAbs ≤ 2 ^ 53 := by
    rintro _ (rfl | rfl | rfl) number isInteger <;>
      simp only [asInteger?, Option.some.injEq, reduceCtorEq] at isInteger <;>
      subst isInteger <;> decide
  cases loses with
  | integers leftIsInteger rightIsInteger _ _ large =>
      have leftFew := few _ leftIn _ leftIsInteger
      have rightFew := few _ rightIn _ rightIsInteger
      omega
  | decimals => simp at leftIn
  | floats => simp at leftIn

/-- A double stands between two integers that have it as their nearest one. -/
theorem compareNatural_not_transitive :
    ¬ ∀ first second third : Value, (first.compareNatural second).isLE ->
      (second.compareNatural third).isLE -> (first.compareNatural third).isLE := by
  intro transitive
  exact absurd
    (transitive (bigInt 9007199254740993) (double ⟨0x4340000000000000⟩) (bigInt 9007199254740992)
      (by decide +kernel) (by decide +kernel))
    (by decide +kernel)

end Value
end Keyspace
