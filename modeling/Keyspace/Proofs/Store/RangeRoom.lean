import Keyspace.Proofs.Bytes.Order
import Keyspace.Store.Range

/-!
# The room of a range

Between a byte string and the same with a zero byte behind it there is no other,
and nothing lies below the empty one.  So each lower bound admits the keys from a
least one on, and a range has keys exactly if its upper bound admits that one.
Comparing the bounds themselves finds all ranges without keys but those of two
forms.
-/

namespace Keyspace

/-! ## The order of keys -/

namespace Bytes

theorem compare_ne_lt_iff
    {left right : Bytes} :
    compare left right ≠ .lt ↔ compare right left ≠ .gt :=
  not_congr Std.OrientedCmp.gt_iff_lt.symm

theorem compare_lt_of_lt_of_ne_gt
    {first second third : Bytes}
    (less : compare first second = .lt)
    (notGreater : compare second third ≠ .gt) :
    compare first third = .lt :=
  Std.TransCmp.lt_of_lt_of_isLE less (Ordering.isLE_iff_ne_gt.mpr notGreater)

theorem compare_lt_of_ne_gt_of_lt
    {first second third : Bytes}
    (notGreater : compare first second ≠ .gt)
    (less : compare second third = .lt) :
    compare first third = .lt :=
  Std.TransCmp.lt_of_isLE_of_lt (Ordering.isLE_iff_ne_gt.mpr notGreater) less

theorem compare_ne_gt_trans
    {first second third : Bytes}
    (firstSecond : compare first second ≠ .gt)
    (secondThird : compare second third ≠ .gt) :
    compare first third ≠ .gt :=
  Ordering.isLE_iff_ne_gt.mp (Std.TransCmp.isLE_trans
    (Ordering.isLE_iff_ne_gt.mpr firstSecond) (Ordering.isLE_iff_ne_gt.mpr secondThird))

theorem compare_nil_ne_gt
    (bytes : Bytes) :
    compare [] bytes ≠ .gt := by
  cases bytes <;> simp [compare]

theorem compare_nil_eq_lt_iff
    {bytes : Bytes} :
    compare [] bytes = .lt ↔ bytes ≠ [] := by
  cases bytes <;> simp [compare]

/-- A zero byte behind a string makes the next string: whatever lies below the longer
one is not above the shorter. -/
theorem compare_concat_zero_right
    (bytes key : Bytes) :
    compare key (bytes ++ [0]) = .lt ↔ compare key bytes ≠ .gt := by
  induction bytes generalizing key with
  | nil =>
      cases key with
      | nil => simp [compare]
      | cons byte rest =>
          have notBelow : ¬ byte < 0 := by simp [UInt8.lt_iff_toNat_lt]
          have restNotBelow := compare_ne_lt_iff.mpr (compare_nil_ne_gt rest)
          by_cases above : 0 < byte <;> simp [compare, notBelow, above, restNotBelow]
  | cons first bytes inductionHypothesis =>
      cases key with
      | nil => simp [compare]
      | cons byte rest =>
          rw [List.cons_append, compare, compare]
          split
          · simp
          · split
            · simp
            · exact inductionHypothesis rest

theorem compare_concat_zero_left
    (bytes key : Bytes) :
    compare (bytes ++ [0]) key = .gt ↔ compare bytes key ≠ .lt := by
  rw [Std.OrientedCmp.gt_iff_lt, compare_concat_zero_right, compare_ne_lt_iff]

/-- What lies above a string lies above the next one or is the next one. -/
theorem compare_eq_lt_iff_concat_zero
    (bytes key : Bytes) :
    compare bytes key = .lt ↔ compare (bytes ++ [0]) key = .lt ∨ key = bytes ++ [0] := by
  have same : compare (bytes ++ [0]) key = .eq ↔ key = bytes ++ [0] :=
    Std.LawfulEqCmp.compare_eq_iff_eq.trans eq_comm
  have above := compare_concat_zero_left bytes key
  rw [← same]
  generalize compare (bytes ++ [0]) key = order at above ⊢
  cases order <;> simp_all

end Bytes

/-! ## The least key of a range -/

namespace Bound

/-- The least key that a lower bound admits. -/
def least : Bound -> Bytes
  | included key => key
  | excluded key => key ++ [0]
  | unbounded => []

/-- A lower bound admits the keys from its least one on. -/
theorem admitsAbove_iff
    (lower : Bound)
    (key : Bytes) :
    lower.admitsAbove key = true ↔ Bytes.compare lower.least key ≠ .gt := by
  cases lower with
  | included bound => simpa [admitsAbove, least] using Bytes.compare_ne_lt_iff
  | excluded bound =>
      rw [least, ne_eq, Bytes.compare_concat_zero_left, not_not, ← Std.OrientedCmp.gt_iff_lt]
      simp [admitsAbove]
  | unbounded => simpa [admitsAbove, least] using Bytes.compare_nil_ne_gt key

theorem admitsAbove_of_gt
    {bound : Bound}
    {lower upper : Bytes}
    (admits : bound.admitsAbove lower = true)
    (greater : Bytes.compare upper lower = .gt) :
    bound.admitsAbove upper = true := by
  have less := Std.OrientedCmp.lt_of_gt greater
  rw [admitsAbove_iff] at admits ⊢
  simp [Bytes.compare_lt_of_ne_gt_of_lt admits less]

/-- An upper bound admits whatever is not above a key that it admits. -/
theorem admitsBelow_of_ne_gt
    {bound : Bound}
    {lower upper : Bytes}
    (admits : bound.admitsBelow upper = true)
    (notGreater : Bytes.compare lower upper ≠ .gt) :
    bound.admitsBelow lower = true := by
  cases bound with
  | included key =>
      have below : Bytes.compare upper key ≠ .gt := by simpa [admitsBelow] using admits
      simpa [admitsBelow] using Bytes.compare_ne_gt_trans notGreater below
  | excluded key =>
      have below : Bytes.compare upper key = .lt := by simpa [admitsBelow] using admits
      simpa [admitsBelow] using Bytes.compare_lt_of_ne_gt_of_lt notGreater below
  | unbounded => rfl

end Bound

namespace KeyRange

variable {range : KeyRange}

/-- A range has keys exactly if the least key above its lower bound is one. -/
theorem exists_contains_iff :
    (∃ key, range.contains key = true) ↔ range.finish.admitsBelow range.start.least = true := by
  constructor
  · rintro ⟨key, contained⟩
    rw [contains, Bool.and_eq_true, Bound.admitsAbove_iff] at contained
    exact Bound.admitsBelow_of_ne_gt contained.2 contained.1
  · intro admits
    have reached : range.start.admitsAbove range.start.least = true := by
      simp [Bound.admitsAbove_iff, Bytes.compare_self]
    exact ⟨range.start.least, by rw [contains, reached, admits, Bool.and_self]⟩

/-! ## Ranges without keys -/

/-- Whether a range has its bounds in order and yet no room between them: it excludes
a key and the next one, or it ends before the least key of all. -/
def IsGap : KeyRange -> Prop
  | ⟨.excluded lower, .excluded upper⟩ => upper = lower ++ [0]
  | ⟨.unbounded, .excluded upper⟩ => upper = []
  | _ => False

instance : DecidablePred IsGap
  | ⟨.excluded _, .excluded _⟩ => inferInstanceAs (Decidable (_ = _))
  | ⟨.unbounded, .excluded _⟩ => inferInstanceAs (Decidable (_ = _))
  | ⟨.included _, _⟩ => .isFalse id
  | ⟨.excluded _, .included _⟩ => .isFalse id
  | ⟨.excluded _, .unbounded⟩ => .isFalse id
  | ⟨.unbounded, .included _⟩ => .isFalse id
  | ⟨.unbounded, .unbounded⟩ => .isFalse id

/-- The bounds of a range are compared as they stand, so a gap is not noticed. -/
theorem isEmpty_iff :
    range.isEmpty = true ↔
      range.finish.admitsBelow range.start.least = false ∧ ¬ range.IsGap := by
  obtain ⟨start, finish⟩ := range
  cases finish with
  | unbounded => cases start <;> simp [isEmpty, Bound.crosses, Bound.admitsBelow]
  | included upper =>
      cases start with
      | unbounded =>
          simp [isEmpty, Bound.crosses, Bound.admitsBelow, Bound.least, Bytes.compare_nil_ne_gt]
      | included lower => simp [isEmpty, Bound.crosses, Bound.admitsBelow, Bound.least, IsGap]
      | excluded lower =>
          simp [isEmpty, Bound.crosses, Bound.admitsBelow, Bound.least, IsGap,
            Bytes.compare_concat_zero_left]
  | excluded upper =>
      cases start with
      | unbounded =>
          simp [isEmpty, Bound.crosses, Bound.admitsBelow, Bound.least, IsGap,
            Bytes.compare_nil_eq_lt_iff]
      | included lower => simp [isEmpty, Bound.crosses, Bound.admitsBelow, Bound.least, IsGap]
      | excluded lower =>
          have next := Bytes.compare_eq_lt_iff_concat_zero lower upper
          simp [isEmpty, Bound.crosses, Bound.admitsBelow, Bound.least, IsGap, next]

theorem forall_contains_eq_false_iff :
    (∀ key, range.contains key = false) ↔
      range.finish.admitsBelow range.start.least = false := by
  rw [← Bool.not_eq_true, ← exists_contains_iff]
  simp

theorem contains_eq_false_of_isEmpty
    (empty : range.isEmpty = true)
    (key : Bytes) :
    range.contains key = false :=
  forall_contains_eq_false_iff.mpr (isEmpty_iff.mp empty).1 key

theorem admitsBelow_least_of_isGap
    (gap : range.IsGap) :
    range.finish.admitsBelow range.start.least = false := by
  unfold IsGap at gap
  split at gap
  · simp [Bound.admitsBelow, Bound.least, gap, Bytes.compare_self]
  · simp [Bound.admitsBelow, Bound.least, gap, Bytes.compare_self]
  · exact gap.elim

/-- A range has no key exactly if its bounds cross or leave a gap, and never both. -/
theorem without_keys_iff
    (range : KeyRange) :
    ((∀ key, range.contains key = false) ↔ range.isEmpty = true ∨ range.IsGap) ∧
      ¬ (range.isEmpty = true ∧ range.IsGap) := by
  refine ⟨?_, fun ⟨empty, gap⟩ => (isEmpty_iff.mp empty).2 gap⟩
  rw [forall_contains_eq_false_iff, isEmpty_iff]
  constructor
  · exact fun noRoom => or_iff_not_imp_right.mpr fun noGap => ⟨noRoom, noGap⟩
  · rintro (⟨noRoom, _⟩ | gap)
    · exact noRoom
    · exact admitsBelow_least_of_isGap gap

/-- Nothing lies between a key and the next one, but the range between them is not found
to be empty. -/
theorem isEmpty_between_neighbours :
    ¬ ((KeyRange.mk (.excluded [0x61]) (.excluded [0x61, 0x00])).isEmpty = true ↔
      ∀ key, (KeyRange.mk (.excluded [0x61]) (.excluded [0x61, 0x00])).contains key = false) := by
  intro found
  have gap : (KeyRange.mk (.excluded [0x61]) (.excluded [0x61, 0x00])).IsGap := by decide
  have none := forall_contains_eq_false_iff.mpr (admitsBelow_least_of_isGap gap)
  exact absurd (found.mpr none) (by decide)

end KeyRange
end Keyspace
