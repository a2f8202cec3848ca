import Keyspace.Unicode.CaseFolding
import Mathlib

/-!
# What folds to a given letter

Folding moves a code point by a shift, expands it to several, or leaves it alone.  So
what folds to a single letter is that letter itself or lies one shift away from it.
-/

namespace Keyspace
namespace CaseFolding

/-- All shifts. -/
def shifts : List Shift :=
  plain ++ latin ++ greekAndCyrillic ++ other

/-- What folds to a single code point is that code point, or is shifted to it. -/
theorem eq_or_shift_of_foldCode
    {code target : Nat}
    (positive : 0 < target)
    (folds : foldCode code = [target]) :
    code = target ∨ ∃ shift ∈ shifts, shift.applies code = true ∧
      code = ((target : Int) - shift.distance).toNat := by
  unfold foldCode at folds
  split at folds
  next shift found =>
    have near : shift ∈ shifts := by
      have present := List.mem_of_find?_eq_some found
      unfold shiftsNear at present
      unfold shifts
      split_ifs at present <;> simp [present]
    have shifted : ((code : Int) + shift.distance).toNat = target := List.singleton_inj.mp folds
    have applies : shift.applies code = true := by simpa using List.find?_some found
    exact .inr ⟨shift, near, applies, by omega⟩
  next =>
    split at folds
    next entry found =>
      have listed : entry ∈ expansions := by
        have present := List.mem_of_find?_eq_some found
        unfold expansionsNear at present
        split_ifs at present with low
        · exact absurd present List.not_mem_nil
        · exact present
      have several : ∀ entry ∈ expansions, entry.2.length ≠ 1 := by decide
      exact absurd (congrArg List.length folds) (several entry listed)
    next => exact .inl (List.singleton_inj.mp folds)

end CaseFolding

/-- A single character that folds to a code point is found by its code point. -/
theorem foldCode_of_foldCase
    {character folded : Char}
    (positive : 0 < folded.toNat)
    (folds : foldCase character = [folded]) :
    CaseFolding.foldCode character.toNat = [folded.toNat] := by
  obtain ⟨code, codes, rfl⟩ := List.map_eq_singleton_iff.mp folds
  have valid : code.isValidChar := by
    by_contra invalid
    rw [Char.toNat_ofNat, if_neg invalid] at positive
    exact Nat.lt_irrefl 0 positive
  rw [codes, Char.toNat_ofNat, if_pos valid]

end Keyspace
