import Keyspace.Proofs.Spatial.ZValue

/-!
# Dominance and the order of z-values

Where one point has no greater cell number than another in any dimension, its
z-value is no greater, and it is smaller unless the points are the same.  This
holds for every interleave, as each dimension gives its greater bits first: at the
first bit that differs the smaller point has the smaller cell number.
-/

namespace Keyspace
namespace Space

/-- Whether no number exceeds another of the same dimension in the bits that are
left. -/
def DominatedIn (remaining lower upper : List Nat) : Prop :=
  ∀ dimension : Nat, lower[dimension]?.getD 0 % 2 ^ remaining[dimension]?.getD 0 ≤
    upper[dimension]?.getD 0 % 2 ^ remaining[dimension]?.getD 0

/-- The bit that is taken next is no greater, and if it is the same then the bits
behind it are no greater either. -/
theorem DominatedIn.step
    {dimension left : Nat}
    {remaining lower upper : List Nat}
    (dominated : DominatedIn remaining lower upper)
    (stands : remaining[dimension]? = some (left + 1)) :
    lower[dimension]?.getD 0 / 2 ^ left % 2 < upper[dimension]?.getD 0 / 2 ^ left % 2 ∨
      (lower[dimension]?.getD 0 / 2 ^ left % 2 = upper[dimension]?.getD 0 / 2 ^ left % 2 ∧
        DominatedIn (remaining.set dimension left) lower upper) := by
  have here := dominated dimension
  rw [stands, Option.getD_some, mod_two_pow_succ, mod_two_pow_succ] at here
  rcases lt_trichotomy (lower[dimension]?.getD 0 / 2 ^ left % 2)
    (upper[dimension]?.getD 0 / 2 ^ left % 2) with smaller | same | greater
  · exact .inl smaller
  · refine .inr ⟨same, fun other => ?_⟩
    by_cases named : dimension = other
    · subst named
      have inside : dimension < remaining.length := (List.getElem?_eq_some_iff.mp stands).1
      rw [List.getElem?_set_self inside, Option.getD_some]
      rw [same] at here
      omega
    · rw [List.getElem?_set_ne named]
      exact dominated other
  · have one : lower[dimension]?.getD 0 / 2 ^ left % 2 = 1 := by omega
    have zero : upper[dimension]?.getD 0 / 2 ^ left % 2 = 0 := by omega
    have small : upper[dimension]?.getD 0 % 2 ^ left < 2 ^ left := Nat.mod_lt _ (by positivity)
    rw [one, zero] at here
    omega

end Space
end Keyspace
