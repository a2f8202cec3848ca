import Keyspace.Cache.SoftCache
import Mathlib.Tactic.Common

/-!
# What soft caches hold

A soft cache makes nothing up: whatever it holds after an operation it held
before, or it was put in by the operation.  What goes, by age or for want of
room, is not said here.
-/

namespace Keyspace
namespace SoftCache

variable {κ ν : Type} [BEq κ] {cache : SoftCache κ ν} {key other : κ} {value given : ν} {now : Nat}

/-- Whether a value is in the cache under a key, expired or not. -/
def Holds (cache : SoftCache κ ν) (key : κ) (value : ν) : Prop :=
  ∃ slot ∈ cache.slots, slot.key = key ∧ slot.value = value

omit [BEq κ] in
theorem Holds.mono
    {smaller larger : SoftCache κ ν}
    (holds : smaller.Holds key value)
    (subset : smaller.slots ⊆ larger.slots) :
    larger.Holds key value := by
  obtain ⟨slot, present, same⟩ := holds
  exact ⟨slot, subset present, same⟩

omit [BEq κ] in
theorem not_holds_clear
    (cache : SoftCache κ ν)
    (key : κ)
    (value : ν) :
    ¬ cache.clear.Holds key value := by
  rintro ⟨slot, present, _⟩
  simp [clear] at present

theorem slots_erase_subset
    (cache : SoftCache κ ν)
    (key : κ) :
    (cache.erase key).slots ⊆ cache.slots :=
  List.filter_sublist.subset

theorem slots_evict_subset
    (now count : Nat)
    (cache : SoftCache κ ν) :
    (evict now count cache).slots ⊆ cache.slots := by
  induction count generalizing cache with
  | zero => exact List.Subset.refl _
  | succ count inductionHypothesis =>
      unfold evict
      split
      · exact List.Subset.refl _
      · exact List.Subset.trans (inductionHypothesis _) (slots_erase_subset cache _)

theorem Holds.of_touch
    (holds : (cache.touch other given now).Holds key value) :
    (key = other ∧ value = given) ∨ cache.Holds key value := by
  obtain ⟨slot, present, rfl, rfl⟩ := holds
  rcases List.mem_cons.mp present with rfl | earlier
  · exact .inl ⟨rfl, rfl⟩
  · exact .inr ⟨slot, slots_erase_subset cache other earlier, rfl, rfl⟩

/-- After a value is put in, the cache holds that value and else what it held. -/
theorem Holds.of_insert
    (holds : (cache.insert other given now).2.Holds key value) :
    (key = other ∧ value = given) ∨ cache.Holds key value :=
  (holds.mono (slots_evict_subset now _ _)).of_touch

variable [LawfulBEq κ]

theorem holds_of_find?
    {slot : CacheSlot κ ν}
    (found : cache.find? key = some slot) :
    cache.Holds key slot.value := by
  have same : slot.key = key := by simpa using List.find?_some found
  exact ⟨slot, List.mem_of_find?_eq_some found, same, rfl⟩

/-- A read finds only what the cache holds. -/
theorem holds_of_get
    (found : (cache.get key now).1 = some value) :
    cache.Holds key value := by
  unfold get at found
  split at found
  · simp at found
  · next slot here =>
      split at found
      · simp at found
      · obtain rfl := Option.some.inj found
        exact holds_of_find? here

/-- A read leaves nothing in the cache that it did not hold. -/
theorem Holds.of_get
    (holds : (cache.get other now).2.Holds key value) :
    cache.Holds key value := by
  unfold get at holds
  split at holds
  · exact holds
  · next slot here =>
      split at holds
      · exact holds.mono (slots_erase_subset cache other)
      · rcases Holds.of_touch holds with ⟨rfl, rfl⟩ | before
        · exact holds_of_find? here
        · exact before

end SoftCache
end Keyspace
