import Keyspace.Proofs.Spatial.Passes
import Keyspace.Settings.Settings

/-!
# Interleaves that use every bit once

An interleave names the dimension that gives the next bit.  Where words hold the sum
of a space's bits and the length of its interleave, the interleave names each
dimension once for each of its bits, and the bits fit a z-value, however the space is
set up: a given interleave is counted, and in the default one the dimensions take
turns.  Beyond that the counts start again from nothing, and a space can be set up
that has too many bits.
-/

namespace Keyspace
namespace Space

/-- Whether a space comes from one of the ways to set one up. -/
inductive Made : Space -> Prop
  /-- From bounds, bits and perhaps an interleave. -/
  | make {low high : List Double} {bits : List UInt32} {interleave : Option (List Nat)}
      {space : Space} (made : Space.make low high bits interleave = .ok space) : Made space
  /-- The latitude and the longitude with their default bits. -/
  | latLon : Made latLon
  /-- The latitude and the longitude with given bits. -/
  | latLonWithBits {latitude longitude : UInt32} {space : Space}
      (made : Space.latLonWithBits latitude longitude = .ok space) : Made space
  /-- From settings. -/
  | settings {settings : SpatialSettings} {space : Space}
      (made : settings.space = .ok space) : Made space

/-- Whether words of 32 bits hold what is counted of a space. -/
structure Counted (space : Space) : Prop where
  /-- They hold how many bits there are in all. -/
  bits : sumOfBits (Words.numbers space.bits) < 2 ^ 32
  /-- They hold how long the interleave is. -/
  interleave : space.interleave.length < 2 ^ 32

/-- Whether a space has what its z-values rest on. -/
structure Sound (space : Space) : Prop where
  /-- The interleave takes every bit once. -/
  exhausts : Exhausts space.interleave (Words.numbers space.bits)
  /-- The bits fit beside the sign and their number. -/
  fits : sumOfBits (Words.numbers space.bits) ≤ maxBits.toNat

/-- A pattern that passes the check names each dimension once for each of its bits,
unless it is too long for its counts. -/
theorem exhausts_of_checkInterleave
    {bits : List UInt32}
    {pattern : List Nat}
    (checked : checkInterleave bits pattern = .ok ())
    (short : pattern.length < 2 ^ 32) :
    Exhausts pattern (Words.numbers bits) := by
  unfold checkInterleave at checked
  split at checked
  · simp at checked
  · next named =>
      split at checked
      · next counted =>
          intro dimension
          rw [Words.numbers, List.getElem?_map]
          by_cases inside : dimension < bits.length
          · have count := congrArg (fun counts => counts[dimension]?) counted
            simp only [uses, List.getElem?_map, List.getElem?_range inside, Option.map_some]
              at count
            have held : pattern.count dimension < 2 ^ 32 := List.count_le_length.trans_lt short
            rw [← count, Option.map_some, Option.getD_some, UInt32.toNat_ofNat_of_lt' held]
          · rw [List.getElem?_eq_none (not_lt.mp inside), Option.map_none, Option.getD_none,
              List.count_eq_zero]
            intro present
            simpa [inside] using List.find?_eq_none.mp named dimension present
      · simp at checked

/-- What a space that is made of bounds and bits has: its bits by the word that they are
counted in, and an interleave that was counted or in which the dimensions take turns. -/
theorem counts_of_make
    {low high : List Double}
    {bits : List UInt32}
    {interleave : Option (List Nat)}
    {space : Space}
    (made : make low high bits interleave = .ok space) :
    space.totalBits ≤ maxBits ∧
      (space.interleave = defaultInterleave space.bits ∨
        checkInterleave space.bits space.interleave = .ok ()) := by
  unfold make at made
  dsimp only at made
  split at made
  · simp at made
  · obtain ⟨_, _, made⟩ := bind_eq_ok.mp made
    split at made
    · simp at made
    · next fits =>
        have fits := UInt32.not_lt.mp fits
        split at made
        · obtain rfl := Except.ok.inj made
          exact ⟨fits, .inl rfl⟩
        · obtain ⟨_, checked, made⟩ := bind_eq_ok.mp made
          obtain rfl := Except.ok.inj made
          exact ⟨fits, .inr checked⟩

/-- However a space is set up, the word that its bits are counted in is small, and its
interleave was counted or is the default one. -/
theorem Made.counts
    {space : Space}
    (made : space.Made) :
    space.totalBits ≤ maxBits ∧
      (space.interleave = defaultInterleave space.bits ∨
        checkInterleave space.bits space.interleave = .ok ()) := by
  cases made with
  | make made => exact counts_of_make made
  | latLon => exact ⟨by decide, .inl rfl⟩
  | latLonWithBits made => exact counts_of_make made
  | settings made =>
      rw [SpatialSettings.space] at made
      exact counts_of_make made

/-- A space takes every bit once and has room for all exactly if words hold what is
counted of it. -/
theorem Made.sound_iff
    {space : Space}
    (made : space.Made) :
    space.Sound ↔ space.Counted := by
  obtain ⟨fits, interleaved⟩ := made.counts
  constructor
  · intro sound
    have small : sumOfBits (Words.numbers space.bits) ≤ 57 := sound.fits
    exact ⟨by omega, by rw [sound.exhausts.length_eq]; omega⟩
  · intro counted
    constructor
    · rcases interleaved with turns | checked
      · rw [turns]
        exact exhausts_defaultInterleave counted.bits
      · exact exhausts_of_checkInterleave checked counted.interleave
    · rw [← Nat.mod_eq_of_lt counted.bits, ← toNat_total]
      exact UInt32.le_iff_toNat_le.mp fits

/-- Where words hold what is counted, every space that can be set up takes every bit once
and has room for all. -/
theorem Made.sound
    {space : Space}
    (made : space.Made)
    (counted : space.Counted) :
    space.Sound :=
  made.sound_iff.mpr counted

end Space
end Keyspace
