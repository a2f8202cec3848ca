import Keyspace.Proofs.Spatial.Interleave

/-!
# Taking turns

In the interleave that the turns give, of two dimensions that both have bits left none
is ever ahead of the other by more than one bit, and none but the one with more bits, or
the earlier of two with as many.
-/

namespace Keyspace
namespace Space

/-! ## The order of the dimensions -/

/-- Whether one dimension has its turn before another: it has more bits, or as many
and stands before it. -/
def GoesFirst (bits : List Nat) (first second : Nat) : Prop :=
  bits[second]?.getD 0 < bits[first]?.getD 0 ∨
    bits[second]?.getD 0 = bits[first]?.getD 0 ∧ first < second

theorem GoesFirst.asymm
    {bits : List Nat}
    {first second : Nat}
    (goes : GoesFirst bits first second) :
    ¬ GoesFirst bits second first := by
  unfold GoesFirst at *
  omega

/-- A stable sort keeps the order of what it finds equal. -/
theorem pairwise_mergeSort_of_pairwise
    {α : Type}
    {le : α -> α -> Bool}
    {before : α -> α -> Prop}
    {items : List α}
    (trans : ∀ first second third, le first second -> le second third -> le first third)
    (total : ∀ first second, le first second || le second first)
    (ordered : items.Pairwise before) :
    (items.mergeSort le).Pairwise fun first second => le second first -> before first second := by
  induction items with
  | nil => simp
  | cons item items inductionHypothesis =>
      obtain ⟨ahead, others⟩ := List.pairwise_cons.mp ordered
      obtain ⟨left, right, sorted, rest, above⟩ := List.mergeSort_cons trans total item items
      have settled := inductionHypothesis others
      rw [rest] at settled
      obtain ⟨lefts, rights, across⟩ := List.pairwise_append.mp settled
      rw [sorted, List.pairwise_append, List.pairwise_cons]
      refine ⟨lefts, ⟨fun other present _ => ahead other ?_, rights⟩, ?_⟩
      · exact List.mem_mergeSort.mp (rest ▸ List.mem_append_right left present)
      · intro other present later among
        rcases List.mem_cons.mp among with rfl | behind
        · exact fun less => absurd (above other present) (by simp [less])
        · exact across other present later behind

theorem pairwise_byFallingBits
    (bits : List Nat) :
    (byFallingBits bits).Pairwise (GoesFirst bits) := by
  have trans : ∀ first second third : Nat × Nat, decide (second.1 ≤ first.1) = true ->
      decide (third.1 ≤ second.1) = true -> decide (third.1 ≤ first.1) = true := by
    simp only [decide_eq_true_eq]
    omega
  have total : ∀ first second : Nat × Nat,
      (decide (second.1 ≤ first.1) || decide (first.1 ≤ second.1)) = true := by
    simp only [Bool.or_eq_true, decide_eq_true_eq]
    omega
  have indices : bits.zipIdx.Pairwise fun first second => first.2 < second.2 := by
    rw [← List.pairwise_map, List.zipIdx_map_snd]
    exact List.pairwise_lt_range'
  have falling := List.pairwise_mergeSort trans total bits.zipIdx
  have stable := pairwise_mergeSort_of_pairwise trans total indices
  refine List.pairwise_map.mpr ((falling.and stable).imp_of_mem ?_)
  rintro ⟨firstBits, first⟩ ⟨secondBits, second⟩ firstPresent secondPresent ⟨less, tie⟩
  have firstStands := List.mem_zipIdx_iff_getElem?.mp (List.mem_mergeSort.mp firstPresent)
  have secondStands := List.mem_zipIdx_iff_getElem?.mp (List.mem_mergeSort.mp secondPresent)
  simp only [decide_eq_true_eq] at less tie firstStands secondStands
  simp only [GoesFirst, firstStands, secondStands, Option.getD_some]
  omega

/-! ## Prefixes -/

/-- A prefix of some rounds ends within one of them. -/
theorem exists_round_of_prefix
    {rounds : Nat}
    {round : Nat -> List Nat}
    {given : List Nat}
    (initial : given <+: (List.range rounds).flatMap round) :
    ∃ complete part, given = (List.range complete).flatMap round ++ part ∧
      part <+: round complete := by
  induction rounds with
  | zero =>
      obtain rfl : given = [] := List.prefix_nil.mp initial
      exact ⟨0, [], rfl, List.nil_prefix⟩
  | succ rounds inductionHypothesis =>
      rw [List.range_succ, List.flatMap_append, List.flatMap_singleton] at initial
      obtain ⟨rest, whole⟩ := initial
      rcases List.append_eq_append_iff.mp whole with ⟨more, before, _⟩ | ⟨part, same, last⟩
      · exact inductionHypothesis ⟨more, before.symm⟩
      · exact ⟨rounds, part, same, rest, last.symm⟩

/-- Whether dimensions take turns in a pattern: at every prefix, of two that have bits
left the one that goes first has given as many as the other or one more. -/
def TakesTurns (bits pattern : List Nat) : Prop :=
  ∀ given, given <+: pattern -> ∀ first second, GoesFirst bits first second ->
    given.count first < bits[first]?.getD 0 -> given.count second < bits[second]?.getD 0 ->
      given.count second ≤ given.count first ∧ given.count first ≤ given.count second + 1

/-- Within a round the dimension that goes first has given its bit if the other has. -/
theorem count_le_count_of_prefix_round
    {bits part : List Nat}
    {round first second : Nat}
    (initial : part <+: interleaveRound bits round)
    (goes : GoesFirst bits first second)
    (gives : round < bits[first]?.getD 0) :
    part.count second ≤ part.count first := by
  obtain ⟨rest, whole⟩ := initial
  have ordered : (interleaveRound bits round).Pairwise (GoesFirst bits) :=
    (pairwise_byFallingBits bits).sublist List.filter_sublist
  rw [← whole, List.pairwise_append] at ordered
  have firstCount := count_interleaveRound bits round first
  have secondCount := count_interleaveRound bits round second
  rw [← whole, List.count_append] at firstCount secondCount
  by_cases present : second ∈ part
  · have firstPresent : first ∈ part := by
      by_contra absent
      have behind : first ∈ rest := by
        rw [← List.count_pos_iff]
        rw [List.count_eq_zero.mpr absent, if_pos gives] at firstCount
        omega
      exact goes.asymm (ordered.2.2 second present first behind)
    have := List.count_pos_iff.mpr firstPresent
    split at secondCount <;> omega
  · rw [List.count_eq_zero.mpr present]
    exact Nat.zero_le _

theorem TakesTurns.of_initial
    {bits pattern whole : List Nat}
    (takes : TakesTurns bits whole)
    (initial : pattern <+: whole) :
    TakesTurns bits pattern :=
  fun given start => takes given (start.trans initial)

theorem takesTurns_inRounds
    (bits : List Nat)
    (rounds : Nat) :
    TakesTurns bits (inRounds bits rounds) := by
  intro given initial first second goes firstLeft secondLeft
  obtain ⟨complete, part, rfl, within⟩ := exists_round_of_prefix initial
  rw [← inRounds] at firstLeft secondLeft ⊢
  have ordered := count_le_count_of_prefix_round within goes
  have once := (within.sublist.count_le first).trans_eq
    (count_interleaveRound bits complete first)
  simp only [List.count_append, count_rounds] at firstLeft secondLeft ⊢
  split at once <;> omega

/-! ## Given patterns -/

/-- A pattern that names each dimension once for each of its bits passes the check. -/
theorem checkInterleave_of_exhausts
    {bits : List UInt32}
    {pattern : List Nat}
    (exhausts : Exhausts pattern (Words.numbers bits)) :
    checkInterleave bits pattern = .ok () := by
  have counts : ∀ dimension, pattern.count dimension =
      (bits[dimension]?.map UInt32.toNat).getD 0 := by
    intro dimension
    rw [exhausts dimension, Words.numbers, List.getElem?_map]
  have named : pattern.find? (fun dimension => decide (bits.length ≤ dimension)) = none := by
    rw [List.find?_eq_none]
    intro dimension present
    have count := counts dimension
    have given := List.count_pos_iff.mpr present
    rw [decide_eq_true_eq, not_le]
    by_contra outside
    rw [List.getElem?_eq_none (not_lt.mp outside)] at count
    simp only [Option.map_none, Option.getD_none] at count
    omega
  have counted : uses bits.length pattern = bits := by
    refine List.ext_getElem (by simp [uses]) fun dimension _ inside => ?_
    simp [uses, counts dimension, List.getElem?_eq_getElem inside]
  rw [checkInterleave, named]
  simp only [counted, if_true]

/-- To give a space its default interleave is to give it none. -/
theorem make_of_checkInterleave
    {bits : List UInt32}
    (checked : checkInterleave bits (defaultInterleave bits) = .ok ())
    (low high : List Double) :
    make low high bits (some (defaultInterleave bits)) = make low high bits none := by
  simp only [make, checked]
  rfl

/-- The turns end whatever bits are given, with the default interleave, and the dimensions
take turns in it.  Where the bits add up to less than a word holds it names each dimension
once for each of its bits, and a space takes it as a given one. -/
theorem interleaveByTurns_takes_turns
    (bits : List UInt32) :
    ∃ pattern, interleaveByTurns bits = some pattern ∧ pattern = defaultInterleave bits ∧
      TakesTurns (Words.numbers bits) pattern ∧
      (sumOfBits (Words.numbers bits) < 2 ^ 32 ->
        Exhausts pattern (Words.numbers bits) ∧ checkInterleave bits pattern = .ok () ∧
          ∀ low high, make low high bits (some pattern) = make low high bits none) := by
  have turns := (takesTurns_inRounds (Words.numbers bits) _).of_initial
    (defaultInterleave_initial bits)
  refine ⟨defaultInterleave bits, interleaveByTurns_eq bits, rfl, turns, fun counted => ?_⟩
  have exhausts := exhausts_defaultInterleave counted
  have checked := checkInterleave_of_exhausts exhausts
  exact ⟨exhausts, checked, make_of_checkInterleave checked⟩

/-- Three dimensions of uneven bits. -/
theorem interleaveByTurns_takes_turns_uneven :
    ∃ pattern, interleaveByTurns [2, 1, 3] = some pattern ∧ TakesTurns [2, 1, 3] pattern ∧
      Exhausts pattern [2, 1, 3] ∧ checkInterleave [2, 1, 3] pattern = .ok () := by
  obtain ⟨pattern, ends, _, turns, counted⟩ := interleaveByTurns_takes_turns [2, 1, 3]
  obtain ⟨exhausts, checked, _⟩ := counted (by decide)
  exact ⟨pattern, ends, turns, exhausts, checked⟩

example : defaultInterleave [2, 1, 3] = [2, 0, 1, 2, 0, 2] := by cbv

end Space
end Keyspace
