import Keyspace.Proofs.Traversal
import Keyspace.Spatial.Turns
import Mathlib.Algebra.GroupWithZero.Nat
import Mathlib.Algebra.Order.BigOperators.Group.List
import Mathlib.Tactic.Common

/-!
# Passes over the dimensions

The passes of the turns end, whatever bits are given, with the interleave that names
each dimension in the rounds that it has bits for.  It uses every bit once where the
sum of all bits fits a word; a sum that does not stops the passes early.
-/

namespace Keyspace
namespace Space

/-- Whether a pattern names each dimension as often as it has bits left, and no
other. -/
def Exhausts (pattern remaining : List Nat) : Prop :=
  ∀ dimension, pattern.count dimension = remaining[dimension]?.getD 0

/-! ## Counting down -/

/-- How many bits there are together, as a number. -/
def sumOfBits (bits : List Nat) : Nat :=
  bits.foldr Nat.add 0

theorem sumOfBits_cons
    (first : Nat)
    (bits : List Nat) :
    sumOfBits (first :: bits) = first + sumOfBits bits :=
  rfl

/-- A bit that is taken leaves one bit less in all. -/
theorem sumOfBits_set
    {remaining : List Nat}
    {dimension left : Nat}
    (stands : remaining[dimension]? = some (left + 1)) :
    sumOfBits remaining = sumOfBits (remaining.set dimension left) + 1 := by
  induction remaining generalizing dimension with
  | nil => simp at stands
  | cons first remaining inductionHypothesis =>
      cases dimension with
      | zero =>
          obtain rfl : first = left + 1 := by simpa using stands
          rw [List.set_cons_zero, sumOfBits_cons, sumOfBits_cons]
          omega
      | succ dimension =>
          have rest := inductionHypothesis (by simpa using stands)
          rw [List.set_cons_succ, sumOfBits_cons, sumOfBits_cons, rest]
          omega

theorem sumOfBits_eq_zero
    {remaining : List Nat}
    (none : ∀ bits ∈ remaining, bits = 0) :
    sumOfBits remaining = 0 := by
  rw [List.eq_replicate_of_mem none]
  induction remaining.length with
  | zero => rfl
  | succ length inductionHypothesis =>
      rw [List.replicate_succ, sumOfBits_cons, inductionHypothesis]

/-- The dimension that comes first has a bit left, and the others of the pattern
exhaust what is left after it. -/
theorem Exhausts.step
    {dimension : Nat}
    {pattern remaining : List Nat}
    (exhausts : Exhausts (dimension :: pattern) remaining) :
    ∃ left, remaining[dimension]? = some (left + 1) ∧
      Exhausts pattern (remaining.set dimension left) := by
  have count := exhausts dimension
  rw [List.count_cons_self] at count
  cases stands : remaining[dimension]? with
  | none => simp [stands] at count
  | some bits =>
      obtain rfl : bits = pattern.count dimension + 1 := by simpa [stands] using count.symm
      refine ⟨_, rfl, fun other => ?_⟩
      have inside : dimension < remaining.length := (List.getElem?_eq_some_iff.mp stands).1
      by_cases same : dimension = other
      · subst same
        rw [List.getElem?_set_self inside, Option.getD_some]
      · have others := exhausts other
        rw [List.count_cons_of_ne same] at others
        rw [List.getElem?_set_ne same, others]

/-- A pattern is as long as there are bits. -/
theorem Exhausts.length_eq
    {pattern remaining : List Nat}
    (exhausts : Exhausts pattern remaining) :
    pattern.length = sumOfBits remaining := by
  induction pattern generalizing remaining with
  | nil =>
      refine (sumOfBits_eq_zero fun bits present => ?_).symm
      obtain ⟨dimension, stands⟩ := List.mem_iff_getElem?.mp present
      simpa [stands] using (exhausts dimension).symm
  | cons dimension pattern inductionHypothesis =>
      obtain ⟨left, stands, rest⟩ := exhausts.step
      rw [List.length_cons, inductionHypothesis rest, sumOfBits_set stands]

/-- The sum of words is that of their numbers, as far as a word holds it. -/
theorem toNat_total
    (bits : List UInt32) :
    (Words.total bits).toNat = sumOfBits (Words.numbers bits) % 2 ^ 32 := by
  have onto : ∀ start : UInt32, (bits.foldl (· + ·) start).toNat =
      (start.toNat + sumOfBits (Words.numbers bits)) % 2 ^ 32 := by
    induction bits with
    | nil => exact fun start => (Nat.mod_eq_of_lt start.toNat_lt).symm
    | cons first bits inductionHypothesis =>
        intro start
        have numbers : sumOfBits (Words.numbers (first :: bits)) =
            first.toNat + sumOfBits (Words.numbers bits) := rfl
        rw [List.foldl_cons, inductionHypothesis, UInt32.toNat_add, Nat.mod_add_mod, numbers,
          Nat.add_assoc]
  rw [Words.total, onto, UInt32.toNat_zero, Nat.zero_add]

/-! ## Rounds -/

/-- One round: every dimension that had bits left before the round gives
one. -/
def interleaveRound (bits : List Nat) (round : Nat) : List Nat :=
  (byFallingBits bits).filter fun dimension => decide (round < bits[dimension]?.getD 0)

/-- The interleave of some rounds, one after the other. -/
def inRounds (bits : List Nat) (rounds : Nat) : List Nat :=
  (List.range rounds).flatMap (interleaveRound bits)

/-- The number of rounds in which no dimension is left without its turn. -/
def wholeRounds (bits : List Nat) : Nat :=
  bits.foldl max 0

theorem perm_byFallingBits
    (bits : List Nat) :
    (byFallingBits bits).Perm (List.range bits.length) := by
  rw [List.range_eq_range', ← List.zipIdx_map_snd 0 bits]
  exact (List.mergeSort_perm _ _).map Prod.snd

theorem count_byFallingBits
    (bits : List Nat)
    (dimension : Nat) :
    (byFallingBits bits).count dimension = if dimension < bits.length then 1 else 0 := by
  rw [(perm_byFallingBits bits).count_eq, List.count_range]

/-- A dimension gives one bit in each round that it has a bit left for. -/
theorem count_interleaveRound
    (bits : List Nat)
    (round dimension : Nat) :
    (interleaveRound bits round).count dimension =
      if round < bits[dimension]?.getD 0 then 1 else 0 := by
  unfold interleaveRound
  split
  · next gives =>
      have inside : dimension < bits.length := by
        by_contra outside
        simp [List.getElem?_eq_none (not_lt.mp outside)] at gives
      rw [List.count_filter (by simpa using gives), count_byFallingBits, if_pos inside]
  · next gives => simpa [List.count_eq_zero] using fun _ => gives

theorem sum_rounds
    (rounds bits : Nat) :
    ((List.range rounds).map fun round => if round < bits then 1 else 0).sum =
      min rounds bits := by
  induction rounds with
  | zero => simp
  | succ rounds inductionHypothesis =>
      rw [List.range_succ, List.map_append, List.sum_append, inductionHypothesis,
        List.map_singleton, List.sum_singleton]
      split <;> omega

/-- In some rounds a dimension gives a bit for each of them, or all its bits. -/
theorem count_rounds
    (bits : List Nat)
    (rounds dimension : Nat) :
    (inRounds bits rounds).count dimension =
      min rounds (bits[dimension]?.getD 0) := by
  have round : List.count dimension ∘ interleaveRound bits =
      fun round => if round < bits[dimension]?.getD 0 then 1 else 0 :=
    funext fun round => count_interleaveRound bits round dimension
  rw [inRounds, List.count_flatMap, round, sum_rounds]

theorem le_foldl_max
    (bits : List Nat)
    (start : Nat) :
    start ≤ bits.foldl max start ∧ ∀ number ∈ bits, number ≤ bits.foldl max start := by
  induction bits generalizing start with
  | nil => simp
  | cons first bits inductionHypothesis =>
      obtain ⟨greater, others⟩ := inductionHypothesis (max start first)
      exact ⟨(le_max_left start first).trans greater,
        List.forall_mem_cons.mpr ⟨(le_max_right start first).trans greater, others⟩⟩

theorem nodup_byFallingBits
    (bits : List Nat) :
    (byFallingBits bits).Nodup :=
  (perm_byFallingBits bits).nodup_iff.mpr List.nodup_range

/-! ## Passes -/

namespace Turns

variable {turns : Turns} {order : List Nat}

/-- A pass that gives no bit changes nothing. -/
theorem pass_eq_or_length_lt
    (order : List Nat)
    (turns : Turns) :
    turns.pass order = turns ∨ turns.pattern.length < (turns.pass order).pattern.length := by
  induction order generalizing turns with
  | nil => exact .inl rfl
  | cons first order inductionHypothesis =>
      rw [pass, List.foldl_cons, ← pass, turn]
      split
      · right
        rcases inductionHypothesis ⟨turns.remaining.set first
          (turns.remaining[first]?.getD 0 - 1), turns.pattern ++ [first]⟩ with same | longer
        · simp [same]
        · exact Nat.lt_trans (by simp) longer
      · exact inductionHypothesis turns

/-- The passes answer nothing exactly if they never end. -/
theorem passUntil_eq_none_iff
    (order : List Nat)
    (total : Nat)
    (turns : Turns) :
    passUntil order total turns = none ↔
      ∀ passes, ((fun turns => pass turns order)^[passes] turns).pattern.length < total := by
  fun_induction passUntil order total turns with
  | case1 turns short longer inductionHypothesis =>
      rw [inductionHypothesis]
      constructor
      · rintro never (_ | passes)
        · exact short
        · exact never passes
      · exact fun never passes => never (passes + 1)
  | case2 turns short stuck =>
      have same : turns.pass order = turns := (pass_eq_or_length_lt _ turns).resolve_right stuck
      refine iff_of_true rfl fun passes => ?_
      rwa [Function.iterate_fixed same]
  | case3 turns enough =>
      exact iff_of_false (by simp) fun never => enough (never 0)

theorem remaining_turn
    (turns : Turns)
    (dimension other : Nat) :
    (turns.turn dimension).remaining[other]?.getD 0 =
      turns.remaining[other]?.getD 0 - if dimension = other then 1 else 0 := by
  by_cases gives : 0 < turns.remaining[dimension]?.getD 0
  · simp only [turn, gives, if_true]
    by_cases same : dimension = other
    · subst same
      have inside : dimension < turns.remaining.length := by
        by_contra outside
        rw [List.getElem?_eq_none (not_lt.mp outside)] at gives
        simp at gives
      rw [List.getElem?_set_self inside, Option.getD_some, if_pos rfl]
    · rw [List.getElem?_set_ne same, if_neg same, Nat.sub_zero]
  · simp only [turn, gives, if_false]
    by_cases same : dimension = other
    · subst same
      omega
    · rw [if_neg same, Nat.sub_zero]

theorem remaining_pass
    (nodup : order.Nodup)
    (dimension : Nat) :
    (turns.pass order).remaining[dimension]?.getD 0 =
      turns.remaining[dimension]?.getD 0 - if dimension ∈ order then 1 else 0 := by
  induction order generalizing turns with
  | nil => rfl
  | cons first order inductionHypothesis =>
      obtain ⟨fresh, others⟩ := List.nodup_cons.mp nodup
      rw [pass, List.foldl_cons, ← pass, inductionHypothesis others, remaining_turn]
      by_cases same : first = dimension
      · subst same
        simp [fresh]
      · simp [same, Ne.symm same]

theorem pattern_pass
    (nodup : order.Nodup) :
    (turns.pass order).pattern = turns.pattern ++
      order.filter fun dimension => decide (0 < turns.remaining[dimension]?.getD 0) := by
  induction order generalizing turns with
  | nil => simp [pass]
  | cons first order inductionHypothesis =>
      obtain ⟨fresh, others⟩ := List.nodup_cons.mp nodup
      have unchanged : ∀ dimension ∈ order,
          decide (0 < (turns.turn first).remaining[dimension]?.getD 0) =
            decide (0 < turns.remaining[dimension]?.getD 0) := by
        intro dimension present
        have other : first ≠ dimension := fun same => fresh (same ▸ present)
        rw [remaining_turn, if_neg other, Nat.sub_zero]
      rw [pass, List.foldl_cons, ← pass, inductionHypothesis others,
        List.filter_congr unchanged, List.filter_cons, turn]
      split <;> simp [*]

/-- Whether some passes have been made: each dimension has given a bit in every one
that it had a bit left for. -/
structure After (bits : List Nat) (passes : Nat) (turns : Turns) : Prop where
  /-- What is given. -/
  pattern : turns.pattern = inRounds bits passes
  /-- What is left. -/
  remaining : ∀ dimension : Nat,
    turns.remaining[dimension]?.getD 0 = bits[dimension]?.getD 0 - passes

theorem after_start
    (bits : List Nat) :
    (start bits).After bits 0 :=
  ⟨rfl, fun _ => rfl⟩

/-- One more pass is one more round. -/
theorem After.pass
    {bits : List Nat}
    {passes : Nat}
    (after : turns.After bits passes) :
    (turns.pass (byFallingBits bits)).After bits (passes + 1) := by
  have nodup := nodup_byFallingBits bits
  constructor
  · have round : interleaveRound bits passes =
        (byFallingBits bits).filter fun dimension =>
          decide (0 < turns.remaining[dimension]?.getD 0) := by
      refine List.filter_congr fun dimension _ => ?_
      rw [after.remaining, decide_eq_decide, Nat.sub_pos_iff_lt]
    rw [pattern_pass nodup, after.pattern, inRounds, inRounds, List.range_succ, List.flatMap_append,
      List.flatMap_singleton, round]
  · intro dimension
    rw [remaining_pass nodup, after.remaining]
    split
    · rw [Nat.sub_sub]
    · next absent =>
        have outside : bits.length ≤ dimension := by
          simpa [(perm_byFallingBits bits).mem_iff] using absent
        simp [List.getElem?_eq_none outside]

/-- Where a pass gives no bit all rounds that are still to come are empty. -/
theorem After.add_of_pass_eq
    {bits : List Nat}
    {passes : Nat}
    (after : turns.After bits passes)
    (same : turns.pass (byFallingBits bits) = turns)
    (further : Nat) :
    turns.After bits (passes + further) := by
  induction further with
  | zero => exact after
  | succ further inductionHypothesis => exact same ▸ inductionHypothesis.pass

/-- The passes end with some of the rounds that the dimensions have bits for. -/
theorem After.exists_passUntil_eq
    {bits : List Nat}
    {passes total : Nat}
    (after : turns.After bits passes)
    (within : passes ≤ wholeRounds bits)
    (enough : total ≤ (inRounds bits (wholeRounds bits)).length) :
    ∃ rounds, rounds ≤ wholeRounds bits ∧ total ≤ (inRounds bits rounds).length ∧
      passUntil (byFallingBits bits) total turns = some (inRounds bits rounds) := by
  obtain ⟨further, bound⟩ := Nat.exists_eq_add_of_le within
  -- the passes that can still come are counted down
  induction further generalizing passes turns with
  | zero =>
      have last : passes = wholeRounds bits := bound.symm
      refine ⟨_, le_rfl, enough, ?_⟩
      rw [passUntil, after.pattern, last, if_neg (Nat.not_lt.mpr enough)]
  | succ further inductionHypothesis =>
      rw [passUntil]
      split
      · next short =>
          have longer : turns.pattern.length <
              (turns.pass (byFallingBits bits)).pattern.length := by
            by_contra stuck
            have same := (pass_eq_or_length_lt _ turns).resolve_right stuck
            have last := after.add_of_pass_eq same (further + 1)
            rw [← bound] at last
            rw [last.pattern] at short
            exact absurd enough (Nat.not_le.mpr short)
          rw [if_pos longer]
          exact inductionHypothesis after.pass (by omega) (by omega)
      · next done =>
          rw [after.pattern] at done ⊢
          exact ⟨passes, within, Nat.not_lt.mp done, rfl⟩

end Turns

/-! ## The default interleave -/

/-- All rounds name each dimension once for each of its bits. -/
theorem exhausts_inRounds
    (bits : List Nat) :
    Exhausts (inRounds bits (wholeRounds bits)) bits := by
  intro dimension
  have rounds : bits[dimension]?.getD 0 ≤ wholeRounds bits := by
    cases stands : bits[dimension]? with
    | none => exact Nat.zero_le _
    | some number => exact (le_foldl_max bits 0).2 number (List.mem_of_getElem? stands)
  rw [count_rounds, min_eq_right rounds]

/-- Fewer rounds are the start of more. -/
theorem inRounds_initial
    (bits : List Nat)
    {fewer more : Nat}
    (within : fewer ≤ more) :
    inRounds bits fewer <+: inRounds bits more := by
  obtain ⟨further, rfl⟩ := Nat.exists_eq_add_of_le within
  rw [inRounds, inRounds, List.range_add, List.flatMap_append]
  exact List.prefix_append _ _

/-- The turns end with some of the rounds that the dimensions have bits for, so that as
many bits are given as the word says that they add up to. -/
theorem exists_interleaveByTurns_eq
    (bits : List UInt32) :
    ∃ rounds, rounds ≤ wholeRounds (Words.numbers bits) ∧
      (Words.total bits).toNat ≤ (inRounds (Words.numbers bits) rounds).length ∧
      interleaveByTurns bits = some (inRounds (Words.numbers bits) rounds) := by
  refine (Turns.after_start _).exists_passUntil_eq (Nat.zero_le _) ?_
  rw [(exhausts_inRounds _).length_eq, toNat_total]
  exact Nat.mod_le _ _

theorem interleaveByTurns_eq
    (bits : List UInt32) :
    interleaveByTurns bits = some (defaultInterleave bits) := by
  obtain ⟨_, _, _, ends⟩ := exists_interleaveByTurns_eq bits
  rw [defaultInterleave, ends, Option.getD_some]

/-- The default interleave is the start of all rounds. -/
theorem defaultInterleave_initial
    (bits : List UInt32) :
    defaultInterleave bits <+:
      inRounds (Words.numbers bits) (wholeRounds (Words.numbers bits)) := by
  obtain ⟨rounds, within, _, ends⟩ := exists_interleaveByTurns_eq bits
  rw [defaultInterleave, ends, Option.getD_some]
  exact inRounds_initial _ within

/-- Where a word holds the sum of all bits the default interleave names each dimension
once for each of its bits. -/
theorem exhausts_defaultInterleave
    {bits : List UInt32}
    (counted : sumOfBits (Words.numbers bits) < 2 ^ 32) :
    Exhausts (defaultInterleave bits) (Words.numbers bits) := by
  have whole := exhausts_inRounds (Words.numbers bits)
  obtain ⟨rounds, _, enough, ends⟩ := exists_interleaveByTurns_eq bits
  have given : defaultInterleave bits = inRounds (Words.numbers bits) rounds := by
    rw [defaultInterleave, ends, Option.getD_some]
  have long : (inRounds (Words.numbers bits) (wholeRounds (Words.numbers bits))).length ≤
      (defaultInterleave bits).length := by
    rwa [whole.length_eq, given, ← Nat.mod_eq_of_lt counted, ← toNat_total]
  rw [(defaultInterleave_initial bits).eq_of_length_le long]
  exact whole

end Space
end Keyspace
