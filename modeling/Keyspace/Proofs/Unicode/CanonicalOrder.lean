import Keyspace.Unicode.Decomposition
import Mathlib.Data.List.SplitBy
import Mathlib.Data.List.TakeWhile
import Mathlib.Tactic.Common

/-!
# What canonical order leaves in front

Canonical order moves no character past one of class zero, so it works on each run
of marks by itself.  Within a run it keeps marks of one class in their order.  Hence
a character put in front of a text stays there, unless the text leads with a mark of
a lesser class that is not zero.
-/

namespace Keyspace
namespace Decomposition

/-- Whether canonical order may move a character. -/
def isMovable (character : Char) : Bool :=
  combiningClass character != 0

/-- Whether a character stands before another in a run, as far as classes go. -/
def classLe (first second : Char) : Bool :=
  decide (combiningClass first ≤ combiningClass second)

/-- The class of the character that a text leads with; an empty text leads with
none. -/
def leadingClass (characters : List Char) : Nat :=
  (characters.head?.map combiningClass).getD 0

/-- The class of the character that a text closes with. -/
def closingClass (characters : List Char) : Nat :=
  (characters.getLast?.map combiningClass).getD 0

/-- Whether a text, written behind a character of a class, leads with a mark that
canonical order moves in front of that character. -/
def Overtakes (characters : List Char) (closing : Nat) : Prop :=
  leadingClass characters ≠ 0 ∧ leadingClass characters < closing

instance (characters : List Char) (closing : Nat) : Decidable (Overtakes characters closing) :=
  inferInstanceAs (Decidable (_ ∧ _))

/-! ## Runs -/

/-- A run ends where a character stands that canonical order does not move. -/
theorem runs_append
    {run rest : List Char}
    (nonempty : run ≠ [])
    (movable : ∀ character ∈ run.tail, isMovable character)
    (stops : ∀ character ∈ rest.head?, isMovable character = false) :
    runs (run ++ rest) = run.map classed :: runs rest := by
  have chained : (run.map classed).IsChain fun _ next => (next.2 != 0) = true := by
    obtain ⟨first, others, rfl⟩ := List.exists_cons_of_ne_nil nonempty
    rw [List.tail_cons] at movable
    clear nonempty
    induction others generalizing first with
    | nil => exact List.isChain_singleton _
    | cons second others inductionHypothesis =>
        obtain ⟨secondMovable, othersMovable⟩ := List.forall_mem_cons.mp movable
        exact List.isChain_cons_cons.mpr
          ⟨secondMovable, inductionHypothesis second othersMovable⟩
  have separate : ∀ last ∈ (run.map classed).getLast?, ∀ next ∈ (rest.map classed).head?,
      (next.2 != 0) = false := by
    intro last _ next leads
    rw [List.head?_map, Option.mem_def, Option.map_eq_some_iff] at leads
    obtain ⟨character, leads, rfl⟩ := leads
    exact stops character leads
  rw [runs, List.map_append, List.splitBy_append separate,
    List.splitBy_of_isChain (by simpa using nonempty) chained]
  rfl

/-- Canonical order sorts the first run by classes and goes on behind it. -/
theorem canonicalOrder_append
    {run rest : List Char}
    (movable : ∀ character ∈ run.tail, isMovable character)
    (stops : ∀ character ∈ rest.head?, isMovable character = false) :
    canonicalOrder (run ++ rest) = run.mergeSort classLe ++ canonicalOrder rest := by
  rcases List.eq_nil_or_concat' run with rfl | ⟨before, last, rfl⟩
  · simp
  · have sorted : ((before ++ [last]).map classed).mergeSort
        (fun first second => decide (first.2 ≤ second.2)) =
          ((before ++ [last]).mergeSort classLe).map classed :=
      (List.map_mergeSort (r := classLe) (f := classed) fun _ _ _ _ => rfl).symm
    have unclassed : ∀ characters : List Char,
        (characters.map classed).map Prod.fst = characters := by
      intro characters
      rw [List.map_map]
      exact List.map_id characters
    rw [canonicalOrder, runs_append (by simp) movable stops, List.flatMap_cons, sorted,
      List.map_append, unclassed]
    rfl

theorem canonicalOrder_singleton
    (character : Char) :
    canonicalOrder [character] = [character] := by
  have alone : canonicalOrder ([character] ++ []) = [character].mergeSort classLe ++ [] :=
    canonicalOrder_append (by simp) (by simp)
  rwa [List.append_nil, List.append_nil, List.mergeSort_singleton] at alone

/-- No mark comes behind the marks that a text leads with. -/
theorem stops_dropWhile
    (characters : List Char) :
    ∀ character ∈ (characters.dropWhile isMovable).head?, isMovable character = false := by
  intro character leads
  have refused := List.head?_dropWhile_not isMovable characters
  rw [Option.mem_def.mp leads] at refused
  exact refused

/-- Canonical order sorts the marks that a text leads with. -/
theorem canonicalOrder_eq
    (characters : List Char) :
    canonicalOrder characters =
      (characters.takeWhile isMovable).mergeSort classLe ++
        canonicalOrder (characters.dropWhile isMovable) := by
  rw [← canonicalOrder_append
    (fun _ present => List.mem_takeWhile_imp (List.mem_of_mem_tail present))
    (stops_dropWhile characters), List.takeWhile_append_dropWhile]

/-! ## The front of a text -/

theorem classLe_trans
    (first second third : Char)
    (low : classLe first second)
    (high : classLe second third) :
    classLe first third := by
  simp only [classLe, decide_eq_true_eq] at low high ⊢
  exact low.trans high

theorem classLe_total
    (first second : Char) :
    (classLe first second || classLe second first) = true := by
  simpa [classLe] using Nat.le_total (combiningClass first) (combiningClass second)

/-- A character of class zero stays in front. -/
theorem canonicalOrder_cons_of_class
    {first : Char}
    (zero : combiningClass first = 0)
    (rest : List Char) :
    canonicalOrder (first :: rest) = first :: canonicalOrder rest := by
  obtain ⟨before, behind, sorted, others, lesser⟩ :=
    List.mergeSort_cons classLe_trans classLe_total first (rest.takeWhile isMovable)
  have nothingBefore : before = [] := by
    refine List.eq_nil_iff_forall_not_mem.mpr fun character present => ?_
    simpa [classLe, zero] using lesser character present
  subst nothingBefore
  calc canonicalOrder (first :: rest)
    _ = canonicalOrder ((first :: rest.takeWhile isMovable) ++ rest.dropWhile isMovable) := by
        rw [List.cons_append, List.takeWhile_append_dropWhile]
    _ = (first :: rest.takeWhile isMovable).mergeSort classLe ++
          canonicalOrder (rest.dropWhile isMovable) :=
        canonicalOrder_append (fun _ => List.mem_takeWhile_imp) (stops_dropWhile rest)
    _ = first :: canonicalOrder rest := by
        rw [sorted, canonicalOrder_eq rest, others]
        rfl

/-- What stands behind the marks that a text leads with is of class zero. -/
theorem leadingClass_dropWhile
    (characters : List Char) :
    leadingClass (canonicalOrder (characters.dropWhile isMovable)) = 0 := by
  have stops := stops_dropWhile characters
  generalize characters.dropWhile isMovable = characters at stops ⊢
  cases characters with
  | nil => rfl
  | cons first rest =>
      have zero : combiningClass first = 0 := by simpa [isMovable] using stops first rfl
      rw [canonicalOrder_cons_of_class zero]
      exact zero

/-- A character put in front of a text stays in front unless it is overtaken. -/
theorem head?_canonicalOrder_cons
    (first : Char)
    (rest : List Char) :
    (canonicalOrder (first :: rest)).head? =
      if Overtakes (canonicalOrder rest) (combiningClass first) then (canonicalOrder rest).head?
      else some first := by
  by_cases zero : combiningClass first = 0
  · rw [canonicalOrder_cons_of_class zero, if_neg fun overtakes => ?_]
    · rfl
    · exact Nat.not_lt_zero _ (zero ▸ overtakes.2)
  have moves : isMovable first = true := by simpa [isMovable] using zero
  obtain ⟨before, behind, sorted, others, lesser⟩ :=
    List.mergeSort_cons classLe_trans classLe_total first (rest.takeWhile isMovable)
  rw [canonicalOrder_eq (first :: rest), canonicalOrder_eq rest, List.takeWhile_cons_of_pos moves,
    List.dropWhile_cons_of_pos moves, sorted, others]
  -- Sorting puts the character behind the marks of lesser classes.
  cases before with
  | cons mark before =>
      have present : mark ∈ rest.takeWhile isMovable := by
        refine List.mem_mergeSort.mp (?_ : mark ∈ (rest.takeWhile isMovable).mergeSort classLe)
        rw [others]
        exact List.mem_cons_self
      have less : combiningClass mark < combiningClass first := by
        simpa [classLe] using lesser mark List.mem_cons_self
      have movable : combiningClass mark ≠ 0 := by
        simpa [isMovable] using List.mem_takeWhile_imp present
      exact (if_pos ⟨movable, less⟩).symm
  | nil =>
      refine (if_neg ?_).symm
      rintro ⟨movable, less⟩
      have leads := List.pairwise_mergeSort classLe_trans classLe_total
        (first :: rest.takeWhile isMovable)
      rw [sorted, List.nil_append, List.pairwise_cons] at leads
      cases behind with
      | nil => exact movable (leadingClass_dropWhile rest)
      | cons mark behind =>
          have above : combiningClass first ≤ combiningClass mark := by
            simpa [classLe] using leads.1 mark List.mem_cons_self
          exact absurd less (Nat.not_lt.mpr above)

end Decomposition
end Keyspace
