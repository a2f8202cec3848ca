import Keyspace.Collation.Recipe
import Mathlib.Data.List.TakeWhile
import Mathlib.Tactic.Common

/-!
# Texts as letters

A decomposed text falls into units, each a character with the run of marks behind
it, and folding turns a unit into letters.  The weights of a text are those of its
letters, level by level: one primary weight a letter, its accents closed by an end,
and one case flag.
-/

namespace Keyspace

/-- What a letter weighs on each level. -/
structure Letter where
  /-- The weight of the letter itself. -/
  primary : Nat
  /-- The weights of its accents. -/
  accents : List Nat
  /-- One for a capital. -/
  case : Nat
  deriving DecidableEq, Repr

/-- The weights of letters. -/
def Weights.ofLetters (letters : List Letter) : Weights where
  primary := letters.map (·.primary)
  secondary := letters.flatMap fun letter => letter.accents ++ [unitEnd]
  tertiary := letters.map (·.case)

/-- Characters with the marks that follow each.  A mark that follows no character
stands by itself. -/
def units : List Char -> List (Char × List Char)
  | [] => []
  | character :: rest =>
      if isMark character then (character, []) :: units rest
      else (character, rest.takeWhile isMark) :: units (rest.dropWhile isMark)
termination_by characters => characters.length
decreasing_by
  · exact Nat.lt_succ_self _
  · exact Nat.lt_succ_of_le (List.dropWhile_sublist isMark).length_le

namespace Recipe

/-- The letters of a unit.  The marks belong to the first letter, except one that
makes it a letter of its own. -/
def unitLetters
    (recipe : Recipe)
    (data : CharacterData)
    (unit : Char × List Char) : List Letter :=
  if isMark unit.1 then [⟨primaryWeight unit.1, [], 0⟩]
  else
    let case := if data.isUpper unit.1 then 1 else 0
    let folded := data.fold unit.1
    let (weight, marks) := recipe.baseWeight (folded.head?.getD unit.1) unit.2
    ⟨weight, marks.map markWeight, case⟩ ::
      (folded.drop 1).map fun added => ⟨recipe.letterWeight added, [], case⟩

/-- The letters of a text. -/
def letters (recipe : Recipe) (data : CharacterData) (text : String) : List Letter :=
  (units (data.decompose text)).flatMap (recipe.unitLetters data)

end Recipe

/-! ## Weights letter by letter -/

theorem Weights.ofLetters_append
    (left right : List Letter) :
    Weights.ofLetters (left ++ right) =
      (Weights.ofLetters left).append (Weights.ofLetters right) := by
  simp [Weights.ofLetters, Weights.append]

namespace Recipe

variable (recipe : Recipe) (data : CharacterData)

theorem strayWeights_eq
    {mark : Char}
    (isStray : isMark mark = true) :
    strayWeights mark = Weights.ofLetters (recipe.unitLetters data (mark, [])) := by
  simp [strayWeights, unitLetters, isStray, Weights.ofLetters]

theorem unitWeights_eq
    {character : Char}
    (notMark : isMark character = false)
    (marks : List Char) :
    recipe.unitWeights data character marks =
      Weights.ofLetters (recipe.unitLetters data (character, marks)) := by
  simp only [unitWeights, unitLetters, notMark, Bool.false_eq_true, if_false]
  generalize (data.fold character).drop 1 = added
  have ends : (added.map fun _ => unitEnd) = added.flatMap fun _ => [unitEnd] :=
    List.map_eq_flatMap
  simp [Weights.ofLetters, List.flatMap_map, Function.comp_def, ends]

/-- An open unit takes the marks that come next. -/
theorem openWeights_some
    (character : Char)
    (marks rest : List Char) :
    recipe.openWeights data (some (character, marks)) rest =
      (recipe.unitWeights data character (marks.reverse ++ rest.takeWhile isMark)).append
        (recipe.openWeights data none (rest.dropWhile isMark)) := by
  induction rest generalizing marks with
  | nil => simp [openWeights, Weights.append, Weights.empty]
  | cons next rest inductionHypothesis =>
      cases attaches : isMark next with
      | true => simp [openWeights, attaches, inductionHypothesis]
      | false => simp [openWeights, attaches]

theorem openWeights_none
    (characters : List Char) :
    recipe.openWeights data none characters =
      Weights.ofLetters ((units characters).flatMap (recipe.unitLetters data)) := by
  induction characters using units.induct with
  | case1 => simp [openWeights, units, Weights.ofLetters, Weights.empty]
  | case2 character rest stray inductionHypothesis =>
      rw [units, if_pos stray, List.flatMap_cons, Weights.ofLetters_append, ← inductionHypothesis,
        ← recipe.strayWeights_eq data stray, openWeights, if_pos stray]
  | case3 character rest notMark inductionHypothesis =>
      rw [units, if_neg notMark, List.flatMap_cons, Weights.ofLetters_append,
        ← inductionHypothesis, openWeights, if_neg notMark, openWeights_some,
        ← recipe.unitWeights_eq data (by simpa using notMark)]
      rfl

/-- The weights of a text are those of its letters. -/
theorem weights_eq
    (text : String) :
    recipe.weights data text = Weights.ofLetters (recipe.letters data text) :=
  recipe.openWeights_none data (data.decompose text)

end Recipe
end Keyspace
