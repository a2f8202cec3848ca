import Keyspace.Error
import Mathlib.Data.List.Forall2
import Mathlib.Tactic.Common

/-!
# Traversals

A traversal of a list succeeds if every step does, and then its results stand
in pairs with its inputs.  What is known of each pair carries over to chosen
members, to their order and to further traversals.
-/

namespace Keyspace

/-! ## Steps that succeed -/

theorem bind_eq_ok
    {α β : Type}
    {first : Except Error α}
    {next : α -> Except Error β}
    {result : β} :
    (first >>= next) = .ok result ↔ ∃ middle, first = .ok middle ∧ next middle = .ok result := by
  cases first <;> simp [bind, Except.bind]

theorem pure_eq_ok
    {α : Type}
    {value result : α} :
    (pure value : Except Error α) = .ok result ↔ value = result := by
  simp [pure, Except.pure]

theorem map_eq_ok
    {α β : Type}
    {step : α -> β}
    {first : Except Error α}
    {result : β} :
    first.map step = .ok result ↔ ∃ middle, first = .ok middle ∧ step middle = result := by
  cases first <;> simp [Except.map]

/-- A traversal succeeds exactly if each of its steps does. -/
theorem mapM_eq_ok
    {α β : Type}
    {step : α -> Except Error β}
    {inputs : List α}
    {results : List β} :
    inputs.mapM step = .ok results ↔
      List.Forall₂ (fun input result => step input = .ok result) inputs results := by
  induction inputs generalizing results with
  | nil => rw [List.mapM_nil, pure_eq_ok, List.forall₂_nil_left_iff, eq_comm]
  | cons input inputs inductionHypothesis =>
      simp only [List.mapM_cons, bind_eq_ok, pure_eq_ok, inductionHypothesis,
        List.forall₂_cons_left_iff]
      constructor
      · rintro ⟨first, stepped, others, further, rfl⟩
        exact ⟨first, others, stepped, further, rfl⟩
      · rintro ⟨first, others, stepped, further, rfl⟩
        exact ⟨first, stepped, others, further, rfl⟩

/-! ## Steps that fail -/

theorem bind_eq_error
    {α β : Type}
    {first : Except Error α}
    {next : α -> Except Error β}
    {error : Error} :
    (first >>= next) = .error error ↔
      first = .error error ∨ ∃ middle, first = .ok middle ∧ next middle = .error error := by
  cases first <;> simp [bind, Except.bind]

/-- A traversal that fails does so at one of its steps. -/
theorem exists_eq_error_of_mapM
    {α β : Type}
    {step : α -> Except Error β}
    {inputs : List α}
    {error : Error}
    (failed : inputs.mapM step = .error error) :
    ∃ input ∈ inputs, step input = .error error := by
  induction inputs with
  | nil => simp [pure, Except.pure] at failed
  | cons input inputs inductionHypothesis =>
      rw [List.mapM_cons] at failed
      rcases bind_eq_error.mp failed with first | ⟨result, _, failed⟩
      · exact ⟨input, by simp, first⟩
      · rcases bind_eq_error.mp failed with others | ⟨_, _, failed⟩
        · obtain ⟨other, member, failed⟩ := inductionHypothesis others
          exact ⟨other, by simp [member], failed⟩
        · simp [pure, Except.pure] at failed

/-! ## Lists in pairs -/

theorem exists_forall₂
    {α β : Type}
    {relation : α -> β -> Prop}
    {inputs : List α}
    (related : ∀ input ∈ inputs, ∃ result, relation input result) :
    ∃ results, List.Forall₂ relation inputs results := by
  induction inputs with
  | nil => exact ⟨[], .nil⟩
  | cons input inputs inductionHypothesis =>
      obtain ⟨result, first⟩ := related input (by simp)
      obtain ⟨results, others⟩ := inductionHypothesis fun other present =>
        related other (by simp [present])
      exact ⟨result :: results, .cons first others⟩

theorem forall₂_filter
    {α β : Type}
    {relation : α -> β -> Prop}
    {chosen : α -> Bool}
    {wanted : β -> Bool}
    {inputs : List α}
    {results : List β}
    (agree : ∀ input result, relation input result -> (chosen input = true ↔ wanted result = true))
    (related : List.Forall₂ relation inputs results) :
    List.Forall₂ relation (inputs.filter chosen) (results.filter wanted) :=
  List.rel_filter (fun input result holds => agree input result holds) related

theorem forall₂_trans
    {α β γ : Type}
    {relation : α -> β -> Prop}
    {further : β -> γ -> Prop}
    {both : α -> γ -> Prop}
    (trans : ∀ first second third, relation first second -> further second third ->
      both first third)
    {firsts : List α}
    {seconds : List β}
    {thirds : List γ}
    (firstSecond : List.Forall₂ relation firsts seconds)
    (secondThird : List.Forall₂ further seconds thirds) :
    List.Forall₂ both firsts thirds := by
  induction firstSecond generalizing thirds with
  | nil =>
      obtain rfl := List.forall₂_nil_left_iff.mp secondThird
      exact .nil
  | cons related _ inductionHypothesis =>
      cases secondThird with
      | cons next others => exact .cons (trans _ _ _ related next) (inductionHypothesis others)

theorem forall₂_set
    {α β : Type}
    {relation : α -> β -> Prop}
    {inputs : List α}
    {results : List β}
    {index : Nat}
    {result : β}
    (related : List.Forall₂ relation inputs results)
    (fits : ∀ input, inputs[index]? = some input -> relation input result) :
    List.Forall₂ relation inputs (results.set index result) := by
  induction related generalizing index with
  | nil => exact .nil
  | cons first others inductionHypothesis =>
      cases index with
      | zero => exact .cons (fits _ rfl) others
      | succ index => exact .cons first (inductionHypothesis fits)

theorem exists_input_of_mem
    {α β : Type}
    {relation : α -> β -> Prop}
    {inputs : List α}
    {results : List β}
    (related : List.Forall₂ relation inputs results) :
    ∀ result ∈ results, ∃ input ∈ inputs, relation input result := by
  induction related with
  | nil => simp
  | @cons input result inputs results first _ inductionHypothesis =>
      intro other present
      rcases List.mem_cons.mp present with rfl | further
      · exact ⟨input, by simp, first⟩
      · obtain ⟨source, member, holds⟩ := inductionHypothesis other further
        exact ⟨source, by simp [member], holds⟩

theorem exists_getElem?_of_forall₂
    {α β : Type}
    {relation : α -> β -> Prop}
    {inputs : List α}
    {results : List β}
    {index : Nat}
    {input : α}
    (related : List.Forall₂ relation inputs results)
    (here : inputs[index]? = some input) :
    ∃ result, results[index]? = some result ∧ relation input result := by
  obtain ⟨inside, rfl⟩ := List.getElem?_eq_some_iff.mp here
  have alsoInside : index < results.length := related.length_eq ▸ inside
  exact ⟨_, List.getElem?_eq_getElem alsoInside, related.get inside alsoInside⟩

theorem map_eq_map_of_forall₂
    {α β γ : Type}
    {relation : α -> β -> Prop}
    {left : α -> γ}
    {right : β -> γ}
    (same : ∀ input result, relation input result -> left input = right result)
    {inputs : List α}
    {results : List β}
    (related : List.Forall₂ relation inputs results) :
    inputs.map left = results.map right := by
  induction related with
  | nil => rfl
  | cons first _ inductionHypothesis =>
      rw [List.map_cons, List.map_cons, same _ _ first, inductionHypothesis]

theorem filterMap_of_forall₂
    {α β : Type}
    {step : α -> Option β}
    {inputs : List α}
    {results : List β}
    (related : List.Forall₂ (fun input result => step input = some result) inputs results) :
    inputs.filterMap step = results := by
  induction related with
  | nil => rfl
  | cons first _ inductionHypothesis => rw [List.filterMap_cons_some first, inductionHypothesis]

theorem pairwise_of_forall₂
    {α β : Type}
    {relation : α -> β -> Prop}
    {above : α -> α -> Prop}
    {below : β -> β -> Prop}
    (carries : ∀ {firstInput secondInput firstResult secondResult},
      relation firstInput firstResult -> relation secondInput secondResult ->
        above firstInput secondInput -> below firstResult secondResult)
    {inputs : List α}
    {results : List β}
    (related : List.Forall₂ relation inputs results)
    (ordered : inputs.Pairwise above) :
    results.Pairwise below := by
  induction related with
  | nil => exact .nil
  | cons first others inductionHypothesis =>
      obtain ⟨least, further⟩ := List.pairwise_cons.mp ordered
      refine .cons ?_ (inductionHypothesis further)
      intro other present
      obtain ⟨source, member, holds⟩ := exists_input_of_mem others other present
      exact carries first holds (least source member)

end Keyspace
