import Keyspace.Proofs.Traversal

/-!
# Checks

A check of an argument decides a condition if it passes under the condition and
refuses the argument otherwise.  Checks one after another decide the conjunction
of their conditions, so a long check is described by going through its steps.
-/

namespace Keyspace

/-- Whether a check passes exactly under a condition, with a result that fits,
and refuses an argument otherwise. -/
inductive Decides {α : Type}
    (check : Except Error α)
    (condition : Prop)
    (fits : α -> Prop) : Prop
  | passes {result : α}
      (isOk : check = .ok result)
      (holds : condition)
      (isFit : fits result)
  | refuses {message : String}
      (isError : check = .error (.invalidArgument message))
      (fails : ¬condition)

namespace Decides

variable
  {α β : Type}
  {check : Except Error α}
  {condition : Prop}
  {fits : α -> Prop}

theorem imp
    {other : Prop}
    {alsoFits : α -> Prop}
    (decides : Decides check condition fits)
    (same : condition ↔ other)
    (weaker : ∀ result, fits result -> alsoFits result) :
    Decides check other alsoFits := by
  cases decides with
  | passes isOk holds isFit => exact .passes isOk (same.mp holds) (weaker _ isFit)
  | refuses isError fails => exact .refuses isError (mt same.mpr fails)

/-- What fits may as well be said to be the result. -/
theorem and_eq_ok
    (decides : Decides check condition fits) :
    Decides check condition fun result => check = .ok result ∧ fits result := by
  cases decides with
  | passes isOk holds isFit => exact .passes isOk holds ⟨isOk, isFit⟩
  | refuses isError fails => exact .refuses isError fails

theorem eq_error
    {error : Error}
    (decides : Decides check condition fits)
    (failed : check = .error error) :
    ∃ message, error = .invalidArgument message := by
  cases decides with
  | passes isOk _ _ => simp [isOk] at failed
  | refuses isError _ => exact ⟨_, Except.error.inj (failed.symm.trans isError)⟩

theorem exists_eq_ok_iff
    (decides : Decides check condition fits) :
    (∃ result, check = .ok result) ↔ condition := by
  cases decides with
  | passes isOk holds _ => exact ⟨fun _ => holds, fun _ => ⟨_, isOk⟩⟩
  | refuses isError fails => simp [isError, fails]

theorem value
    {result : α}
    (isFit : fits result) :
    Decides (.ok result) True fits :=
  .passes rfl trivial isFit

theorem refusal
    {message : String}
    (fails : ¬condition) :
    Decides (.error (.invalidArgument message)) condition fits :=
  .refuses rfl fails

/-- A check that goes on does so under its condition. -/
theorem bind
    {next : α -> Except Error β}
    {further : Prop}
    {nextFits : β -> Prop}
    (first : Decides check condition fits)
    (second : ∀ result, condition -> fits result -> Decides (next result) further nextFits) :
    Decides (check >>= next) (condition ∧ further) nextFits := by
  cases first with
  | passes isOk holds isFit =>
      rw [isOk]
      exact (second _ holds isFit).imp (by simp [holds]) fun _ isFit => isFit
  | refuses isError fails => exact .refuses (by rw [isError]; rfl) (mt And.left fails)

/-- A refusal comes before the other checks. -/
theorem guarded
    {refused : Prop}
    [Decidable refused]
    {message : String}
    (others : ¬refused -> Decides check condition fits) :
    Decides (if refused then .error (.invalidArgument message) else check)
      (¬refused ∧ condition) fits := by
  split
  · next isRefused => exact .refusal (by simp [isRefused])
  · next accepted => exact (others accepted).imp (by simp [accepted]) fun _ isFit => isFit

/-- A traversal checks all inputs. -/
theorem mapM
    {step : α -> Except Error β}
    {condition : α -> Prop}
    {fits : α -> β -> Prop}
    {inputs : List α}
    (each : ∀ input ∈ inputs, Decides (step input) (condition input) (fits input)) :
    Decides (inputs.mapM step) (∀ input ∈ inputs, condition input)
      (List.Forall₂ fits inputs) := by
  induction inputs with
  | nil => exact (value .nil).imp (by simp) fun _ isFit => isFit
  | cons input inputs inductionHypothesis =>
      rw [List.mapM_cons]
      have first := each input (by simp)
      have others := inductionHypothesis fun other present => each other (by simp [present])
      refine (first.bind fun result _ isFit => others.bind fun results _ areFit =>
        value (.cons isFit areFit)).imp ?_ fun _ isFit => isFit
      rw [and_true, List.forall_mem_cons]

end Decides

end Keyspace
