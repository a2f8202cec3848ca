import Keyspace.Cursor.GroupCursor
import Keyspace.Proofs.HKey.Decoding

/-!
# Faults of stored rows

A row that cannot be read fails with an error about its bytes, and a key that
cannot be made fails with an error about its values.  None of these is an error
that a cursor has of its own.
-/

namespace Keyspace

/-- Whether an error is one that a cursor has of its own: about its phase, or
about a scan that it does not have or that has no entry. -/
def Error.IsOfCursor : Error -> Prop
  | .cursorState _ _ => True
  | .internal message =>
      message = "active cursor without a scan" ∨ message = "scan advanced without an entry"
  | _ => False

/-- Whether an error is about bytes that hold no row of a group, or about a value
that cannot be stored. -/
def Error.IsOfData (error : Error) : Prop :=
  error.code ∈ [ErrorCode.tupleDecode, .typeMismatch, .notSupported, .corruption,
    .tupleSizeMismatch, .invalidArgument] ∨
    ∃ position : Nat, error = .internal s!"bad key position {position}"

theorem Error.IsOfData.not_isOfCursor
    {error : Error}
    (ofData : error.IsOfData) :
    ¬ error.IsOfCursor := by
  rcases ofData with known | ⟨position, rfl⟩
  · cases error <;> simp_all [Error.code, Error.IsOfCursor]
  · intro ofCursor
    rcases ofCursor with same | same
    all_goals
      change "bad key position " ++ toString position = _ at same
      have letters := congrArg String.toList same
      simp [String.toList_append] at letters

/-! ## Steps of reading that fail -/

namespace Decoder

/-- Whether a step of reading fails with errors about data alone. -/
def FailsOnData {α : Type} (step : Decoder α) : Prop :=
  ∀ reader error behind, step reader = .error error behind -> error.IsOfData

theorem FailsOnData.bind
    {α β : Type}
    {step : Decoder α}
    {next : α -> Decoder β}
    (first : FailsOnData step)
    (others : ∀ value, FailsOnData (next value)) :
    FailsOnData (step >>= next) := by
  intro reader error behind failed
  cases ran : step reader with
  | ok value between =>
      rw [bind_of_ok ran] at failed
      exact others value _ _ _ failed
  | error fault between =>
      simp only [Bind.bind, EStateM.bind, ran] at failed
      obtain ⟨rfl, _⟩ := EStateM.Result.error.inj failed
      exact first _ _ _ ran

theorem FailsOnData.ite
    {α : Type}
    {condition : Prop}
    [Decidable condition]
    {first second : Decoder α}
    (whenTrue : FailsOnData first)
    (whenFalse : FailsOnData second) :
    FailsOnData (if condition then first else second) := by
  split
  · exact whenTrue
  · exact whenFalse

end Decoder

/-! ## Rows and keys that cannot be read -/

namespace HKey

end HKey

theorem Value.isOfData_of_toElement
    {value : Value}
    {error : Error}
    (failed : value.toElement = .error error) :
    error.IsOfData := by
  cases value <;> simp only [toElement, reduceCtorEq, Except.error.injEq] at failed
  subst failed
  exact .inl (by simp [Error.code])

theorem Element.isOfData_of_pack
    {element : Element}
    {error : Error}
    (failed : element.pack = .error error) :
    error.IsOfData := by
  cases element <;> simp only [pack, reduceCtorEq] at failed
  split at failed
  · simp at failed
  · obtain rfl := Except.error.inj failed
    exact .inl (by simp [Error.code])

theorem Segment.isOfData_of_encode
    {segment : Segment}
    {error : Error}
    (failed : segment.encode = .error error) :
    error.IsOfData := by
  rcases bind_eq_error.mp failed with valued | ⟨_, _, failed⟩
  · obtain ⟨value, _, failed⟩ := exists_eq_error_of_mapM valued
    exact Value.isOfData_of_toElement failed
  · rcases bind_eq_error.mp failed with packed | ⟨_, _, failed⟩
    · obtain ⟨element, _, failed⟩ := exists_eq_error_of_mapM packed
      exact Element.isOfData_of_pack failed
    · simp [pure, Except.pure] at failed

theorem KeyRange.isOfData_of_successor
    {start : Bytes}
    {error : Error}
    (failed : KeyRange.successor start = .error error) :
    error.IsOfData := by
  unfold successor at failed
  split at failed
  · simp at failed
  · obtain rfl := Except.error.inj failed
    exact .inl (by simp [Error.code])

/-- A row without a key is a fault of data. -/
theorem KeyLayout.isOfData_of_rowKey
    {group : Group}
    {hkey : HKey}
    {error : Error}
    (failed : KeyLayout.rowKey group hkey = .error error) :
    error.IsOfData := by
  rcases bind_eq_error.mp failed with encoded | ⟨_, _, failed⟩
  · rcases bind_eq_error.mp encoded with segmented | ⟨_, _, failed⟩
    · obtain ⟨segment, _, failed⟩ := exists_eq_error_of_mapM segmented
      exact Segment.isOfData_of_encode failed
    · simp [pure, Except.pure] at failed
  · simp [pure, Except.pure] at failed

end Keyspace
