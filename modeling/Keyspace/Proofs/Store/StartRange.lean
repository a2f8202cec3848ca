import Keyspace.Proofs.Store.Scan

/-!
# The range of a common start

The keys with a common start end before its successor.  There is one unless every
byte is the greatest, and it is the least byte string above all those keys, so the
range up to it holds them and no others.
-/

namespace Keyspace

namespace Bytes

theorem startsWith_iff_prefix
    {bytes start : Bytes} :
    bytes.startsWith start = true ↔ start <+: bytes :=
  List.isPrefixOf_iff_prefix

/-- Only strings of greatest bytes have no successor. -/
theorem successor?_eq_none_iff
    {start : Bytes} :
    successor? start = none ↔ ∀ byte ∈ start, byte = 0xFF := by
  unfold successor?
  constructor
  · intro none byte present
    split at none
    · next dropped =>
        exact eq_of_beq (List.dropWhile_eq_nil_iff.mp dropped byte (List.mem_reverse.mpr present))
    · cases none
  · intro greatest
    have dropped : start.reverse.dropWhile (fun byte => byte == 0xFF) = [] := by
      rw [List.dropWhile_eq_nil_iff]
      intro byte present
      exact beq_iff_eq.mpr (greatest byte (List.mem_reverse.mp present))
    rw [dropped]

theorem precedes_successor
    {start next key : Bytes}
    (found : successor? start = some next)
    (starts : start <+: key) :
    Precedes key next :=
  ((between_successor_iff found).mpr starts).2

/-- Whatever lies above all keys with a common start is not below its successor: it
would start alike and lie above itself. -/
theorem successor_le_of_precedes
    {start next bound : Bytes}
    (found : successor? start = some next)
    (above : ∀ key, start <+: key -> Precedes key bound) :
    next = bound ∨ Precedes next bound := by
  cases order : compare next bound with
  | lt => exact .inr order
  | eq => exact .inl (eq_of_compare_eq order)
  | gt =>
      have below : compare bound next = .lt := Std.OrientedCmp.lt_of_gt order
      have behindStart : compare bound start ≠ .lt := by
        rw [Std.OrientedCmp.gt_of_lt (above start (List.prefix_refl start))]
        simp
      have starts := (between_successor_iff found).mp ⟨behindStart, below⟩
      exact absurd (above bound starts) (not_precedes_self bound)

end Bytes

namespace KeyRange

theorem successor_eq_ok_iff
    {start next : Bytes} :
    successor start = .ok next ↔ Bytes.successor? start = some next := by
  unfold successor
  cases Bytes.successor? start <;> simp

/-- Strings of greatest bytes are refused. -/
theorem successor_eq_error_iff
    {start : Bytes}
    {error : Error} :
    successor start = .error error ↔
      (∀ byte ∈ start, byte = 0xFF) ∧
        error = .invalidArgument s!"key 0x{Bytes.toHex start} has no successor prefix" := by
  rw [← Bytes.successor?_eq_none_iff, successor]
  cases Bytes.successor? start <;> simp [eq_comm]

/-- The range of a start is refused as its end is. -/
theorem ofStart_eq_error_iff
    {start : Bytes}
    {error : Error} :
    ofStart start = .error error ↔ successor start = .error error := by
  rw [ofStart]
  cases successor start <;> simp [bind, Except.bind, pure, Except.pure]

theorem ofStart_of_successor
    {start next : Bytes}
    (found : successor start = .ok next) :
    ofStart start = .ok (halfOpen start next) := by
  rw [ofStart, found]
  rfl

theorem contains_halfOpen_successor
    {start next : Bytes}
    (found : Bytes.successor? start = some next)
    (key : Bytes) :
    (halfOpen start next).contains key = key.startsWith start := by
  rw [Bool.eq_iff_iff, contains_halfOpen, Bytes.between_successor_iff found,
    Bytes.startsWith_iff_prefix]

/-- A byte string without a successor is empty or of greatest bytes only.  Any other
has one, the least byte string above every key that starts with it, and the range of
its keys contains a key exactly if it starts with it. -/
theorem successor_least_above_start
    (start : Bytes) :
    ((∃ error, successor start = .error error) ↔ start = [] ∨ ∀ byte ∈ start, byte = 0xFF) ∧
      ((∃ error, ofStart start = .error error) ↔ start = [] ∨ ∀ byte ∈ start, byte = 0xFF) ∧
      ∀ next, successor start = .ok next ->
        (∀ key, start <+: key -> Bytes.Precedes key next) ∧
          (∀ bound, (∀ key, start <+: key -> Bytes.Precedes key bound) ->
            next = bound ∨ Bytes.Precedes next bound) ∧
          ∃ range, ofStart start = .ok range ∧
            ∀ key, range.contains key = key.startsWith start := by
  have refused : (∃ error, successor start = .error error) ↔
      start = [] ∨ ∀ byte ∈ start, byte = 0xFF := by
    have whole : start = [] ∨ (∀ byte ∈ start, byte = 0xFF) ↔ ∀ byte ∈ start, byte = 0xFF :=
      or_iff_right_of_imp fun empty => by simp [empty]
    rw [whole]
    simp only [successor_eq_error_iff, exists_and_left, exists_eq, and_true]
  refine ⟨refused, by simpa only [ofStart_eq_error_iff] using refused, fun next isNext => ?_⟩
  have found := successor_eq_ok_iff.mp isNext
  exact ⟨fun _ starts => Bytes.precedes_successor found starts,
    fun _ above => Bytes.successor_le_of_precedes found above,
    _, ofStart_of_successor isNext, contains_halfOpen_successor found⟩

/-- Greatest bytes at the end are dropped: behind `61 FF FF` comes `62`. -/
theorem successor_least_above_start_trailing :
    successor [0x61, 0xFF, 0xFF] = .ok [0x62] ∧
      (∀ key, [0x61, 0xFF, 0xFF] <+: key -> Bytes.Precedes key [0x62]) ∧
      (∀ bound, (∀ key, [0x61, 0xFF, 0xFF] <+: key -> Bytes.Precedes key bound) ->
        [0x62] = bound ∨ Bytes.Precedes [0x62] bound) ∧
      ∃ range, ofStart [0x61, 0xFF, 0xFF] = .ok range ∧
        ∀ key, range.contains key = key.startsWith [0x61, 0xFF, 0xFF] := by
  have isNext : successor [0x61, 0xFF, 0xFF] = .ok [0x62] := rfl
  exact ⟨isNext, (successor_least_above_start _).2.2 _ isNext⟩

end KeyRange
end Keyspace
