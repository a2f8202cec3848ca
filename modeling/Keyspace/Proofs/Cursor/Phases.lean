import Keyspace.Proofs.Cursor.Readings

/-!
# Phases of a cursor

The phase of a cursor decides which calls it refuses.  Opening that fails leaves
the cursor as it was, and a step moves it along with the scan that it holds.
-/

namespace Keyspace

theorem CursorPhase.isActive_iff
    {phase : CursorPhase} :
    phase.isActive = true ↔ phase = .active := by
  cases phase <;> simp [CursorPhase.isActive]

namespace GroupCursor

variable {World Scan : Type} {cursor : GroupCursor World Scan} {world : World}

/-- Whether a cursor stands where a scan was left: in it, or behind its end. -/
def StandsAt (cursor : GroupCursor World Scan) : Option (GroupScan Scan) -> Prop
  | some scan => cursor.phase = .active ∧ cursor.scan = some scan
  | none => cursor.phase = .idle

/-- A cursor in a scan stands in the one that it holds. -/
theorem StandsAt.exists_scan
    {left : Option (GroupScan Scan)}
    (stands : cursor.StandsAt left)
    (active : cursor.phase = .active) :
    ∃ scan, left = some scan ∧ cursor.scan = some scan := by
  cases left with
  | none => simp [show cursor.phase = .idle from stands] at active
  | some scan => exact ⟨scan, rfl, stands.2⟩

theorem reached_of_startScan
    {scan : GroupScan Scan}
    (started : cursor.startScan world = .ok scan) :
    scan.Reached cursor.source := by
  unfold startScan at started
  split at started
  · obtain ⟨_, _, started⟩ := bind_eq_ok.mp started
    obtain ⟨_, opens, whole⟩ := bind_eq_ok.mp started
    obtain rfl := pure_eq_ok.mp whole
    exact .opened opens
  · obtain ⟨_, _, started⟩ := bind_eq_ok.mp started
    split at started
    · obtain ⟨_, opens, whole⟩ := bind_eq_ok.mp started
      obtain rfl := pure_eq_ok.mp whole
      exact .opened opens
    · obtain rfl := pure_eq_ok.mp started
      exact trivial

/-- A scan that cannot be started is a failure of the source or of a key. -/
theorem reports_of_startScan
    {error : Error}
    (failed : cursor.startScan world = .error error)
    (ofCursor : error.IsOfCursor) :
    cursor.source.Reports error := by
  unfold startScan at failed
  split at failed
  · rcases bind_eq_error.mp failed with bounded | ⟨_, _, failed⟩
    · exact absurd ofCursor (KeyRange.isOfData_of_successor bounded).not_isOfCursor
    · rcases bind_eq_error.mp failed with opens | ⟨_, _, failed⟩
      · exact .opening opens
      · simp [pure, Except.pure] at failed
  · rcases bind_eq_error.mp failed with keyed | ⟨_, _, failed⟩
    · exact absurd ofCursor (KeyLayout.isOfData_of_rowKey keyed).not_isOfCursor
    · split at failed
      · rcases bind_eq_error.mp failed with opens | ⟨_, _, failed⟩
        · exact .opening opens
        · simp [pure, Except.pure] at failed
      · simp [pure, Except.pure] at failed

/-- A cursor in a scan refuses to be opened. -/
theorem start_of_active
    (active : cursor.phase = .active)
    (world : World)
    (usage : ScanUsage) :
    cursor.start world usage = (.error (.cursorState .start "active"), cursor, usage) := by
  simp [start, phaseError, CursorPhase.isActive, CursorPhase.name, active]

theorem start_eq_error
    {usage counted : ScanUsage}
    {after : GroupCursor World Scan}
    {error : Error}
    (failed : cursor.start world usage = (.error error, after, counted)) :
    after = cursor ∧
      (cursor.phase ≠ .active -> error.IsOfCursor -> cursor.source.Reports error) := by
  unfold start at failed
  split at failed
  · next active =>
      obtain ⟨_, rfl, _⟩ := by simpa only [Prod.mk.injEq] using failed
      exact ⟨rfl, fun inactive => absurd (CursorPhase.isActive_iff.mp active) inactive⟩
  · split at failed
    · next starting =>
        obtain ⟨same, rfl, _⟩ := by simpa only [Prod.mk.injEq, Except.error.injEq] using failed
        exact ⟨rfl, fun _ ofCursor => reports_of_startScan (same ▸ starting) ofCursor⟩
    · dsimp only at failed
      split at failed
      · next stepping =>
          obtain ⟨same, rfl, _⟩ := by simpa only [Prod.mk.injEq, Except.error.injEq] using failed
          exact ⟨rfl, fun _ _ => GroupScan.reports_of_advance (same ▸ stepping)⟩
      · simp at failed

theorem start_eq_ok
    {usage counted : ScanUsage}
    {after : GroupCursor World Scan}
    (opens : cursor.start world usage = (.ok (), after, counted)) :
    ∃ first ready found, cursor.startScan world = .ok first ∧
      first.advance cursor.source world = (.ok found, ready) ∧
      after = { cursor with
        phase := if found then .active else .idle, scan := some ready, isPending := found } := by
  unfold start at opens
  split at opens
  · simp at opens
  · split at opens
    · simp at opens
    · next first starting =>
        dsimp only at opens
        split at opens
        · simp at opens
        · next found ready stepping =>
            obtain ⟨_, rfl, _⟩ := by simpa only [Prod.mk.injEq] using opens
            exact ⟨first, ready, found, starting, stepping, rfl⟩

/-- A closed cursor refuses to be stepped. -/
theorem next_of_closed
    (closed : cursor.phase = .closed)
    (world : World)
    (usage : ScanUsage) :
    cursor.next world usage = (.error (.cursorState .next "closed"), cursor, usage) := by
  simp [next, phaseError, CursorPhase.name, closed]

theorem next_of_idle
    (idle : cursor.phase = .idle)
    (world : World)
    (usage : ScanUsage) :
    cursor.next world usage = (.ok none, cursor, usage) := by
  simp [next, idle]

theorem deliver_ne_none
    (cursor : GroupCursor World Scan)
    (scan : GroupScan Scan)
    (usage : ScanUsage) :
    (cursor.deliver scan usage).1 ≠ .ok none := by
  unfold deliver
  split
  · simp
  · split <;> simp

/-- A cursor that answers that there is no row is idle. -/
theorem phase_of_next_none
    {usage : ScanUsage}
    (answered : (cursor.next world usage).1 = .ok none) :
    (cursor.next world usage).2.1.phase = .idle := by
  cases phase : cursor.phase with
  | closed => simp [next_of_closed phase] at answered
  | idle => simpa [next_of_idle phase] using phase
  | active =>
      simp only [next, phase] at answered ⊢
      split at answered
      · simp at answered
      · split at answered
        · exact absurd answered (deliver_ne_none _ _ _)
        · next scan held notPending =>
            split at answered
            · simp at answered
            · simp [notPending]
            · exact absurd answered (deliver_ne_none _ _ _)

theorem deliver_of_current
    {scan : GroupScan Scan}
    {entry : Entry}
    (current : scan.current cursor.source = some entry)
    (usage : ScanUsage) :
    ∃ counted, cursor.deliver scan usage = (cursor.group.answer (.ok (some entry)),
      { cursor with scan := some scan, isPending := false }, counted) := by
  unfold deliver
  cases row : cursor.group.rowOfEntry entry <;>
    simp [current, row, Group.answer, Except.map]

/-- The entry that opening read is delivered without a step. -/
theorem next_of_pending
    {scan : GroupScan Scan}
    {entry : Entry}
    (stands : cursor.StandsAt (some scan))
    (pending : cursor.isPending = true)
    (current : scan.current cursor.source = some entry)
    (world : World)
    (usage : ScanUsage) :
    ∃ counted, cursor.next world usage = (cursor.group.answer (.ok (some entry)),
      { cursor with scan := some scan, isPending := false }, counted) := by
  obtain ⟨active, held⟩ := stands
  obtain ⟨counted, delivered⟩ := deliver_of_current current usage
  exact ⟨counted, by simp only [next, active, held, pending, if_true, delivered]⟩

/-- Any other call takes a step of the scan and answers to what it reads. -/
theorem next_of_held
    {scan : GroupScan Scan}
    (keeps : cursor.source.Keeps)
    (reached : scan.Reached cursor.source)
    (stands : cursor.StandsAt (some scan))
    (notPending : cursor.isPending = false)
    (usage : ScanUsage) :
    ∃ after counted, cursor.next world usage =
        (cursor.group.answer (GroupScan.read cursor.source world (some scan)).1, after, counted) ∧
      after.StandsAt (GroupScan.read cursor.source world (some scan)).2 ∧
      after.isPending = false ∧ after.source = cursor.source ∧ after.group = cursor.group := by
  obtain ⟨active, held⟩ := stands
  simp only [next, active, held, notPending, GroupScan.read]
  cases advanced : scan.advance cursor.source world with
  | mk outcome stepped =>
    rcases outcome with error | _ | _
    · exact ⟨_, _, rfl, ⟨rfl, rfl⟩, rfl, rfl, rfl⟩
    · exact ⟨_, _, rfl, rfl, rfl, rfl, rfl⟩
    · obtain ⟨entry, current⟩ := GroupScan.exists_current keeps reached advanced
      obtain ⟨counted, delivered⟩ := deliver_of_current current usage.traversal
      refine ⟨{ cursor with scan := some stepped, isPending := false }, counted, ?_,
        ⟨active, rfl⟩, rfl, rfl, rfl⟩
      simp only [Bool.false_eq_true, if_false, delivered, current]

end GroupCursor
end Keyspace
