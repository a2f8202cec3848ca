import Keyspace.Proofs.Cursor.Phases
import Keyspace.Proofs.Schema.BuiltTree

/-!
# The life of a cursor

A cursor is bound, opened, stepped, drained and closed in any order, while what
its source reads changes from call to call.  A run of such calls keeps the phase,
the scan and the entry that opening read in step with each other, so that the
answers since an opening are those of the scan that the opening started.
-/

namespace Keyspace

/-! ## Runs of calls -/

/-- A call on a cursor, with the world that it finds. -/
inductive CursorCall (World : Type) where
  /-- Choose the rows of the next scan. -/
  | rebind (hkey : Option HKey) (deep : Bool)
  /-- Start a scan. -/
  | start (world : World)
  /-- Ask for the next row. -/
  | next (world : World)
  /-- Ask for the rows of at most a number of steps. -/
  | drain (world : World) (steps : Nat)
  /-- Let go of the scan. -/
  | close

/-- How a scan was opened. -/
structure CursorOpening (World Scan : Type) where
  /-- The cursor, bound as it was then. -/
  cursor : GroupCursor World Scan
  /-- The world that opening found. -/
  world : World

/-- A cursor in the course of some calls, with what was asked of it since it was
opened or closed the last time. -/
structure CursorRun (World Scan : Type) where
  /-- The cursor. -/
  cursor : GroupCursor World Scan
  /-- The counts of its work. -/
  usage : ScanUsage
  /-- How it was opened, unless it was not or was closed again. -/
  opening : Option (CursorOpening World Scan)
  /-- The worlds that calls for the next row found since then. -/
  worlds : List World
  /-- The answers to these calls. -/
  answers : List (Except Error (Option Row))

namespace CursorRun

variable {World Scan : Type}

/-- A run before its first call. -/
def fresh (cursor : GroupCursor World Scan) (usage : ScanUsage) : CursorRun World Scan :=
  ⟨cursor, usage, none, [], []⟩

/-- Choose the rows of the next scan. -/
def rebind (run : CursorRun World Scan) (hkey : Option HKey) (deep : Bool) :
    CursorRun World Scan :=
  match run.cursor.rebind hkey deep with
  | .error _ => run
  | .ok bound => { run with cursor := bound }

/-- Start a scan. -/
def start (run : CursorRun World Scan) (world : World) : CursorRun World Scan :=
  match run.cursor.start world run.usage with
  | (.error _, after, counted) => { run with cursor := after, usage := counted }
  | (.ok _, after, counted) => ⟨after, counted, some ⟨run.cursor, world⟩, [], []⟩

/-- Ask for the next row. -/
def next (run : CursorRun World Scan) (world : World) : CursorRun World Scan :=
  let (answer, after, counted) := run.cursor.next world run.usage
  ⟨after, counted, run.opening, run.worlds ++ [world], run.answers ++ [answer]⟩

/-- Ask for the next row up to a number of times, until there is none or the call
fails. -/
def drain (world : World) : Nat -> CursorRun World Scan -> CursorRun World Scan
  | 0, run => run
  | steps + 1, run =>
      match (run.cursor.next world run.usage).1 with
      | .ok (some _) => drain world steps (run.next world)
      | _ => run.next world

/-- Let go of the scan. -/
def close (run : CursorRun World Scan) : CursorRun World Scan :=
  fresh run.cursor.close run.usage

/-- Make a call. -/
def perform (run : CursorRun World Scan) : CursorCall World -> CursorRun World Scan
  | .rebind hkey deep => run.rebind hkey deep
  | .start world => run.start world
  | .next world => run.next world
  | .drain world steps => run.drain world steps
  | .close => run.close

/-- The run of a new cursor through some calls. -/
def after
    (source : Source World Scan)
    (group : Group)
    (usage : ScanUsage)
    (calls : List (CursorCall World)) : CursorRun World Scan :=
  calls.foldl perform (fresh (GroupCursor.make source group) usage)

/-! ## Draining -/

/-- The rows of answers, up to the end or a failure. -/
def rowsOf : List (Except Error (Option Row)) -> Except Error (List Row)
  | [] => .ok []
  | .error error :: _ => .error error
  | .ok none :: _ => .ok []
  | .ok (some row) :: others => (rowsOf others).map fun rows => row :: rows

/-- To drain a cursor is to ask it for one row after the other. -/
theorem drainWithin_eq
    (run : CursorRun World Scan)
    (world : World)
    (steps : Nat) :
    ∃ further, (run.drain world steps).answers = run.answers ++ further ∧
      run.cursor.drainWithin world steps run.usage =
        (rowsOf further, (run.drain world steps).cursor, (run.drain world steps).usage) := by
  induction steps generalizing run with
  | zero => exact ⟨[], (List.append_nil _).symm, rfl⟩
  | succ steps inductionHypothesis =>
      cases stepped : run.cursor.next world run.usage with
      | mk answer rest =>
        obtain ⟨after, counted⟩ := rest
        have moved : run.next world =
            ⟨after, counted, run.opening, run.worlds ++ [world], run.answers ++ [answer]⟩ := by
          simp [next, stepped]
        match answer with
        | .error error =>
            exact ⟨[.error error], by simp [drain, stepped, moved],
              by simp [drain, stepped, moved, GroupCursor.drainWithin, rowsOf]⟩
        | .ok none =>
            exact ⟨[.ok none], by simp [drain, stepped, moved],
              by simp [drain, stepped, moved, GroupCursor.drainWithin, rowsOf]⟩
        | .ok (some row) =>
            obtain ⟨further, answered, drained⟩ := inductionHypothesis (run.next world)
            refine ⟨.ok (some row) :: further, ?_, ?_⟩
            · simp only [drain, stepped, answered]
              simp [moved]
            · simp only [moved] at drained
              simp only [drain, stepped, GroupCursor.drainWithin, moved, drained, rowsOf]

/-! ## What every call keeps -/

/-- The state of a run whose cursor is open. -/
structure Opened
    (source : Source World Scan)
    (group : Group)
    (run : CursorRun World Scan)
    (opening : CursorOpening World Scan)
    (first : GroupScan Scan) : Prop where
  /-- The cursor was one of the source and the group. -/
  isOfGroup : opening.cursor.source = source ∧ opening.cursor.group = group
  /-- The scan that was started. -/
  started : opening.cursor.startScan opening.world = .ok first
  /-- Opening took a step of it. -/
  began : ∃ found, (GroupScan.read source opening.world (some first)).1 = .ok found
  /-- The cursor stands where the steps since then left the scan. -/
  stands : run.cursor.StandsAt
    (GroupScan.remainder source (opening.world :: run.worlds.tail) (some first))
  /-- The entry that opening read is kept for the first call. -/
  pending : run.cursor.isPending = true ↔ run.worlds = [] ∧ run.cursor.phase = .active
  /-- The calls were answered from the scan. -/
  answered : run.answers = GroupScan.deliveries source group first opening.world run.worlds

/-- The state of a run. -/
structure Sound
    (source : Source World Scan)
    (group : Group)
    (run : CursorRun World Scan) : Prop where
  /-- The cursor is one of the source and the group. -/
  isOfGroup : run.cursor.source = source ∧ run.cursor.group = group
  /-- A cursor without an opening is closed. -/
  unopened : run.opening = none ->
    run.cursor.phase = .closed ∧ run.cursor.isPending = false
  /-- A cursor with an opening is in its scan or behind its end. -/
  opened : ∀ opening, run.opening = some opening -> ∃ first, Opened source group run opening first
  /-- A cursor that has answered that there is no row is idle. -/
  ended : .ok none ∈ run.answers -> run.cursor.phase = .idle
  /-- It has then answered so ever since. -/
  persists : run.answers.Pairwise fun earlier later => earlier = .ok none -> later = .ok none

variable {source : Source World Scan} {group : Group} {run : CursorRun World Scan}

theorem answers_next
    (run : CursorRun World Scan)
    (world : World) :
    (run.next world).answers = run.answers ++ [(run.cursor.next world run.usage).1] :=
  rfl

theorem Opened.reached
    {opening : CursorOpening World Scan}
    {first : GroupScan Scan}
    (opened : Opened source group run opening first) :
    first.Reached source := by
  rw [← opened.isOfGroup.1]
  exact GroupCursor.reached_of_startScan opened.started

/-- Before the first call, a cursor in a scan holds it where opening read an
entry. -/
theorem Opened.exists_current
    {opening : CursorOpening World Scan}
    {first : GroupScan Scan}
    (opened : Opened source group run opening first)
    (keeps : source.Keeps)
    (uncalled : run.worlds = [])
    (active : run.cursor.phase = .active) :
    ∃ scan entry, run.cursor.scan = some scan ∧ scan.current source = some entry ∧
      GroupScan.read source opening.world (some first) = (.ok (some entry), some scan) := by
  have stands := opened.stands
  rw [uncalled] at stands
  obtain ⟨scan, left, held⟩ := stands.exists_scan active
  obtain ⟨found, reading⟩ := opened.began
  have advanced := GroupScan.advance_of_read reading left
  obtain ⟨entry, current⟩ := GroupScan.exists_current keeps opened.reached advanced
  exact ⟨scan, entry, held, current, by simp [GroupScan.read, advanced, current]⟩

/-- The first call delivers what opening read. -/
theorem Opened.next_first
    {opening : CursorOpening World Scan}
    {first : GroupScan Scan}
    (opened : Opened source group run opening first)
    (keeps : source.Keeps)
    (isOfGroup : run.cursor.source = source ∧ run.cursor.group = group)
    (uncalled : run.worlds = [])
    (world : World)
    (usage : ScanUsage) :
    ∃ after counted, run.cursor.next world usage =
        (group.answer (GroupScan.read source opening.world (some first)).1, after, counted) ∧
      after.StandsAt (GroupScan.read source opening.world (some first)).2 ∧
      after.isPending = false ∧ after.source = source ∧ after.group = group := by
  by_cases active : run.cursor.phase = .active
  · obtain ⟨scan, entry, held, current, reading⟩ := opened.exists_current keeps uncalled active
    obtain ⟨rfl, rfl⟩ := isOfGroup
    obtain ⟨counted, delivered⟩ := GroupCursor.next_of_pending ⟨active, held⟩
      (opened.pending.mpr ⟨uncalled, active⟩) current world usage
    rw [reading]
    exact ⟨_, counted, delivered, ⟨active, rfl⟩, rfl, rfl, rfl⟩
  -- otherwise opening found nothing, and the scan that it left behind is not touched
  · have notPending : run.cursor.isPending = false := by
      rw [← Bool.not_eq_true, opened.pending]
      exact fun both => active both.2
    have stands := opened.stands
    rw [uncalled] at stands
    change run.cursor.StandsAt (GroupScan.read source opening.world (some first)).2 at stands
    cases left : (GroupScan.read source opening.world (some first)).2 with
    | none =>
        rw [left] at stands
        rw [GroupScan.read_of_left_none left]
        exact ⟨_, _, GroupCursor.next_of_idle stands world usage, stands, notPending, isOfGroup⟩
    | some scan =>
        rw [left] at stands
        exact absurd stands.1 active

/-- Every later call takes a step of the scan. -/
theorem Opened.next_later
    {opening : CursorOpening World Scan}
    {first : GroupScan Scan}
    (opened : Opened source group run opening first)
    (keeps : source.Keeps)
    (isOfGroup : run.cursor.source = source ∧ run.cursor.group = group)
    (called : run.worlds ≠ [])
    (world : World)
    (usage : ScanUsage) :
    ∃ after counted, run.cursor.next world usage =
        (group.answer (GroupScan.read source world
          (GroupScan.remainder source (opening.world :: run.worlds.tail) (some first))).1,
          after, counted) ∧
      after.StandsAt (GroupScan.read source world
        (GroupScan.remainder source (opening.world :: run.worlds.tail) (some first))).2 ∧
      after.isPending = false ∧ after.source = source ∧ after.group = group := by
  have notPending : run.cursor.isPending = false := by
    rw [← Bool.not_eq_true, opened.pending]
    exact fun both => called both.1
  have stands := opened.stands
  cases left : GroupScan.remainder source (opening.world :: run.worlds.tail) (some first) with
  | none =>
      rw [left] at stands
      exact ⟨_, _, GroupCursor.next_of_idle stands world usage, stands, notPending, isOfGroup⟩
  | some scan =>
      rw [left] at stands
      have reached : scan.Reached source := by
        refine GroupScan.reached_of_remainder ?_ left
        rintro _ ⟨⟩
        exact opened.reached
      obtain ⟨rfl, rfl⟩ := isOfGroup
      exact GroupCursor.next_of_held keeps reached stands notPending usage

theorem Opened.next
    {opening : CursorOpening World Scan}
    {first : GroupScan Scan}
    (opened : Opened source group run opening first)
    (keeps : source.Keeps)
    (isOfGroup : run.cursor.source = source ∧ run.cursor.group = group)
    (world : World) :
    Opened source group (run.next world) opening first ∧
      (run.next world).cursor.source = source ∧ (run.next world).cursor.group = group := by
  -- the first call leaves the scan where opening left it, and each later one moves it
  by_cases called : run.worlds = []
  · obtain ⟨after, counted, stepped, stands, notPending, same⟩ :=
      opened.next_first keeps isOfGroup called world run.usage
    have unanswered : run.answers = [] := by
      rw [opened.answered, called]
      rfl
    simp only [CursorRun.next, stepped, called, unanswered]
    refine ⟨⟨opened.isOfGroup, opened.started, opened.began, stands, ?_, rfl⟩, same⟩
    simp [notPending]
  · obtain ⟨after, counted, stepped, stands, notPending, same⟩ :=
      opened.next_later keeps isOfGroup called world run.usage
    simp only [CursorRun.next, stepped]
    refine ⟨⟨opened.isOfGroup, opened.started, opened.began, ?_, ?_, ?_⟩, same⟩
    · rw [List.tail_append_of_ne_nil called, ← List.cons_append, GroupScan.remainder_concat]
      exact stands
    · simp [notPending]
    · rw [GroupScan.deliveries_concat called, ← opened.answered]

theorem Sound.fresh
    (cursor : GroupCursor World Scan)
    (isOfGroup : cursor.source = source ∧ cursor.group = group)
    (closed : cursor.phase = .closed)
    (notPending : cursor.isPending = false)
    (usage : ScanUsage) :
    Sound source group (fresh cursor usage) where
  isOfGroup := isOfGroup
  unopened := fun _ => ⟨closed, notPending⟩
  opened := by simp [CursorRun.fresh]
  ended := by simp [CursorRun.fresh]
  persists := .nil

theorem Sound.rebind
    (sound : Sound source group run)
    (hkey : Option HKey)
    (deep : Bool) :
    Sound source group (run.rebind hkey deep) := by
  unfold CursorRun.rebind GroupCursor.rebind
  split
  · exact sound
  · next bound rebound =>
      split at rebound
      · simp at rebound
      · obtain rfl := Except.ok.inj rebound
        refine ⟨sound.isOfGroup, sound.unopened, ?_, sound.ended, sound.persists⟩
        intro opening isOpening
        obtain ⟨first, opened⟩ := sound.opened opening isOpening
        exact ⟨first, opened.isOfGroup, opened.started, opened.began,
          opened.stands, opened.pending, opened.answered⟩

theorem Sound.start
    (sound : Sound source group run)
    (world : World) :
    Sound source group (run.start world) := by
  unfold CursorRun.start
  split
  · next failed =>
      obtain ⟨rfl, _⟩ := GroupCursor.start_eq_error failed
      refine ⟨sound.isOfGroup, sound.unopened, ?_, sound.ended, sound.persists⟩
      intro opening isOpening
      obtain ⟨first, opened⟩ := sound.opened opening isOpening
      exact ⟨first, opened.isOfGroup, opened.started, opened.began,
        opened.stands, opened.pending, opened.answered⟩
  · next opens =>
      obtain ⟨first, ready, found, started, stepped, rfl⟩ := GroupCursor.start_eq_ok opens
      refine ⟨sound.isOfGroup, by simp, ?_, by simp, .nil⟩
      rintro _ ⟨⟩
      rw [sound.isOfGroup.1] at stepped
      refine ⟨first, sound.isOfGroup, started, ?_, ?_, by cases found <;> simp, rfl⟩
      · cases found <;> simp [GroupScan.read, stepped]
      · cases found <;>
          simp [GroupScan.remainder, GroupScan.read, stepped, GroupCursor.StandsAt]

theorem Sound.next
    (sound : Sound source group run)
    (keeps : source.Keeps)
    (world : World) :
    Sound source group (run.next world) := by
  have ended : .ok none ∈ (run.next world).answers -> (run.next world).cursor.phase = .idle := by
    intro answered
    rcases List.mem_append.mp answered with before | now
    · have idle := sound.ended before
      simpa only [CursorRun.next, GroupCursor.next_of_idle idle] using idle
    · exact GroupCursor.phase_of_next_none (List.mem_singleton.mp now).symm
  have persists : (run.next world).answers.Pairwise fun earlier later =>
      earlier = .ok none -> later = .ok none := by
    rw [answers_next]
    refine List.pairwise_append.mpr ⟨sound.persists, List.pairwise_singleton _ _, ?_⟩
    rintro _ before answer now rfl
    rw [List.mem_singleton.mp now, GroupCursor.next_of_idle (sound.ended before)]
  cases isOpening : run.opening with
  | none =>
      obtain ⟨closed, notPending⟩ := sound.unopened isOpening
      have moved : run.next world = ⟨run.cursor, run.usage, none, run.worlds ++ [world],
          run.answers ++ [.error (.cursorState .next "closed")]⟩ := by
        simp [CursorRun.next, GroupCursor.next_of_closed closed, isOpening]
      rw [moved] at ended persists ⊢
      exact ⟨sound.isOfGroup, fun _ => ⟨closed, notPending⟩, by simp, ended, persists⟩
  | some opening =>
      obtain ⟨first, opened⟩ := sound.opened opening isOpening
      obtain ⟨openedNext, same⟩ := opened.next keeps sound.isOfGroup world
      have sameOpening : (run.next world).opening = some opening := isOpening
      refine ⟨same, by simp [sameOpening], ?_, ended, persists⟩
      intro other isOther
      obtain rfl := Option.some.inj (sameOpening.symm.trans isOther)
      exact ⟨first, openedNext⟩

theorem Sound.drain
    (sound : Sound source group run)
    (keeps : source.Keeps)
    (world : World)
    (steps : Nat) :
    Sound source group (run.drain world steps) := by
  induction steps generalizing run with
  | zero => exact sound
  | succ steps inductionHypothesis =>
      unfold CursorRun.drain
      split
      · exact inductionHypothesis (sound.next keeps world)
      · exact sound.next keeps world

theorem Sound.close
    (sound : Sound source group run) :
    Sound source group run.close := by
  have notPending : run.cursor.phase = .closed -> run.cursor.isPending = false := by
    intro closed
    cases isOpening : run.opening with
    | none => exact (sound.unopened isOpening).2
    | some opening =>
        obtain ⟨first, opened⟩ := sound.opened opening isOpening
        rw [← Bool.not_eq_true, opened.pending]
        simp [closed]
  unfold CursorRun.close GroupCursor.close
  split
  · next closed => exact .fresh run.cursor sound.isOfGroup closed (notPending closed) run.usage
  · let closed : GroupCursor World Scan :=
      { run.cursor with phase := .closed, scan := none, isPending := false }
    exact .fresh closed sound.isOfGroup rfl rfl run.usage

/-- Every call keeps a run sound. -/
theorem Sound.perform
    (sound : Sound source group run)
    (keeps : source.Keeps)
    (call : CursorCall World) :
    Sound source group (run.perform call) := by
  cases call with
  | rebind hkey deep => exact sound.rebind hkey deep
  | start world => exact sound.start world
  | next world => exact sound.next keeps world
  | drain world steps => exact sound.drain keeps world steps
  | close => exact sound.close

/-- Every run of a new cursor is sound. -/
theorem sound_after
    (keeps : source.Keeps)
    (group : Group)
    (usage : ScanUsage)
    (calls : List (CursorCall World)) :
    Sound source group (after source group usage calls) := by
  induction calls using List.reverseRecOn with
  | nil => exact Sound.fresh (GroupCursor.make source group) ⟨rfl, rfl⟩ rfl rfl usage
  | append_singleton calls call inductionHypothesis =>
      rw [after, List.foldl_concat]
      exact inductionHypothesis.perform keeps call

/-! ## What calls do -/

theorem Sound.exists_opened
    (sound : Sound source group run)
    (isOpen : run.cursor.phase ≠ .closed) :
    ∃ opening first, Opened source group run opening first := by
  cases isOpening : run.opening with
  | none => exact absurd (sound.unopened isOpening).1 isOpen
  | some opening => exact ⟨opening, sound.opened opening isOpening⟩

/-- A cursor in a scan holds it. -/
theorem Sound.exists_scan
    (sound : Sound source group run)
    (active : run.cursor.phase = .active) :
    ∃ scan, run.cursor.scan = some scan := by
  obtain ⟨opening, first, opened⟩ := sound.exists_opened (by simp [active])
  obtain ⟨scan, _, held⟩ := opened.stands.exists_scan active
  exact ⟨scan, held⟩

/-- An entry that is still to be delivered is the one of the scan that is held. -/
theorem Sound.exists_current
    (sound : Sound source group run)
    (keeps : source.Keeps)
    (pending : run.cursor.isPending = true) :
    run.cursor.phase = .active ∧
      ∃ scan entry, run.cursor.scan = some scan ∧ scan.current source = some entry := by
  cases isOpening : run.opening with
  | none => simp [(sound.unopened isOpening).2] at pending
  | some opening =>
      obtain ⟨first, opened⟩ := sound.opened opening isOpening
      obtain ⟨uncalled, active⟩ := opened.pending.mp pending
      obtain ⟨scan, entry, held, current, _⟩ := opened.exists_current keeps uncalled active
      exact ⟨active, scan, entry, held, current⟩

end CursorRun

namespace Lending

/-- The entry of a reader. -/
def entryOf (reader : UInt8) : Entry :=
  ⟨[0x10, 0x15, 6, 0x15, 1, 0x15, reader], [0x15, reader]⟩

/-- The row of a reader. -/
def rowOf (reader : Int64) : Row :=
  ⟨readers.rowType, [.bigInt reader], some ⟨[⟨⟨1⟩, [.bigInt reader]⟩]⟩⟩

end Lending
end Keyspace
