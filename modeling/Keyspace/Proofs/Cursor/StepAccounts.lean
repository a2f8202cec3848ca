import Keyspace.Proofs.Cursor.Drain
import Keyspace.Proofs.Cursor.Lifecycle

/-!
# Accounts of a cursor

Steps of scans are counted where a scan is stepped and rows where they are
delivered, and the entry that opening reads is delivered one call later.  Over a
store each counted step still belongs to one thing only: a row, an entry that
holds none, the end of a scan, or an entry that was read ahead and dropped or
that is still to be delivered.
-/

namespace Keyspace

/-! ## Calls in the course of a run -/

/-- A call that was made on a cursor, with what it gave back. -/
inductive CursorStep (World Scan : Type) where
  /-- A scan was to be started. -/
  | start (answer : Except Error Unit) (after : GroupCursor World Scan)
  /-- The next row was asked for. -/
  | next (before : GroupCursor World Scan) (answer : Except Error (Option Row))
  /-- The scan was let go. -/
  | close (before : GroupCursor World Scan)

namespace CursorStep

variable {World Scan : Type}

/-- Whether a row was delivered. -/
def delivers : CursorStep World Scan -> Bool
  | next _ (.ok (some _)) => true
  | _ => false

/-- Whether an open cursor failed to deliver the next row. -/
def fails : CursorStep World Scan -> Bool
  | next before (.error _) => before.phase != .closed
  | _ => false

/-- Whether the end of a scan was found, by opening it or by asking for its next
row. -/
def ends : CursorStep World Scan -> Bool
  | start (.ok ()) after => after.phase == .idle
  | next before (.ok none) => before.phase == .active
  | _ => false

/-- Whether the entry that opening read was dropped. -/
def discards : CursorStep World Scan -> Bool
  | close before => before.isPending
  | _ => false

/-- How many steps of scans some calls account for. -/
def settled (steps : List (CursorStep World Scan)) : Nat :=
  steps.countP delivers + steps.countP fails + steps.countP ends + steps.countP discards

theorem settled_append
    (earlier later : List (CursorStep World Scan)) :
    settled (earlier ++ later) = settled earlier + settled later := by
  simp only [settled, List.countP_append]
  omega

end CursorStep

/-- How many entries that opening read are still to be delivered. -/
def GroupCursor.pending {World Scan : Type} (cursor : GroupCursor World Scan) : Nat :=
  if cursor.isPending then 1 else 0

namespace CursorStep

variable {World Scan : Type}

@[simp] theorem settled_start
    (answer : Except Error Unit)
    (after : GroupCursor World Scan) :
    settled [.start answer after] =
      match answer with
      | .ok () => if after.phase = .idle then 1 else 0
      | .error _ => 0 := by
  rcases answer with error | _ <;> simp [settled, delivers, fails, ends, discards]

@[simp] theorem settled_next
    (before : GroupCursor World Scan)
    (answer : Except Error (Option Row)) :
    settled [.next before answer] =
      match answer with
      | .ok (some _) => 1
      | .ok none => if before.phase = .active then 1 else 0
      | .error _ => if before.phase = .closed then 0 else 1 := by
  rcases answer with error | _ | row <;> simp [settled, delivers, fails, ends, discards]

@[simp] theorem settled_close
    (before : GroupCursor World Scan) :
    settled [.close before] = before.pending := by
  cases isPending : before.isPending <;>
    simp [settled, delivers, fails, ends, discards, GroupCursor.pending, isPending]

end CursorStep

namespace GroupCursor

variable {World Scan : Type}

@[simp] theorem pending_of_isPending
    {cursor : GroupCursor World Scan}
    (isPending : cursor.isPending = true) :
    cursor.pending = 1 := by
  simp [pending, isPending]

@[simp] theorem pending_of_not_isPending
    {cursor : GroupCursor World Scan}
    (notPending : cursor.isPending = false) :
    cursor.pending = 0 := by
  simp [pending, notPending]

/-- The calls for the next row as which a cursor is drained. -/
def asked (world : World) :
    Nat -> GroupCursor World Scan -> ScanUsage -> List (CursorStep World Scan)
  | 0, _, _ => []
  | steps + 1, cursor, usage =>
      match cursor.next world usage with
      | (.ok (some row), stepped, counted) =>
          .next cursor (.ok (some row)) :: asked world steps stepped counted
      | (answer, _, _) => [.next cursor answer]

/-- Make a call on a cursor, and note what it gave back. -/
def perform (cursor : GroupCursor World Scan) (usage : ScanUsage) :
    CursorCall World -> List (CursorStep World Scan) × GroupCursor World Scan × ScanUsage
  | .rebind hkey deep =>
      match cursor.rebind hkey deep with
      | .error _ => ([], cursor, usage)
      | .ok bound => ([], bound, usage)
  | .start world =>
      let (answer, after, counted) := cursor.start world usage
      ([.start answer after], after, counted)
  | .next world =>
      let (answer, after, counted) := cursor.next world usage
      ([.next cursor answer], after, counted)
  | .drain world steps => (asked world steps cursor usage, (drainWithin world steps cursor usage).2)
  | .close => ([.close cursor], cursor.close, usage)

end GroupCursor

namespace CursorRun

variable {World Scan : Type} {source : Source World Scan} {group : Group}

/-- A run is sound whatever it has counted. -/
theorem Sound.counting
    {run : CursorRun World Scan}
    (sound : Sound source group run)
    (usage : ScanUsage) :
    Sound source group { run with usage := usage } :=
  ⟨sound.isOfGroup, sound.unopened, fun opening isOpening =>
    (sound.opened opening isOpening).imp fun _ opened => ⟨opened.isOfGroup, opened.started,
      opened.began, opened.stands, opened.pending, opened.answered⟩,
    sound.ended, sound.persists⟩

/-- In a run the calls do to the cursor what they do to it alone. -/
theorem perform_eq
    (run : CursorRun World Scan)
    (call : CursorCall World) :
    ((run.perform call).cursor, (run.perform call).usage) =
      (run.cursor.perform run.usage call).2 := by
  cases call with
  | rebind hkey deep =>
      simp only [perform, rebind, GroupCursor.perform]
      cases run.cursor.rebind hkey deep <;> rfl
  | start world =>
      simp only [perform, start, GroupCursor.perform]
      split <;> next started => rw [started]
  | next world => rfl
  | drain world steps =>
      obtain ⟨_, _, drained⟩ := run.drainWithin_eq world steps
      simp only [perform, GroupCursor.perform, drained]
  | close => rfl

end CursorRun

/-! ## Cursors in the course of calls -/

namespace GroupCursor

variable {World Scan : Type}


/-- Whether a cursor is the one of a sound run of calls. -/
def IsReached (source : Source World Scan) (cursor : GroupCursor World Scan) : Prop :=
  ∃ run, CursorRun.Sound source cursor.group run ∧ run.cursor = cursor

variable {source : Source World Scan} {cursor : GroupCursor World Scan}

theorem isReached_make
    (source : Source World Scan)
    (group : Group) :
    (make source group).IsReached source :=
  ⟨.fresh (make source group) ScanUsage.zero,
    CursorRun.Sound.fresh (make source group) ⟨rfl, rfl⟩ rfl rfl _, rfl⟩

theorem IsReached.perform
    (reached : cursor.IsReached source)
    (keeps : source.Keeps)
    (usage : ScanUsage)
    (call : CursorCall World) :
    (cursor.perform usage call).2.1.IsReached source := by
  obtain ⟨run, sound, rfl⟩ := reached
  have performed := (sound.counting usage).perform keeps call
  have same := CursorRun.perform_eq { run with usage := usage } call
  refine ⟨_, ?_, congrArg Prod.fst same⟩
  rw [← same]
  rwa [performed.isOfGroup.2]

/-- A cursor in a scan holds one that its source handed out. -/
theorem IsReached.exists_scan
    (reached : cursor.IsReached source)
    (active : cursor.phase = .active) :
    ∃ scan, cursor.scan = some scan ∧ scan.Reached source := by
  obtain ⟨run, sound, rfl⟩ := reached
  obtain ⟨opening, first, opened⟩ := sound.exists_opened (by simp [active])
  obtain ⟨scan, left, held⟩ := opened.stands.exists_scan active
  refine ⟨scan, held, GroupScan.reached_of_remainder ?_ left⟩
  rintro _ ⟨⟩
  exact opened.reached

theorem IsReached.source_eq
    (reached : cursor.IsReached source) :
    cursor.source = source := by
  obtain ⟨run, sound, rfl⟩ := reached
  exact sound.isOfGroup.1

/-- An entry that is still to be delivered is the one at which the scan stands. -/
theorem IsReached.exists_current
    (reached : cursor.IsReached source)
    (keeps : source.Keeps)
    (pending : cursor.isPending = true)
    {scan : GroupScan Scan}
    (held : cursor.scan = some scan) :
    ∃ entry, scan.current cursor.source = some entry := by
  rw [reached.source_eq]
  obtain ⟨run, sound, rfl⟩ := reached
  obtain ⟨_, other, entry, same, current⟩ := sound.exists_current keeps pending
  obtain rfl := Option.some.inj (held.symm.trans same)
  exact ⟨entry, current⟩

theorem IsReached.isPending_of_ne_active
    (reached : cursor.IsReached source)
    (keeps : source.Keeps)
    (inactive : cursor.phase ≠ .active) :
    cursor.isPending = false := by
  obtain ⟨run, sound, rfl⟩ := reached
  rw [← Bool.not_eq_true]
  exact fun pending => inactive (sound.exists_current keeps pending).1

/-! ## What a call accounts for -/

/-- Whether some calls account for what was counted meanwhile, and failed on
entries that hold no row alone. -/
structure Balances
    (cursor : GroupCursor World Scan)
    (usage : ScanUsage)
    (outcome : List (CursorStep World Scan) × GroupCursor World Scan × ScanUsage) : Prop where
  /-- A step of a scan is accounted for by a call, or its entry is still to be
  delivered. -/
  traversals : outcome.2.2.traversals + cursor.pending =
    usage.traversals + CursorStep.settled outcome.1 + outcome.2.1.pending
  /-- The rows that were delivered are counted. -/
  rows : outcome.2.2.rows = usage.rows + outcome.1.countP CursorStep.delivers
  /-- Open cursors failed on entries that hold no row. -/
  failures : ∀ before error, .next before (.error error) ∈ outcome.1 ->
    before.phase = .closed ∨ ∃ entry, before.group.rowOfEntry entry = .error error

theorem Balances.trans
    {usage counted further : ScanUsage}
    {earlier later : List (CursorStep World Scan)}
    {between last : GroupCursor World Scan}
    (first : cursor.Balances usage (earlier, between, counted))
    (second : between.Balances counted (later, last, further)) :
    cursor.Balances usage (earlier ++ later, last, further) := by
  obtain ⟨firstTraversals, firstRows, firstFailures⟩ := first
  obtain ⟨secondTraversals, secondRows, secondFailures⟩ := second
  dsimp only at firstTraversals firstRows firstFailures secondTraversals secondRows secondFailures
  refine ⟨?_, ?_, ?_⟩
  · rw [CursorStep.settled_append]
    dsimp only
    omega
  · rw [secondRows, firstRows, List.countP_append, Nat.add_assoc]
  · intro before error present
    rcases List.mem_append.mp present with present | present
    · exact firstFailures before error present
    · exact secondFailures before error present

/-- A delivery accounts for the step that read its entry. -/
theorem balances_deliver
    {scan : GroupScan Scan}
    {entry : Entry}
    {usage counted : ScanUsage}
    (active : cursor.phase = .active)
    (current : scan.current cursor.source = some entry)
    (traversals : counted.traversals + cursor.pending = usage.traversals + 1)
    (rows : counted.rows = usage.rows) :
    cursor.Balances usage
      ([.next cursor (cursor.deliver scan counted).1], (cursor.deliver scan counted).2) := by
  cases row : cursor.group.rowOfEntry entry with
  | ok found =>
      have delivered : cursor.deliver scan counted = (.ok (some found),
          { cursor with scan := some scan, isPending := false }, counted.row) := by
        simp [deliver, current, row]
      rw [delivered]
      refine ⟨traversals, congrArg (· + 1) rows, ?_⟩
      simp
  | error error =>
      have delivered : cursor.deliver scan counted = (.error error,
          { cursor with scan := some scan, isPending := false }, counted) := by
        simp [deliver, current, row]
      rw [delivered]
      refine ⟨?_, rows, ?_⟩
      · rw [traversals]
        simp [active]
      · intro before fault present
        obtain ⟨rfl, same⟩ := by simpa using present
        exact .inr ⟨entry, same ▸ row⟩

end GroupCursor

/-! ## Cursors over a store -/

/-- A scan that a store handed out reads batches of at least one entry. -/
theorem Source.roomy_of_reaches
    {batchSize : Nat}
    {scan : RangeScan}
    (reached : (ofStore batchSize).Reaches scan) :
    0 < scan.batchSize := by
  induction reached with
  | opened opens =>
      obtain rfl := Except.ok.inj opens
      simp [RangeScan.start]
  | @stepped scan store _ inductionHypothesis =>
      obtain ⟨_, _, sameSize⟩ := scan.advance_spec store inductionHypothesis
      exact sameSize ▸ inductionHypothesis

/-- A scan of a store has fewer entries before it than steps that it may take. -/
theorem GroupScan.exists_yields
    {batchSize : Nat}
    {scan : GroupScan RangeScan}
    (reached : scan.Reached (Source.ofStore batchSize))
    (store : Store) :
    ∃ entries, scan.Yields (Source.ofStore batchSize) store entries ∧
      entries.length < scan.stepBound (Source.ofStore batchSize) store := by
  cases scan with
  | overRange scan =>
      exact ⟨scan.remaining store, yields_overRange batchSize (Source.roomy_of_reaches reached),
        Nat.lt_succ_of_le (scan.length_remaining_le store)⟩
  | atKey key value isRead =>
      cases isRead with
      | true => exact ⟨[], ⟨.atKey key none true, rfl⟩, by simp [stepBound]⟩
      | false =>
          refine ⟨_, yields_atKey store key value batchSize, ?_⟩
          cases store.get? key <;> simp [stepBound]

/-- The same holds of what is left of the scan after at most one step. -/
theorem GroupScan.exists_yields_of_step
    {batchSize : Nat}
    {scan left : GroupScan RangeScan}
    (reached : scan.Reached (Source.ofStore batchSize))
    {store : Store}
    (moved : left = scan ∨ scan.advance (Source.ofStore batchSize) store = (.ok true, left)) :
    ∃ entries, left.Yields (Source.ofStore batchSize) store entries ∧
      entries.length < scan.stepBound (Source.ofStore batchSize) store := by
  obtain ⟨entries, yields, enough⟩ := exists_yields reached store
  rcases moved with rfl | advanced
  · exact ⟨entries, yields, enough⟩
  · cases entries with
    | nil =>
        obtain ⟨_, ended⟩ := yields
        simp [advanced] at ended
    | cons entry entries =>
        obtain ⟨next, stepped, _, _, others⟩ := yields
        obtain ⟨_, rfl⟩ := Prod.mk.inj (advanced.symm.trans stepped)
        exact ⟨entries, others, Nat.lt_of_succ_lt enough⟩

/-- A step of a scan of a store does not fail. -/
theorem GroupScan.exists_advance_ofStore
    (scan : GroupScan RangeScan)
    (batchSize : Nat)
    (store : Store) :
    ∃ found stepped, scan.advance (Source.ofStore batchSize) store = (.ok found, stepped) := by
  cases scan with
  | overRange scan => exact ⟨_, _, rfl⟩
  | atKey key value isRead => cases isRead <;> exact ⟨_, _, rfl⟩

namespace GroupCursor

variable {batchSize : Nat} {cursor : GroupCursor Store RangeScan}

/-- Asking for the next row steps the scan, unless the entry was read before. -/
theorem IsReached.balances_next
    (reached : cursor.IsReached (Source.ofStore batchSize))
    (store : Store)
    (usage : ScanUsage) :
    cursor.Balances usage
      ([.next cursor (cursor.next store usage).1], (cursor.next store usage).2) := by
  have keeps := Source.keeps_ofStore batchSize
  cases phase : cursor.phase with
  | closed =>
      rw [next_of_closed phase]
      refine ⟨?_, rfl, ?_⟩
      · simp [phase]
      · intro before error present
        obtain ⟨rfl, _⟩ := by simpa using present
        exact .inl phase
  | idle =>
      rw [next_of_idle phase]
      refine ⟨?_, rfl, by simp⟩
      simp [phase]
  | active =>
      obtain ⟨scan, held, reachedScan⟩ := reached.exists_scan phase
      have source := reached.source_eq
      cases pending : cursor.isPending with
      | true =>
          obtain ⟨entry, current⟩ := reached.exists_current keeps pending held
          have stepped : cursor.next store usage = cursor.deliver scan usage := by
            simp only [next, phase, held, pending, if_true]
          rw [stepped]
          exact balances_deliver phase current (by simp [pending]) rfl
      | false =>
          obtain ⟨found, stepped, advanced⟩ := scan.exists_advance_ofStore batchSize store
          cases found with
          | false =>
              have ended : cursor.next store usage =
                  (.ok none, { cursor with phase := .idle, scan := none }, usage.traversal) := by
                simp only [next, phase, held, pending, source, advanced, Bool.false_eq_true,
                  if_false]
              rw [ended]
              refine ⟨?_, rfl, by simp⟩
              simp [phase, pending, ScanUsage.traversal]
          | true =>
              obtain ⟨entry, current⟩ := GroupScan.exists_current keeps reachedScan advanced
              rw [← source] at current
              have delivered : cursor.next store usage =
                  cursor.deliver stepped usage.traversal := by
                simp only [next, phase, held, pending, source, advanced, Bool.false_eq_true,
                  if_false]
              rw [delivered]
              exact balances_deliver phase current
                (by simp [pending, ScanUsage.traversal]) rfl

/-- Draining is asking for one row after the other. -/
theorem IsReached.balances_drain
    (reached : cursor.IsReached (Source.ofStore batchSize))
    (store : Store)
    (steps : Nat)
    (usage : ScanUsage) :
    cursor.Balances usage
      (asked store steps cursor usage, (drainWithin store steps cursor usage).2) := by
  induction steps generalizing cursor usage with
  | zero => exact ⟨rfl, rfl, by simp [asked]⟩
  | succ steps inductionHypothesis =>
      have first := reached.balances_next store usage
      have stepped := reached.perform (Source.keeps_ofStore batchSize) usage (.next store)
      simp only [GroupCursor.perform] at stepped
      unfold asked drainWithin
      cases answered : cursor.next store usage with
      | mk answer rest =>
        rw [answered] at first stepped
        rcases answer with error | _ | row
        · exact first
        · exact first
        · exact first.trans (inductionHypothesis stepped rest.2)

/-- Opening fails without a step or takes one, which finds an entry or the end. -/
theorem start_cases
    (source : cursor.source = Source.ofStore batchSize)
    (store : Store)
    (usage : ScanUsage) :
    (∃ error, cursor.start store usage = (.error error, cursor, usage)) ∨
      cursor.phase ≠ .active ∧ ∃ ready found, cursor.start store usage =
        (.ok (), { cursor with
          phase := if found then .active else .idle, scan := some ready, isPending := found },
          usage.opening.traversal) := by
  by_cases active : cursor.phase = .active
  · exact .inl ⟨_, start_of_active active store usage⟩
  · have inactive : cursor.phase.isActive = false := by
      rwa [← Bool.not_eq_true, CursorPhase.isActive_iff]
    cases started : cursor.startScan store with
    | error error => exact .inl ⟨error, by simp [start, inactive, started]⟩
    | ok scan =>
        obtain ⟨found, ready, advanced⟩ := scan.exists_advance_ofStore batchSize store
        exact .inr ⟨active, ready, found, by simp [start, inactive, started, source, advanced]⟩

theorem IsReached.balances_start
    (reached : cursor.IsReached (Source.ofStore batchSize))
    (store : Store)
    (usage : ScanUsage) :
    cursor.Balances usage ([.start (cursor.start store usage).1 (cursor.start store usage).2.1],
      (cursor.start store usage).2) := by
  rcases start_cases reached.source_eq store usage with
    ⟨error, failed⟩ | ⟨inactive, ready, found, opened⟩
  · rw [failed]
    exact ⟨rfl, rfl, by simp⟩
  · have notPending := reached.isPending_of_ne_active (Source.keeps_ofStore batchSize) inactive
    rw [opened]
    refine ⟨?_, rfl, by simp⟩
    cases found <;> simp [notPending, ScanUsage.traversal, ScanUsage.opening]

theorem IsReached.balances_close
    (reached : cursor.IsReached (Source.ofStore batchSize))
    (usage : ScanUsage) :
    cursor.Balances usage ([.close cursor], cursor.close, usage) := by
  have notPending : cursor.close.isPending = false := by
    unfold close
    split
    · next closed =>
        exact reached.isPending_of_ne_active (Source.keeps_ofStore batchSize) (by simp [closed])
    · rfl
  exact ⟨by simp [notPending], rfl, by simp⟩

/-- Every call accounts for what it counts. -/
theorem IsReached.balances_perform
    (reached : cursor.IsReached (Source.ofStore batchSize))
    (usage : ScanUsage)
    (call : CursorCall Store) :
    cursor.Balances usage (cursor.perform usage call) := by
  cases call with
  | rebind hkey deep =>
      simp only [GroupCursor.perform, rebind]
      cases cursor.phase.isActive <;> exact ⟨rfl, rfl, by simp⟩
  | start store => exact reached.balances_start store usage
  | next store => exact reached.balances_next store usage
  | drain store steps => exact reached.balances_drain store steps usage
  | close => exact reached.balances_close usage

/-! ## Draining to the end -/

theorem inScan_of_deliver_some
    {scan : GroupScan RangeScan}
    {usage counted : ScanUsage}
    {row : Row}
    {after : GroupCursor Store RangeScan}
    (active : cursor.phase = .active)
    (delivered : cursor.deliver scan usage = (.ok (some row), after, counted)) :
    after = cursor.inScan scan false := by
  unfold deliver at delivered
  split at delivered
  · simp at delivered
  · split at delivered
    · simp at delivered
    · obtain ⟨_, rfl, _⟩ := by simpa only [Prod.mk.injEq] using delivered
      rw [inScan, ← active]

/-- A cursor that delivers a row is in a scan, and stays where opening left it or
takes a step. -/
theorem inScan_of_next_some
    {store : Store}
    {usage counted : ScanUsage}
    {row : Row}
    {after : GroupCursor Store RangeScan}
    (answered : cursor.next store usage = (.ok (some row), after, counted)) :
    cursor.phase = .active ∧ ∃ scan left, cursor.scan = some scan ∧
      after = cursor.inScan left false ∧
      (left = scan ∨ scan.advance cursor.source store = (.ok true, left)) := by
  cases phase : cursor.phase with
  | closed => simp [next_of_closed phase] at answered
  | idle => simp [next_of_idle phase] at answered
  | active =>
      simp only [next, phase] at answered
      split at answered
      · simp at answered
      · next scan held =>
          refine ⟨rfl, scan, ?_⟩
          split at answered
          · exact ⟨scan, held, inScan_of_deliver_some phase answered, .inl rfl⟩
          · split at answered
            · simp at answered
            · simp at answered
            · next left advanced =>
                exact ⟨left, held, inScan_of_deliver_some phase answered, .inr advanced⟩

/-- Draining ends at the end of the scan unless it takes every step that it may, and
then the rows and the end are all that it accounts for. -/
theorem asked_of_drainWithin
    {store : Store}
    {steps : Nat}
    {usage counted : ScanUsage}
    {rows : List Row}
    {after : GroupCursor Store RangeScan}
    (drained : drainWithin store steps cursor usage = (.ok rows, after, counted))
    (fewer : rows.length < steps) :
    after.phase = .idle ∧
      (asked store steps cursor usage).countP CursorStep.delivers = rows.length ∧
      CursorStep.settled (asked store steps cursor usage) =
        rows.length + if cursor.phase = .active then 1 else 0 := by
  induction steps generalizing cursor usage rows with
  | zero => simp at fewer
  | succ steps inductionHypothesis =>
      unfold drainWithin at drained
      unfold asked
      cases answered : cursor.next store usage with
      | mk answer rest =>
        obtain ⟨stepped, between⟩ := rest
        rcases answer with error | _ | row
        · simp [answered] at drained
        · have idle := phase_of_next_none (congrArg Prod.fst answered)
          simp only [answered, Prod.mk.injEq, Except.ok.injEq] at drained idle ⊢
          obtain ⟨rfl, rfl, _⟩ := drained
          exact ⟨idle, by simp [CursorStep.delivers]⟩
        · obtain ⟨active, _, left, _, stillInScan, _⟩ := inScan_of_next_some answered
          simp only [answered, Prod.mk.injEq, map_eq_ok] at drained ⊢
          obtain ⟨⟨others, further, rfl⟩, rfl, rfl⟩ := drained
          obtain ⟨idle, delivered, settled⟩ := inductionHypothesis
            (Prod.ext further rfl) (Nat.lt_of_succ_lt_succ fewer)
          have stillActive : stepped.phase = .active := by rw [stillInScan, inScan]
          rw [stillActive, if_pos rfl] at settled
          rw [← List.singleton_append, CursorStep.settled_append, settled, active]
          refine ⟨idle, ?_, ?_⟩
          · simp [CursorStep.delivers, List.countP_cons, delivered]
          · simp
            omega

/-- A reached cursor is drained in fewer steps than it may take. -/
theorem IsReached.length_lt_stepBound
    (reached : cursor.IsReached (Source.ofStore batchSize))
    {store : Store}
    {usage counted : ScanUsage}
    {rows : List Row}
    {after : GroupCursor Store RangeScan}
    (drained : cursor.drain store usage = (.ok rows, after, counted)) :
    rows.length < cursor.stepBound store := by
  have source := reached.source_eq
  have positive : 0 < cursor.stepBound store := by
    unfold GroupCursor.stepBound
    split <;> simp
  obtain ⟨steps, bound⟩ := Nat.exists_eq_add_one.mpr positive
  rw [drain, bound, drainWithin] at drained
  rw [bound]
  cases answered : cursor.next store usage with
  | mk answer rest =>
    obtain ⟨stepped, between⟩ := rest
    rcases answer with error | _ | row
    · simp [answered] at drained
    · simp only [answered, Prod.mk.injEq, Except.ok.injEq] at drained
      simp [← drained.1]
    · obtain ⟨active, scan, left, held, rfl, moved⟩ := inScan_of_next_some answered
      simp only [answered, Prod.mk.injEq, map_eq_ok] at drained
      obtain ⟨⟨others, further, rfl⟩, _⟩ := drained
      obtain ⟨other, sameScan, handedOut⟩ := reached.exists_scan active
      obtain rfl := Option.some.inj (held.symm.trans sameScan)
      obtain rfl : scan.stepBound cursor.source store = steps := by
        simpa only [GroupCursor.stepBound, held, Nat.add_right_cancel_iff] using bound
      rw [source] at moved
      obtain ⟨rest, yields, shorter⟩ := GroupScan.exists_yields_of_step handedOut moved
      rw [← source] at yields shorter
      rw [drainWithin_inScan yields shorter, mapM_eq_ok] at further
      rw [List.length_cons, ← further.length_eq]
      exact Nat.succ_lt_succ shorter

/-- Opening takes one step.  Draining takes as many as there are rows: the first row
was read by opening, and the last step finds the end. -/
theorem IsReached.counts_of_cycle
    (reached : cursor.IsReached (Source.ofStore batchSize))
    {store later : Store}
    {usage counted between last : ScanUsage}
    {opened after : GroupCursor Store RangeScan}
    {rows : List Row}
    (opens : cursor.start store usage = (.ok (), opened, counted))
    (drained : opened.drain later between = (.ok rows, after, last)) :
    after.phase = .idle ∧ counted.traversals = usage.traversals + 1 ∧
      last.traversals = between.traversals + rows.length ∧
      last.rows = between.rows + rows.length := by
  have keeps := Source.keeps_ofStore batchSize
  have reachedOpened : opened.IsReached (Source.ofStore batchSize) := by
    simpa only [GroupCursor.perform, opens] using reached.perform keeps usage (.start store)
  have fewer := reachedOpened.length_lt_stepBound drained
  rw [drain] at drained
  obtain ⟨idle, delivered, settled⟩ := asked_of_drainWithin drained fewer
  have reachedAfter : after.IsReached (Source.ofStore batchSize) := by
    simpa only [GroupCursor.perform, drained] using
      reachedOpened.perform keeps between (.drain later (opened.stepBound later))
  have openedPending : counted.traversals = usage.traversals + 1 ∧
      opened.pending = if opened.phase = .active then 1 else 0 := by
    rcases start_cases reached.source_eq store usage with
      ⟨error, failed⟩ | ⟨_, ready, found, succeeded⟩
    · simp [failed] at opens
    · obtain ⟨_, rfl, rfl⟩ := by simpa only [Prod.mk.injEq] using opens.symm.trans succeeded
      exact ⟨rfl, by cases found <;> simp⟩
  have afterPending : after.pending = 0 :=
    pending_of_not_isPending (reachedAfter.isPending_of_ne_active keeps (by simp [idle]))
  obtain ⟨traversals, counts, _⟩ :=
    reachedOpened.balances_drain later (opened.stepBound later) between
  simp only [drained] at traversals counts
  rw [settled, openedPending.2, afterPending] at traversals
  exact ⟨idle, openedPending.1, by omega, counts.trans (congrArg _ delivered)⟩

end GroupCursor
end Keyspace
