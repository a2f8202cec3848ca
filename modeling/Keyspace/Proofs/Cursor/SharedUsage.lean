import Keyspace.Proofs.Cursor.StepAccounts

/-!
# Usage that cursors share

Cursors over one store may count together.  Since every call on one of them accounts
for what it counts, the shared counts are those of all calls, in whatever order the
cursors were called.
-/

namespace Keyspace

/-! ## Cursors that count together -/

theorem GroupCursor.countP_isPending_set
    {World Scan : Type}
    {cursors : List (GroupCursor World Scan)}
    {position : Nat}
    (inside : position < cursors.length)
    (after : GroupCursor World Scan) :
    (cursors.set position after).countP isPending + cursors[position].pending =
      cursors.countP isPending + after.pending := by
  have counted := List.boole_getElem_le_countP (p := isPending) inside
  rw [List.countP_set inside, pending, pending, Nat.add_right_comm, Nat.sub_add_cancel counted]

/-- Cursors over a store that count together. -/
structure CursorPool where
  /-- The cursors. -/
  cursors : List (GroupCursor Store RangeScan)
  /-- What they have counted. -/
  usage : ScanUsage
  /-- The calls that were made on them, with what these gave back. -/
  steps : List (CursorStep Store RangeScan)

namespace CursorPool

/-- New cursors over some groups. -/
def fresh (batchSize : Nat) (groups : List Group) : CursorPool :=
  ⟨groups.map (GroupCursor.make (Source.ofStore batchSize)), ScanUsage.zero, []⟩

/-- Make a call on the cursor at a position, if there is one. -/
def perform (pool : CursorPool) (call : Nat × CursorCall Store) : CursorPool :=
  match pool.cursors[call.1]? with
  | none => pool
  | some cursor =>
      let (steps, after, counted) := cursor.perform pool.usage call.2
      ⟨pool.cursors.set call.1 after, counted, pool.steps ++ steps⟩

/-- New cursors over some groups after some calls. -/
def after
    (batchSize : Nat)
    (groups : List Group)
    (calls : List (Nat × CursorCall Store)) : CursorPool :=
  calls.foldl perform (fresh batchSize groups)

/-- What every call on cursors that count together keeps. -/
structure Sound (batchSize : Nat) (pool : CursorPool) : Prop where
  /-- Each cursor is the one of a sound run of calls. -/
  reached : ∀ cursor ∈ pool.cursors, cursor.IsReached (Source.ofStore batchSize)
  /-- Each step of a scan is accounted for, or its entry is still to be delivered. -/
  traversals : pool.usage.traversals =
    CursorStep.settled pool.steps + pool.cursors.countP GroupCursor.isPending
  /-- The rows that were delivered are counted. -/
  rows : pool.usage.rows = pool.steps.countP CursorStep.delivers
  /-- Open cursors failed on entries that hold no row. -/
  failures : ∀ before error, .next before (.error error) ∈ pool.steps ->
    before.phase = .closed ∨ ∃ entry, before.group.rowOfEntry entry = .error error

theorem sound_fresh
    (batchSize : Nat)
    (groups : List Group) :
    (fresh batchSize groups).Sound batchSize where
  reached := by
    intro cursor present
    obtain ⟨group, _, rfl⟩ := List.mem_map.mp present
    exact GroupCursor.isReached_make _ group
  traversals := by
    have unpending : (groups.map (GroupCursor.make (Source.ofStore batchSize))).countP
        GroupCursor.isPending = 0 := by
      rw [List.countP_map]
      exact List.countP_eq_zero.mpr (by simp [GroupCursor.make])
    rw [fresh, unpending]
    rfl
  rows := rfl
  failures := by simp [fresh]

/-- Every call keeps the accounts of cursors that count together. -/
theorem Sound.perform
    {batchSize : Nat}
    {pool : CursorPool}
    (sound : pool.Sound batchSize)
    (call : Nat × CursorCall Store) :
    (pool.perform call).Sound batchSize := by
  unfold CursorPool.perform
  split
  · exact sound
  · next cursor found =>
      obtain ⟨inside, rfl⟩ := List.getElem?_eq_some_iff.mp found
      have reached := sound.reached _ (List.getElem_mem inside)
      have reachedAfter := reached.perform (Source.keeps_ofStore batchSize) pool.usage call.2
      have balances := reached.balances_perform pool.usage call.2
      cases performed : pool.cursors[call.1].perform pool.usage call.2 with
      | mk steps rest =>
          obtain ⟨after, counted⟩ := rest
          rw [performed] at reachedAfter balances
          obtain ⟨traversals, rows, failures⟩ := balances
          dsimp only at traversals rows failures
          refine ⟨?_, ?_, ?_, ?_⟩
          · intro other present
            rcases List.mem_or_eq_of_mem_set present with before | rfl
            · exact sound.reached other before
            · exact reachedAfter
          · have moved := GroupCursor.countP_isPending_set inside after
            have before := sound.traversals
            rw [CursorStep.settled_append]
            dsimp only
            omega
          · rw [rows, sound.rows, List.countP_append]
          · intro before error present
            rcases List.mem_append.mp present with earlier | now
            · exact sound.failures before error earlier
            · exact failures before error now

theorem sound_after
    (batchSize : Nat)
    (groups : List Group)
    (calls : List (Nat × CursorCall Store)) :
    (after batchSize groups calls).Sound batchSize := by
  induction calls using List.reverseRecOn with
  | nil => exact sound_fresh batchSize groups
  | append_singleton calls call inductionHypothesis =>
      rw [after, List.foldl_concat]
      exact inductionHypothesis.perform call

/-- What is promised of cursors over a store that count together. -/
structure Accounted (pool : CursorPool) : Prop where
  /-- Each counted step of a scan is the one of a row, of an entry that holds none, of
  an end, of an entry that was dropped before its delivery, or of one that is still to
  be delivered. -/
  traversals : pool.usage.traversals =
    pool.steps.countP CursorStep.delivers + pool.steps.countP CursorStep.fails +
      pool.steps.countP CursorStep.ends + pool.steps.countP CursorStep.discards +
      pool.cursors.countP GroupCursor.isPending
  /-- The counted rows are those that were delivered. -/
  rows : pool.usage.rows = pool.steps.countP CursorStep.delivers
  /-- An open cursor that failed to deliver did so on an entry that holds no row. -/
  failures : ∀ before error, .next before (.error error) ∈ pool.steps ->
    before.phase = .closed ∨ ∃ entry, before.group.rowOfEntry entry = .error error
  /-- Whatever a cursor is bound to, to open it and then drain it ends behind its last
  row and takes one step more than there are rows, also if others count between. -/
  cycles : ∀ cursor ∈ pool.cursors, ∀ store later opened counted between rows drained last,
    cursor.start store pool.usage = (.ok (), opened, counted) ->
    opened.drain later between = (.ok rows, drained, last) ->
      drained.phase = .idle ∧ last.rows = between.rows + rows.length ∧
        counted.traversals + last.traversals =
          pool.usage.traversals + between.traversals + (rows.length + 1)

/-- Cursors over a store that count together account for every step of their scans,
whatever calls are made on them and whatever is written to the store meanwhile. -/
theorem accounted_after
    (batchSize : Nat)
    (groups : List Group)
    (calls : List (Nat × CursorCall Store)) :
    (after batchSize groups calls).Accounted := by
  have sound := sound_after batchSize groups calls
  generalize after batchSize groups calls = pool at sound
  constructor
  case traversals => exact sound.traversals
  case rows => exact sound.rows
  case failures => exact sound.failures
  case cycles =>
    intro cursor present store later opened counted between rows drained last opens drains
    obtain ⟨idle, opening, draining, delivered⟩ :=
      (sound.reached cursor present).counts_of_cycle opens drains
    exact ⟨idle, delivered, by omega⟩

end CursorPool

namespace Lending

/-- The key of a reader. -/
def keyOf (reader : Int64) : HKey :=
  ⟨[⟨⟨1⟩, [.bigInt reader]⟩]⟩

/-- A store of two readers. -/
def twoReaders : Store :=
  (Store.empty.insert (entryOf 7).key (entryOf 7).value).insert (entryOf 9).key (entryOf 9).value

/-- The same store with an entry between them that holds no row. -/
def spoiled : Store :=
  twoReaders.insert (entryOf 8).key []

/-- One cursor is drained up to the entry that holds no row and then to the end, one
is closed as soon as it was opened, and one finds nothing and then a row that it does
not deliver. -/
def mixedCalls : List (Nat × CursorCall Store) :=
  [(0, .start spoiled), (0, .drain spoiled 9), (1, .rebind (some (keyOf 7)) true),
    (1, .start spoiled), (0, .drain spoiled 9), (1, .close), (1, .next spoiled),
    (2, .rebind (some (keyOf 5)) false), (2, .start spoiled), (2, .next spoiled),
    (2, .rebind (some (keyOf 9)) false), (2, .start twoReaders)]

/-- The cursors after these calls. -/
def mixed : CursorPool :=
  CursorPool.after 1 [group, group, group] mixedCalls

/-- The cursor that was closed. -/
def closedAgain : GroupCursor Store RangeScan :=
  mixed.cursors.get ⟨1, by decide +kernel⟩

/-- Seven steps go in all five ways, and a cycle of one row takes two more. -/
theorem accounted_mixed :
    mixed.Accounted ∧ mixed.usage = ⟨7, 4, 2⟩ ∧
      mixed.steps.countP CursorStep.delivers = 2 ∧ mixed.steps.countP CursorStep.fails = 1 ∧
      mixed.steps.countP CursorStep.ends = 2 ∧ mixed.steps.countP CursorStep.discards = 1 ∧
      mixed.cursors.countP GroupCursor.isPending = 1 ∧
      ∃ opened counted drained last,
        closedAgain.start twoReaders mixed.usage = (.ok (), opened, counted) ∧
        opened.drain twoReaders counted = (.ok [rowOf 7], drained, last) ∧
        last.traversals = 9 := by
  have accounted : mixed.Accounted :=
    CursorPool.accounted_after 1 [group, group, group] mixedCalls
  have usage : mixed.usage = ⟨7, 4, 2⟩ := by decide +kernel
  have opens : closedAgain.start twoReaders mixed.usage =
      (.ok (), (closedAgain.start twoReaders mixed.usage).2) :=
    Prod.ext (by decide +kernel) rfl
  have drains : (closedAgain.start twoReaders mixed.usage).2.1.drain twoReaders
      (closedAgain.start twoReaders mixed.usage).2.2 =
      (.ok [rowOf 7], ((closedAgain.start twoReaders mixed.usage).2.1.drain twoReaders
        (closedAgain.start twoReaders mixed.usage).2.2).2) :=
    Prod.ext (by decide +kernel) rfl
  obtain ⟨_, _, counts⟩ := accounted.cycles closedAgain (List.get_mem _ _) _ _ _ _ _ _ _ _
    opens drains
  rw [usage, Nat.add_right_comm, Nat.add_comm] at counts
  exact ⟨accounted, usage, by decide +kernel, by decide +kernel, by decide +kernel,
    by decide +kernel, by decide +kernel, _, _, _, _, opens, drains, Nat.add_right_cancel counts⟩

end Lending
end Keyspace
