import Keyspace.Proofs.Store.Scan
import Keyspace.Store.Metered

/-!
# Scans of a store that changes

A scan holds no lock, so others may write and delete between any two of its
steps.  What it has read and where it resumes settle what it can still hand
out: the keys rise without a repetition, and a key that stays in the store
cannot be passed over.  A batch that is not full is the last one, so a scan that
has come to its end stays there.
-/

namespace Keyspace

/-! ## Batches -/

theorem Store.mem_within
    {store : Store}
    {range : KeyRange}
    {entry : Entry} :
    entry ∈ store.within range ↔
      store.get? entry.key = some entry.value ∧ range.contains entry.key = true := by
  rw [within_eq, List.mem_filter, mem_entries]

namespace RangeScan

variable {scan : RangeScan} {store : Store} {key : Bytes}

theorem ascending_nextBatch
    (scan : RangeScan)
    (store : Store) :
    Ascending (scan.nextBatch store) :=
  (store.ascending_within _).sublist (List.take_sublist _ _)

theorem mem_nextBatch
    {entry : Entry}
    (present : entry ∈ scan.nextBatch store) :
    store.get? entry.key = some entry.value ∧
      scan.resume.admitsAbove entry.key = true ∧
        scan.range.finish.admitsBelow entry.key = true := by
  obtain ⟨stored, contained⟩ := Store.mem_within.mp (List.mem_of_mem_take present)
  rw [KeyRange.contains, Bool.and_eq_true] at contained
  exact ⟨stored, contained⟩

/-- What a scan can hand out behind a batch was in reach before it, and lies
behind the whole batch. -/
theorem admitsAbove_of_fill
    (reach : (scan.fill store).resume.admitsAbove key = true) :
    scan.resume.admitsAbove key = true ∧
      ∀ entry ∈ scan.nextBatch store, Bytes.Precedes entry.key key := by
  rcases List.eq_nil_or_concat' (scan.nextBatch store) with empty | ⟨front, last, parts⟩
  · rw [fill, empty] at reach
    exact ⟨reach, by simp [empty]⟩
  · have greater : Bytes.compare key last.key = .gt := by
      rw [fill, parts] at reach
      simpa [Bound.admitsAbove] using reach
    have lastPrecedes := Bytes.precedes_of_compare_gt greater
    have lastPresent : last ∈ scan.nextBatch store := by simp [parts]
    refine ⟨Bound.admitsAbove_of_gt (mem_nextBatch lastPresent).2.1 greater, ?_⟩
    intro entry present
    have ascending := scan.ascending_nextBatch store
    rw [parts] at present ascending
    rcases List.mem_append.mp present with earlier | same
    · exact ((List.pairwise_append.mp ascending).2.2 entry earlier last (by simp)).trans
        lastPrecedes
    · exact List.mem_singleton.mp same ▸ lastPrecedes

/-- A stored key in reach is in the batch or stays in reach behind it. -/
theorem mem_nextBatch_or_reach
    {value : Bytes}
    (roomy : 0 < scan.batchSize)
    (stored : store.get? key = some value)
    (reach : scan.resume.admitsAbove key = true)
    (inside : scan.range.finish.admitsBelow key = true) :
    (∃ entry ∈ scan.nextBatch store, entry.key = key) ∨
      scan.batchSize ≤ (scan.nextBatch store).length ∧
        (scan.fill store).resume.admitsAbove key = true := by
  have present : Entry.mk key value ∈ store.within ⟨scan.resume, scan.range.finish⟩ :=
    Store.mem_within.mpr ⟨stored, by rw [KeyRange.contains, reach, inside, Bool.and_self]⟩
  have ascending := store.ascending_within ⟨scan.resume, scan.range.finish⟩
  rw [← List.take_append_drop scan.batchSize (store.within _)] at present ascending
  rcases List.mem_append.mp present with taken | left
  · exact .inl ⟨_, taken, rfl⟩
  · have full : scan.batchSize ≤ (scan.nextBatch store).length := by
      have more := List.length_pos_of_mem left
      rw [List.length_drop] at more
      rw [nextBatch, List.length_take]
      omega
    obtain ⟨front, last, parts⟩ := (List.eq_nil_or_concat' (scan.nextBatch store)).resolve_left
      (List.ne_nil_of_length_pos (roomy.trans_le full))
    have lastPresent : last ∈ scan.nextBatch store := by simp [parts]
    have below : Bytes.compare last.key key = .lt :=
      (List.pairwise_append.mp ascending).2.2 last lastPresent _ left
    refine .inr ⟨full, ?_⟩
    rw [fill, parts]
    simp [Bound.admitsAbove, Std.OrientedCmp.gt_of_lt below]

end RangeScan

/-! ## Runs -/

/-- A step of a scan, or of others who change the store meanwhile. -/
inductive ScanStep where
  /-- The scan steps. -/
  | advance
  /-- Somebody writes a key. -/
  | put (key value : Bytes)
  /-- Somebody deletes a key. -/
  | delete (key : Bytes)
  /-- Somebody deletes the keys of a range. -/
  | deleteRange (range : KeyRange)
  /-- Somebody deletes everything. -/
  | clear

/-- An entry that a scan handed out. -/
structure HandedEntry where
  /-- The entry. -/
  entry : Entry
  /-- The store as it was when the batch of the entry was read. -/
  source : Store

/-- A scan and the store that it reads, with the answers so far. -/
structure ScanRun where
  /-- The store, with the changes made so far. -/
  metered : MeteredStore
  /-- The scan. -/
  scan : RangeScan
  /-- The store as it was when the latest batch was read. -/
  source : Store
  /-- What each step of the scan handed out, in order; a step at the end hands
  out nothing. -/
  answers : List (Option HandedEntry)

namespace ScanRun

/-- A new scan of a range. -/
def start (metered : MeteredStore) (range : KeyRange) : ScanRun :=
  ⟨metered, metered.scan range, metered.store, []⟩

/-- Take a step.  A write that is refused changes nothing. -/
def perform (run : ScanRun) : ScanStep -> ScanRun
  | .advance =>
      let (next, counted) := run.metered.advance run.scan
      let source := if run.scan.readsBatch then run.metered.store else run.source
      ⟨counted, next, source,
        run.answers ++ [next.current.map fun entry => ⟨entry, source⟩]⟩
  | .put key value =>
      match run.metered.put key value with
      | .ok (_, written) => { run with metered := written }
      | .error _ => run
  | .delete key => { run with metered := (run.metered.delete key).2 }
  | .deleteRange range => { run with metered := (run.metered.deleteRange range).2 }
  | .clear => { run with metered := run.metered.clear }

/-- Take steps one after the other. -/
def run (start : ScanRun) (steps : List ScanStep) : ScanRun :=
  steps.foldl perform start

/-- The entries handed out so far, in order. -/
def handed (run : ScanRun) : List HandedEntry :=
  run.answers.filterMap id

/-- Whether a step of the scan found nothing. -/
def Ended (run : ScanRun) : Prop :=
  none ∈ run.answers

/-- Whether a key is in the store before and after every step up to the end of
the scan. -/
def KeepsKey (key : Bytes) : ScanRun -> List ScanStep -> Prop
  | run, [] => run.Ended ∨ (run.metered.store.get? key).isSome
  | run, step :: steps =>
      run.Ended ∨ (run.metered.store.get? key).isSome ∧ KeepsKey key (run.perform step) steps

/-! ## What a run keeps -/

/-- The entries read so far: those handed out, and those still to be. -/
def read (run : ScanRun) : List Entry :=
  run.handed.map (·.entry) ++ run.scan.buffer

/-- What holds of a scan of a range at any time. -/
structure Sound (range : KeyRange) (run : ScanRun) : Prop where
  /-- The range is kept. -/
  range_eq : run.scan.range = range
  /-- Batches have room. -/
  roomy : 0 < run.scan.batchSize
  /-- The scan resumes inside the range. -/
  inReach : ∀ key, run.scan.resume.admitsAbove key = true -> range.start.admitsAbove key = true
  /-- The scan resumes behind all that was read. -/
  behind : ∀ key, run.scan.resume.admitsAbove key = true ->
    ∀ entry ∈ run.read, Bytes.Precedes entry.key key
  /-- The keys that were read rise. -/
  ascending : Ascending run.read
  /-- They belong to the range. -/
  contained : ∀ entry ∈ run.read, range.contains entry.key = true
  /-- What is still to be handed out was in the store at the latest batch. -/
  buffered : ∀ entry ∈ run.scan.buffer, run.source.get? entry.key = some entry.value
  /-- What was handed out was in the store at its batch. -/
  sourced : ∀ given ∈ run.handed, given.source.get? given.entry.key = some given.entry.value
  /-- At the end nothing is left, neither read nor to be read. -/
  finished : run.Ended -> run.scan.buffer = [] ∧ run.scan.exhausted = true
  /-- After an empty answer there are only empty ones. -/
  final : run.answers.Pairwise fun earlier later => earlier = none -> later = none

/-- Whether a key was read or can still be. -/
def Reaches (run : ScanRun) (key : Bytes) : Prop :=
  (∃ entry ∈ run.read, entry.key = key) ∨
    run.scan.exhausted = false ∧ run.scan.resume.admitsAbove key = true

variable {range : KeyRange} {run : ScanRun} {key : Bytes}

/-- The run with a batch read if the next step needs one. -/
def prepare (run : ScanRun) : ScanRun :=
  if run.scan.readsBatch then
    { run with scan := run.scan.fill run.metered.store, source := run.metered.store }
  else run

theorem sound_start
    (metered : MeteredStore)
    (range : KeyRange) :
    (start metered range).Sound range where
  range_eq := rfl
  roomy := by simp [start, MeteredStore.scan, RangeScan.start]
  inReach := fun _ reach => reach
  behind := by simp [start, read, handed, MeteredStore.scan, RangeScan.start]
  ascending := .nil
  contained := by simp [start, read, handed, MeteredStore.scan, RangeScan.start]
  buffered := by simp [start, MeteredStore.scan, RangeScan.start]
  sourced := by simp [start, handed]
  finished := by simp [start, Ended]
  final := .nil

theorem reaches_start
    (metered : MeteredStore)
    (contained : range.contains key = true) :
    (start metered range).Reaches key := by
  refine .inr ⟨?_, (Bool.and_eq_true_iff.mp contained).1⟩
  change range.isEmpty = false
  by_contra empty
  rw [KeyRange.contains_eq_false_of_isEmpty (Bool.eq_true_of_not_eq_false empty)] at contained
  exact Bool.false_ne_true contained

theorem read_prepare_of_readsBatch
    (reads : run.scan.readsBatch = true) :
    run.prepare.read = run.read ++ run.scan.nextBatch run.metered.store := by
  simp [prepare, reads, read, handed, RangeScan.fill]

/-- Reading a batch keeps what holds. -/
theorem Sound.prepare
    (sound : run.Sound range) :
    run.prepare.Sound range := by
  cases reads : run.scan.readsBatch with
  | false => simpa [ScanRun.prepare, reads] using sound
  | true =>
      have whole := read_prepare_of_readsBatch reads
      obtain ⟨empty, more⟩ : run.scan.buffer = [] ∧ run.scan.exhausted = false := by
        simpa [RangeScan.readsBatch] using reads
      have prepared : run.prepare =
          { run with
            scan := run.scan.fill run.metered.store
            source := run.metered.store } := by
        simp [ScanRun.prepare, reads]
      have reach : ∀ key, run.prepare.scan.resume.admitsAbove key = true ->
          run.scan.resume.admitsAbove key = true ∧
            ∀ entry ∈ run.scan.nextBatch run.metered.store, Bytes.Precedes entry.key key := by
        intro key reach
        rw [prepared] at reach
        exact RangeScan.admitsAbove_of_fill reach
      have fresh : ∀ entry ∈ run.scan.nextBatch run.metered.store,
          range.contains entry.key = true := by
        intro entry present
        obtain ⟨_, above, below⟩ := RangeScan.mem_nextBatch present
        rw [sound.range_eq] at below
        rw [KeyRange.contains, sound.inReach _ above, below, Bool.and_self]
      refine
        { range_eq := by rw [prepared]; exact sound.range_eq
          roomy := by rw [prepared]; exact sound.roomy
          inReach := fun key admits => sound.inReach key (reach key admits).1
          behind := ?_
          ascending := ?_
          contained := ?_
          buffered := ?_
          sourced := by rw [prepared]; exact sound.sourced
          finished := ?_
          final := by rw [prepared]; exact sound.final }
      · intro key admits entry present
        rw [whole, List.mem_append] at present
        obtain ⟨isHanded, isBefore⟩ := reach key admits
        exact present.elim (sound.behind key isHanded entry) (isBefore entry)
      · rw [whole]
        refine List.pairwise_append.mpr ⟨sound.ascending, run.scan.ascending_nextBatch _, ?_⟩
        intro entry earlier next present
        exact sound.behind _ (RangeScan.mem_nextBatch present).2.1 entry earlier
      · intro entry present
        rw [whole, List.mem_append] at present
        exact present.elim (sound.contained entry) (fresh entry)
      · rw [prepared]
        intro entry present
        simp only [RangeScan.fill, empty, List.nil_append] at present
        exact (RangeScan.mem_nextBatch present).1
      · intro ended
        rw [prepared] at ended
        exact absurd (sound.finished ended).2 (by simp [more])

/-- Reading a batch passes over no key that is in the store. -/
theorem Reaches.prepare
    (reaches : run.Reaches key)
    (sound : run.Sound range)
    (contained : range.contains key = true)
    (kept : run.Ended ∨ (run.metered.store.get? key).isSome) :
    run.prepare.Reaches key := by
  cases reads : run.scan.readsBatch with
  | false => simpa [ScanRun.prepare, reads] using reaches
  | true =>
      have whole := read_prepare_of_readsBatch reads
      rcases reaches with ⟨entry, present, same⟩ | ⟨more, reach⟩
      · exact .inl ⟨entry, by simp [whole, present], same⟩
      · have stored := kept.resolve_left fun ended => by simp [(sound.finished ended).2] at more
        obtain ⟨value, found⟩ := Option.isSome_iff_exists.mp stored
        have inside : run.scan.range.finish.admitsBelow key = true := by
          rw [KeyRange.contains, Bool.and_eq_true] at contained
          exact sound.range_eq ▸ contained.2
        rcases RangeScan.mem_nextBatch_or_reach sound.roomy found reach inside with
          ⟨entry, present, same⟩ | ⟨full, further⟩
        · exact .inl ⟨entry, by simp [whole, present], same⟩
        · refine .inr ?_
          simp [ScanRun.prepare, reads, RangeScan.fill, more, full, ← further]

/-- If nothing is at hand after a batch was read, none is left. -/
theorem exhausted_prepare
    (roomy : 0 < run.scan.batchSize)
    (empty : run.prepare.scan.buffer = []) :
    run.prepare.scan.exhausted = true := by
  cases reads : run.scan.readsBatch with
  | false =>
      have kept : run.prepare = run := by simp [prepare, reads]
      rw [kept] at empty ⊢
      simpa [RangeScan.readsBatch, empty] using reads
  | true =>
      simp only [prepare, reads, if_true, RangeScan.fill, List.append_eq_nil_iff] at empty ⊢
      simp [empty.2, roomy]

/-! ## Single steps -/

theorem perform_advance_of_nil
    (empty : run.prepare.scan.buffer = []) :
    run.perform .advance =
      { run.prepare with
        metered := (run.metered.advance run.scan).2
        scan := { run.prepare.scan with current := none }
        answers := run.answers ++ [none] } := by
  cases reads : run.scan.readsBatch <;>
    simp_all [perform, prepare, MeteredStore.advance, RangeScan.advance]

theorem perform_advance_of_cons
    {entry : Entry}
    {rest : List Entry}
    (buffered : run.prepare.scan.buffer = entry :: rest) :
    run.perform .advance =
      { run.prepare with
        metered := (run.metered.advance run.scan).2
        scan := { run.prepare.scan with buffer := rest, current := some entry }
        answers := run.answers ++ [some ⟨entry, run.prepare.source⟩] } := by
  cases reads : run.scan.readsBatch <;>
    simp_all [perform, prepare, MeteredStore.advance, RangeScan.advance]

theorem answers_prepare
    (run : ScanRun) :
    run.prepare.answers = run.answers := by
  unfold prepare
  split <;> rfl

theorem read_perform_advance
    {entry : Entry}
    {rest : List Entry}
    (buffered : run.prepare.scan.buffer = entry :: rest) :
    (run.perform .advance).read = run.prepare.read := by
  rw [perform_advance_of_cons buffered, read, read, buffered]
  simp [handed, answers_prepare]

/-- A step at the end hands out nothing more. -/
theorem Sound.advance_of_nil
    (sound : run.Sound range)
    (empty : run.prepare.scan.buffer = []) :
    (run.perform .advance).Sound range := by
  have prepared := sound.prepare
  have step := perform_advance_of_nil empty
  have sameHanded : (run.perform .advance).handed = run.prepare.handed := by
    simp [step, handed, answers_prepare]
  have sameRead : (run.perform .advance).read = run.prepare.read := by
    rw [read, read, sameHanded, step]
  exact
    { range_eq := by rw [step]; exact prepared.range_eq
      roomy := by rw [step]; exact prepared.roomy
      inReach := by rw [step]; exact prepared.inReach
      behind := by rw [sameRead, step]; exact prepared.behind
      ascending := sameRead ▸ prepared.ascending
      contained := sameRead ▸ prepared.contained
      buffered := by rw [step]; exact prepared.buffered
      sourced := sameHanded ▸ prepared.sourced
      finished := fun _ => by rw [step]; exact ⟨empty, exhausted_prepare sound.roomy empty⟩
      final := by
        rw [step]
        exact List.pairwise_append.mpr ⟨sound.final, List.pairwise_singleton _ _, by simp⟩ }

/-- A step before the end hands out the first entry at hand. -/
theorem Sound.advance_of_cons
    {entry : Entry}
    {rest : List Entry}
    (sound : run.Sound range)
    (atHand : run.prepare.scan.buffer = entry :: rest) :
    (run.perform .advance).Sound range := by
  have prepared := sound.prepare
  have step := perform_advance_of_cons atHand
  have sameRead := read_perform_advance atHand
  have running : none ∉ run.answers := by
    intro ended
    rw [← answers_prepare] at ended
    simp [(prepared.finished ended).1] at atHand
  exact
    { range_eq := by rw [step]; exact prepared.range_eq
      roomy := by rw [step]; exact prepared.roomy
      inReach := by rw [step]; exact prepared.inReach
      behind := by rw [sameRead, step]; exact prepared.behind
      ascending := sameRead ▸ prepared.ascending
      contained := sameRead ▸ prepared.contained
      buffered := by
        rw [step]
        exact fun other present => prepared.buffered other (by simp [atHand, present])
      sourced := by
        have first := prepared.buffered entry (by simp [atHand])
        have earlier := prepared.sourced
        simp only [handed, answers_prepare] at earlier
        rw [step]
        simp only [handed, List.filterMap_append, List.mem_append]
        rintro given (before | here)
        · exact earlier given before
        · obtain rfl : given = ⟨entry, run.prepare.source⟩ := by simpa using here
          exact first
      finished := by
        rw [step]
        simp [Ended, running]
      final := by
        rw [step]
        refine List.pairwise_append.mpr ⟨sound.final, List.pairwise_singleton _ _, ?_⟩
        intro earlier present later _ empty
        exact absurd (empty ▸ present) running }

/-- A step of the scan keeps what holds. -/
theorem Sound.advance
    (sound : run.Sound range) :
    (run.perform .advance).Sound range := by
  cases buffered : run.prepare.scan.buffer with
  | nil => exact sound.advance_of_nil buffered
  | cons entry rest => exact sound.advance_of_cons buffered

theorem Reaches.advance
    (reaches : run.Reaches key)
    (sound : run.Sound range)
    (contained : range.contains key = true)
    (kept : run.Ended ∨ (run.metered.store.get? key).isSome) :
    (run.perform .advance).Reaches key := by
  have prepared := reaches.prepare sound contained kept
  cases buffered : run.prepare.scan.buffer with
  | nil =>
      simpa [Reaches, read, handed, perform_advance_of_nil buffered, answers_prepare]
        using prepared
  | cons entry rest =>
      rw [Reaches, read_perform_advance buffered, perform_advance_of_cons buffered]
      exact prepared

/-- What others do changes the store alone. -/
theorem perform_of_ne_advance
    {step : ScanStep}
    (other : step ≠ .advance)
    (run : ScanRun) :
    ∃ metered, run.perform step = { run with metered := metered } := by
  cases step with
  | advance => exact absurd rfl other
  | put key value =>
      cases written : run.metered.put key value with
      | error error => exact ⟨run.metered, by simp [perform, written]⟩
      | ok result => exact ⟨result.2, by simp [perform, written]⟩
  | delete key => exact ⟨_, rfl⟩
  | deleteRange range => exact ⟨_, rfl⟩
  | clear => exact ⟨_, rfl⟩

theorem Sound.perform
    (sound : run.Sound range)
    (step : ScanStep) :
    (run.perform step).Sound range := by
  by_cases advances : step = .advance
  · exact advances ▸ sound.advance
  · obtain ⟨metered, changed⟩ := perform_of_ne_advance advances run
    rw [changed]
    exact { sound with }

theorem Reaches.perform
    (reaches : run.Reaches key)
    (sound : run.Sound range)
    (contained : range.contains key = true)
    (kept : run.Ended ∨ (run.metered.store.get? key).isSome)
    (step : ScanStep) :
    (run.perform step).Reaches key := by
  by_cases advances : step = .advance
  · exact advances ▸ reaches.advance sound contained kept
  · obtain ⟨metered, changed⟩ := perform_of_ne_advance advances run
    rw [changed]
    exact reaches

theorem Ended.perform
    (ended : run.Ended)
    (step : ScanStep) :
    (run.perform step).Ended := by
  by_cases advances : step = .advance
  · subst advances
    exact List.mem_append_left _ ended
  · obtain ⟨metered, changed⟩ := perform_of_ne_advance advances run
    rw [changed]
    exact ended

/-! ## Whole runs -/

theorem sound_run
    {steps : List ScanStep}
    (sound : run.Sound range) :
    (run.run steps).Sound range := by
  induction steps generalizing run with
  | nil => exact sound
  | cons step steps inductionHypothesis => exact inductionHypothesis (sound.perform step)

theorem KeepsKey.of_ended
    {steps : List ScanStep}
    (ended : run.Ended) :
    KeepsKey key run steps := by
  cases steps <;> exact .inl ended

theorem reaches_run
    {steps : List ScanStep}
    (reaches : run.Reaches key)
    (sound : run.Sound range)
    (contained : range.contains key = true)
    (keeps : KeepsKey key run steps) :
    (run.run steps).Reaches key := by
  induction steps generalizing run with
  | nil => exact reaches
  | cons step steps inductionHypothesis =>
      have kept : run.Ended ∨ (run.metered.store.get? key).isSome := keeps.imp_right And.left
      have further : KeepsKey key (run.perform step) steps := by
        rcases keeps with ended | ⟨_, further⟩
        · exact .of_ended (ended.perform step)
        · exact further
      exact inductionHypothesis (reaches.perform sound contained kept step) (sound.perform step)
        further

/-- However a store changes while a scan of a range runs: the keys handed out
rise and belong to the range, each entry was in the store when its batch was
read, a key of the range that stays in the store up to the end of the scan is
handed out exactly once, and after its end the scan hands out nothing. -/
theorem handed_run_ascending_complete
    (metered : MeteredStore)
    (range : KeyRange)
    (steps : List ScanStep) :
    let reached := (start metered range).run steps
    (reached.handed.Pairwise fun earlier later =>
        Bytes.Precedes earlier.entry.key later.entry.key) ∧
      (∀ given ∈ reached.handed, range.contains given.entry.key = true ∧
        given.source.get? given.entry.key = some given.entry.value) ∧
      (∀ key, range.contains key = true -> KeepsKey key (start metered range) steps ->
        reached.Ended -> (reached.handed.map (·.entry.key)).count key = 1) ∧
      reached.answers.Pairwise fun earlier later => earlier = none -> later = none := by
  intro reached
  have sound : reached.Sound range := sound_run (sound_start metered range)
  have rising : reached.handed.Pairwise fun earlier later =>
      Bytes.Precedes earlier.entry.key later.entry.key :=
    List.Pairwise.of_map (·.entry) (fun _ _ precedes => precedes)
      (List.pairwise_append.mp sound.ascending).1
  refine ⟨rising, ?_, ?_, sound.final⟩
  · intro given present
    refine ⟨sound.contained given.entry ?_, sound.sourced given present⟩
    exact List.mem_append_left _ (List.mem_map_of_mem present)
  · intro key contained keeps ended
    obtain ⟨nothingLeft, exhausted⟩ := sound.finished ended
    have reaches := reaches_run (reaches_start metered contained) (sound_start metered range)
      contained keeps
    obtain ⟨entry, present, rfl⟩ := reaches.resolve_right fun more => by
      simp [reached, exhausted] at more
    have member : entry.key ∈ reached.handed.map (·.entry.key) := by
      rw [read, nothingLeft, List.append_nil] at present
      simpa using List.mem_map_of_mem (f := Entry.key) present
    have distinct : (reached.handed.map (·.entry.key)).Nodup := by
      refine List.pairwise_map.mpr (rising.imp ?_)
      intro earlier later precedes same
      exact Bytes.not_precedes_self _ (same ▸ precedes)
    exact List.count_eq_one_of_mem distinct member

/-- Four keys, the second of which ends the first full batch. -/
def shelf : MeteredStore :=
  { MeteredStore.empty 2 with
    store := [1, 2, 3, 4].foldl (fun store key => store.insert [key] [key]) Store.empty }

/-- The second key is deleted behind the batch that holds it and is handed out
with its old value; a key written right behind it is seen, and one written in
front is not. -/
theorem handed_run_ascending_complete_shelf :
    let steps := [ScanStep.advance, .delete [2], .put [1, 5] [], .put [2, 0] [7], .advance,
      .advance, .deleteRange (KeyRange.halfOpen [4] [9]), .advance, .advance, .put [8] [], .advance]
    let reached := (start shelf KeyRange.all).run steps
    reached.handed.map (·.entry) = [⟨[1], [1]⟩, ⟨[2], [2]⟩, ⟨[2, 0], [7]⟩, ⟨[3], [3]⟩] ∧
      KeyRange.all.contains [3] = true ∧ KeepsKey [3] (start shelf KeyRange.all) steps ∧
      reached.Ended ∧ (reached.handed.map (·.entry.key)).count [3] = 1 := by
  intro steps reached
  have keeps : KeepsKey [3] (start shelf KeyRange.all) steps := by
    iterate 11 refine .inr ⟨rfl, ?_⟩
    exact .inr rfl
  have ended : reached.Ended :=
    List.mem_of_getElem? (show reached.answers[4]? = some none from rfl)
  exact ⟨rfl, rfl, keeps, ended,
    (handed_run_ascending_complete shelf KeyRange.all steps).2.2.1 [3] rfl keeps ended⟩

end ScanRun
end Keyspace
