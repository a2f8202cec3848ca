import Keyspace.Proofs.Store.RowNumbers

/-!
# Sessions over one store

Sessions that share a key-value store keep their counters to themselves.  The
numbers that one session gives to a table rise, but two sessions may give the
same number: a session that has set its counter takes no note of what another
gives, and one that has not takes no note of rows that are gone.  Numbers are
told apart if the sessions take turns, each setting its counter while the row
numbered last still stands.
-/

namespace Keyspace

/-- A number that a session gave. -/
structure GivenNumber where
  /-- Which session gave it. -/
  session : Nat
  /-- The group, the table and the number. -/
  counter : RowCounter
  deriving DecidableEq

/-- A key-value store with the sessions that share it. -/
structure SharedStore where
  /-- The key-value store. -/
  store : Store
  /-- The counters of each session. -/
  counters : Nat -> List RowCounter
  /-- The numbers given so far, the latest first. -/
  given : List GivenNumber

namespace SharedStore

/-- New sessions over a store. -/
def ofStore (store : Store) : SharedStore :=
  ⟨store, fun _ => [], []⟩

/-- One of the sessions. -/
def session (shared : SharedStore) (index : Nat) : GroupStore :=
  ⟨shared.store, shared.counters index⟩

/-- Make a call on one session. -/
def perform (shared : SharedStore) (index : Nat) (call : StoreCall) : SharedStore :=
  let after := ((shared.session index).perform call).2
  let number := ((shared.session index).given? call).map (GivenNumber.mk index)
  ⟨after.store, Function.update shared.counters index after.counters, number.toList ++ shared.given⟩

/-- Make calls one after the other, each on its session. -/
def run (shared : SharedStore) (calls : List (Nat × StoreCall)) : SharedStore :=
  calls.foldl (fun reached call => reached.perform call.1 call.2) shared

/-- The numbers given to one table, the latest first. -/
def numbersOf (shared : SharedStore) (group : Group) (table : TableId) : List GivenNumber :=
  shared.given.filter fun given =>
    given.counter.group == group.id && given.counter.table == table

variable {shared : SharedStore} {group : Group} {table : TableId} {index : Nat} {call : StoreCall}

/-! ## What one call does -/

theorem counter?_perform
    (shared : SharedStore)
    (index other : Nat)
    (call : StoreCall)
    (group : Group)
    (table : TableId) :
    ((shared.perform index call).session other).counter? group table =
      if other = index then ((shared.session index).perform call).2.counter? group table
      else (shared.session other).counter? group table := by
  simp only [GroupStore.counter?, session, perform, Function.update_apply]
  split <;> rfl

theorem numbersOf_perform_of_given
    {counter : RowCounter}
    (given : (shared.session index).given? call = some counter)
    (group : Group)
    (table : TableId) :
    (shared.perform index call).numbersOf group table =
      if counter.group = group.id ∧ counter.table = table then
        ⟨index, counter⟩ :: shared.numbersOf group table
      else shared.numbersOf group table := by
  simp only [numbersOf, perform, given, Option.map_some, Option.toList_some, List.cons_append,
    List.nil_append, List.filter_cons, Bool.and_eq_true, beq_iff_eq]

theorem numbersOf_perform_of_none
    (none : (shared.session index).given? call = none)
    (group : Group)
    (table : TableId) :
    (shared.perform index call).numbersOf group table = shared.numbersOf group table := by
  simp only [numbersOf, perform, none, Option.map_none, Option.toList_none, List.nil_append]

/-- What a call can do to the numbers of a table. -/
inductive Turn (shared : SharedStore) (group : Group) (table : TableId) (index : Nat)
    (call : StoreCall) : Prop
  /-- No number is given; a counter may be set, but only where none is left. -/
  | quiet
      (numbers : (shared.perform index call).numbersOf group table =
        shared.numbersOf group table)
      (counters : ∀ other,
        ((shared.perform index call).session other).counter? group table =
            (shared.session other).counter? group table ∨
          ((shared.perform index call).session other).counter? group table =
            some Int64.maxValue)
  /-- The number behind the last one that the session knows is given. -/
  | gives
      {last : Int64}
      (sameGroup : call.group.id = group.id)
      (given : (shared.session index).given? call = some ⟨group.id, table, last + 1⟩)
      (known : (shared.session index).lastRowNumber call.group table = .ok last)
      (room : last ≠ Int64.maxValue)
      (numbers : (shared.perform index call).numbersOf group table =
        ⟨index, group.id, table, last + 1⟩ :: shared.numbersOf group table)
      (counted : ((shared.perform index call).session index).counter? group table =
        some (last + 1))
      (others : ∀ other, other ≠ index ->
        ((shared.perform index call).session other).counter? group table =
          (shared.session other).counter? group table)

theorem turn_perform
    (shared : SharedStore)
    (group : Group)
    (table : TableId)
    (index : Nat)
    (call : StoreCall) :
    shared.Turn group table index call := by
  have counts := (shared.session index).counts_perform call
  generalize given : (shared.session index).given? call = counter at counts
  generalize shape : ((shared.session index).perform call).2.counters = counters at counts
  cases counts with
  | kept =>
      have reached := GroupStore.counter?_congr shape group table
      refine .quiet (numbersOf_perform_of_none given group table) fun other => .inl ?_
      rw [counter?_perform]
      split
      · next same => exact same ▸ reached
      · rfl
  | exhausted known =>
      have reached := GroupStore.counter?_congr shape group table
      refine .quiet (numbersOf_perform_of_none given group table) fun other => ?_
      rw [counter?_perform]
      split
      · next same =>
          subst same
          rw [reached, GroupStore.counter?_setCounter]
          split
          · exact .inr rfl
          · exact .inl rfl
      · exact .inl rfl
  | @given otherTable last known room =>
      have numbers := numbersOf_perform_of_given given group table
      have reached := GroupStore.counter?_congr shape group table
      rw [GroupStore.counter?_setCounter] at reached
      by_cases same : call.group.id = group.id ∧ otherTable = table
      · obtain ⟨sameGroup, rfl⟩ := same
        rw [if_pos ⟨sameGroup, rfl⟩] at numbers reached
        rw [sameGroup] at given numbers
        refine .gives sameGroup given known room numbers ?_ fun other different => ?_
        · rw [counter?_perform, if_pos rfl, reached]
        · rw [counter?_perform, if_neg different]
      · rw [if_neg same] at numbers reached
        refine .quiet numbers fun other => .inl ?_
        rw [counter?_perform]
        split
        · next same => exact same ▸ reached
        · rfl

/-! ## Numbers of a whole run -/

/-- What sessions know about the numbers of a table. -/
structure Counted (shared : SharedStore) (group : Group) (table : TableId) : Prop where
  /-- No session gave a number beyond its counter. -/
  upTo : ∀ given ∈ shared.numbersOf group table, ∃ last,
    (shared.session given.session).counter? group table = some last ∧ given.counter.last ≤ last
  /-- A counter that leaves room was set for a number. -/
  gave : ∀ index last, (shared.session index).counter? group table = some last ->
    last ≠ Int64.maxValue -> ∃ given ∈ shared.numbersOf group table, given.session = index
  /-- The numbers of one session rise. -/
  rising : (shared.numbersOf group table).Pairwise fun later earlier =>
    later.session = earlier.session -> earlier.counter.last < later.counter.last

theorem lastRowNumber_of_counter?
    {session : GroupStore}
    {known last : Int64}
    {other : Group}
    (sameGroup : other.id = group.id)
    (counted : session.counter? group table = some known)
    (next : session.lastRowNumber other table = .ok last) :
    last = known := by
  have knownThere : session.counter? other table = some known := by
    rw [← counted, GroupStore.counter?, GroupStore.counter?, sameGroup]
  rw [GroupStore.lastRowNumber, knownThere] at next
  exact (Except.ok.inj next).symm

theorem counted_ofStore
    (store : Store)
    (group : Group)
    (table : TableId) :
    (ofStore store).Counted group table := by
  refine ⟨by simp [ofStore, numbersOf], ?_, by simp [ofStore, numbersOf]⟩
  intro index last known
  simp [ofStore, session, GroupStore.counter?] at known

/-- Every call leaves the sessions with what they have to know. -/
theorem Counted.perform
    (counted : shared.Counted group table)
    (index : Nat)
    (call : StoreCall) :
    (shared.perform index call).Counted group table := by
  cases shared.turn_perform group table index call with
  | quiet numbers counters =>
      refine ⟨?_, ?_, numbers ▸ counted.rising⟩
      · intro given present
        rw [numbers] at present
        rcases counters given.session with same | full
        · exact same ▸ counted.upTo given present
        · exact ⟨_, full, Int64.le_maxValue _⟩
      · intro other last known room
        rw [numbers]
        rcases counters other with same | full
        · exact counted.gave other last (same ▸ known) room
        · exact absurd (Option.some.inj (known.symm.trans full)) room
  | @gives last sameGroup given known room numbers reached others =>
      have below := lt_add_one_of_ne_maxValue room
      have earlierBelow : ∀ given ∈ shared.numbersOf group table, given.session = index ->
          given.counter.last ≤ last := by
        intro given present same
        obtain ⟨before, counts, le⟩ := counted.upTo given present
        rw [lastRowNumber_of_counter? sameGroup (same ▸ counts) known]
        exact le
      refine ⟨?_, ?_, ?_⟩
      · intro other present
        rw [numbers] at present
        rcases List.mem_cons.mp present with rfl | earlier
        · exact ⟨_, reached, Int64.le_refl _⟩
        · by_cases same : other.session = index
          · exact ⟨_, same ▸ reached,
              Int64.le_of_lt (Int64.lt_of_le_of_lt (earlierBelow other earlier same) below)⟩
          · rw [others _ same]
            exact counted.upTo other earlier
      · intro other before counts leavesRoom
        rw [numbers]
        by_cases same : other = index
        · exact ⟨_, List.mem_cons_self, same.symm⟩
        · obtain ⟨earlier, present, gave⟩ :=
            counted.gave other before ((others other same).symm.trans counts) leavesRoom
          exact ⟨earlier, List.mem_cons_of_mem _ present, gave⟩
      · rw [numbers]
        refine .cons ?_ counted.rising
        intro earlier present same
        exact Int64.lt_of_le_of_lt (earlierBelow earlier present same.symm) below

/-- Whether a session that gives a number gave the latest one too, or gives its
first one while the row with the latest one still stands. -/
def InTurn (shared : SharedStore) (group : Group) (table : TableId) (index : Nat)
    (call : StoreCall) : Prop :=
  ∀ number, (shared.session index).given? call = some ⟨group.id, table, number⟩ ->
    ∀ latest ∈ (shared.numbersOf group table).head?,
      latest.session = index ∨
        (∀ given ∈ shared.numbersOf group table, given.session ≠ index) ∧
          shared.store.HasNumber call.group table latest.counter.last

/-- Whether sessions take turns in a run. -/
def TakeTurns (group : Group) (table : TableId) : SharedStore -> List (Nat × StoreCall) -> Prop
  | _, [] => True
  | shared, call :: calls =>
      shared.InTurn group table call.1 call.2 ∧
        TakeTurns group table (shared.perform call.1 call.2) calls

/-- The numbers of a table rise from one to the next, whoever gives them. -/
def Rises (shared : SharedStore) (group : Group) (table : TableId) : Prop :=
  (shared.numbersOf group table).Pairwise fun later earlier =>
    earlier.counter.last < later.counter.last

/-- A number given in turn is beyond all numbers before. -/
theorem Rises.perform
    (rises : shared.Rises group table)
    (counted : shared.Counted group table)
    (inTurn : shared.InTurn group table index call) :
    (shared.perform index call).Rises group table := by
  cases shared.turn_perform group table index call with
  | quiet numbers counters =>
      rw [Rises, numbers]
      exact rises
  | @gives last sameGroup given known room numbers reached others =>
      rw [Rises, numbers]
      refine .cons ?_ rises
      have below := lt_add_one_of_ne_maxValue room
      have latestUpTo : ∀ latest ∈ (shared.numbersOf group table).head?,
          latest.counter.last ≤ last := by
        intro latest isLatest
        rcases inTurn _ given latest isLatest with same | ⟨fresh, stands⟩
        · obtain ⟨before, counts, le⟩ :=
            counted.upTo latest (List.mem_of_mem_head? isLatest)
          rw [lastRowNumber_of_counter? sameGroup (same ▸ counts) known]
          exact le
        · -- The session has no counter yet, so it looks into the store.
          cases counts : (shared.session index).counter? group table with
          | some before =>
              obtain rfl := lastRowNumber_of_counter? sameGroup counts known
              obtain ⟨earlier, present, gave⟩ := counted.gave index last counts room
              exact absurd gave (fresh earlier present)
          | none =>
              have uncounted : (shared.session index).counter? call.group table = none := by
                rw [← counts, GroupStore.counter?, GroupStore.counter?, sameGroup]
              rw [GroupStore.lastRowNumber, uncounted] at known
              exact Store.le_largestRowNumber known stands
      intro earlier present
      refine Int64.lt_of_le_of_lt ?_ below
      rw [Rises] at rises
      generalize shared.numbersOf group table = given at rises latestUpTo present
      cases rises with
      | nil => simp at present
      | @cons latest before latestAbove =>
          have first := latestUpTo latest rfl
          rcases List.mem_cons.mp present with rfl | further
          · exact first
          · exact Int64.le_trans (Int64.le_of_lt (latestAbove earlier further)) first

theorem counted_run
    {calls : List (Nat × StoreCall)}
    (counted : shared.Counted group table) :
    (shared.run calls).Counted group table := by
  induction calls generalizing shared with
  | nil => exact counted
  | cons call calls inductionHypothesis =>
      exact inductionHypothesis (counted.perform call.1 call.2)

theorem rises_run
    {calls : List (Nat × StoreCall)}
    (rises : shared.Rises group table)
    (counted : shared.Counted group table)
    (turns : TakeTurns group table shared calls) :
    (shared.run calls).Rises group table := by
  induction calls generalizing shared with
  | nil => exact rises
  | cons call calls inductionHypothesis =>
      exact inductionHypothesis (rises.perform counted turns.1) (counted.perform call.1 call.2)
        turns.2

/-- However sessions over one store alternate, the numbers that each gives to
the rows of a table rise.  If they take turns, so do the numbers of all of
them, and none is given twice. -/
theorem numbersOf_run_rise
    (start : Store)
    (calls : List (Nat × StoreCall))
    (group : Group)
    (table : TableId) :
    (((ofStore start).run calls).numbersOf group table).Pairwise (fun later earlier =>
        later.session = earlier.session -> earlier.counter.last < later.counter.last) ∧
      (TakeTurns group table (ofStore start) calls ->
        (((ofStore start).run calls).numbersOf group table).Pairwise fun later earlier =>
          earlier.counter.last < later.counter.last) := by
  have counted := counted_ofStore start group table
  refine ⟨(counted_run counted).rising, ?_⟩
  exact rises_run (by simp [Rises, ofStore, numbersOf]) counted

/-- A second session goes on where the first one ended. -/
theorem numbersOf_run_rise_diary :
    let calls := [(0, Diary.note "a" .null), (0, Diary.note "b" .null), (1, Diary.note "c" .null),
      (1, Diary.note "d" .null)]
    TakeTurns Diary.group ⟨1⟩ (ofStore Store.empty) calls ∧
      (((ofStore Store.empty).run calls).numbersOf Diary.group ⟨1⟩).map (·.counter.last) =
        [4, 3, 2, 1] ∧
      (((ofStore Store.empty).run calls).numbersOf Diary.group ⟨1⟩).Pairwise fun later earlier =>
        earlier.counter.last < later.counter.last := by
  intro calls
  have turns : TakeTurns Diary.group ⟨1⟩ (ofStore Store.empty) calls := by
    refine ⟨?_, ?_, ?_, ?_, trivial⟩
    · rintro number _ latest ⟨⟩
    · rintro number _ latest ⟨⟩
      exact .inl rfl
    · rintro number _ latest ⟨⟩
      exact .inr ⟨by decide, Store.hasNumber_of_get? (Diary.key_rooted 2) rfl rfl rfl⟩
    · rintro number _ latest ⟨⟩
      exact .inl rfl
  exact ⟨turns, rfl, (numbersOf_run_rise Store.empty calls Diary.group ⟨1⟩).2 turns⟩

/-- A session that comes back gives the number that another gave meanwhile and
takes the place of its row, and a new session gives the number of a row that is
gone. -/
theorem numbersOf_run_repeat :
    let alternating := (ofStore Store.empty).run
      [(0, Diary.note "a" .null), (1, Diary.note "b" .null), (0, Diary.note "c" .null)]
    let deleting := (ofStore Store.empty).run
      [(0, Diary.note "a" .null), (0, .deleteRow Diary.group (Diary.key 1)),
        (1, Diary.note "b" .null)]
    (alternating.numbersOf Diary.group ⟨1⟩).map (·.counter.last) = [2, 2, 1] ∧
      GroupStore.readRow alternating.store Diary.group (Diary.key 2) =
        .ok (some ((Diary.row "c" (.bigInt 2)).withHKey (Diary.key 2))) ∧
      (deleting.numbersOf Diary.group ⟨1⟩).map (·.counter.last) = [1, 1] := by
  exact ⟨rfl, rfl, rfl⟩

end SharedStore
end Keyspace
