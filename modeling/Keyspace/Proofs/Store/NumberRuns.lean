import Keyspace.Proofs.Store.SharedSessions

/-!
# Numbers of one session

Whatever happens to a session and to its store, the numbers that it gives to the
rows of one table rise, from behind the largest number that the store has when
the first one is given.  A number is used up when it is given, also if its row is
then refused.  Counting ends at the largest number there is; until the store has
once been read for the largest number, every attempt reads it anew.
-/

namespace Keyspace

/-- What can happen to a session. -/
inductive SessionEvent where
  /-- A call is made on the session. -/
  | call (call : StoreCall)
  /-- Others change the key-value store. -/
  | outside (store : Store)

/-- A number that a session gives to a row. -/
structure RowNumbering where
  /-- The session before. -/
  session : GroupStore
  /-- The call that writes the row. -/
  call : StoreCall
  /-- The number. -/
  number : Int64

/-- Whether a row of a table is written without the number that it needs. -/
def Group.LacksNumber (group : Group) (table : TableId) (row : Row) : Prop :=
  ∃ owner position, GroupStore.tableOf group row.rowType = .ok owner ∧ owner.id = table ∧
    owner.hiddenKeyPosition? = some position ∧ (row.valueOrNull position).isNull = true

namespace GroupStore

/-- The session after an event. -/
def step (session : GroupStore) : SessionEvent -> GroupStore
  | .call call => (session.perform call).2
  | .outside store => { session with store := store }

/-- The session after events. -/
def reach (session : GroupStore) (events : List SessionEvent) : GroupStore :=
  events.foldl step session

/-- The number that a session gives to a row of a table when something happens. -/
def numbering?
    (session : GroupStore)
    (group : Group)
    (table : TableId) : SessionEvent -> Option RowNumbering
  | .call call =>
      (session.given? call).bind fun counter =>
        if counter.group = group.id ∧ counter.table = table then
          some ⟨session, call, counter.last⟩
        else none
  | .outside _ => none

/-- The numbers that a session gives to the rows of a table, one after the other. -/
def numberings (group : Group) (table : TableId) :
    GroupStore -> List SessionEvent -> List RowNumbering
  | _, [] => []
  | session, event :: events =>
      (session.numbering? group table event).toList ++
        numberings group table (session.step event) events

end GroupStore

/-- Whether a number is given to a row that lacks one, which is then stored under it. -/
def RowNumbering.Fills (numbering : RowNumbering) (table : TableId) : Prop :=
  ∃ row, numbering.call = .writeRow numbering.call.group row ∧
    numbering.call.group.LacksNumber table row ∧
    ∀ declaration : GroupDeclaration, declaration.build = .ok numbering.call.group ->
      ∀ hkey after, numbering.session.writeRow numbering.call.group row = (.ok hkey, after) ->
        GroupStore.rowNumber? table hkey = some numbering.number

/-- A number in the key of a row, below whatever parents, is a number of the store. -/
theorem Store.hasNumber_of_decode
    {store : Store}
    {group : Group}
    {table : TableId}
    {rest value : Bytes}
    {parents : List Segment}
    {values : List Value}
    {number : Int64}
    (found : store.get? (KeyLayout.groupStart group.id ++ rest) = some value)
    (read : HKey.decode group rest = .ok ⟨parents ++ [⟨table, values ++ [.bigInt number]⟩]⟩) :
    store.HasNumber group table number := by
  have numbered : GroupStore.rowNumber? table
      ⟨parents ++ [⟨table, values ++ [.bigInt number]⟩]⟩ = some number := by
    simp [GroupStore.rowNumber?]
  refine ⟨⟨_, value⟩, List.mem_filter.mpr ⟨Store.mem_entries.mpr found, by simp⟩, _, ?_, numbered⟩
  rwa [List.drop_left]

/-- Counting starts at zero at the least. -/
theorem Store.zero_le_largestRowNumber
    {store : Store}
    {group : Group}
    {table : TableId}
    {last : Int64}
    (largest : GroupStore.largestRowNumber store group table = .ok last) :
    0 ≤ last := by
  obtain ⟨_, _, largest⟩ := bind_eq_ok.mp largest
  obtain ⟨_, _, largest⟩ := bind_eq_ok.mp largest
  exact pure_eq_ok.mp largest ▸ (le_foldl_max _ 0).1

namespace GroupStore

variable {session : GroupStore} {group : Group} {table : TableId} {event : SessionEvent}

theorem counter?_of_sameGroup
    {other : Group}
    (session : GroupStore)
    (table : TableId)
    (sameGroup : other.id = group.id) :
    session.counter? other table = session.counter? group table := by
  rw [counter?, counter?, sameGroup]

/-! ## Rows that lack a number -/

/-- A row that lacks a number is refused if there is none for it. -/
theorem writeRow_of_nextRowNumber_error
    {row : Row}
    {error : Error}
    {counted : GroupStore}
    (lacks : group.LacksNumber table row)
    (none : session.nextRowNumber group table = (.error error, counted)) :
    session.writeRow group row = (.error error, counted) := by
  obtain ⟨owner, position, found, rfl, added, absent⟩ := lacks
  simp only [writeRow, found, numberRow, added, absent, none, if_true]

theorem given?_of_lacksNumber
    {row : Row}
    (lacks : group.LacksNumber table row) :
    session.given? (.writeRow group row) =
      (session.nextRowNumber group table).1.toOption.map (RowCounter.mk group.id table) := by
  obtain ⟨owner, position, found, rfl, added, absent⟩ := lacks
  simp only [given?, found, added, Option.any_some, absent, if_true]

theorem exists_lacksNumber_of_given
    {call : StoreCall}
    {counter : RowCounter}
    (given : session.given? call = some counter) :
    ∃ row, call = .writeRow call.group row ∧ call.group.LacksNumber counter.table row := by
  cases call with
  | writeRow group row =>
      rw [given?] at given
      split at given
      · simp at given
      · next owner found =>
          split at given
          · next asks =>
              obtain ⟨position, added, absent⟩ := (Option.any_eq_true _ _).mp asks
              obtain ⟨_, _, rfl⟩ := Option.map_eq_some_iff.mp given
              exact ⟨row, rfl, owner, position, found, rfl, added, absent⟩
          · simp at given
  | _ => simp [given?] at given

theorem fills_of_given
    {call : StoreCall}
    {counter : RowCounter}
    (given : session.given? call = some counter) :
    RowNumbering.Fills ⟨session, call, counter.last⟩ counter.table := by
  obtain ⟨row, shape, lacks⟩ := exists_lacksNumber_of_given given
  refine ⟨row, shape, lacks, fun declaration built hkey after wrote => ?_⟩
  have changed : (session.perform (.writeRow call.group row)).1 =
      some ⟨call.group, hkey, some (session.numbered call.group row)⟩ := by
    simp only [perform, wrote]
  rw [← shape] at changed
  exact (rowNumber?_of_given built given changed).2.2

theorem nextRowNumber_of_full
    (known : session.lastRowNumber group table = .ok Int64.maxValue) :
    session.nextRowNumber group table =
      (.error (.invalidArgument s!"row ids of table {table.ordinal.toNat} exhausted"),
        session.setCounter group table Int64.maxValue) := by
  simp only [nextRowNumber, known, if_true]

/-! ## One event -/

/-- What an event can do to the numbers of a table. -/
inductive Numbers (session : GroupStore) (group : Group) (table : TableId)
    (event : SessionEvent) : Prop
  /-- No number is given; the counter may have come to its end. -/
  | quiet
      (nothing : session.numbering? group table event = none)
      (counter : (session.step event).counter? group table = session.counter? group table ∨
        (session.step event).counter? group table = some Int64.maxValue)
  /-- The number behind the last one is given. -/
  | gives
      {call : StoreCall}
      {last : Int64}
      (sameGroup : call.group.id = group.id)
      (known : session.lastRowNumber call.group table = .ok last)
      (room : last ≠ Int64.maxValue)
      (given : session.numbering? group table event = some ⟨session, call, last + 1⟩)
      (counted : (session.step event).counter? group table = some (last + 1))

theorem numbers_step
    (session : GroupStore)
    (group : Group)
    (table : TableId)
    (event : SessionEvent) :
    session.Numbers group table event := by
  cases event with
  | outside store => exact .quiet rfl (.inl rfl)
  | call call =>
      have counts := session.counts_perform call
      generalize given : session.given? call = counter at counts
      generalize shape : (session.perform call).2.counters = counters at counts
      cases counts with
      | kept =>
          exact .quiet (by simp [numbering?, given]) (.inl (counter?_congr shape group table))
      | exhausted known =>
          have reached := counter?_congr shape group table
          rw [counter?_setCounter] at reached
          refine .quiet (by simp [numbering?, given]) ?_
          split at reached
          · exact .inr reached
          · exact .inl reached
      | @given otherTable last known room =>
          have reached := counter?_congr shape group table
          rw [counter?_setCounter] at reached
          by_cases same : call.group.id = group.id ∧ otherTable = table
          · rw [if_pos same] at reached
            obtain ⟨sameGroup, rfl⟩ := same
            exact .gives sameGroup known room (by simp [numbering?, given, sameGroup]) reached
          · rw [if_neg same] at reached
            exact .quiet (by simp [numbering?, given, same]) (.inl reached)

theorem numberings_cons_of_none
    (events : List SessionEvent)
    (nothing : session.numbering? group table event = none) :
    numberings group table session (event :: events) =
      numberings group table (session.step event) events := by
  rw [numberings, nothing, Option.toList_none, List.nil_append]

theorem numberings_cons_of_some
    {numbering : RowNumbering}
    (events : List SessionEvent)
    (given : session.numbering? group table event = some numbering) :
    numberings group table session (event :: events) =
      numbering :: numberings group table (session.step event) events := by
  rw [numberings, given, Option.toList_some, List.singleton_append]

/-! ## Runs of events -/

/-- The numbers that are given rise. -/
def RiseFrom (session : GroupStore) (group : Group) (table : TableId)
    (events : List SessionEvent) (last : Int64) : Prop :=
  (numberings group table session events).Pairwise
      (fun earlier later => earlier.number < later.number) ∧
    ∀ given ∈ numberings group table session events, last < given.number

/-- Behind a number that a session has given or found, numbers rise. -/
theorem riseFrom_of_counted
    {last : Int64}
    (events : List SessionEvent)
    (counted : session.counter? group table = some last) :
    session.RiseFrom group table events last := by
  induction events generalizing session last with
  | nil => exact ⟨.nil, by simp [numberings]⟩
  | cons event events inductionHypothesis =>
      cases session.numbers_step group table event with
      | quiet nothing counter =>
          rw [RiseFrom, numberings_cons_of_none events nothing]
          rcases counter with same | full
          · exact inductionHypothesis (same.trans counted)
          · obtain ⟨rising, above⟩ := inductionHypothesis full
            exact ⟨rising, fun given present =>
              Int64.lt_of_le_of_lt (Int64.le_maxValue last) (above given present)⟩
      | gives sameGroup known room given reached =>
          obtain rfl := SharedStore.lastRowNumber_of_counter? sameGroup counted known
          obtain ⟨rising, above⟩ := inductionHypothesis reached
          have next := lt_add_one_of_ne_maxValue room
          rw [RiseFrom, numberings_cons_of_some events given]
          refine ⟨.cons above rising, List.forall_mem_cons.mpr ⟨next, ?_⟩⟩
          exact fun later present => Int64.lt_trans next (above later present)

/-- A session that has no counter yet starts behind the largest number that the store has
when the first number is given. -/
theorem riseFrom_of_uncounted
    (events : List SessionEvent)
    (uncounted : session.counter? group table = none) :
    ∀ first ∈ (numberings group table session events).head?, ∃ last,
      largestRowNumber first.session.store first.call.group table = .ok last ∧
        session.RiseFrom group table events last := by
  induction events generalizing session with
  | nil => simp [numberings]
  | cons event events inductionHypothesis =>
      cases session.numbers_step group table event with
      | quiet nothing counter =>
          simp only [RiseFrom, numberings_cons_of_none events nothing]
          rcases counter with same | full
          · exact inductionHypothesis (same.trans uncounted)
          · -- No number is larger than the one that the counter has come to.
            obtain ⟨_, above⟩ := riseFrom_of_counted events full
            intro first isFirst
            have present := List.mem_of_mem_head? isFirst
            exact absurd (above first present) (Int64.not_lt.mpr (Int64.le_maxValue _))
      | @gives call last sameGroup known room given reached =>
          obtain ⟨rising, above⟩ := riseFrom_of_counted events reached
          have next := lt_add_one_of_ne_maxValue room
          have seeded := (session.counter?_of_sameGroup table sameGroup).trans uncounted
          rw [lastRowNumber, seeded] at known
          simp only [RiseFrom, numberings_cons_of_some events given, List.head?_cons]
          rintro first ⟨⟩
          refine ⟨last, known, .cons above rising, List.forall_mem_cons.mpr ⟨next, ?_⟩⟩
          exact fun later present => Int64.lt_trans next (above later present)

/-- A counter never goes back. -/
theorem exists_counter_reach
    {last : Int64}
    (events : List SessionEvent)
    (counted : session.counter? group table = some last) :
    ∃ reached, (session.reach events).counter? group table = some reached ∧ last ≤ reached := by
  induction events generalizing session last with
  | nil => exact ⟨last, counted, Int64.le_refl last⟩
  | cons event events inductionHypothesis =>
      cases session.numbers_step group table event with
      | quiet nothing counter =>
          rcases counter with same | full
          · exact inductionHypothesis (same.trans counted)
          · obtain ⟨reached, later, le⟩ := inductionHypothesis full
            exact ⟨reached, later, Int64.le_trans (Int64.le_maxValue last) le⟩
      | gives sameGroup known room given next =>
          obtain rfl := SharedStore.lastRowNumber_of_counter? sameGroup counted known
          obtain ⟨reached, later, le⟩ := inductionHypothesis next
          exact ⟨reached, later,
            Int64.le_trans (Int64.le_of_lt (lt_add_one_of_ne_maxValue room)) le⟩

/-- A counter is at least at every number that was given. -/
theorem exists_counter_of_mem
    {events : List SessionEvent}
    {given : RowNumbering}
    (present : given ∈ numberings group table session events) :
    ∃ reached, (session.reach events).counter? group table = some reached ∧
      given.number ≤ reached := by
  induction events generalizing session with
  | nil => simp [numberings] at present
  | cons event events inductionHypothesis =>
      cases session.numbers_step group table event with
      | quiet nothing counter =>
          rw [numberings_cons_of_none events nothing] at present
          exact inductionHypothesis present
      | gives sameGroup known room isGiven counted =>
          rw [numberings_cons_of_some events isGiven] at present
          rcases List.mem_cons.mp present with rfl | later
          · exact exists_counter_reach events counted
          · exact inductionHypothesis later

theorem fills_of_mem
    {events : List SessionEvent}
    {given : RowNumbering}
    (present : given ∈ numberings group table session events) :
    given.Fills table := by
  induction events generalizing session with
  | nil => simp [numberings] at present
  | cons event events inductionHypothesis =>
      rcases List.mem_append.mp present with here | later
      · have isGiven := Option.mem_toList.mp here
        cases event with
        | outside store => simp [numbering?] at isGiven
        | call call =>
            obtain ⟨counter, isCounter, shape⟩ := Option.bind_eq_some_iff.mp isGiven
            split at shape
            · next same =>
                obtain rfl := Option.some.inj shape
                exact same.2 ▸ fills_of_given isCounter
            · simp at shape
      · exact inductionHypothesis later

/-- When counting has come to its end, a row that lacks a number is refused, and the
counter stays at its end. -/
theorem writeRow_of_full
    {row : Row}
    (lacks : group.LacksNumber table row)
    (known : session.lastRowNumber group table = .ok Int64.maxValue) :
    (session.writeRow group row).1 =
        .error (.invalidArgument s!"row ids of table {table.ordinal.toNat} exhausted") ∧
      (session.writeRow group row).2.store = session.store ∧
      (session.writeRow group row).2.counter? group table = some Int64.maxValue := by
  rw [writeRow_of_nextRowNumber_error lacks (nextRowNumber_of_full known)]
  exact ⟨rfl, rfl, (counter?_setCounter ..).trans (if_pos ⟨rfl, rfl⟩)⟩

/-- While there is no counter, a row that lacks a number gets the one behind the largest
number of the store, and changes nothing if the store cannot be read for it. -/
theorem writeRow_of_uncounted
    {row : Row}
    (lacks : group.LacksNumber table row)
    (uncounted : session.counter? group table = none) :
    match largestRowNumber session.store group table with
    | .error error => session.writeRow group row = (.error error, session)
    | .ok last => last ≠ Int64.maxValue ->
        session.given? (.writeRow group row) = some ⟨group.id, table, last + 1⟩ := by
  have seeds : session.lastRowNumber group table =
      largestRowNumber session.store group table := by
    rw [lastRowNumber, uncounted]
  cases largest : largestRowNumber session.store group table with
  | error error =>
      refine writeRow_of_nextRowNumber_error lacks ?_
      simp only [nextRowNumber, seeds, largest]
  | ok last =>
      intro room
      rw [given?_of_lacksNumber lacks]
      simp only [nextRowNumber, seeds, largest, if_neg room, Except.toOption, Option.map_some]

/-- The numbers that a session gives to the rows of a table rise strictly, from one at the
least and from behind every number that stands in the store when the first is given.
When the largest number has been given or found, further rows are refused and nothing
wraps around.  As long as the session has no counter, every attempt reads the store for
the largest number, and one that fails leaves the session as it was. -/
theorem numberings_rise
    (start : Store)
    (events : List SessionEvent)
    (group : Group)
    (table : TableId) :
    let given := numberings group table (ofStore start) events
    let reached := (ofStore start).reach events
    given.Pairwise (fun earlier later => earlier.number < later.number) ∧
      (∀ numbering ∈ given, 1 ≤ numbering.number ∧ numbering.Fills table) ∧
      (∀ first ∈ given.head?, ∀ rest value parents values stored,
        first.session.store.get? (KeyLayout.groupStart first.call.group.id ++ rest) =
          some value ->
        HKey.decode first.call.group rest =
          .ok ⟨parents ++ [⟨table, values ++ [.bigInt stored]⟩]⟩ ->
        ∀ numbering ∈ given, stored < numbering.number) ∧
      ∀ (other : Group) (row : Row), other.id = group.id -> other.LacksNumber table row ->
        (reached.lastRowNumber other table = .ok Int64.maxValue ∨
            (∃ numbering ∈ given, numbering.number = Int64.maxValue) ->
          (reached.writeRow other row).1 =
              .error (.invalidArgument s!"row ids of table {table.ordinal.toNat} exhausted") ∧
            (reached.writeRow other row).2.store = reached.store ∧
            (reached.writeRow other row).2.counter? other table = some Int64.maxValue) ∧
        (reached.counter? group table = none ->
          match largestRowNumber reached.store other table with
          | .error error => reached.writeRow other row = (.error error, reached)
          | .ok last => last ≠ Int64.maxValue ->
              reached.numbering? group table (.call (.writeRow other row)) =
                some ⟨reached, .writeRow other row, last + 1⟩) := by
  intro given reached
  have uncounted : (ofStore start).counter? group table = none := rfl
  have rises := riseFrom_of_uncounted events uncounted
  refine ⟨?_, ?_, ?_, ?_⟩
  · change List.Pairwise _ (numberings group table (ofStore start) events)
    cases shape : numberings group table (ofStore start) events with
    | nil => exact .nil
    | cons first others =>
        obtain ⟨last, _, rising, _⟩ := rises first (by rw [shape]; rfl)
        exact shape ▸ rising
  · intro numbering present
    obtain ⟨first, isFirst⟩ := Option.isSome_iff_exists.mp
      (List.isSome_head?.mpr (List.ne_nil_of_mem present))
    obtain ⟨last, largest, _, above⟩ := rises first isFirst
    have beyond := Int64.lt_of_le_of_lt (Store.zero_le_largestRowNumber largest)
      (above numbering present)
    exact ⟨by grind, fills_of_mem present⟩
  · intro first isFirst rest value parents values stored found read numbering present
    obtain ⟨last, largest, _, above⟩ := rises first isFirst
    exact Int64.lt_of_le_of_lt
      (Store.le_largestRowNumber largest (Store.hasNumber_of_decode found read))
      (above numbering present)
  · intro other row sameGroup lacks
    have counters := reached.counter?_of_sameGroup table sameGroup
    refine ⟨fun full => writeRow_of_full lacks ?_, fun unset => ?_⟩
    · rcases full with known | ⟨numbering, present, isLargest⟩
      · exact known
      · obtain ⟨last, counted, upTo⟩ := exists_counter_of_mem present
        obtain rfl := Int64.le_antisymm (Int64.le_maxValue last) (isLargest ▸ upTo)
        rw [lastRowNumber, counters, counted]
    · have next := writeRow_of_uncounted lacks (counters.trans unset)
      cases largest : largestRowNumber reached.store other table with
      | error error => simpa only [largest] using next
      | ok last =>
          intro room
          rw [largest] at next
          simp only [numbering?, next room, Option.bind_some, sameGroup, and_self, if_true]

end GroupStore

/-! ## Orders of a shop -/

namespace Shop

open GroupStore

/-- The shop. -/
def group : Group := ⟨5, "shop", [customers, orders, lines]⟩

/-- Write an order of a buyer, with a number or without. -/
def order (buyer number : Value) : SessionEvent :=
  .call (.writeRow group (Row.ofValues orders.rowType [buyer, number]))

/-- An order with a number of its own comes first.  The third has a buyer that no key can
hold, and the store is emptied before the last one. -/
def events : List SessionEvent :=
  [order (.bigInt 1) (.bigInt 7), order (.bigInt 2) .null, order (.interval 1) .null,
    .outside Store.empty, order (.bigInt 3) .null]

/-- The numbers go on behind that of the first order, the one of the refused order is not
given again, and none is below the number that stood in the store.  Behind an order with
the largest number there is none. -/
theorem numberings_rise_orders :
    (numberings group ⟨2⟩ (ofStore Store.empty) events).map (·.number) = [8, 9, 10] ∧
      (∀ given ∈ numberings group ⟨2⟩ (ofStore Store.empty) events, 7 < given.number) ∧
      (((ofStore Store.empty).reach [order (.bigInt 1) (.bigInt Int64.maxValue)]).writeRow group
          (Row.ofValues orders.rowType [.bigInt 2, .null])).1 =
        .error (.invalidArgument "row ids of table 2 exhausted") := by
  obtain ⟨_, _, above, _⟩ := numberings_rise Store.empty events group ⟨2⟩
  obtain ⟨_, _, _, ends⟩ := numberings_rise Store.empty
    [order (.bigInt 1) (.bigInt Int64.maxValue)] group ⟨2⟩
  refine ⟨rfl, ?_, ?_⟩
  · exact above ⟨(ofStore Store.empty).step (order (.bigInt 1) (.bigInt 7)),
      .writeRow group (Row.ofValues orders.rowType [.bigInt 2, .null]), 8⟩ rfl
      [0x15, 1, 0x15, 1, 0x15, 2, 0x15, 7] [0x15, 1, 0x15, 7] [⟨⟨1⟩, [.bigInt 1]⟩] [] 7 rfl rfl
  · exact ((ends group (Row.ofValues orders.rowType [.bigInt 2, .null]) rfl
      ⟨orders, 1, rfl, rfl, rfl, rfl⟩).1 (.inl rfl)).1

end Shop
end Keyspace
