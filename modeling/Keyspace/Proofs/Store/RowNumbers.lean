import Keyspace.Proofs.Schema.KeyLayout
import Keyspace.Proofs.Store.RowMap

/-!
# Numbers given to rows

A session starts to number the rows of a table behind the largest number that
the store has for it, and counts on from there without looking into the store
again.  So a number that it gives is a new one as long as no row is written
with a number of its own beyond the counter, by this session or another.
-/

namespace Keyspace

open GroupStore (Effect)

/-! ## Numbers, lists and rows -/

theorem lt_add_one_of_ne_maxValue
    {number : Int64}
    (room : number ≠ Int64.maxValue) :
    number < number + 1 := by
  grind

theorem le_max_left_right
    (left right : Int64) :
    left ≤ max left right ∧ right ≤ max left right := by
  rw [show max left right = if left ≤ right then right else left from rfl]
  split
  · next less => exact ⟨less, Int64.le_refl right⟩
  · next notLess => exact ⟨Int64.le_refl left, (Int64.le_total left right).resolve_left notLess⟩

theorem le_foldl_max
    (numbers : List Int64)
    (least : Int64) :
    least ≤ numbers.foldl max least ∧ ∀ number ∈ numbers, number ≤ numbers.foldl max least := by
  induction numbers generalizing least with
  | nil => simp
  | cons first numbers inductionHypothesis =>
      obtain ⟨reached, others⟩ := inductionHypothesis (max least first)
      obtain ⟨leastBelow, firstBelow⟩ := le_max_left_right least first
      refine ⟨Int64.le_trans leastBelow reached, ?_⟩
      intro number present
      rcases List.mem_cons.mp present with rfl | further
      · exact Int64.le_trans firstBelow reached
      · exact others number further

theorem getLast?_of_forall₂
    {α β : Type}
    {relation : α -> β -> Prop}
    {lefts : List α}
    {rights : List β}
    (related : List.Forall₂ relation lefts rights) :
    Option.Rel relation lefts.getLast? rights.getLast? := by
  have reversed := List.forall₂_reverse_iff.mpr related
  rw [List.getLast?_eq_head?_reverse, List.getLast?_eq_head?_reverse]
  generalize lefts.reverse = leftsBack at reversed
  generalize rights.reverse = rightsBack at reversed
  cases reversed with
  | nil => exact .none
  | cons first _ => exact .some first

theorem Row.getElem?_of_set
    {row written : Row}
    {position : Nat}
    {value : Value}
    (set : row.set position value = .ok written) :
    written.values[position]? = some value := by
  unfold Row.set at set
  split at set
  · next inRange =>
      obtain rfl := Except.ok.inj set
      exact List.getElem?_set_self inRange
  · simp at set

/-! ## Numbers in a store -/

namespace GroupStore

/-- Paths that are alike have one number. -/
theorem rowNumber?_congr
    {left right : HKey}
    (table : TableId)
    (alike : left.Alike right) :
    rowNumber? table left = rowNumber? table right := by
  have segments := getLast?_of_forall₂ alike
  unfold rowNumber?
  generalize left.segments.getLast? = leftLast at segments
  generalize right.segments.getLast? = rightLast at segments
  cases segments with
  | none => rfl
  | some segment =>
      obtain ⟨sameTable, values⟩ := segment
      have lastValues := getLast?_of_forall₂ values
      dsimp only
      rw [sameTable]
      split
      · generalize List.getLast? _ = leftValue at lastValues
        generalize List.getLast? _ = rightValue at lastValues
        cases lastValues with
        | none => rfl
        | @some leftValue rightValue value =>
            cases leftValue <;> cases rightValue <;> simp_all [Value.Alike]
      · rfl

end GroupStore

/-- Whether a store has a row of a table under a number. -/
def Store.HasNumber (store : Store) (group : Group) (table : TableId) (number : Int64) : Prop :=
  ∃ entry ∈ store.startingWith (KeyLayout.groupStart group.id), ∃ hkey,
    HKey.decode group (entry.key.drop (KeyLayout.groupStart group.id).length) = .ok hkey ∧
      GroupStore.rowNumber? table hkey = some number

namespace Store

variable {store before after : Store} {group : Group} {table : TableId}

theorem within_groupRange
    {range : KeyRange}
    (store : Store)
    (ranged : KeyLayout.groupRange group = .ok range) :
    store.within range = store.startingWith (KeyLayout.groupStart group.id) := by
  obtain ⟨next, found, successor⟩ := KeyLayout.exists_successor_groupStart group.id
  simp only [KeyLayout.groupRange, KeyRange.ofStart, found, bind, Except.bind] at ranged
  obtain rfl := Except.ok.inj ranged
  exact within_halfOpen fun key => Bytes.between_successor_iff successor

/-- No row of a table has a number beyond the one that counting starts with. -/
theorem le_largestRowNumber
    {last number : Int64}
    (largest : GroupStore.largestRowNumber store group table = .ok last)
    (has : store.HasNumber group table number) :
    number ≤ last := by
  obtain ⟨range, ranged, largest⟩ := bind_eq_ok.mp largest
  obtain ⟨hkeys, decoded, largest⟩ := bind_eq_ok.mp largest
  obtain rfl := pure_eq_ok.mp largest
  obtain ⟨entry, present, hkey, read, numbered⟩ := has
  rw [within_groupRange store ranged] at decoded
  obtain ⟨back, member, readAgain⟩ := exists_input_of_mem (mapM_eq_ok.mp decoded).flip entry present
  obtain rfl := Except.ok.inj (readAgain.symm.trans read)
  exact (le_foldl_max _ 0).2 number (List.mem_filterMap.mpr ⟨back, member, numbered⟩)

theorem hasNumber_of_get?
    {hkey : HKey}
    {key value : Bytes}
    {number : Int64}
    (rooted : hkey.Rooted group)
    (keyed : KeyLayout.rowKey group hkey = .ok key)
    (found : store.get? key = some value)
    (numbered : GroupStore.rowNumber? table hkey = some number) :
    store.HasNumber group table number := by
  obtain ⟨bytes, encoded, rfl⟩ := KeyLayout.rowKey_eq_ok.mp keyed
  obtain ⟨back, read, alike⟩ := HKey.exists_decode rooted encoded
  refine ⟨⟨_, value⟩, List.mem_filter.mpr ⟨mem_entries.mpr found, by simp⟩, back, ?_, ?_⟩
  · rwa [List.drop_left]
  · rwa [GroupStore.rowNumber?_congr table alike]

/-- A number in the store was there before, or its row is the one just
written. -/
theorem HasNumber.of_effect
    {change : Option RowChange}
    {number : Int64}
    (effect : Effect before change after)
    (rooted : ∀ made ∈ change, made.row ≠ none -> made.group.id = group.id ->
      made.hkey.Rooted group)
    (has : after.HasNumber group table number) :
    before.HasNumber group table number ∨
      ∃ made ∈ change, made.row ≠ none ∧ made.group.id = group.id ∧
        GroupStore.rowNumber? table made.hkey = some number := by
  obtain ⟨entry, present, hkey, read, numbered⟩ := has
  obtain ⟨stored, starts⟩ := List.mem_filter.mp present
  have found := mem_entries.mp stored
  have stays : before.get? entry.key = some entry.value ->
      before.HasNumber group table number := fun there =>
    ⟨entry, List.mem_filter.mpr ⟨mem_entries.mpr there, starts⟩, hkey, read, numbered⟩
  cases effect with
  | unchanged => exact .inl (stays found)
  | indexed rest =>
      rw [get?_insert, if_neg] at found
      · exact .inl (stays found)
      · rintro same
        obtain ⟨beyond, split⟩ := of_decide_eq_true starts
        rw [← same] at split
        exact absurd (List.cons.inj split).1 (by decide)
  | @written madeGroup madeHKey row key value named keyed encoded =>
      rw [get?_insert] at found
      split at found
      · next same =>
          obtain ⟨beyond, split⟩ := of_decide_eq_true starts
          obtain ⟨bytes, madeEncoded, rfl⟩ := KeyLayout.rowKey_eq_ok.mp keyed
          obtain ⟨sameId, rfl⟩ := KeyLayout.groupStart_split (same.trans split.symm)
          obtain ⟨back, readAgain, alike⟩ :=
            HKey.exists_decode (rooted _ rfl (by simp) sameId) madeEncoded
          rw [← split, List.drop_left, readAgain] at read
          obtain rfl := Except.ok.inj read
          exact .inr ⟨_, rfl, by simp, sameId,
            (GroupStore.rowNumber?_congr table alike).symm.trans numbered⟩
      · exact .inl (stays found)
  | deleted keyed =>
      rw [get?_erase] at found
      split at found
      · simp at found
      · exact .inl (stays found)

end Store

/-! ## Counters -/

namespace StoreCall

/-- The group that a call is about. -/
def group : StoreCall -> Group
  | writeRow group _ => group
  | writeAt group _ _ => group
  | deleteRow group _ => group
  | writeIndexRow group _ _ _ => group

end StoreCall

namespace GroupStore

theorem counter?_congr
    {left right : GroupStore}
    (same : left.counters = right.counters)
    (group : Group)
    (table : TableId) :
    left.counter? group table = right.counter? group table := by
  rw [counter?, counter?, same]

/-- Noting a number changes one counter. -/
theorem counter?_setCounter
    (session : GroupStore)
    (group other : Group)
    (table otherTable : TableId)
    (last : Int64) :
    (session.setCounter group table last).counter? other otherTable =
      if group.id = other.id ∧ table = otherTable then some last
      else session.counter? other otherTable := by
  simp only [setCounter, counter?, List.find?_cons]
  split
  · next isSame => simp_all
  · next isOther =>
      rw [if_neg (by simpa using isOther), List.find?_filter]
      congr 2
      funext counter
      simp only [Bool.and_eq_false_imp, beq_iff_eq] at isOther
      grind

/-- The number that a call gives to the row that it writes, if it gives one. -/
def given? (session : GroupStore) : StoreCall -> Option RowCounter
  | .writeRow group row =>
      match tableOf group row.rowType with
      | .error _ => none
      | .ok table =>
          if table.hiddenKeyPosition?.any fun position => (row.valueOrNull position).isNull then
            (session.nextRowNumber group table.id).1.toOption.map (RowCounter.mk group.id table.id)
          else none
  | _ => none

/-- What a call on a group can do to the counters, with the number that it
gives. -/
inductive Counts (before : GroupStore) (group : Group) :
    Option RowCounter -> List RowCounter -> Prop
  /-- No number is asked for, or the store cannot be read. -/
  | kept : Counts before group none before.counters
  /-- No number is left. -/
  | exhausted
      {table : TableId}
      (known : before.lastRowNumber group table = .ok Int64.maxValue) :
      Counts before group none (before.setCounter group table Int64.maxValue).counters
  /-- The number behind the last one is given. -/
  | given
      {table : TableId}
      {last : Int64}
      (known : before.lastRowNumber group table = .ok last)
      (room : last ≠ Int64.maxValue) :
      Counts before group (some ⟨group.id, table, last + 1⟩)
        (before.setCounter group table (last + 1)).counters

theorem counts_nextRowNumber
    (session : GroupStore)
    (group : Group)
    (table : TableId) :
    Counts session group
      ((session.nextRowNumber group table).1.toOption.map (RowCounter.mk group.id table))
      (session.nextRowNumber group table).2.counters := by
  unfold nextRowNumber
  split
  · exact .kept
  · next last known =>
      split
      · next full => exact full ▸ .exhausted (full ▸ known)
      · next room => exact .given known room

theorem numberRow_snd
    (session : GroupStore)
    (group : Group)
    (table : Table)
    (row : Row) :
    (session.numberRow group table row).2 =
      if table.hiddenKeyPosition?.any fun position => (row.valueOrNull position).isNull then
        (session.nextRowNumber group table.id).2
      else session := by
  unfold numberRow
  cases table.hiddenKeyPosition? with
  | none => rfl
  | some position =>
      simp only [Option.any_some]
      split
      · split <;> next step => rw [step]
      · rfl

theorem counters_writeRow
    {group : Group}
    {row : Row}
    {table : Table}
    (session : GroupStore)
    (found : tableOf group row.rowType = .ok table) :
    (session.writeRow group row).2.counters = (session.numberRow group table row).2.counters := by
  simp only [writeRow, found]
  split
  · next step => rw [step]
  · next step =>
      rw [step]
      dsimp only
      split <;> rfl

theorem perform_writeRow_snd
    (session : GroupStore)
    (group : Group)
    (row : Row) :
    (session.perform (.writeRow group row)).2 = (session.writeRow group row).2 := by
  rw [perform]
  split <;> next step => rw [step]

/-- Only giving a number moves a counter. -/
theorem counts_perform
    (session : GroupStore)
    (call : StoreCall) :
    Counts session call.group (session.given? call) (session.perform call).2.counters := by
  cases call with
  | writeRow group row =>
      rw [perform_writeRow_snd, given?, StoreCall.group]
      cases found : tableOf group row.rowType with
      | error error =>
          simp only [writeRow, found]
          exact .kept
      | ok table =>
          rw [session.counters_writeRow found, numberRow_snd]
          dsimp only
          split
          · exact session.counts_nextRowNumber group table.id
          · exact .kept
  | writeAt group hkey row =>
      rw [perform]
      split <;> exact .kept
  | deleteRow group hkey =>
      rw [perform]
      split <;> exact .kept
  | writeIndexRow group index spatial row =>
      rw [perform]
      split <;> exact .kept

/-- The next number is the one behind a last number that leaves room. -/
theorem exists_last_of_given
    {session : GroupStore}
    {call : StoreCall}
    {counter : RowCounter}
    (given : session.given? call = some counter) :
    ∃ last, session.lastRowNumber call.group counter.table = .ok last ∧ last ≠ Int64.maxValue ∧
      counter = ⟨call.group.id, counter.table, last + 1⟩ := by
  have counts := session.counts_perform call
  rw [given] at counts
  generalize (session.perform call).2.counters = counters at counts
  cases counts with
  | @given table last known room => exact ⟨last, known, room, rfl⟩

/-! ## The number of a written row -/

theorem table?_of_tableOf
    {group : Group}
    {rowType : RowType}
    {table : Table}
    (found : tableOf group rowType = .ok table) :
    group.table? rowType.table = some table := by
  unfold tableOf at found
  split at found
  · next here =>
      split at found
      · obtain rfl := Except.ok.inj found
        exact here
      · simp at found
  · simp at found

/-- The tables of the rows of a group have their key layouts from its declaration. -/
theorem derived_of_tableOf
    {declaration : GroupDeclaration}
    {group : Group}
    {rowType : RowType}
    {table : Table}
    (built : declaration.build = .ok group)
    (found : tableOf group rowType = .ok table) :
    table.Derived group :=
  ((GroupDeclaration.isSound_of_build built) table
    (Group.mem_of_table? (table?_of_tableOf found))).derived _ (List.prefix_refl _)

/-- The key of a row of a table whose key is an added one ends with the value of the
added column. -/
theorem exists_last_of_ofValues
    {group : Group}
    {table : Table}
    {position : Nat}
    {values : List Value}
    {hkey : HKey}
    (derived : table.Derived group)
    (hidden : table.hiddenKeyPosition? = some position)
    (taken : HKey.ofValues table values = .ok hkey) :
    ∃ value, values[position]? = some value ∧
      hkey.segments.getLast? = some ⟨table.id, [value]⟩ := by
  have ownKey : table.primaryKey = [position] := by
    unfold Table.hiddenKeyPosition? at hidden
    split at hidden
    · next shape =>
        split at hidden
        · split at hidden
          · rw [shape, Option.some.inj hidden]
          · simp at hidden
        · simp at hidden
    · simp at hidden
  obtain ⟨inherited, layout⟩ := derived.exists_inherited
  have gives := getLast?_of_forall₂ (HKey.ofValues_eq_ok.mp taken)
  rw [layout, List.getLast?_concat, ownKey] at gives
  generalize hkey.segments.getLast? = last at gives
  cases gives with
  | @some _ segment given =>
      obtain ⟨own, ownValues⟩ := segment
      obtain ⟨sameTable, values⟩ := given
      obtain ⟨value, rest, first, others, isCons⟩ := List.forall₂_cons_left_iff.mp values
      obtain rfl := List.forall₂_nil_left_iff.mp others
      obtain rfl : own = table.id := sameTable
      obtain rfl : ownValues = [value] := isCons
      exact ⟨value, first, rfl⟩

/-- The key of a row of a table whose key is an added one ends with its
number. -/
theorem rowNumber?_ofValues
    {group : Group}
    {table : Table}
    {position : Nat}
    {values : List Value}
    {hkey : HKey}
    {number : Int64}
    (derived : table.Derived group)
    (hidden : table.hiddenKeyPosition? = some position)
    (here : values[position]? = some (.bigInt number))
    (taken : HKey.ofValues table values = .ok hkey) :
    rowNumber? table.id hkey = some number := by
  obtain ⟨value, given, last⟩ := exists_last_of_ofValues derived hidden taken
  obtain rfl := Option.some.inj (given.symm.trans here)
  simp [rowNumber?, last]

/-- A number is given to a row of a table whose added key is absent. -/
theorem exists_row_of_given
    {session : GroupStore}
    {call : StoreCall}
    {counter : RowCounter}
    (given : session.given? call = some counter) :
    ∃ row table position,
      call = .writeRow call.group row ∧
      tableOf call.group row.rowType = .ok table ∧
      table.id = counter.table ∧
      table.hiddenKeyPosition? = some position ∧
      (session.numberRow call.group table row).1 = row.set position (.bigInt counter.last) := by
  unfold given? at given
  split at given
  · next group row =>
      split at given
      · simp at given
      · next table found =>
          split at given
          · next asks =>
              obtain ⟨number, numbered, rfl⟩ := Option.map_eq_some_iff.mp given
              cases hidden : table.hiddenKeyPosition? with
              | none => simp [hidden] at asks
              | some position =>
                  rw [hidden, Option.any_some] at asks
                  refine ⟨row, table, position, rfl, found, rfl, hidden, ?_⟩
                  rcases next : session.nextRowNumber group table.id with ⟨result, counted⟩
                  rw [next] at numbered
                  cases result with
                  | error error => simp [Except.toOption] at numbered
                  | ok first =>
                      obtain rfl : first = number := by simpa [Except.toOption] using numbered
                      simp [numberRow, hidden, asks, next, StoreCall.group]
          · simp at given
  · simp at given

/-- A row that is written goes to the key that its values give, once it has its
number. -/
theorem exists_written_of_perform
    {session : GroupStore}
    {group : Group}
    {row : Row}
    {table : Table}
    {change : RowChange}
    (found : tableOf group row.rowType = .ok table)
    (changed : (session.perform (.writeRow group row)).1 = some change) :
    ∃ written hkey, (session.numberRow group table row).1 = .ok written ∧
      HKey.ofValues table written.values = .ok hkey ∧ change = ⟨group, hkey, some written⟩ := by
  have writes := session.writesRow group row
  rw [perform] at changed
  generalize session.writeRow group row = result at writes changed
  cases writes with
  | refused kept => simp at changed
  | @written _ written hkey _ foundAgain numbering derived stored =>
      obtain rfl := Except.ok.inj (found.symm.trans foundAgain)
      refine ⟨written, hkey, numbering, derived, ?_⟩
      simpa only [numbered, found, numbering, Option.some.injEq] using changed.symm

/-- A row that is written with a number given to it stands under that number. -/
theorem rowNumber?_of_given
    {declaration : GroupDeclaration}
    {session : GroupStore}
    {call : StoreCall}
    {counter : RowCounter}
    {change : RowChange}
    (built : declaration.build = .ok call.group)
    (given : session.given? call = some counter)
    (changed : (session.perform call).1 = some change) :
    change.group = call.group ∧ change.row ≠ none ∧
      rowNumber? counter.table change.hkey = some counter.last := by
  obtain ⟨row, table, position, shape, found, sameTable, hidden, numbered⟩ :=
    exists_row_of_given given
  rw [shape] at changed
  obtain ⟨written, hkey, isWritten, taken, rfl⟩ := exists_written_of_perform found changed
  have here := Row.getElem?_of_set (numbered.symm.trans isWritten)
  exact ⟨rfl, by simp,
    sameTable ▸ rowNumber?_ofValues (derived_of_tableOf built found) hidden here taken⟩

/-! ## Counters that keep up -/

/-- Whether no row of a table has a number beyond the last one that a session
knows. -/
def Covers (session : GroupStore) (group : Group) (table : TableId) : Prop :=
  ∀ last, session.counter? group table = some last ->
    ∀ number, session.store.HasNumber group table number -> number ≤ last

/-- Whether a call that writes to a group does so at a path, and not beyond the
last number that the session then knows. -/
structure Tracks (session : GroupStore) (group : Group) (table : TableId) (call : StoreCall) :
    Prop where
  /-- The number tells the group. -/
  sameGroup : call.group.id = group.id -> call.group = group
  /-- Rows are written at paths. -/
  rooted : ∀ made ∈ (session.perform call).1, made.row ≠ none -> made.group.id = group.id ->
    made.hkey.Rooted group
  /-- No row gets ahead of the counter. -/
  behind : ∀ made ∈ (session.perform call).1, made.row ≠ none -> made.group.id = group.id ->
    ∀ number, rowNumber? table made.hkey = some number ->
      ∀ last, (session.perform call).2.counter? group table = some last -> number ≤ last

variable {session : GroupStore} {group : Group} {table : TableId} {call : StoreCall}

/-- The next number is given behind all that the store has. -/
theorem Covers.le_last
    {last number : Int64}
    (covers : session.Covers group table)
    (known : session.lastRowNumber group table = .ok last)
    (has : session.store.HasNumber group table number) :
    number ≤ last := by
  unfold lastRowNumber at known
  split at known
  · next counted =>
      obtain rfl := Except.ok.inj known
      exact covers _ counted number has
  · exact Store.le_largestRowNumber known has

/-- A call that keeps behind the counter leaves it covering the store. -/
theorem Covers.step
    (covers : session.Covers group table)
    (tracks : session.Tracks group table call) :
    (session.perform call).2.Covers group table := by
  intro last counted number has
  rcases has.of_effect (session.effect_perform call) tracks.rooted with
    stood | ⟨made, isMade, wrote, sameId, numbered⟩
  · have counts := session.counts_perform call
    generalize session.given? call = counter at counts
    generalize shape : (session.perform call).2.counters = counters at counts
    cases counts with
    | kept =>
        rw [counter?_congr shape] at counted
        exact covers last counted number stood
    | exhausted known =>
        rw [counter?_congr shape, counter?_setCounter] at counted
        split at counted
        · next same =>
            obtain rfl := Option.some.inj counted
            rw [tracks.sameGroup same.1, same.2] at known
            exact covers.le_last known stood
        · exact covers last counted number stood
    | @given _ before known room =>
        rw [counter?_congr shape, counter?_setCounter] at counted
        split at counted
        · next same =>
            obtain rfl := Option.some.inj counted
            rw [tracks.sameGroup same.1, same.2] at known
            exact Int64.le_of_lt (Int64.lt_of_le_of_lt (covers.le_last known stood)
              (lt_add_one_of_ne_maxValue room))
        · exact covers last counted number stood
  · exact tracks.behind made isMade wrote sameId number numbered last counted

/-! ## Runs of one session -/

/-- Whether every call of a run keeps behind the counter. -/
def Tracked (group : Group) (table : TableId) : GroupStore -> List StoreCall -> Prop
  | _, [] => True
  | session, call :: calls =>
      session.Tracks group table call ∧ Tracked group table (session.perform call).2 calls

theorem tracked_concat
    {calls : List StoreCall} :
    Tracked group table session (calls ++ [call]) ↔
      Tracked group table session calls ∧ (session.after calls).Tracks group table call := by
  induction calls generalizing session with
  | nil => simp [Tracked, after]
  | cons first calls inductionHypothesis =>
      rw [List.cons_append, Tracked, Tracked, inductionHypothesis, and_assoc]
      rfl

theorem Covers.run
    {calls : List StoreCall}
    (covers : session.Covers group table)
    (tracked : Tracked group table session calls) :
    (session.after calls).Covers group table := by
  induction calls generalizing session with
  | nil => exact covers
  | cons call calls inductionHypothesis =>
      exact inductionHypothesis (covers.step tracked.1) tracked.2

theorem covers_ofStore
    (store : Store)
    (group : Group)
    (table : TableId) :
    (ofStore store).Covers group table := by
  intro last counted
  simp [ofStore, counter?] at counted

/-- A session that starts on any store, and writes no row of a table beyond the
number that it knows to be the last, writes a row to which it gives a number
where no row has been. -/
theorem numbered_row_is_new
    {declaration : GroupDeclaration}
    {counter : RowCounter}
    {change : RowChange}
    (start : Store)
    (calls : List StoreCall)
    (call : StoreCall)
    (built : declaration.build = .ok call.group)
    (given : ((ofStore start).after calls).given? call = some counter)
    (changed : (((ofStore start).after calls).perform call).1 = some change)
    (tracked : Tracked call.group counter.table (ofStore start) (calls ++ [call])) :
    rowNumber? counter.table change.hkey = some counter.last ∧
      ∃ key, KeyLayout.rowKey call.group change.hkey = .ok key ∧
        ((ofStore start).after calls).store.get? key = none := by
  obtain ⟨earlier, tracks⟩ := tracked_concat.mp tracked
  have covers := (covers_ofStore start call.group counter.table).run earlier
  obtain ⟨sameGroup, wrote, numbered⟩ := rowNumber?_of_given built given changed
  have rooted := tracks.rooted change changed wrote (by rw [sameGroup])
  obtain ⟨key, keyed⟩ := KeyLayout.exists_rowKey rooted
  refine ⟨numbered, key, keyed, Option.eq_none_iff_forall_ne_some.mpr fun value found => ?_⟩
  -- A row under the number would make the counter cover it, but the number is beyond the counter.
  obtain ⟨last, known, room, isNext⟩ := exists_last_of_given given
  have stood := covers.le_last known (Store.hasNumber_of_get? rooted keyed found numbered)
  have beyond : last < counter.last := isNext ▸ lt_add_one_of_ne_maxValue room
  exact Int64.lt_irrefl (Int64.lt_of_le_of_lt stood beyond)

end GroupStore

/-! ## A diary -/

namespace Diary

/-- Notes without a key of their own. -/
def declaration : GroupDeclaration where
  id := 1
  name := "diary"
  root := some ⟨⟨"s", "notes"⟩, [⟨"text", .text, true, none, false⟩], []⟩
  children := []

/-- The notes of the diary. -/
def notes : Table :=
  ⟨⟨1⟩, ⟨"s", "notes"⟩, [⟨"text", .text, true, none, false⟩, Column.hiddenKey], [1], none, [], 0,
    [⟨⟨1⟩, [1]⟩]⟩

/-- The diary. -/
def group : Group := ⟨1, "diary", [notes]⟩

/-- A note with a number, or without. -/
def row (text : String) (number : Value) : Row :=
  Row.ofValues notes.rowType [.string text, number]

/-- Write a note. -/
def note (text : String) (number : Value) : StoreCall :=
  .writeRow group (row text number)

/-- The key of a note. -/
def key (number : Int64) : HKey := ⟨[⟨⟨1⟩, [.bigInt number]⟩]⟩

theorem build_declaration : declaration.build = .ok group := rfl

theorem key_rooted
    (number : Int64) :
    (key number).Rooted group := by
  refine ⟨⟨notes, rfl, rfl, rfl, rfl, ?_⟩, trivial⟩
  rintro pair present
  obtain rfl := List.mem_singleton.mp present
  exact ⟨_, rfl, rfl⟩

/-- A note keeps behind the counter if it is written under a number up to the
one that the session then knows. -/
theorem tracks
    {session : GroupStore}
    {text : String}
    {number : Value}
    {stored : Row}
    (written : Int64)
    (last : Option Int64)
    (changed : (session.perform (note text number)).1 = some ⟨group, key written, some stored⟩)
    (counted : (session.perform (note text number)).2.counter? group ⟨1⟩ = last)
    (behind : ∀ reached ∈ last, written ≤ reached) :
    session.Tracks group ⟨1⟩ (note text number) := by
  refine ⟨fun _ => rfl, ?_, ?_⟩
  · intro made isMade _ _
    obtain rfl := Option.some.inj (changed.symm.trans isMade)
    exact key_rooted written
  · intro made isMade _ _ other numbered reached known
    obtain rfl := Option.some.inj (changed.symm.trans isMade)
    obtain rfl : written = other := Option.some.inj numbered
    exact behind reached (counted.symm.trans known)

end Diary

namespace GroupStore

/-- One note comes under a number of its own before the first number is given,
and another under a number that is passed already. -/
theorem numbered_row_is_new_diary :
    let calls := [Diary.note "a" (.bigInt 5), Diary.note "b" .null, Diary.note "c" (.bigInt 3)]
    Tracked Diary.group ⟨1⟩ (ofStore Store.empty) (calls ++ [Diary.note "d" .null]) ∧
      ∃ key, KeyLayout.rowKey Diary.group (Diary.key 7) = .ok key ∧
        ((ofStore Store.empty).after calls).store.get? key = none := by
  intro calls
  have tracked : Tracked Diary.group ⟨1⟩ (ofStore Store.empty) (calls ++ [Diary.note "d" .null]) :=
    ⟨Diary.tracks 5 none rfl rfl (by simp), Diary.tracks 6 (some 6) rfl rfl (by simp),
      Diary.tracks 3 (some 6) rfl rfl (by simp), Diary.tracks 7 (some 7) rfl rfl (by simp), trivial⟩
  have given : ((ofStore Store.empty).after calls).given? (Diary.note "d" .null) =
      some ⟨1, ⟨1⟩, 7⟩ := rfl
  have changed : (((ofStore Store.empty).after calls).perform (Diary.note "d" .null)).1 =
      some ⟨Diary.group, Diary.key 7, some (Diary.row "d" (.bigInt 7))⟩ := rfl
  exact ⟨tracked, (numbered_row_is_new Store.empty calls (Diary.note "d" .null)
    Diary.build_declaration given changed tracked).2⟩

/-- The second number given goes to a note that stands already under it. -/
theorem numbered_row_overwrites :
    let session := (ofStore Store.empty).after [Diary.note "a" .null, Diary.note "b" (.bigInt 2)]
    session.given? (Diary.note "c" .null) = some ⟨1, ⟨1⟩, 2⟩ ∧
      (session.perform (Diary.note "c" .null)).1 =
        some ⟨Diary.group, Diary.key 2, some (Diary.row "c" (.bigInt 2))⟩ ∧
      readRow session.store Diary.group (Diary.key 2) =
        .ok (some ((Diary.row "b" (.bigInt 2)).withHKey (Diary.key 2))) := by
  exact ⟨rfl, rfl, rfl⟩

end GroupStore
end Keyspace
