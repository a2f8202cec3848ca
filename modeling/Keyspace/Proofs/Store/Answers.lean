import Keyspace.Proofs.Store.RowNumbers

/-!
# What calls answer

A call on a group store answers with the place that it wrote at, and nothing but
that place has changed.  A call that fails may have used up a number of its
session, but all keys of the store and their values are what they were, whatever
it had done before it failed.
-/

namespace Keyspace

/-- A row as its table stores it: with a number in the added key column if none
was there. -/
inductive Row.Completed (table : Table) (row : Row) : Row -> Prop
  /-- The row has all of its key. -/
  | complete
      (present : ∀ position ∈ table.hiddenKeyPosition?,
        (row.valueOrNull position).isNull = false) :
      Completed table row row
  /-- The row gets a number. -/
  | filled
      {position : Nat}
      {number : Int64}
      {written : Row}
      (added : table.hiddenKeyPosition? = some position)
      (absent : (row.valueOrNull position).isNull = true)
      (set : row.set position (.bigInt number) = .ok written) :
      Completed table row written

/-- What a call that succeeds tells its caller. -/
inductive CallAnswer where
  /-- The key of the row that was written. -/
  | row (hkey : HKey)
  /-- Whether there was a row to delete. -/
  | deletion (found : Bool)
  /-- The key of the index entry that was written. -/
  | entry (key : Bytes)
  deriving DecidableEq

/-- Whether an answer to a call says that a value, or none, stands at a key. -/
inductive CallAnswer.Says : StoreCall -> CallAnswer -> Bytes -> Option Bytes -> Prop
  /-- The completed row stands at the key that its values give. -/
  | row
      {group : Group}
      {row written : Row}
      {table : Table}
      {hkey : HKey}
      {key value : Bytes}
      (found : GroupStore.tableOf group row.rowType = .ok table)
      (completed : row.Completed table written)
      (derived : HKey.ofValues table written.values = .ok hkey)
      (keyed : KeyLayout.rowKey group hkey = .ok key)
      (encoded : written.encode = .ok value) :
      Says (.writeRow group row) (.row hkey) key (some value)
  /-- The row stands at the given key. -/
  | rowAt
      {group : Group}
      {row : Row}
      {hkey : HKey}
      {key value : Bytes}
      (keyed : KeyLayout.rowKey group hkey = .ok key)
      (encoded : row.encode = .ok value) :
      Says (.writeAt group hkey row) (.row hkey) key (some value)
  /-- Nothing stands at the given key. -/
  | deletion
      {group : Group}
      {hkey : HKey}
      {found : Bool}
      {key : Bytes}
      (keyed : KeyLayout.rowKey group hkey = .ok key) :
      Says (.deleteRow group hkey) (.deletion found) key none
  /-- An entry stands at its key. -/
  | entry
      {group : Group}
      {index : Index}
      {spatial : Option SpatialIndex}
      {row : Row}
      {key : Bytes} :
      Says (.writeIndexRow group index spatial row) (.entry key) key (some [])

namespace GroupStore

/-- The answer to a call. -/
def answer (session : GroupStore) : StoreCall -> Except Error CallAnswer
  | .writeRow group row => (session.writeRow group row).1.map .row
  | .writeAt group hkey row => (writeAt session.store group hkey row).map fun _ => .row hkey
  | .deleteRow group hkey =>
      (deleteRow session.store group hkey).map fun result => .deletion result.1
  | .writeIndexRow group index spatial row =>
      (writeIndexRow session.store group index spatial row).map fun result => .entry result.1

variable {session after : GroupStore} {group : Group} {table : Table} {row written : Row}
  {hkey : HKey}

/-! ## Rows with their numbers -/

theorem completed_of_numberRow
    (numbering : (session.numberRow group table row).1 = .ok written) :
    row.Completed table written := by
  unfold numberRow at numbering
  split at numbering
  · next plain =>
      obtain rfl := Except.ok.inj numbering
      exact .complete (by simp [plain])
  · next position added =>
      split at numbering
      · next absent =>
          split at numbering
          · simp at numbering
          · exact .filled added absent numbering
      · next present =>
          obtain rfl := Except.ok.inj numbering
          refine .complete fun other isAdded => ?_
          obtain rfl := Option.some.inj (added.symm.trans isAdded)
          simpa using present

/-- A row that is written is completed first, and goes to the key that its values
then give. -/
theorem writeRow_eq_ok
    (wrote : session.writeRow group row = (.ok hkey, after)) :
    ∃ table written, tableOf group row.rowType = .ok table ∧ row.Completed table written ∧
      HKey.ofValues table written.values = .ok hkey ∧
      writeAt session.store group hkey written = .ok after.store := by
  have writes := session.writesRow group row
  rw [wrote] at writes
  cases writes with
  | written found numbering derived stored =>
      exact ⟨_, _, found, completed_of_numberRow numbering, derived, stored⟩

/-- A row that is refused leaves the store alone, also if it was given a number. -/
theorem store_of_writeRow_error
    {error : Error}
    (failed : session.writeRow group row = (.error error, after)) :
    after.store = session.store := by
  have writes := session.writesRow group row
  rw [failed] at writes
  cases writes with
  | refused kept => exact kept

/-- What was written at a key, and that it could be encoded. -/
theorem writeAt_eq_ok
    {store store' : Store}
    (wrote : writeAt store group hkey row = .ok store') :
    ∃ key value, KeyLayout.rowKey group hkey = .ok key ∧ row.encode = .ok value ∧
      store' = store.insert key value := by
  cases writeAt_effect wrote with
  | written _ keyed encoded => exact ⟨_, _, keyed, encoded, rfl⟩

/-- A call changes at most one key of the store: the one that its answer names, which
then holds the encoded row, nothing after a deletion, and the empty value for an entry
of an index.  A call that fails leaves the whole store as it was. -/
theorem perform_changes_answered_key
    (session : GroupStore)
    (call : StoreCall) :
    match session.answer call with
    | .error _ => (session.perform call).2.store = session.store
    | .ok answer => ∃ key value, answer.Says call key value ∧
        ∀ other, (session.perform call).2.store.get? other =
          if key = other then value else session.store.get? other := by
  cases call with
  | writeRow group row =>
      rcases wrote : session.writeRow group row with ⟨error | hkey, after⟩
      · simp only [answer, perform, wrote, Except.map]
        exact store_of_writeRow_error wrote
      · obtain ⟨table, written, found, completed, derived, stored⟩ := writeRow_eq_ok wrote
        obtain ⟨key, value, keyed, encoded, inserted⟩ := writeAt_eq_ok stored
        simp only [answer, perform, wrote, Except.map, inserted]
        exact ⟨key, some value, .row found completed derived keyed encoded,
          Store.get?_insert _ key value⟩
  | writeAt group hkey row =>
      cases wrote : writeAt session.store group hkey row with
      | error error => simp only [answer, perform, wrote, Except.map]
      | ok after =>
          obtain ⟨key, value, keyed, encoded, rfl⟩ := writeAt_eq_ok wrote
          simp only [answer, perform, wrote, Except.map]
          exact ⟨key, some value, .rowAt keyed encoded, Store.get?_insert _ key value⟩
  | deleteRow group hkey =>
      cases deleted : deleteRow session.store group hkey with
      | error error => simp only [answer, perform, deleted, Except.map]
      | ok result =>
          obtain ⟨found, after⟩ := result
          simp only [answer, perform, deleted, Except.map]
          cases deleteRow_effect deleted with
          | @deleted _ _ key keyed =>
              exact ⟨key, none, .deletion keyed, Store.get?_erase _ key⟩
  | writeIndexRow group index spatial row =>
      cases wrote : writeIndexRow session.store group index spatial row with
      | error error => simp only [answer, perform, wrote, Except.map]
      | ok result =>
          obtain ⟨key, after⟩ := result
          obtain rfl := (writesEntry_of_ok wrote).put
          simp only [answer, perform, wrote, Except.map]
          exact ⟨key, some [], .entry, Store.get?_insert _ key []⟩

end GroupStore
end Keyspace
