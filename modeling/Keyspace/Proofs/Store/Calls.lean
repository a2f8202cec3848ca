import Keyspace.Proofs.Row.Storage
import Keyspace.Store.GroupStore

/-!
# Calls on a group store

Each call that succeeds writes or deletes at one key of the key-value store,
and one that fails leaves the store alone.  What a call can do is said once and
for all, so that nothing else has to look into the operations.
-/

namespace Keyspace

/-- A call that may write. -/
inductive StoreCall where
  /-- Write a row at the key that its values give. -/
  | writeRow (group : Group) (row : Row)
  /-- Write a row at a given key. -/
  | writeAt (group : Group) (hkey : HKey) (row : Row)
  /-- Delete the row at a key. -/
  | deleteRow (group : Group) (hkey : HKey)
  /-- Write the entry of a row in an index. -/
  | writeIndexRow (group : Group) (index : Index) (spatial : Option SpatialIndex) (row : Row)

/-- What a call did at the key of a row. -/
structure RowChange where
  /-- The group. -/
  group : Group
  /-- The key. -/
  hkey : HKey
  /-- The row that was written; none if the key was cleared. -/
  row : Option Row

namespace GroupStore

/-- A row as it is written: with its number, if it is given one. -/
def numbered (session : GroupStore) (group : Group) (row : Row) : Row :=
  match tableOf group row.rowType with
  | .error _ => row
  | .ok table =>
      match (session.numberRow group table row).1 with
      | .error _ => row
      | .ok written => written

/-- Make a call, and tell what it did to a row.  A failed call did nothing. -/
def perform (session : GroupStore) : StoreCall -> Option RowChange × GroupStore
  | .writeRow group row =>
      match session.writeRow group row with
      | (.ok hkey, after) => (some ⟨group, hkey, some (session.numbered group row)⟩, after)
      | (.error _, after) => (none, after)
  | .writeAt group hkey row =>
      match writeAt session.store group hkey row with
      | .ok store => (some ⟨group, hkey, some row⟩, { session with store := store })
      | .error _ => (none, session)
  | .deleteRow group hkey =>
      match deleteRow session.store group hkey with
      | .ok (_, store) => (some ⟨group, hkey, none⟩, { session with store := store })
      | .error _ => (none, session)
  | .writeIndexRow group index spatial row =>
      match writeIndexRow session.store group index spatial row with
      | .ok (_, store) => (none, { session with store := store })
      | .error _ => (none, session)

/-- What a call can do to the key-value store, with the change of a row that
it amounts to. -/
inductive Effect (before : Store) : Option RowChange -> Store -> Prop
  | unchanged : Effect before none before
  | indexed (rest : Bytes) :
      Effect before none (before.insert (KeyLayout.indexSubspace :: rest) [])
  | written
      {group : Group}
      {hkey : HKey}
      {row : Row}
      {key value : Bytes}
      (named : hkey.table? ≠ none)
      (keyed : KeyLayout.rowKey group hkey = .ok key)
      (encoded : row.encode = .ok value) :
      Effect before (some ⟨group, hkey, some row⟩) (before.insert key value)
  | deleted
      {group : Group}
      {hkey : HKey}
      {key : Bytes}
      (keyed : KeyLayout.rowKey group hkey = .ok key) :
      Effect before (some ⟨group, hkey, none⟩) (before.erase key)

theorem put_eq_ok
    {store after : Store}
    {key value : Bytes}
    (put : store.put key value = .ok after) :
    after = store.insert key value := by
  unfold Store.put at put
  split at put
  · simp at put
  · split at put
    · simp at put
    · exact (Except.ok.inj put).symm

theorem writeAt_effect
    {store after : Store}
    {group : Group}
    {hkey : HKey}
    {row : Row}
    (wrote : writeAt store group hkey row = .ok after) :
    Effect store (some ⟨group, hkey, some row⟩) after := by
  obtain ⟨table, _, wrote⟩ := bind_eq_ok.mp wrote
  split at wrote
  · simp at wrote
  · next named =>
      rw [not_not] at named
      obtain ⟨key, keyed, wrote⟩ := bind_eq_ok.mp wrote
      obtain ⟨value, encoded, put⟩ := bind_eq_ok.mp wrote
      obtain rfl := put_eq_ok put
      exact .written (by simp [named]) keyed encoded

theorem deleteRow_effect
    {store after : Store}
    {group : Group}
    {hkey : HKey}
    {found : Bool}
    (deleted : deleteRow store group hkey = .ok (found, after)) :
    Effect store (some ⟨group, hkey, none⟩) after := by
  obtain ⟨key, keyed, pair⟩ := bind_eq_ok.mp deleted
  obtain ⟨_, rfl⟩ := Prod.mk.inj (pure_eq_ok.mp pair)
  exact .deleted keyed

/-- The key of a row: the one it is known by, or the one that its values give. -/
def hkeyOf (group : Group) (row : Row) : Except Error HKey :=
  match row.hkey with
  | some hkey => .ok hkey
  | none => do
      let table ← tableOf group row.rowType
      HKey.ofValues table row.values

/-- What a successful write of an index entry writes, and at which key. -/
structure WritesEntry
    (store : Store)
    (group : Group)
    (index : Index)
    (spatial : Option SpatialIndex)
    (row : Row)
    (key : Bytes)
    (after : Store) : Prop where
  onTable : ∃ table, tableOf group row.rowType = .ok table ∧ index.table = table.id
  parts : ∃ fields hkey place,
    KeyLayout.indexFields index spatial row = .ok fields ∧ hkeyOf group row = .ok hkey ∧
      hkey.encode = .ok place ∧ key = KeyLayout.indexStart index.id ++ fields ++ place
  put : after = store.insert key []

theorem writesEntry_of_ok
    {store after : Store}
    {group : Group}
    {index : Index}
    {spatial : Option SpatialIndex}
    {row : Row}
    {key : Bytes}
    (wrote : writeIndexRow store group index spatial row = .ok (key, after)) :
    WritesEntry store group index spatial row key after := by
  obtain ⟨_, keyed, wrote⟩ := bind_eq_ok.mp wrote
  obtain ⟨_, put, pair⟩ := bind_eq_ok.mp wrote
  obtain ⟨rfl, rfl⟩ := Prod.mk.inj (pure_eq_ok.mp pair)
  obtain ⟨table, found, keyed⟩ := bind_eq_ok.mp keyed
  split at keyed
  · simp at keyed
  · next onTable =>
      obtain ⟨fields, given, keyed⟩ := bind_eq_ok.mp keyed
      refine ⟨⟨table, found, not_not.mp onTable⟩, ?_, put_eq_ok put⟩
      obtain ⟨hkey, known, keyed⟩ : ∃ hkey, hkeyOf group row = .ok hkey ∧ (do
          return KeyLayout.indexStart index.id ++ fields ++ (← hkey.encode)) = Except.ok _ := by
        unfold hkeyOf
        cases attached : row.hkey with
        | some hkey => exact ⟨hkey, rfl, by rwa [attached] at keyed⟩
        | none =>
            rw [attached] at keyed
            obtain ⟨hkey, derived, keyed⟩ := bind_eq_ok.mp keyed
            exact ⟨hkey, bind_eq_ok.mpr ⟨table, found, derived⟩, keyed⟩
      obtain ⟨place, encoded, whole⟩ := bind_eq_ok.mp keyed
      exact ⟨fields, hkey, place, given, known, encoded, (pure_eq_ok.mp whole).symm⟩

theorem writeIndexRow_effect
    {store after : Store}
    {group : Group}
    {index : Index}
    {spatial : Option SpatialIndex}
    {row : Row}
    {key : Bytes}
    (wrote : writeIndexRow store group index spatial row = .ok (key, after)) :
    Effect store none after := by
  obtain ⟨_, ⟨fields, hkey, place, _, _, _, rfl⟩, rfl⟩ := writesEntry_of_ok wrote
  exact .indexed _

/-! ## Numbered rows -/

theorem store_nextRowNumber
    (session : GroupStore)
    (group : Group)
    (table : TableId) :
    (session.nextRowNumber group table).2.store = session.store := by
  unfold nextRowNumber
  split
  · rfl
  · split <;> rfl

theorem store_numberRow
    (session : GroupStore)
    (group : Group)
    (table : Table)
    (row : Row) :
    (session.numberRow group table row).2.store = session.store := by
  have kept := session.store_nextRowNumber group table.id
  unfold numberRow
  split
  · rfl
  · split
    · split
      · next step => simpa [step] using kept
      · next step => simpa [step] using kept
    · rfl

/-- What writing a row can come to. -/
inductive WritesRow (session : GroupStore) (group : Group) (row : Row) :
    Except Error HKey × GroupStore -> Prop
  /-- The row is refused, and the store is left alone. -/
  | refused
      {error : Error}
      {after : GroupStore}
      (kept : after.store = session.store) :
      WritesRow session group row (.error error, after)
  /-- The row is written at the key that its values give, once it has its number. -/
  | written
      {table : Table}
      {written : Row}
      {hkey : HKey}
      {after : GroupStore}
      (found : tableOf group row.rowType = .ok table)
      (numbering : (session.numberRow group table row).1 = .ok written)
      (derived : HKey.ofValues table written.values = .ok hkey)
      (stored : writeAt session.store group hkey written = .ok after.store) :
      WritesRow session group row (.ok hkey, after)

theorem writesRow
    (session : GroupStore)
    (group : Group)
    (row : Row) :
    WritesRow session group row (session.writeRow group row) := by
  unfold writeRow
  split
  · exact .refused rfl
  · next table found =>
      have kept := session.store_numberRow group table row
      split
      · next error counted numbering =>
          rw [numbering] at kept
          exact .refused kept
      · next written counted numbering =>
          rw [numbering] at kept
          dsimp only
          split
          · exact .refused kept
          · next hkey store wrote =>
              obtain ⟨place, derived, wrote⟩ := bind_eq_ok.mp wrote
              obtain ⟨reached, stored, pair⟩ := bind_eq_ok.mp wrote
              obtain ⟨rfl, rfl⟩ := Prod.mk.inj (pure_eq_ok.mp pair)
              exact .written found (by rw [numbering]) derived (kept ▸ stored)

/-- A row is written at the key that its values give, or the store is left alone. -/
theorem writeRow_cases
    (session : GroupStore)
    (group : Group)
    (row : Row) :
    (session.perform (.writeRow group row)).1 = none ∧
        (session.perform (.writeRow group row)).2.store = session.store ∨
      ∃ hkey, (session.perform (.writeRow group row)).1 =
          some ⟨group, hkey, some (session.numbered group row)⟩ ∧
        writeAt session.store group hkey (session.numbered group row) =
          .ok (session.perform (.writeRow group row)).2.store := by
  have writes := session.writesRow group row
  rw [perform]
  generalize session.writeRow group row = result at writes
  cases writes with
  | refused kept => exact .inl ⟨rfl, kept⟩
  | @written table written hkey after found numbering derived stored =>
      have same : session.numbered group row = written := by
        simp only [numbered, found, numbering]
      rw [same]
      exact .inr ⟨hkey, rfl, stored⟩

theorem writeRow_effect
    (session : GroupStore)
    (group : Group)
    (row : Row) :
    Effect session.store (session.perform (.writeRow group row)).1
      (session.perform (.writeRow group row)).2.store := by
  rcases session.writeRow_cases group row with ⟨nothing, kept⟩ | ⟨hkey, change, wrote⟩
  · rw [nothing, kept]
    exact .unchanged
  · rw [change]
    exact writeAt_effect wrote

/-- Every call has one of the effects. -/
theorem effect_perform
    (session : GroupStore)
    (call : StoreCall) :
    Effect session.store (session.perform call).1 (session.perform call).2.store := by
  cases call with
  | writeRow group row => exact session.writeRow_effect group row
  | writeAt group hkey row =>
      cases wrote : writeAt session.store group hkey row with
      | error error =>
          simp only [perform, wrote]
          exact .unchanged
      | ok store =>
          simp only [perform, wrote]
          exact writeAt_effect wrote
  | deleteRow group hkey =>
      cases deleted : deleteRow session.store group hkey with
      | error error =>
          simp only [perform, deleted]
          exact .unchanged
      | ok result =>
          obtain ⟨found, store⟩ := result
          simp only [perform, deleted]
          exact deleteRow_effect deleted
  | writeIndexRow group index spatial row =>
      cases wrote : writeIndexRow session.store group index spatial row with
      | error error =>
          simp only [perform, wrote]
          exact .unchanged
      | ok result =>
          obtain ⟨key, store⟩ := result
          simp only [perform, wrote]
          exact writeIndexRow_effect wrote

/-! ## Runs -/

/-- The session after calls. -/
def after (session : GroupStore) (calls : List StoreCall) : GroupStore :=
  calls.foldl (fun reached call => (reached.perform call).2) session

/-- Make calls one after the other on a new session over an empty store, and
tell what they did to rows, the latest first. -/
def run (calls : List StoreCall) : List RowChange × GroupStore :=
  calls.foldl
    (fun state call =>
      let (change, after) := state.2.perform call
      (change.toList ++ state.1, after))
    ([], ofStore Store.empty)

theorem run_concat
    (calls : List StoreCall)
    (call : StoreCall) :
    run (calls ++ [call]) =
      (((run calls).2.perform call).1.toList ++ (run calls).1, ((run calls).2.perform call).2) := by
  simp [run]

end GroupStore
end Keyspace
