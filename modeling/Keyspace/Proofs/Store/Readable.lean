import Keyspace.Proofs.HKey.RowKeys
import Keyspace.Proofs.Store.RowNumbers

/-!
# Rows that can be read

Writing checks the table and the number of values of a row, and that a key ends
in the table; reading checks the path and the classes of all values.  A full
scan therefore goes through exactly if each row that stands has the bytes of a
fitting row at a path, and it does so after all calls that keep to what reading
checks.
-/

namespace Keyspace

open GroupStore (Effect)

/-! ## Rows of entries -/

/-- Whether the bytes of a row and of its key are those of a row that fits a table
at a path to this table. -/
def Group.Recognizes (group : Group) (hkey : HKey) (row : Row) : Prop :=
  ∃ (path : HKey) (table : Table) (values : List Value),
    path.Rooted group ∧ path.table?.bind group.table? = some table ∧
      table.rowType.Takes values ∧ path.encode = hkey.encode ∧
      (Row.ofValues table.rowType values).encode = row.encode

/-- An entry holds a row exactly if it was made of a key and a row that the group
recognizes. -/
theorem Group.exists_rowOfEntry_iff
    {group : Group}
    {hkey : HKey}
    {row : Row}
    {entry : Entry}
    (numbered : group.Numbered)
    (keyed : KeyLayout.rowKey group hkey = .ok entry.key)
    (encoded : row.encode = .ok entry.value) :
    (∃ read, group.rowOfEntry entry = .ok read) ↔ group.Recognizes hkey row := by
  obtain ⟨bytes, hkeyEncoded, split⟩ := KeyLayout.rowKey_eq_ok.mp keyed
  constructor
  · rintro ⟨read, held⟩
    simp only [rowOfEntry, split, Bytes.dropStart?_append] at held
    obtain ⟨path, decoded, held⟩ := bind_eq_ok.mp held
    cases named : path.table?.bind group.table? with
    | none => simp [named] at held
    | some table =>
        simp only [named] at held
        obtain ⟨other, rowDecoded, _⟩ := bind_eq_ok.mp held
        obtain ⟨takes, same⟩ := Row.takes_of_decode encoded rowDecoded
        exact ⟨path, table, other.values, HKey.rooted_of_decode numbered decoded, named, takes,
          (HKey.encode_of_decode numbered hkeyEncoded decoded).trans hkeyEncoded.symm,
          same.trans encoded.symm⟩
  · rintro ⟨path, table, values, rooted, named, takes, samePath, sameRow⟩
    obtain ⟨back, decoded, _⟩ := Row.exists_decode takes (sameRow.trans encoded)
    have pathKeyed := KeyLayout.rowKey_eq_ok.mpr ⟨bytes, samePath.trans hkeyEncoded, split⟩
    obtain ⟨_, _, held, _⟩ := Group.exists_holds rooted pathKeyed named decoded
    exact ⟨_, held⟩

/-! ## Latest changes at keys -/

theorem KeyLayout.rowKey_congr
    {left right : Group}
    {hkey : HKey}
    (sameId : left.id = right.id) :
    rowKey left hkey = rowKey right hkey := by
  rw [rowKey, rowKey, sameId]

namespace RowChange

/-- The change made last at a key, where the latest change comes first. -/
def latest? (changes : List RowChange) (key : Bytes) : Option RowChange :=
  changes.find? fun change => decide (KeyLayout.rowKey change.group change.hkey = .ok key)

/-- Whether no later change was made at the key of a change. -/
def IsLatest (changes : List RowChange) (change : RowChange) : Prop :=
  ∃ key, KeyLayout.rowKey change.group change.hkey = .ok key ∧
    latest? changes key = some change

theorem latest?_cons
    {change : RowChange}
    {madeKey : Bytes}
    (made : KeyLayout.rowKey change.group change.hkey = .ok madeKey)
    (changes : List RowChange)
    (key : Bytes) :
    latest? (change :: changes) key =
      if madeKey = key then some change else latest? changes key := by
  simp only [latest?, List.find?_cons, made, Except.ok.injEq]
  by_cases same : madeKey = key <;> simp [same]

theorem rowKey_of_latest?
    {changes : List RowChange}
    {change : RowChange}
    {key : Bytes}
    (latest : latest? changes key = some change) :
    KeyLayout.rowKey change.group change.hkey = .ok key := by
  have holds := List.find?_some latest
  exact of_decide_eq_true holds

theorem IsLatest.mem
    {changes : List RowChange}
    {change : RowChange}
    (isLatest : IsLatest changes change) :
    change ∈ changes := by
  obtain ⟨_, _, latest⟩ := isLatest
  exact List.mem_of_find?_eq_some latest

end RowChange

namespace Store

/-- Whether each key of a row has what the latest change there left. -/
def KeepsLatest (store : Store) (changes : List RowChange) : Prop :=
  ∀ key, key.head? = some KeyLayout.groupSubspace ->
    Row.IsStoredAs ((RowChange.latest? changes key).bind (·.row)) (store.get? key)

variable {changes : List RowChange} {before after store : Store}

theorem KeepsLatest.change
    {made : RowChange}
    {madeKey : Bytes}
    {found : Option Bytes}
    (keeps : before.KeepsLatest changes)
    (madeKeyed : KeyLayout.rowKey made.group made.hkey = .ok madeKey)
    (stands : Row.IsStoredAs made.row found)
    (get?_after : ∀ key, after.get? key = if madeKey = key then found else before.get? key) :
    after.KeepsLatest (made :: changes) := by
  intro key isRow
  rw [RowChange.latest?_cons madeKeyed, get?_after]
  split
  · exact stands
  · exact keeps key isRow

theorem KeepsLatest.step
    {change : Option RowChange}
    (keeps : before.KeepsLatest changes)
    (effect : Effect before change after) :
    after.KeepsLatest (change.toList ++ changes) := by
  cases effect with
  | unchanged => exact keeps
  | indexed rest =>
      intro key isRow
      rw [get?_insert, if_neg]
      · exact keeps key isRow
      · rintro rfl
        exact absurd (Option.some.inj isRow) (by decide)
  | @written _ _ _ key value named keyed encoded =>
      exact keeps.change keyed ⟨value, encoded, rfl⟩ (before.get?_insert key value)
  | @deleted _ _ key keyed => exact keeps.change keyed rfl (before.get?_erase key)

/-- The store keeps the latest changes of every run. -/
theorem keepsLatest_run
    (calls : List StoreCall) :
    (GroupStore.run calls).2.store.KeepsLatest (GroupStore.run calls).1 := by
  induction calls using List.reverseRecOn with
  | nil => exact fun key _ => get?_empty key
  | append_singleton calls call inductionHypothesis =>
      rw [GroupStore.run_concat]
      exact inductionHypothesis.step (GroupStore.effect_perform _ call)

theorem KeepsLatest.exists_value
    {change : RowChange}
    {row : Row}
    {key : Bytes}
    (keeps : store.KeepsLatest changes)
    (latest : RowChange.latest? changes key = some change)
    (wrote : change.row = some row) :
    ∃ value, row.encode = .ok value ∧ store.get? key = some value := by
  have stands := keeps key (KeyLayout.head?_rowKey (RowChange.rowKey_of_latest? latest))
  rwa [latest, Option.bind_some, wrote] at stands

theorem KeepsLatest.exists_change
    {key value : Bytes}
    (keeps : store.KeepsLatest changes)
    (isRow : key.head? = some KeyLayout.groupSubspace)
    (found : store.get? key = some value) :
    ∃ change row, RowChange.latest? changes key = some change ∧ change.row = some row ∧
      row.encode = .ok value := by
  have stands := keeps key isRow
  rw [found] at stands
  cases latest : RowChange.latest? changes key with
  | none => simp [latest, Row.IsStoredAs] at stands
  | some change =>
      rw [latest, Option.bind_some] at stands
      cases wrote : change.row with
      | none => simp [wrote, Row.IsStoredAs] at stands
      | some row =>
          rw [wrote] at stands
          obtain ⟨_, encoded, same⟩ := stands
          obtain rfl := Option.some.inj same
          exact ⟨change, row, rfl, wrote, encoded⟩

/-- A full scan goes through exactly if the group recognizes all rows that
stand. -/
theorem KeepsLatest.exists_fullScan_iff
    {group : Group}
    (numbered : group.Numbered)
    (keeps : store.KeepsLatest changes) :
    (∃ rows, ∀ batchSize, GroupCursor.fullScan batchSize group store = .ok rows) ↔
      ∀ change row, RowChange.IsLatest changes change -> change.group.id = group.id ->
        change.row = some row -> group.Recognizes change.hkey row := by
  simp only [GroupCursor.fullScan_eq, forall_const]
  constructor
  · rintro ⟨rows, read⟩ change row ⟨key, keyed, latest⟩ sameId wrote
    obtain ⟨value, encoded, found⟩ := keeps.exists_value latest wrote
    rw [KeyLayout.rowKey_congr sameId] at keyed
    have member : Entry.mk key value ∈ store.startingWith (KeyLayout.groupStart group.id) :=
      List.mem_filter.mpr
        ⟨mem_entries.mpr found, decide_eq_true (KeyLayout.groupStart_prefix keyed)⟩
    obtain ⟨_, _, held⟩ := exists_input_of_mem (mapM_eq_ok.mp read).flip _ member
    exact (Group.exists_rowOfEntry_iff numbered keyed encoded).mp ⟨_, held⟩
  · intro recognizes
    have step : ∀ entry ∈ store.startingWith (KeyLayout.groupStart group.id),
        ∃ row, group.rowOfEntry entry = .ok row := by
      intro entry member
      obtain ⟨stored, starts⟩ := List.mem_filter.mp member
      obtain ⟨rest, split⟩ := of_decide_eq_true starts
      obtain ⟨change, row, latest, wrote, encoded⟩ :=
        keeps.exists_change (by rw [← split]; rfl) (mem_entries.mp stored)
      have keyed := RowChange.rowKey_of_latest? latest
      -- The key starts with the number of one group only, so the change was made there.
      obtain ⟨bytes, _, otherSplit⟩ := KeyLayout.rowKey_eq_ok.mp keyed
      obtain ⟨sameId, _⟩ := KeyLayout.groupStart_split (otherSplit.symm.trans split.symm)
      have recognized := recognizes change row ⟨entry.key, keyed, latest⟩ sameId wrote
      rw [KeyLayout.rowKey_congr sameId] at keyed
      exact (Group.exists_rowOfEntry_iff numbered keyed encoded).mpr recognized
    obtain ⟨rows, held⟩ := exists_forall₂ step
    exact ⟨rows, mapM_eq_ok.mpr held⟩

end Store

/-! ## Calls that write what can be read -/

/-- Whether all columns that are marked as added hold numbers. -/
def Group.AddsNumbers (group : Group) : Prop :=
  ∀ table ∈ group.tables, ∀ column ∈ table.columns,
    column.internal = true -> column.dataType = .bigInt

/-- Whether a row has one fitting value for each column of its table. -/
def Row.FitsIn (row : Row) (group : Group) : Prop :=
  ∀ table, GroupStore.tableOf group row.rowType = .ok table -> table.rowType.Takes row.values

/-- Whether a call, if it writes a row of a group, writes one that fits, at no
other given key than a path. -/
def StoreCall.Fits (group : Group) : StoreCall -> Prop
  | .writeRow other row => other.id = group.id -> other = group ∧ row.FitsIn group
  | .writeAt other hkey row =>
      other.id = group.id -> other = group ∧ hkey.Rooted group ∧ row.FitsIn group
  | _ => True

theorem Table.exists_internal
    {table : Table}
    {position : Nat}
    (hidden : table.hiddenKeyPosition? = some position) :
    ∃ column, table.columns[position]? = some column ∧ column.internal = true := by
  unfold hiddenKeyPosition? at hidden
  split at hidden
  · split at hidden
    · next column here =>
        split at hidden
        · next isInternal =>
            obtain rfl := Option.some.inj hidden
            exact ⟨column, here, isInternal⟩
        · simp at hidden
    · simp at hidden
  · simp at hidden

theorem Row.encode_ofValues
    {row : Row}
    {rowType : RowType}
    {bytes : Bytes}
    (takes : rowType.Takes row.values)
    (encoded : row.encode = .ok bytes) :
    (ofValues rowType row.values).encode = .ok bytes := by
  obtain ⟨tuple, formed, packed⟩ := bind_eq_ok.mp encoded
  exact bind_eq_ok.mpr ⟨tuple,
    toTuple_eq_ok.mpr ⟨takes.length_eq.symm, (toTuple_eq_ok.mp formed).2⟩, packed⟩

/-- A row that fits is recognized at a path to its table. -/
theorem Group.recognizes_of_takes
    {group : Group}
    {hkey : HKey}
    {table : Table}
    {row : Row}
    {bytes : Bytes}
    (rooted : hkey.Rooted group)
    (named : hkey.table?.bind group.table? = some table)
    (takes : table.rowType.Takes row.values)
    (encoded : row.encode = .ok bytes) :
    group.Recognizes hkey row :=
  ⟨hkey, table, row.values, rooted, named, takes, rfl,
    (Row.encode_ofValues takes encoded).trans encoded.symm⟩

namespace GroupStore

theorem Effect.exists_encode
    {before after : Store}
    {change : RowChange}
    {row : Row}
    (effect : Effect before (some change) after)
    (wrote : change.row = some row) :
    ∃ bytes, row.encode = .ok bytes := by
  cases effect with
  | written named keyed encoded =>
      obtain rfl := Option.some.inj wrote
      exact ⟨_, encoded⟩
  | deleted keyed => simp at wrote

theorem exists_table_of_writeAt
    {store after : Store}
    {group : Group}
    {hkey : HKey}
    {row : Row}
    (wrote : writeAt store group hkey row = .ok after) :
    ∃ table, tableOf group row.rowType = .ok table ∧ hkey.table? = some table.id := by
  obtain ⟨table, found, wrote⟩ := bind_eq_ok.mp wrote
  split at wrote
  · simp at wrote
  · next named => exact ⟨table, found, not_not.mp named⟩

/-- A row that fits still does with its number. -/
theorem takes_numberRow
    {session : GroupStore}
    {group : Group}
    {table : Table}
    {row written : Row}
    (addsNumbers : group.AddsNumbers)
    (present : table ∈ group.tables)
    (takes : table.rowType.Takes row.values)
    (numbered : (session.numberRow group table row).1 = .ok written) :
    table.rowType.Takes written.values := by
  unfold numberRow at numbered
  split at numbered
  · obtain rfl := Except.ok.inj numbered
    exact takes
  · next position hidden =>
      split at numbered
      · split at numbered
        · simp at numbered
        · next number _ _ =>
            simp only [Row.set] at numbered
            split at numbered
            · obtain rfl := Except.ok.inj numbered
              obtain ⟨column, here, isInternal⟩ := Table.exists_internal hidden
              have isNumber :=
                addsNumbers table present column (List.mem_of_getElem? here) isInternal
              refine forall₂_set takes fun other found => ?_
              obtain rfl := Option.some.inj (here.symm.trans found)
              rw [isNumber]
              rfl
            · simp at numbered
      · obtain rfl := Except.ok.inj numbered
        exact takes

section Built

variable
  {group : Group}
  (tree : group.IsTree)
  (joins : ∀ table ∈ group.tables, ∀ key ∈ table.keyLayout, group.JoinsTypes table key)
  (addsNumbers : group.AddsNumbers)

include tree joins addsNumbers

/-- What a fitting call writes is recognized. -/
theorem recognizes_perform
    {session : GroupStore}
    {call : StoreCall}
    {change : RowChange}
    {row : Row}
    (fits : call.Fits group)
    (changed : (session.perform call).1 = some change)
    (sameId : change.group.id = group.id)
    (wrote : change.row = some row) :
    group.Recognizes change.hkey row := by
  have effect := effect_perform session call
  rw [changed] at effect
  obtain ⟨bytes, encoded⟩ := effect.exists_encode wrote
  cases call with
  | writeRow other given =>
      -- The row may have got its number before it was written.
      cases found : tableOf other given.rowType with
      | error error => simp [perform, writeRow, found] at changed
      | ok table =>
          obtain ⟨written, hkey, numbered, taken, rfl⟩ := exists_written_of_perform found changed
          obtain ⟨rfl, fitsIn⟩ := fits sameId
          obtain rfl := Option.some.inj wrote
          have present := Group.mem_of_table? (table?_of_tableOf found)
          have takes := takes_numberRow addsNumbers present (fitsIn table found) numbered
          have rooted := HKey.rooted_of_joinsTypes tree present (joins table present) takes taken
          have named := HKey.table?_ofValues tree present taken
          exact Group.recognizes_of_takes rooted named takes encoded
  | writeAt other hkey given =>
      cases wroteAt : writeAt session.store other hkey given with
      | error error => simp [perform, wroteAt] at changed
      | ok store =>
          simp only [perform, wroteAt, Option.some.injEq] at changed
          subst changed
          obtain ⟨rfl, rooted, fitsIn⟩ := fits sameId
          obtain rfl := Option.some.inj wrote
          obtain ⟨table, found, ends⟩ := exists_table_of_writeAt wroteAt
          have present := Group.mem_of_table? (table?_of_tableOf found)
          have named : hkey.table?.bind other.table? = some table := by
            rw [ends, Option.bind_some, tree.numbered.table?_of_mem present]
          exact Group.recognizes_of_takes rooted named (fitsIn table found) encoded
  | deleteRow other hkey =>
      cases deleted : deleteRow session.store other hkey with
      | error error => simp [perform, deleted] at changed
      | ok result =>
          simp only [perform, deleted, Option.some.injEq] at changed
          subst changed
          simp at wrote
  | writeIndexRow other index spatial given =>
      cases wroteIndex : writeIndexRow session.store other index spatial given <;>
        simp [perform, wroteIndex] at changed

theorem recognizes_run
    {calls : List StoreCall}
    (fits : ∀ call ∈ calls, call.Fits group) :
    ∀ change ∈ (run calls).1, ∀ row, change.group.id = group.id -> change.row = some row ->
      group.Recognizes change.hkey row := by
  induction calls using List.reverseRecOn with
  | nil => simp [run]
  | append_singleton calls call inductionHypothesis =>
      rw [run_concat]
      intro change member row sameId wrote
      rcases List.mem_append.mp member with last | earlier
      · exact recognizes_perform tree joins addsNumbers (fits call (by simp))
          (Option.mem_toList.mp last) sameId wrote
      · exact inductionHypothesis (fun other among => fits other (by simp [among]))
          change earlier row sameId wrote

end Built

/-- After any run of calls on a built group whose joined columns agree, a full
scan goes through exactly if the group recognizes all rows that stand.  It does
so after all calls that write fitting rows at no other given keys than paths. -/
theorem exists_fullScan_run_iff
    {declaration : GroupDeclaration}
    {group : Group}
    (built : declaration.build = .ok group)
    (joins : ∀ table ∈ group.tables, ∀ key ∈ table.keyLayout, group.JoinsTypes table key)
    (calls : List StoreCall) :
    ((∃ rows, ∀ batchSize,
        GroupCursor.fullScan batchSize group (run calls).2.store = .ok rows) ↔
      ∀ change row, RowChange.IsLatest (run calls).1 change -> change.group.id = group.id ->
        change.row = some row -> group.Recognizes change.hkey row) ∧
    (group.AddsNumbers -> (∀ call ∈ calls, call.Fits group) ->
      ∃ rows, ∀ batchSize,
        GroupCursor.fullScan batchSize group (run calls).2.store = .ok rows) := by
  obtain ⟨_, _, _, along⟩ := GroupDeclaration.build_eq_ok built
  have tree := along.isTree built
  have scans := (Store.keepsLatest_run calls).exists_fullScan_iff tree.numbered
  refine ⟨scans, fun addsNumbers fits => scans.mpr ?_⟩
  intro change row isLatest sameId wrote
  exact recognizes_run tree joins addsNumbers fits change isLatest.mem row sameId wrote

end GroupStore

namespace Lending

/-- A reader, and a fine at a key that is given and not made of its values. -/
def calls : List StoreCall :=
  [.writeRow group (Row.ofValues readers.rowType [.bigInt 7]),
    .writeAt group ⟨[⟨⟨1⟩, [.bigInt 7]⟩, ⟨⟨3⟩, [.bigInt 3]⟩, ⟨⟨4⟩, [.bigInt 1]⟩]⟩
      (Row.ofValues fines.rowType [.bigInt 8, .null, .null])]

theorem fits_calls : ∀ call ∈ calls, call.Fits group := by
  intro call member
  rcases List.mem_cons.mp member with rfl | last
  · refine fun _ => ⟨rfl, fun table found => ?_⟩
    obtain rfl := Except.ok.inj found
    exact .cons rfl .nil
  · obtain rfl := List.mem_singleton.mp last
    refine fun _ => ⟨rfl, ?_, fun table found => ?_⟩
    · refine ⟨⟨readers, rfl, rfl, rfl, rfl, ?_⟩, ⟨loans, rfl, rfl, rfl, rfl, ?_⟩,
        ⟨fines, rfl, rfl, rfl, rfl, ?_⟩, trivial⟩
      all_goals
        rintro pair present
        obtain rfl := List.mem_singleton.mp present
        exact ⟨_, rfl, rfl⟩
    · obtain rfl := Except.ok.inj found
      exact .cons rfl (.cons rfl (.cons rfl .nil))

end Lending

namespace GroupStore

/-- The lending library is scanned after fitting calls. -/
theorem exists_fullScan_run_iff_lending :
    Lending.declaration.build = .ok Lending.group ∧
      (∀ table ∈ Lending.group.tables, ∀ key ∈ table.keyLayout,
        Lending.group.JoinsTypes table key) ∧
      Lending.group.AddsNumbers ∧ (∀ call ∈ Lending.calls, call.Fits Lending.group) ∧
      (run Lending.calls).1.length = 2 ∧
      ∃ rows, ∀ batchSize,
        GroupCursor.fullScan batchSize Lending.group (run Lending.calls).2.store = .ok rows := by
  have addsNumbers : Lending.group.AddsNumbers := by
    intro table present column among _
    exact Lending.dataType_eq table present column among
  exact ⟨Lending.build_declaration, Lending.joinsTypes, addsNumbers, Lending.fits_calls, rfl,
    (exists_fullScan_run_iff Lending.build_declaration Lending.joinsTypes Lending.calls).2
      addsNumbers Lending.fits_calls⟩

end GroupStore

/-! ## A register -/

namespace Register

/-- Customers by number. -/
def declaration : GroupDeclaration where
  id := 9
  name := "register"
  root := some ⟨⟨"s", "customers"⟩,
    [Shop.number "customer", ⟨"name", .text, true, none, false⟩], ["customer"]⟩
  children := []

/-- The customers. -/
def customers : Table :=
  ⟨⟨1⟩, ⟨"s", "customers"⟩, [Shop.number "customer", ⟨"name", .text, true, none, false⟩], [0],
    none, [], 0, [⟨⟨1⟩, [0]⟩]⟩

/-- The built register. -/
def group : Group := ⟨9, "register", [customers]⟩

/-- A customer. -/
def customer (name : Value) : Row := Row.ofValues customers.rowType [.bigInt 1, name]

/-- The register can be built and stored, and takes a truth value for a name as
well as for the number in a key.  Every scan fails afterwards. -/
theorem customer_unread :
    declaration.build = .ok group ∧ group.validate = .ok () ∧
      (∃ hkey written,
        (GroupStore.ofStore Store.empty).writeRow group (customer (.boolean true)) =
          (.ok hkey, written) ∧
        ∀ batchSize, GroupCursor.fullScan batchSize group written.store =
          .error (.typeMismatch "name" "TEXT" "boolean")) ∧
      ∃ written,
        GroupStore.writeAt Store.empty group ⟨[⟨⟨1⟩, [.boolean true]⟩]⟩ (customer .null) =
          .ok written ∧
        ∀ batchSize, GroupCursor.fullScan batchSize group written =
          .error (.typeMismatch "customer" "BIGINT" "boolean") := by
  refine ⟨rfl, rfl, ⟨_, _, rfl, ?_⟩, _, rfl, ?_⟩
  all_goals
    intro batchSize
    rw [GroupCursor.fullScan_eq]
    rfl

end Register
end Keyspace
