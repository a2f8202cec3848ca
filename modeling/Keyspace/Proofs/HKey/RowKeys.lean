import Keyspace.Proofs.Cursor.Subtree
import Keyspace.Proofs.HKey.Rereading
import Keyspace.Proofs.Schema.BuiltTree
import Keyspace.Schema.Storability
import Keyspace.Store.GroupStore

/-!
# Keys of rows that fit their columns

The key of a row takes the values for its ancestors' keys from the row's own
columns, and reading it takes the types from the ancestors' key columns.  So the
keys of all fitting rows are read back exactly if no joined column holds what
the key column of the ancestor does not hold.
-/

namespace Keyspace

/-- Whether one type stores all values that another stores. -/
def DataType.Includes (wide narrow : DataType) : Prop :=
  ∀ value, narrow.admits value = true -> wide.admits value = true

namespace Group

/-- Whether the columns that give a key of an ancestor hold only what the key
columns of the ancestor hold. -/
def JoinsTypes (group : Group) (table : Table) (key : KeyColumns) : Prop :=
  ∀ owner, group.table? key.table = some owner ->
    ∀ pair ∈ owner.primaryKey.zip key.positions, ∀ above below,
      owner.columns[pair.1]? = some above -> table.columns[pair.2]? = some below ->
        above.dataType.Includes below.dataType

/-- Whether the key of a row is encoded, and read back up to the zeros at the end
of decimals. -/
def ReadsKeyOf (group : Group) (table : Table) (values : List Value) : Prop :=
  ∃ hkey bytes back, HKey.ofValues table values = .ok hkey ∧ hkey.encode = .ok bytes ∧
    HKey.decode group bytes = .ok back ∧ back.Alike hkey

/-- Whether a row is stored in an entry and read back from it, up to the zeros at
the end of decimals. -/
def ReadsRowOf (group : Group) (table : Table) (values : List Value) : Prop :=
  ∃ hkey entry row, HKey.ofValues table values = .ok hkey ∧
    KeyLayout.rowKey group hkey = .ok entry.key ∧
    (Row.ofValues table.rowType values).encode = .ok entry.value ∧
    group.rowOfEntry entry = .ok row ∧ row.rowType = table.rowType ∧
    List.Forall₂ Value.Alike row.values values ∧
    ∃ back, row.hkey = some back ∧ back.Alike hkey

end Group

/-- Every fitting row has bytes that store it. -/
theorem Row.exists_encode
    {rowType : RowType}
    {values : List Value}
    (takes : rowType.Takes values) :
    ∃ bytes, (ofValues rowType values).encode = .ok bytes := by
  have step : ∀ value ∈ values, ∃ part, value.packed = .ok part := by
    intro value present
    obtain ⟨_, _, admits⟩ := exists_input_of_mem takes value present
    exact Value.exists_packed admits
  obtain ⟨parts, packed⟩ := exists_forall₂ step
  exact ⟨parts.flatten, encode_of_packed takes.length_eq.symm (mapM_eq_ok.mpr packed)⟩

namespace HKey

/-! ## Key values of rows -/

theorem exists_value_of_zip
    {values key : List Value}
    {positions primaryKey : List Nat}
    (taken : List.Forall₂ (fun position value => values[position]? = some value) positions key) :
    ∀ pair ∈ primaryKey.zip key, ∃ position, (pair.1, position) ∈ primaryKey.zip positions ∧
      values[position]? = some pair.2 := by
  induction taken generalizing primaryKey with
  | nil => simp
  | @cons position value positions key first _ inductionHypothesis =>
      obtain _ | ⟨own, primaryKey⟩ := primaryKey
      · simp
      · intro pair paired
        rcases List.mem_cons.mp paired with rfl | further
        · exact ⟨position, by simp, first⟩
        · obtain ⟨other, member, here⟩ := inductionHypothesis pair further
          exact ⟨other, List.mem_cons_of_mem _ member, here⟩

theorem mem_zip_of_position
    {values key : List Value}
    {positions primaryKey : List Nat}
    {own position : Nat}
    {value : Value}
    (taken : List.Forall₂ (fun position value => values[position]? = some value) positions key)
    (paired : (own, position) ∈ primaryKey.zip positions)
    (here : values[position]? = some value) :
    (own, value) ∈ primaryKey.zip key := by
  induction taken generalizing primaryKey with
  | nil => simp at paired
  | cons first _ inductionHypothesis =>
      obtain _ | ⟨next, primaryKey⟩ := primaryKey
      · simp at paired
      · rcases List.mem_cons.mp paired with same | further
        · obtain ⟨rfl, rfl⟩ := Prod.mk.inj same
          obtain rfl := Option.some.inj (first.symm.trans here)
          simp
        · exact List.mem_cons_of_mem _ (inductionHypothesis further)

/-- What a segment of a path is, but for its place in the path. -/
def FitsTable (group : Group) (segment : Segment) : Prop :=
  ∃ table, group.table? segment.table = some table ∧
    segment.values.length = table.primaryKey.length ∧
    ∀ pair ∈ table.primaryKey.zip segment.values, ∃ column,
      table.columns[pair.1]? = some column ∧ column.dataType.admits pair.2 = true

theorem fitsTable_of_mem
    {group : Group}
    {above : Option TableId}
    {segments : List Segment}
    (follows : FollowsJoins group above segments) :
    ∀ segment ∈ segments, FitsTable group segment := by
  induction segments generalizing above with
  | nil => simp
  | cons first segments inductionHypothesis =>
      obtain ⟨⟨table, found, _, _, full, fits⟩, others⟩ := follows
      intro segment present
      rcases List.mem_cons.mp present with rfl | further
      · exact ⟨table, found, full, fits⟩
      · exact inductionHypothesis others segment further

theorem followsJoins_concat
    {group : Group}
    {above : Option TableId}
    {segments : List Segment}
    {last : Segment}
    {table : Table}
    (follows : FollowsJoins group above segments)
    (found : group.table? last.table = some table)
    (named : table.id = last.table)
    (hangs : table.parent = segments.foldl (fun _ segment => some segment.table) above)
    (fits : FitsTable group last) :
    FollowsJoins group above (segments ++ [last]) := by
  induction segments generalizing above with
  | nil =>
      obtain ⟨owner, isOwner, full, admits⟩ := fits
      obtain rfl := Option.some.inj (found.symm.trans isOwner)
      exact ⟨⟨table, found, named, hangs, full, admits⟩, trivial⟩
  | cons first segments inductionHypothesis =>
      exact ⟨follows.1, inductionHypothesis follows.2 hangs⟩

/-- Fitting segments for the tables on the way from the root are a path. -/
theorem followsJoins_of_path
    {group : Group}
    {table : Table}
    {segments : List Segment}
    (tree : group.IsTree)
    (present : table ∈ group.tables)
    (path : segments.map (·.table) = (group.ancestors table.id).reverse ++ [table.id])
    (fits : ∀ segment ∈ segments, FitsTable group segment) :
    FollowsJoins group none segments := by
  revert segments
  refine tree.induction (motive := fun table => ∀ {segments : List Segment},
    segments.map (·.table) = (group.ancestors table.id).reverse ++ [table.id] ->
      (∀ segment ∈ segments, FitsTable group segment) -> FollowsJoins group none segments)
    ?_ ?_ table present
  all_goals
    intro table present
  · intro isTop segments path fits
    rw [tree.ancestors_eq, tree.parent?_of_mem present, isTop] at path
    obtain ⟨segment, rfl, own⟩ := List.map_eq_singleton_iff.mp path
    have found := own ▸ tree.numbered.table?_of_mem present
    have start : FollowsJoins group none [] := trivial
    exact followsJoins_concat start found own.symm isTop (fits segment (by simp))
  · intro parent member hangs inductionHypothesis segments path fits
    rw [tree.ancestors_eq, tree.parent?_of_mem present, hangs, List.reverse_cons] at path
    obtain ⟨init, last, rfl, initPath, lastPath⟩ := List.map_eq_append_iff.mp path
    obtain ⟨segment, rfl, own⟩ := List.map_eq_singleton_iff.mp lastPath
    have found := own ▸ tree.numbered.table?_of_mem present
    have follows := inductionHypothesis initPath fun other inside => fits other (by simp [inside])
    refine followsJoins_concat follows found own.symm ?_ (fits segment (by simp))
    rw [hangs, ← List.foldl_map (g := fun _ id => some id), initPath, List.foldl_append]
    rfl

/-! ## Rows that fit -/

section Rows

variable
  {group : Group}
  {table : Table}
  {values : List Value}
  (tree : group.IsTree)
  (present : table ∈ group.tables)

include tree present

/-- Every fitting row has a key. -/
theorem exists_ofValues
    (takes : table.rowType.Takes values) :
    ∃ hkey, ofValues table values = .ok hkey := by
  have step : ∀ key ∈ table.keyLayout, ∃ segment, KeyColumns.Gives values key segment := by
    intro key inLayout
    obtain ⟨_, _, _, inside⟩ := (tree.keyLayout_spec present).2 key inLayout
    obtain ⟨given, taken⟩ := exists_values_of_lt fun position among =>
      takes.length_eq ▸ inside position among
    exact ⟨⟨key.table, given⟩, rfl, taken⟩
  obtain ⟨segments, taken⟩ := exists_forall₂ step
  exact ⟨⟨segments⟩, ofValues_eq_ok.mpr taken⟩

/-- The key of a fitting row is a path, if the joined columns include no other
values than the key columns of the ancestors. -/
theorem rooted_of_joinsTypes
    {hkey : HKey}
    (joins : ∀ key ∈ table.keyLayout, group.JoinsTypes table key)
    (takes : table.rowType.Takes values)
    (taken : ofValues table values = .ok hkey) :
    hkey.Rooted group := by
  obtain ⟨path, keys⟩ := tree.keyLayout_spec present
  have gives := ofValues_eq_ok.mp taken
  refine followsJoins_of_path tree present ?_ ?_
  · rw [← path]
    exact (map_eq_map_of_forall₂ (fun _ _ given => given.1.symm) gives).symm
  · intro segment member
    obtain ⟨key, inLayout, sameTable, own⟩ := exists_input_of_mem gives segment member
    obtain ⟨owner, found, full, inside⟩ := keys key inLayout
    have ownerPresent := (tree.numbered.table?_eq_some.mp found).1
    refine ⟨owner, sameTable ▸ found, own.length_eq ▸ full, ?_⟩
    intro pair paired
    obtain ⟨position, joined, here⟩ := exists_value_of_zip own pair paired
    have keyed := (tree.sound owner ownerPresent).key_lt pair.1 (List.of_mem_zip paired).1
    obtain ⟨column, columnHere, admits⟩ := exists_getElem?_of_forall₂ takes.flip here
    exact ⟨_, List.getElem?_eq_getElem keyed, joins key inLayout owner found _ joined _ _
      (List.getElem?_eq_getElem keyed) columnHere pair.2 admits⟩

theorem table?_ofValues
    {hkey : HKey}
    (taken : ofValues table values = .ok hkey) :
    hkey.table?.bind group.table? = some table := by
  have tables : hkey.segments.map (·.table) = table.keyLayout.map (·.table) :=
    (map_eq_map_of_forall₂ (fun _ _ given => given.1.symm) (ofValues_eq_ok.mp taken)).symm
  rw [table?, ← List.getLast?_map, tables, (tree.keyLayout_spec present).1,
    List.getLast?_concat, Option.bind_some, tree.numbered.table?_of_mem present]

/-- A fitting row is stored, and read back from its entry. -/
theorem readsRowOf_of_joinsTypes
    (joins : ∀ key ∈ table.keyLayout, group.JoinsTypes table key)
    (takes : table.rowType.Takes values) :
    group.ReadsRowOf table values := by
  obtain ⟨hkey, taken⟩ := exists_ofValues tree present takes
  have rooted := rooted_of_joinsTypes tree present joins takes taken
  obtain ⟨bytes, encoded⟩ := exists_encode rooted
  obtain ⟨stored, rowEncoded⟩ := Row.exists_encode takes
  obtain ⟨read, decoded, same⟩ := Row.exists_decode takes rowEncoded
  let entry : Entry := ⟨KeyLayout.groupStart group.id ++ bytes, stored⟩
  have keyed : KeyLayout.rowKey group hkey = .ok entry.key :=
    KeyLayout.rowKey_eq_ok.mpr ⟨bytes, encoded, rfl⟩
  obtain ⟨back, alike, held, _⟩ :=
    Group.exists_holds rooted keyed (table?_ofValues tree present taken) decoded
  exact ⟨hkey, entry, _, taken, keyed, rowEncoded, held, rfl, same, back, rfl, alike⟩

omit present in
/-- If the key of a row is read back, the columns of the ancestors' keys hold the
values that the row gives for them. -/
theorem admits_of_readsKeyOf
    (reads : group.ReadsKeyOf table values)
    {key : KeyColumns}
    {owner : Table}
    {own position : Nat}
    {column : Column}
    {value : Value}
    (inLayout : key ∈ table.keyLayout)
    (found : group.table? key.table = some owner)
    (joined : (own, position) ∈ owner.primaryKey.zip key.positions)
    (columnHere : owner.columns[own]? = some column)
    (here : values[position]? = some value) :
    column.dataType.admits value = true := by
  obtain ⟨hkey, bytes, back, taken, _, read, alike⟩ := reads
  have rooted := alike.symm.rooted (rooted_of_decode tree.numbered read)
  obtain ⟨index, inside, rfl⟩ := List.getElem_of_mem inLayout
  obtain ⟨segment, segmentHere, sameTable, given⟩ :=
    exists_getElem?_of_forall₂ (ofValues_eq_ok.mp taken) (List.getElem?_eq_getElem inside)
  obtain ⟨other, isOther, _, fits⟩ := fitsTable_of_mem rooted segment
    (List.mem_of_getElem? segmentHere)
  rw [sameTable, found] at isOther
  obtain rfl := Option.some.inj isOther
  obtain ⟨same, sameHere, admits⟩ := fits (own, value) (mem_zip_of_position given joined here)
  obtain rfl := Option.some.inj (columnHere.symm.trans sameHere)
  exact admits

end Rows

open Row (takes_lone getElem?_lone)

/-- In every group that can be built, the keys of all rows that fit the columns of
their tables are read back exactly if no joined column holds what the key column
of the ancestor does not hold. -/
theorem readsKeyOf_iff
    {declaration : GroupDeclaration}
    {group : Group}
    (built : declaration.build = .ok group) :
    ((∀ table ∈ group.tables, ∀ values, table.rowType.Takes values ->
        group.ReadsKeyOf table values) ↔
      ∀ table ∈ group.tables, ∀ key ∈ table.keyLayout, group.JoinsTypes table key) ∧
    ((∀ table ∈ group.tables, ∀ key ∈ table.keyLayout, group.JoinsTypes table key) ->
      ∀ table ∈ group.tables, ∀ values, table.rowType.Takes values ->
        group.ReadsRowOf table values) := by
  obtain ⟨_, _, _, along⟩ := GroupDeclaration.build_eq_ok built
  have tree := along.isTree built
  refine ⟨⟨?_, ?_⟩, fun joins table present values takes =>
    readsRowOf_of_joinsTypes tree present (joins table present) takes⟩
  · intro reads table present key inLayout owner found pair joined above below aboveHere belowHere
      value admits
    exact admits_of_readsKeyOf tree (reads table present _ (takes_lone belowHere admits)) inLayout
      found joined aboveHere (getElem?_lone belowHere value)
  · intro joins table present values takes
    obtain ⟨hkey, taken⟩ := exists_ofValues tree present takes
    have rooted := rooted_of_joinsTypes tree present (joins table present) takes taken
    obtain ⟨bytes, encoded⟩ := exists_encode rooted
    obtain ⟨back, read, alike⟩ := exists_decode rooted encoded
    exact ⟨hkey, bytes, back, taken, encoded, read, alike⟩

end HKey

namespace Lending

theorem dataType_eq : ∀ table ∈ group.tables, ∀ column ∈ table.columns,
    column.dataType = .bigInt := by
  decide

theorem joinsTypes : ∀ table ∈ group.tables, ∀ key ∈ table.keyLayout,
    group.JoinsTypes table key := by
  intro table present key _ owner found pair _ above below aboveHere belowHere value admits
  rw [dataType_eq table present below (List.mem_of_getElem? belowHere)] at admits
  rwa [dataType_eq owner (Group.mem_of_table? found) above (List.mem_of_getElem? aboveHere)]

end Lending

namespace HKey

/-- Fines are read back by the keys of their loans: all numbers of the lending
library have one type. -/
theorem readsKeyOf_iff_lending :
    Lending.declaration.build = .ok Lending.group ∧
      Lending.group.ReadsKeyOf Lending.fines [.bigInt 3, .bigInt 7, .bigInt 1] ∧
      Lending.group.ReadsRowOf Lending.fines [.bigInt 3, .bigInt 7, .bigInt 1] := by
  have takes : Lending.fines.rowType.Takes [.bigInt 3, .bigInt 7, .bigInt 1] :=
    .cons rfl (.cons rfl (.cons rfl .nil))
  have present : Lending.fines ∈ Lending.group.tables := by decide
  obtain ⟨keys, rows⟩ := readsKeyOf_iff Lending.build_declaration
  exact ⟨Lending.build_declaration, keys.mpr Lending.joinsTypes Lending.fines present _ takes,
    rows Lending.joinsTypes Lending.fines present _ takes⟩

end HKey

/-! ## An outlet -/

namespace Outlet

/-- The buyer of an order, by a text. -/
def buyer : Column := ⟨"buyer", .text, true, none, false⟩

/-- Customers by number, and their orders, which name the customer by a text. -/
def declaration : GroupDeclaration where
  id := 9
  name := "outlet"
  root := some ⟨⟨"s", "customers"⟩, [Shop.number "customer"], ["customer"]⟩
  children :=
    [⟨"customers", ⟨⟨"s", "orders"⟩, [Shop.number "order", buyer], ["order"]⟩,
      ⟨["buyer"], ["customer"]⟩⟩]

/-- The customers of the outlet. -/
def customers : Table :=
  ⟨⟨1⟩, ⟨"s", "customers"⟩, [Shop.number "customer"], [0], none, [⟨2⟩], 0, [⟨⟨1⟩, [0]⟩]⟩

/-- The orders of a customer. -/
def orders : Table :=
  ⟨⟨2⟩, ⟨"s", "orders"⟩, [Shop.number "order", buyer], [0], some ⟨⟨1⟩, [⟨1, 0⟩]⟩, [], 1,
    [⟨⟨1⟩, [1]⟩, ⟨⟨2⟩, [0]⟩]⟩

/-- The built outlet. -/
def group : Group := ⟨9, "outlet", [customers, orders]⟩

/-- An order of a buyer. -/
def order : Row := Row.ofValues orders.rowType [.bigInt 1, .string "a"]

/-- The key of the order. -/
def orderKey : HKey := ⟨[⟨⟨1⟩, [.string "a"]⟩, ⟨⟨2⟩, [.bigInt 1]⟩]⟩

/-- The outlet is built and can be stored, and the order fits its columns and is
written.  But its key is not read back, and every scan of the outlet fails. -/
theorem order_unread :
    declaration.build = .ok group ∧ group.validate = .ok () ∧ orders ∈ group.tables ∧
      orders.rowType.Takes order.values ∧ ¬ group.ReadsKeyOf orders order.values ∧
      ∃ written, (GroupStore.ofStore Store.empty).writeRow group order = (.ok orderKey, written) ∧
        ∀ batchSize, GroupCursor.fullScan batchSize group written.store =
          .error (.typeMismatch "customer" "BIGINT" "string") := by
  have encoded : orderKey.encode = .ok [21, 1, 2, 97, 0, 21, 2, 21, 1] := rfl
  have unread : HKey.decode group [21, 1, 2, 97, 0, 21, 2, 21, 1] =
      .error (.typeMismatch "customer" "BIGINT" "string") := rfl
  refine ⟨rfl, rfl, by decide, .cons rfl (.cons rfl .nil), ?_, _, rfl, ?_⟩
  · rintro ⟨hkey, bytes, back, taken, encodes, read, _⟩
    obtain rfl : orderKey = hkey := Except.ok.inj taken
    obtain rfl := Except.ok.inj (encoded.symm.trans encodes)
    rw [unread] at read
    simp at read
  · intro batchSize
    rw [GroupCursor.fullScan_eq]
    rfl

end Outlet
end Keyspace
