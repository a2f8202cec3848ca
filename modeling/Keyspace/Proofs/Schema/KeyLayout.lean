import Keyspace.Proofs.HKey.Encoding
import Keyspace.Schema.Declaration

/-!
# Key layouts of built groups

Building a group derives the key layout of every table from that of its parent:
each position is carried over to the column of the child that is joined to it.
So the key of a row continues the key of its parent's row, at every depth of
the tree.
-/

namespace Keyspace

/-! ## Positions -/

theorem Column.position?_lt
    {columns : List Column}
    {name : String}
    {position : Nat}
    (found : Column.position? columns name = some position) :
    position < columns.length :=
  (List.findIdx?_eq_some_iff_findIdx_eq.mp found).1

namespace Join

/-- Whether a join repeats the key columns of one table, as the parent gives
them, in columns of the child. -/
def Carries (join : Join) (above below : KeyColumns) : Prop :=
  above.table = below.table ∧
    List.Forall₂ (fun parent child => JoinColumn.mk child parent ∈ join.columns)
      above.positions below.positions

theorem mem_columns_of_childPosition?
    {join : Join}
    {parent child : Nat}
    (found : join.childPosition? parent = some child) :
    JoinColumn.mk child parent ∈ join.columns := by
  obtain ⟨pair, first, rfl⟩ := Option.map_eq_some_iff.mp found
  have same := List.find?_some (p := fun pair : JoinColumn => pair.parent == parent) first
  rw [← eq_of_beq same]
  exact List.mem_of_find?_eq_some first

end Join

/-! ## Derived tables -/

/-- How a table of a group comes by its key layout. -/
inductive Table.Derived (group : Group) (table : Table) : Prop
  /-- The root has only its own key. -/
  | root
      (isRoot : table.join = none)
      (layout : table.keyLayout = [⟨table.id, table.primaryKey⟩])
  /-- Any other table has its own key behind what its parent has. -/
  | child
      {join : Join}
      {parent : Table}
      {inherited : List KeyColumns}
      (joined : table.join = some join)
      (found : group.table? join.parent = some parent)
      (inRange : ∀ pair ∈ join.columns,
        pair.child < table.columns.length ∧ pair.parent < parent.columns.length)
      (carried : List.Forall₂ join.Carries parent.keyLayout inherited)
      (layout : table.keyLayout = inherited ++ [⟨table.id, table.primaryKey⟩])

/-- The own key of a table stands at the end of its layout. -/
theorem Table.Derived.exists_inherited
    {group : Group}
    {table : Table}
    (derived : table.Derived group) :
    ∃ inherited, table.keyLayout = inherited ++ [⟨table.id, table.primaryKey⟩] := by
  cases derived with
  | root _ layout => exact ⟨[], layout⟩
  | child _ _ _ _ layout => exact ⟨_, layout⟩

theorem Group.mem_of_table?
    {group : Group}
    {id : TableId}
    {table : Table}
    (found : group.table? id = some table) :
    table ∈ group.tables := by
  unfold Group.table? at found
  split at found
  · simp at found
  · exact List.mem_of_getElem? found

namespace GroupDeclaration

theorem lt_of_columnPosition
    {columns : List Column}
    {table : TableDeclaration}
    {name : String}
    {position : Nat}
    (found : columnPosition columns table name = .ok position) :
    position < columns.length := by
  unfold columnPosition at found
  split at found
  · next here =>
      obtain rfl := Except.ok.inj found
      exact Column.position?_lt here
  · simp at found

theorem lt_of_keyedColumns
    {table : TableDeclaration}
    {columns : List Column}
    {key : List Nat}
    (keyed : keyedColumns table = .ok (columns, key)) :
    ∀ position ∈ key, position < columns.length := by
  unfold keyedColumns at keyed
  split at keyed
  · obtain ⟨rfl, rfl⟩ := Prod.mk.inj (Except.ok.inj keyed)
    simp
  · obtain ⟨positions, found, pair⟩ := bind_eq_ok.mp keyed
    obtain ⟨rfl, rfl⟩ := Prod.mk.inj (pure_eq_ok.mp pair)
    intro position present
    obtain ⟨name, _, here⟩ := exists_input_of_mem (mapM_eq_ok.mp found) position present
    exact lt_of_columnPosition here

theorem resolveJoin_eq_ok
    {join : JoinDeclaration}
    {child parent : TableDeclaration}
    {columns : List Column}
    {parentTable : Table}
    {resolved : Join}
    (resolves : resolveJoin join child columns parent parentTable = .ok resolved) :
    resolved.parent = parentTable.id ∧ ∀ pair ∈ resolved.columns,
      pair.child < columns.length ∧ pair.parent < parentTable.columns.length := by
  unfold resolveJoin at resolves
  dsimp only at resolves
  split at resolves
  · simp at resolves
  · split at resolves
    · simp at resolves
    · obtain ⟨pairs, found, whole⟩ := bind_eq_ok.mp resolves
      obtain rfl := pure_eq_ok.mp whole
      refine ⟨rfl, ?_⟩
      intro pair present
      obtain ⟨names, _, here⟩ := exists_input_of_mem (mapM_eq_ok.mp found) pair present
      obtain ⟨childPosition, inChild, here⟩ := bind_eq_ok.mp here
      obtain ⟨parentPosition, inParent, here⟩ := bind_eq_ok.mp here
      obtain rfl := pure_eq_ok.mp here
      exact ⟨lt_of_columnPosition inChild, lt_of_columnPosition inParent⟩

theorem mem_columns_of_joinedPosition
    {join : Join}
    {child : TableDeclaration}
    {columns : List Column}
    {position childPosition : Nat}
    (joined : joinedPosition join child columns position = .ok childPosition) :
    JoinColumn.mk childPosition position ∈ join.columns := by
  unfold joinedPosition at joined
  split at joined
  · next found =>
      obtain rfl := Except.ok.inj joined
      exact Join.mem_columns_of_childPosition? found
  · simp at joined

/-- A layout that is carried over to a child is carried by the join. -/
theorem carries_cascadeLayout
    {parentTable : Table}
    {join : Join}
    {child : TableDeclaration}
    {layout : List KeyColumns}
    (cascaded : cascadeLayout parentTable join child = .ok layout) :
    List.Forall₂ join.Carries parentTable.keyLayout layout := by
  refine (mapM_eq_ok.mp cascaded).imp fun above below step => ?_
  obtain ⟨positions, joined, whole⟩ := bind_eq_ok.mp step
  obtain rfl := pure_eq_ok.mp whole
  exact ⟨rfl, (mapM_eq_ok.mp joined).imp fun _ _ => mem_columns_of_joinedPosition⟩

/-! ## Tables in the order of their places -/

variable {order : List Nat} {tables : List DeclaredTable} {parents : List (Option Nat)}

/-- Whether tables have the places of given indexes. -/
def Placed (order : List Nat) (indexes : List Nat) (built : List Table) : Prop :=
  List.Forall₂ (fun index table => table.id = placeIn order index) indexes built

/-- The table built for an index is found at the place of the index. -/
theorem Placed.table?_eq
    {indexes rest : List Nat}
    {built : List Table}
    {table : Table}
    {group : Group}
    {index : Nat}
    (few : order.length ≤ maxTables)
    (split : order = indexes ++ rest)
    (placed : Placed order indexes built)
    (initial : built <+: group.tables)
    (found : built[order.idxOf index]? = some table) :
    group.table? table.id = some table := by
  obtain ⟨inBuilt, rfl⟩ := List.getElem?_eq_some_iff.mp found
  have inIndexes : order.idxOf index < indexes.length := placed.length_eq ▸ inBuilt
  have inOrder : order.idxOf index < order.length := by
    rw [split, List.length_append, ← split]
    omega
  have here : indexes[order.idxOf index] = index := by
    have whole := List.getElem_idxOf inOrder
    rwa [List.getElem_of_eq split, List.getElem_append_left inIndexes] at whole
  have place : (built[order.idxOf index]).id = placeIn order index := by
    have paired := placed.get inIndexes inBuilt
    rwa [List.get_eq_getElem, List.get_eq_getElem, here] at paired
  have ordinal : (placeIn order index).ordinal.toNat = order.idxOf index + 1 := by
    rw [placeIn, UInt32.toNat_ofNat']
    exact Nat.mod_eq_of_lt (by unfold maxTables at few; omega)
  obtain ⟨others, whole⟩ := initial
  rw [place, Group.table?, ordinal, ← whole]
  exact (List.getElem?_append_left inBuilt).trans found

/-- What a table inherits: nothing, or what its parent, which was built before
it, hands down. -/
inductive Inherits
    (order : List Nat)
    (parents : List (Option Nat))
    (built : List Table)
    (index : Nat)
    (entry : DeclaredTable)
    (columns : List Column)
    (inherited : Inherited) : Prop
  /-- A table without a parent inherits nothing. -/
  | root
      (unlinked : entry.link = none ∨ (parents[index]?).join = none)
      (nothing : inherited = ⟨none, 0, []⟩)
  /-- Any other table is joined to a parent and carries its layout over. -/
  | child
      {join : Join}
      {parentIndex : Nat}
      {parent : Table}
      (linked : (parents[index]?).join = some parentIndex)
      (before : built[order.idxOf parentIndex]? = some parent)
      (joined : inherited.join = some join)
      (sameParent : join.parent = parent.id)
      (deeper : inherited.depth = parent.depth + 1)
      (inRange : ∀ pair ∈ join.columns,
        pair.child < columns.length ∧ pair.parent < parent.columns.length)
      (carried : List.Forall₂ join.Carries parent.keyLayout inherited.layout)

theorem inherit_eq_ok
    {built : List Table}
    {index : Nat}
    {entry : DeclaredTable}
    {columns : List Column}
    {inherited : Inherited}
    (inherits : inherit order tables parents built index entry columns = .ok inherited) :
    Inherits order parents built index entry columns inherited := by
  unfold inherit at inherits
  split at inherits
  · next join parentIndex _ linked =>
      split at inherits
      · next parent parentTable _ before =>
          obtain ⟨resolved, resolves, inherits⟩ := bind_eq_ok.mp inherits
          obtain ⟨layout, cascades, whole⟩ := bind_eq_ok.mp inherits
          obtain rfl := pure_eq_ok.mp whole
          obtain ⟨sameParent, inRange⟩ := resolveJoin_eq_ok resolves
          exact .child linked before rfl sameParent rfl inRange (carries_cascadeLayout cascades)
      · simp at inherits
  · next unlinked =>
      refine .root ?_ (Except.ok.inj inherits).symm
      cases link : entry.link with
      | none => exact .inl rfl
      | some named =>
          cases linked : (parents[index]?).join with
          | none => exact .inr rfl
          | some parentIndex => exact absurd linked (unlinked named.1 named.2 parentIndex link)

/-- What a table of one index is made of. -/
structure BuiltTable
    (order : List Nat)
    (tables : List DeclaredTable)
    (parents : List (Option Nat))
    (built : List Table)
    (index : Nat)
    (table : Table)
    (entry : DeclaredTable)
    (inherited : Inherited) : Prop where
  /-- The declaration is that of the index. -/
  declared : tables[index]? = some entry
  /-- The name is the declared one. -/
  name : table.name = entry.table.name
  /-- Columns and key follow from the declaration. -/
  keyed : keyedColumns entry.table = .ok (table.columns, table.primaryKey)
  /-- The place is that of the index. -/
  place : table.id = placeIn order index
  /-- The children are the indexes below. -/
  children : table.children = (childIndexes parents index).map (placeIn order)
  /-- The table inherits from one built before. -/
  inherits : Inherits order parents built index entry table.columns inherited
  /-- The join is inherited. -/
  join : table.join = inherited.join
  /-- The depth is inherited. -/
  depth : table.depth = inherited.depth
  /-- The own key stands behind the inherited layout. -/
  layout : table.keyLayout = inherited.layout ++ [⟨table.id, table.primaryKey⟩]

theorem buildTable_eq_ok
    {built : List Table}
    {index : Nat}
    {table : Table}
    (builds : buildTable order tables parents built index = .ok table) :
    ∃ entry inherited, BuiltTable order tables parents built index table entry inherited := by
  unfold buildTable at builds
  split at builds
  · simp at builds
  · next entry declared =>
      obtain ⟨⟨columns, key⟩, keyed, builds⟩ := bind_eq_ok.mp builds
      obtain ⟨inherited, inherits, whole⟩ := bind_eq_ok.mp builds
      obtain rfl := pure_eq_ok.mp whole
      exact ⟨entry, inherited, declared, rfl, keyed, rfl, rfl, inherit_eq_ok inherits,
        rfl, rfl, rfl⟩

/-- Whether a table has its place, its key among its columns, and a key layout
derived in every group that starts with given tables. -/
structure IsSound (before : List Table) (table : Table) : Prop where
  /-- The key positions are positions of columns. -/
  key_lt : ∀ position ∈ table.primaryKey, position < table.columns.length
  /-- The layout is derived. -/
  derived : ∀ group : Group, before <+: group.tables -> table.Derived group

theorem isSound_of_buildTable
    {indexes rest : List Nat}
    {built : List Table}
    {index : Nat}
    {table : Table}
    (few : order.length ≤ maxTables)
    (split : order = indexes ++ rest)
    (placed : Placed order indexes built)
    (builds : buildTable order tables parents built index = .ok table) :
    table.id = placeIn order index ∧ IsSound built table := by
  obtain ⟨entry, inherited, parts⟩ := buildTable_eq_ok builds
  refine ⟨parts.place, lt_of_keyedColumns parts.keyed, ?_⟩
  intro group initial
  cases parts.inherits with
  | root _ nothing =>
      exact .root (by rw [parts.join, nothing]) (by rw [parts.layout, nothing, List.nil_append])
  | child _ before joined sameParent _ inRange carried =>
      have found := placed.table?_eq few split initial before
      exact .child (parts.join.trans joined) (sameParent ▸ found) inRange carried parts.layout

theorem buildTables_eq_ok
    {indexes rest : List Nat}
    {built final : List Table}
    (few : order.length ≤ maxTables)
    (split : order = indexes ++ rest)
    (placed : Placed order indexes built)
    (sound : ∀ table ∈ built, IsSound built table)
    (builds : buildTables order tables parents built rest = .ok final) :
    Placed order order final ∧ ∀ table ∈ final, IsSound final table := by
  induction rest generalizing indexes built with
  | nil =>
      obtain rfl := Except.ok.inj builds
      rw [List.append_nil] at split
      exact ⟨split ▸ placed, sound⟩
  | cons index rest inductionHypothesis =>
      obtain ⟨table, step, builds⟩ := bind_eq_ok.mp builds
      obtain ⟨place, fresh⟩ := isSound_of_buildTable few split placed step
      apply inductionHypothesis (by rw [split, List.append_assoc]; rfl)
        (List.rel_append placed (.cons place .nil)) _ builds
      intro other present
      have grows : built <+: built ++ [table] := List.prefix_append _ _
      have isSound : IsSound built other := by
        rcases List.mem_append.mp present with earlier | last
        · exact sound other earlier
        · obtain rfl := List.mem_singleton.mp last
          exact fresh
      exact ⟨isSound.key_lt, fun group initial => isSound.derived group (grows.trans initial)⟩

/-! ## Whole builds -/

/-- What a build settles first: the root and the parents of all declared
tables. -/
structure LinkedAlong
    (declaration : GroupDeclaration)
    (root : TableDeclaration)
    (parents : List (Option Nat)) : Prop where
  /-- The root is declared. -/
  root_eq : declaration.root = some root
  /-- No two tables have one name. -/
  distinct : repeated? [] (declared root declaration.children) = none
  /-- Every table has the parent that it names. -/
  linked : List.Forall₂
    (fun entry parent => parentIndex (declared root declaration.children) entry = .ok parent)
    (declared root declaration.children) parents

/-- What a build settles next: the order of a walk from the root that passes all
tables. -/
structure WalkedAlong
    (declaration : GroupDeclaration)
    (root : TableDeclaration)
    (parents : List (Option Nat))
    (order : List Nat) : Prop extends LinkedAlong declaration root parents where
  /-- The order is that of the walk. -/
  walk : order = preorder parents parents.length 0
  /-- The walk passes all tables. -/
  complete : order.length = parents.length

/-- What a build settles last: in the order of the walk, the tables. -/
structure BuiltAlong
    (declaration : GroupDeclaration)
    (root : TableDeclaration)
    (parents : List (Option Nat))
    (order : List Nat)
    (group : Group) : Prop extends WalkedAlong declaration root parents order where
  /-- The places fit their ordinals. -/
  few : order.length ≤ maxTables
  /-- The tables are built in order. -/
  builds : buildTables order (declared root declaration.children) parents [] order =
    .ok group.tables

theorem build_eq_ok
    {declaration : GroupDeclaration}
    {group : Group}
    (built : declaration.build = .ok group) :
    ∃ root parents order, BuiltAlong declaration root parents order group := by
  unfold build at built
  split at built
  · simp at built
  · next root isRoot =>
      dsimp only at built
      split at built
      · simp at built
      · next distinct =>
          obtain ⟨parents, found, built⟩ := bind_eq_ok.mp built
          have linked := mapM_eq_ok.mp found
          split at built
          · simp at built
          · next complete =>
              split at built
              · simp at built
              · next few =>
                  obtain ⟨tables, builds, whole⟩ := bind_eq_ok.mp built
                  obtain rfl := pure_eq_ok.mp whole
                  refine ⟨root, parents, _, ⟨⟨isRoot, distinct, linked⟩, rfl, ?_⟩, ?_, ?_⟩
                  all_goals rw [← linked.length_eq]
                  · exact not_not.mp complete
                  · exact not_lt.mp few
                  · exact builds

/-- Every table of a built group is sound in it. -/
theorem isSound_of_build
    {declaration : GroupDeclaration}
    {group : Group}
    (built : declaration.build = .ok group) :
    ∀ table ∈ group.tables, IsSound group.tables table := by
  obtain ⟨_, _, _, along⟩ := build_eq_ok built
  exact (buildTables_eq_ok along.few rfl .nil (by simp) along.builds).2

end GroupDeclaration

/-! ## Keys of rows -/

/-- Whether a layout takes the values of a segment from a row. -/
def KeyColumns.Gives (values : List Value) (layout : KeyColumns) (segment : Segment) : Prop :=
  segment.table = layout.table ∧
    List.Forall₂ (fun position value => values[position]? = some value)
      layout.positions segment.values

namespace HKey

theorem keyValue_eq_ok
    {table : Table}
    {values : List Value}
    {position : Nat}
    {value : Value} :
    keyValue table values position = .ok value ↔ values[position]? = some value := by
  unfold keyValue
  cases values[position]? <;> simp

/-- The key of a row consists of what its table's layout takes from the row. -/
theorem ofValues_eq_ok
    {table : Table}
    {values : List Value}
    {hkey : HKey} :
    ofValues table values = .ok hkey ↔
      List.Forall₂ (KeyColumns.Gives values) table.keyLayout hkey.segments := by
  simp only [ofValues, bind_eq_ok, pure_eq_ok, mapM_eq_ok, keyValue_eq_ok]
  constructor
  · rintro ⟨segments, taken, rfl⟩
    refine taken.imp fun layout segment => ?_
    rintro ⟨key, found, rfl⟩
    exact ⟨rfl, found⟩
  · intro taken
    refine ⟨hkey.segments, taken.imp fun layout segment => ?_, rfl⟩
    rintro ⟨sameTable, found⟩
    exact ⟨segment.values, found, by rw [← sameTable]⟩

/-- Where the joined columns agree, child and parent give the same key values. -/
theorem exists_values_of_joined
    {join : Join}
    {values parentValues : List Value}
    {positions parentPositions : List Nat}
    (inRange : ∀ pair ∈ join.columns, pair.parent < parentValues.length)
    (agree : ∀ pair ∈ join.columns, values[pair.child]? = parentValues[pair.parent]?)
    (joined : List.Forall₂ (fun parent child => JoinColumn.mk child parent ∈ join.columns)
      parentPositions positions) :
    ∃ key,
      List.Forall₂ (fun position value => parentValues[position]? = some value)
        parentPositions key ∧
      List.Forall₂ (fun position value => values[position]? = some value) positions key := by
  induction joined with
  | nil => exact ⟨[], .nil, .nil⟩
  | @cons parent child parents children pair _ inductionHypothesis =>
      obtain ⟨key, parentKey, childKey⟩ := inductionHypothesis
      have here : parent < parentValues.length := inRange _ pair
      have found : parentValues[parent]? = some parentValues[parent] :=
        List.getElem?_eq_getElem here
      exact ⟨parentValues[parent] :: key, .cons found parentKey,
        .cons ((agree _ pair).trans found) childKey⟩

theorem exists_segments_of_carried
    {join : Join}
    {values parentValues : List Value}
    {layouts parentLayouts : List KeyColumns}
    (inRange : ∀ pair ∈ join.columns, pair.parent < parentValues.length)
    (agree : ∀ pair ∈ join.columns, values[pair.child]? = parentValues[pair.parent]?)
    (carried : List.Forall₂ join.Carries parentLayouts layouts) :
    ∃ segments, List.Forall₂ (KeyColumns.Gives parentValues) parentLayouts segments ∧
      List.Forall₂ (KeyColumns.Gives values) layouts segments := by
  induction carried with
  | nil => exact ⟨[], .nil, .nil⟩
  | @cons above below aboves belows first _ inductionHypothesis =>
      obtain ⟨sameTable, joined⟩ := first
      obtain ⟨key, parentKey, childKey⟩ := exists_values_of_joined inRange agree joined
      obtain ⟨segments, parentSegments, childSegments⟩ := inductionHypothesis
      exact ⟨⟨above.table, key⟩ :: segments, .cons ⟨rfl, parentKey⟩ parentSegments,
        .cons ⟨sameTable, childKey⟩ childSegments⟩

/-- A row has all values that its own table's key asks for. -/
theorem exists_values_of_lt
    {values : List Value}
    {positions : List Nat}
    (inRange : ∀ position ∈ positions, position < values.length) :
    ∃ key, List.Forall₂ (fun position value => values[position]? = some value) positions key :=
  exists_forall₂ fun position present =>
    ⟨_, List.getElem?_eq_getElem (inRange position present)⟩

theorem encode_append_eq_ok
    {segments others : List Segment}
    {bytes : Bytes} :
    encode ⟨segments ++ others⟩ = .ok bytes ↔
      ∃ start rest, encode ⟨segments⟩ = .ok start ∧ encode ⟨others⟩ = .ok rest ∧
        bytes = start ++ rest := by
  simp only [encode, List.mapM_append, bind_eq_ok, pure_eq_ok]
  constructor
  · rintro ⟨_, ⟨parts, encoded, rest, othersEncoded, rfl⟩, rfl⟩
    exact ⟨_, _, ⟨parts, encoded, rfl⟩, ⟨rest, othersEncoded, rfl⟩, List.flatten_append⟩
  · rintro ⟨_, _, ⟨parts, encoded, rfl⟩, ⟨rest, othersEncoded, rfl⟩, rfl⟩
    exact ⟨_, ⟨parts, encoded, rest, othersEncoded, rfl⟩, List.flatten_append⟩

theorem parent?_append
    {segments : List Segment}
    (nonempty : segments ≠ [])
    (last : Segment) :
    parent? ⟨segments ++ [last]⟩ = some ⟨segments⟩ := by
  have positive := List.length_pos_iff.mpr nonempty
  have long : ¬ (segments ++ [last]).length < 2 := by
    rw [List.length_append, List.length_singleton]
    omega
  rw [parent?, if_neg long, List.dropLast_concat]

/-- In every group that can be built, the key of a row of a table below another
is the key of its parent's row with one segment behind it, if the two rows have
the same values in the columns that are joined.  So the encoded key of the row
starts with that of its parent's row. -/
theorem parent?_ofValues
    {declaration : GroupDeclaration}
    {group : Group}
    {table : Table}
    {join : Join}
    (built : declaration.build = .ok group)
    (present : table ∈ group.tables)
    (joined : table.join = some join) :
    ∃ parent, group.table? join.parent = some parent ∧
      ∀ values parentValues : List Value,
        values.length = table.columns.length ->
        parentValues.length = parent.columns.length ->
        (∀ pair ∈ join.columns, values[pair.child]? = parentValues[pair.parent]?) ->
        ∃ hkey parentHKey,
          ofValues table values = .ok hkey ∧
          ofValues parent parentValues = .ok parentHKey ∧
          hkey.parent? = some parentHKey ∧
          ∀ bytes, hkey.encode = .ok bytes ->
            ∃ parentBytes, parentHKey.encode = .ok parentBytes ∧ parentBytes <+: bytes := by
  have sound := GroupDeclaration.isSound_of_build built
  obtain ⟨keyInRange, derived⟩ := sound table present
  cases derived group (List.prefix_refl _) with
  | root isRoot _ => simp [isRoot] at joined
  | @child _ parent inherited sameJoin found inRange carried layout =>
      obtain rfl := Option.some.inj (sameJoin.symm.trans joined)
      refine ⟨parent, found, ?_⟩
      intro values parentValues full parentFull agree
      obtain ⟨segments, parentTaken, taken⟩ := exists_segments_of_carried
        (fun pair member => parentFull ▸ (inRange pair member).2) agree carried
      obtain ⟨key, keyTaken⟩ := exists_values_of_lt (full ▸ keyInRange)
      have whole : List.Forall₂ (KeyColumns.Gives values) table.keyLayout
          (segments ++ [⟨table.id, key⟩]) := by
        rw [layout]
        exact List.rel_append taken (.cons ⟨rfl, keyTaken⟩ .nil)
      have nonempty : segments ≠ [] := by
        rintro rfl
        have noLayout := List.forall₂_nil_right_iff.mp parentTaken
        obtain ⟨_, parentLayout⟩ := ((sound parent (Group.mem_of_table? found)).derived group
          (List.prefix_refl _)).exists_inherited
        simp [parentLayout] at noLayout
      refine ⟨⟨segments ++ [⟨table.id, key⟩]⟩, ⟨segments⟩, ofValues_eq_ok.mpr whole,
        ofValues_eq_ok.mpr parentTaken, parent?_append nonempty _, ?_⟩
      intro bytes encoded
      obtain ⟨start, rest, parentEncoded, _, rfl⟩ := encode_append_eq_ok.mp encoded
      exact ⟨start, parentEncoded, List.prefix_append _ _⟩

end HKey

/-! ## A shop -/

namespace Shop

/-- A column of 64-bit integers. -/
def number (name : String) : Column := ⟨name, .bigInt, true, none, false⟩

/-- Customers, their orders, which are numbered, and the lines of each order.  A
line repeats the customer of its order twice. -/
def declaration : GroupDeclaration where
  id := 5
  name := "shop"
  root := some ⟨⟨"s", "customers"⟩, [number "customer"], ["customer"]⟩
  children :=
    [⟨"orders", ⟨⟨"s", "lines"⟩, [number "line", number "order", number "owner", number "payer"],
        ["line"]⟩, ⟨["payer", "order", "owner"], ["buyer", "__row_id", "buyer"]⟩⟩,
      ⟨"customers", ⟨⟨"s", "orders"⟩, [number "buyer"], []⟩, ⟨["buyer"], ["customer"]⟩⟩]

/-- The customers of the shop. -/
def customers : Table :=
  ⟨⟨1⟩, ⟨"s", "customers"⟩, [number "customer"], [0], none, [⟨2⟩], 0, [⟨⟨1⟩, [0]⟩]⟩

/-- The orders of a customer. -/
def orders : Table :=
  ⟨⟨2⟩, ⟨"s", "orders"⟩, [number "buyer", Column.hiddenKey], [1], some ⟨⟨1⟩, [⟨0, 0⟩]⟩, [⟨3⟩], 1,
    [⟨⟨1⟩, [0]⟩, ⟨⟨2⟩, [1]⟩]⟩

/-- The lines of an order. -/
def lines : Table :=
  ⟨⟨3⟩, ⟨"s", "lines"⟩, [number "line", number "order", number "owner", number "payer"], [0],
    some ⟨⟨2⟩, [⟨3, 0⟩, ⟨1, 1⟩, ⟨2, 0⟩]⟩, [], 2, [⟨⟨1⟩, [3]⟩, ⟨⟨2⟩, [1]⟩, ⟨⟨3⟩, [0]⟩]⟩

theorem build_declaration :
    declaration.build = .ok ⟨5, "shop", [customers, orders, lines]⟩ := rfl

end Shop

namespace HKey

/-- The first line of the seventh order of the third customer stands below that
order. -/
theorem parent?_ofValues_third_level :
    Shop.declaration.build = .ok ⟨5, "shop", [Shop.customers, Shop.orders, Shop.lines]⟩ ∧
      ∃ hkey parentHKey,
        ofValues Shop.lines [.bigInt 1, .bigInt 7, .bigInt 3, .bigInt 3] = .ok hkey ∧
        ofValues Shop.orders [.bigInt 3, .bigInt 7] = .ok parentHKey ∧
        hkey.parent? = some parentHKey := by
  refine ⟨Shop.build_declaration, ?_⟩
  obtain ⟨parent, found, joined⟩ := parent?_ofValues Shop.build_declaration
    (show Shop.lines ∈ [Shop.customers, Shop.orders, Shop.lines] by simp) rfl
  obtain rfl : Shop.orders = parent := Option.some.inj found
  obtain ⟨hkey, parentHKey, taken, parentTaken, isParent, _⟩ :=
    joined [.bigInt 1, .bigInt 7, .bigInt 3, .bigInt 3] [.bigInt 3, .bigInt 7] rfl rfl
      (by simp)
  exact ⟨hkey, parentHKey, taken, parentTaken, isParent⟩

end HKey
end Keyspace
