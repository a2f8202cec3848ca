import Keyspace.Proofs.Schema.GroupTree

/-!
# The tree that a build makes of a declaration

Children may be declared in any order, before their parents as well as after
them.  A build numbers them by a walk from the root, and since every table is
built behind its parent, depths and key layouts follow from what is built
already.  So a built group is the tree that was declared.
-/

namespace Keyspace

/-- The tables declared below a table, in declaration order. -/
def GroupDeclaration.declaredBelow
    (declaration : GroupDeclaration)
    (table : TableDeclaration) : List TableDeclaration :=
  (declaration.children.filter fun child => child.parent == table.name.table).map (·.table)

/-- Whether a table has name, columns and key of its declaration. -/
def Table.IsOf (table : Table) (declared : TableDeclaration) : Prop :=
  table.name = declared.name ∧
    GroupDeclaration.keyedColumns declared = .ok (table.columns, table.primaryKey)

namespace GroupDeclaration

/-! ## Names and parents -/

theorem nodup_of_repeated?
    {seen : List String}
    {entries : List DeclaredTable}
    (distinct : repeated? seen entries = none) :
    (entries.map (·.table.name.table)).Nodup ∧
      ∀ entry ∈ entries, entry.table.name.table ∉ seen := by
  induction entries generalizing seen with
  | nil => simp
  | cons entry entries inductionHypothesis =>
      rw [repeated?] at distinct
      split at distinct
      · simp at distinct
      · next fresh =>
          obtain ⟨others, unseen⟩ := inductionHypothesis distinct
          rw [List.contains_iff_mem] at fresh
          refine ⟨List.nodup_cons.mpr ⟨?_, others⟩, ?_⟩
          · rintro again
            obtain ⟨other, present, same⟩ := List.mem_map.mp again
            exact unseen other present (by simp [same])
          · intro other present
            rcases List.mem_cons.mp present with rfl | further
            · exact fresh
            · exact fun before => unseen other further (by simp [before])

theorem not_nodup_of_repeated?
    {seen : List String}
    {entries : List DeclaredTable}
    {name : TableName}
    (repeats : repeated? seen entries = some name) :
    ¬((entries.map (·.table.name.table)).Nodup ∧
      ∀ entry ∈ entries, entry.table.name.table ∉ seen) := by
  induction entries generalizing seen with
  | nil => simp [repeated?] at repeats
  | cons entry entries inductionHypothesis =>
      rintro ⟨distinct, unseen⟩
      rw [repeated?] at repeats
      split at repeats
      · next again => exact unseen entry (by simp) (by simpa using again)
      · obtain ⟨fresh, others⟩ := List.nodup_cons.mp distinct
        refine inductionHypothesis repeats ⟨others, fun other present => ?_⟩
        rw [List.mem_cons, not_or]
        exact ⟨fun same => fresh (List.mem_map.mpr ⟨other, present, same⟩),
          unseen other (by simp [present])⟩

theorem parentIndex_eq_ok
    {tables : List DeclaredTable}
    {entry : DeclaredTable}
    {parent : Option Nat}
    (finds : parentIndex tables entry = .ok parent) :
    (entry.link = none ∧ parent = none) ∨
      ∃ name join index above, entry.link = some (name, join) ∧ parent = some index ∧
        tables[index]? = some above ∧ above.table.name.table = name := by
  unfold parentIndex at finds
  split at finds
  · next link => exact .inl ⟨link, (Except.ok.inj finds).symm⟩
  · next name join link =>
      split at finds
      · simp at finds
      · split at finds
        · next index found =>
            obtain ⟨inside, here, _⟩ := List.findIdx?_eq_some_iff_getElem.mp found
            exact .inr ⟨name, join, index, tables[index], link, (Except.ok.inj finds).symm,
              List.getElem?_eq_getElem inside, by simpa using here⟩
        · simp at finds

/-- Every table is built behind the tables before it. -/
theorem buildTables_steps
    {order : List Nat}
    {tables : List DeclaredTable}
    {parents : List (Option Nat)}
    {built final : List Table}
    {rest : List Nat}
    (builds : buildTables order tables parents built rest = .ok final) :
    ∃ added, final = built ++ added ∧ added.length = rest.length ∧
      ∀ place index table, rest[place]? = some index -> added[place]? = some table ->
        buildTable order tables parents (built ++ added.take place) index = .ok table := by
  induction rest generalizing built with
  | nil =>
      obtain rfl := Except.ok.inj builds
      exact ⟨[], (List.append_nil _).symm, rfl, by simp⟩
  | cons first rest inductionHypothesis =>
      obtain ⟨fresh, step, builds⟩ := bind_eq_ok.mp builds
      obtain ⟨added, rfl, full, others⟩ := inductionHypothesis builds
      refine ⟨fresh :: added, by simp, by simp [full], ?_⟩
      rintro (_ | place) index table here found
      · obtain rfl := Option.some.inj here
        obtain rfl := Option.some.inj found
        simpa using step
      · simpa using others place index table here found

theorem map_filter_range
    {α β : Type}
    (chosen : Nat -> Bool)
    (wanted : α -> Bool)
    (left : Nat -> β)
    (right : α -> β)
    {inputs : List α}
    (agree : ∀ index input, inputs[index]? = some input ->
      chosen index = wanted input ∧ left index = right input) :
    ((List.range inputs.length).filter chosen).map left =
      (inputs.filter wanted).map right := by
  induction inputs generalizing chosen left with
  | nil => rfl
  | cons input inputs inductionHypothesis =>
      obtain ⟨sameChoice, sameResult⟩ := agree 0 input rfl
      have others : ((List.range inputs.length).filter (chosen ∘ Nat.succ)).map (left ∘ Nat.succ) =
          (inputs.filter wanted).map right :=
        inductionHypothesis _ _ fun index other here => agree (index + 1) other here
      rw [List.length_cons, List.range_succ_eq_map, List.filter_cons, List.filter_cons, sameChoice]
      split <;> simp [List.filter_map, sameResult, ← others, Function.comp_def]

/-- Whether a table is built for an index. -/
def Stands (order : List Nat) (group : Group) (index : Nat) (table : Table) : Prop :=
  index ∈ order ∧ group.tables[order.idxOf index]? = some table

theorem Stands.mem
    {order : List Nat}
    {group : Group}
    {index : Nat}
    {table : Table}
    (stands : Stands order group index table) :
    table ∈ group.tables :=
  List.mem_of_getElem? stands.2

/-! ## Linked declarations -/

variable
  {declaration : GroupDeclaration}
  {root : TableDeclaration}
  {parents : List (Option Nat)}

theorem declared_map_table :
    (declared root declaration.children).map (·.table) =
      root :: declaration.children.map (·.table) := by
  simp [declared]

theorem mem_declared_of_child
    {child : ChildDeclaration}
    (isChild : child ∈ declaration.children) :
    (⟨child.table, some (child.parent, child.join)⟩ : DeclaredTable) ∈
      declared root declaration.children :=
  List.mem_cons_of_mem _ (List.mem_map.mpr ⟨child, isChild, rfl⟩)

/-- The declaration of an index. -/
def declarationAt
    (declaration : GroupDeclaration)
    (root : TableDeclaration)
    (index : Nat) : TableDeclaration :=
  (((declared root declaration.children)[index]?).map (·.table)).getD root

theorem declarationAt_of_getElem?
    {index : Nat}
    {entry : DeclaredTable}
    (here : (declared root declaration.children)[index]? = some entry) :
    declarationAt declaration root index = entry.table := by
  rw [declarationAt, here]
  rfl

namespace LinkedAlong

variable
  (along : LinkedAlong declaration root parents)

include along

theorem top :
    parents[0]? = some none := by
  obtain ⟨parent, here, finds⟩ := exists_getElem?_of_forall₂ along.linked
    (show (declared root declaration.children)[0]? = some ⟨root, none⟩ from rfl)
  obtain ⟨_, rfl⟩ | ⟨_, _, _, _, link, _⟩ := parentIndex_eq_ok finds
  · exact here
  · simp at link

theorem index_eq_of_name
    {first second : Nat}
    {entry other : DeclaredTable}
    (here : (declared root declaration.children)[first]? = some entry)
    (there : (declared root declaration.children)[second]? = some other)
    (same : entry.table.name.table = other.table.name.table) :
    first = second := by
  obtain ⟨inside, rfl⟩ := List.getElem?_eq_some_iff.mp here
  obtain ⟨alsoInside, rfl⟩ := List.getElem?_eq_some_iff.mp there
  have distinct := (nodup_of_repeated? along.distinct).1
  have inNames :
      first < ((declared root declaration.children).map (·.table.name.table)).length := by
    simpa using inside
  have alsoInNames :
      second < ((declared root declaration.children).map (·.table.name.table)).length := by
    simpa using alsoInside
  have sameName :
      ((declared root declaration.children).map (·.table.name.table))[first] =
        ((declared root declaration.children).map (·.table.name.table))[second] := by
    simpa using same
  exact distinct.getElem_inj_iff.mp sameName

/-- The parent of a table is the table that it names. -/
theorem parents_eq_some_iff
    {index parent : Nat}
    {entry above : DeclaredTable}
    (here : (declared root declaration.children)[index]? = some entry)
    (there : (declared root declaration.children)[parent]? = some above) :
    parents[index]? = some (some parent) ↔
      entry.link.map Prod.fst = some above.table.name.table := by
  obtain ⟨found, parentHere, finds⟩ := exists_getElem?_of_forall₂ along.linked here
  rw [parentHere]
  rcases parentIndex_eq_ok finds with
    ⟨link, rfl⟩ | ⟨name, join, first, other, link, rfl, firstHere, rfl⟩
  · simp [link]
  · rw [link, Option.map_some]
    constructor
    · intro same
      obtain rfl : first = parent := by simpa using same
      rw [Option.some.inj (firstHere.symm.trans there)]
    · intro same
      rw [along.index_eq_of_name firstHere there (Option.some.inj same)]

end LinkedAlong

/-! ## Declarations in order -/

namespace WalkedAlong

variable
  {order : List Nat}
  (along : WalkedAlong declaration root parents order)

include along

theorem preorder_order :
    PreorderOf (childIndexes parents) [0] order :=
  along.walk ▸ (preorder_spec along.top).1

theorem nodup_order :
    order.Nodup :=
  along.walk ▸ (preorder_spec along.top).2.1

theorem order_perm :
    order.Perm (List.range parents.length) := by
  have inside : order ⊆ List.range parents.length := by
    intro index present
    exact List.mem_range.mpr ((preorder_spec along.top).2.2 index (along.walk ▸ present))
  refine (List.subperm_of_subset along.nodup_order inside).perm_of_length_le ?_
  rw [along.complete, List.length_range]

theorem mem_order
    {index : Nat} :
    index ∈ order ↔ index < parents.length := by
  rw [along.order_perm.mem_iff, List.mem_range]

theorem exists_entry
    {index : Nat}
    (present : index ∈ order) :
    ∃ entry, (declared root declaration.children)[index]? = some entry := by
  have inside := along.mem_order.mp present
  rw [← along.linked.length_eq] at inside
  exact ⟨_, List.getElem?_eq_getElem inside⟩

/-- The indexes below an index are those of what is declared below its table. -/
theorem map_childIndexes
    {index : Nat}
    (present : index ∈ order) :
    (childIndexes parents index).map (declarationAt declaration root) =
      declaration.declaredBelow (declarationAt declaration root index) := by
  obtain ⟨above, there⟩ := along.exists_entry present
  have chosen := map_filter_range
    (fun child => parents[child]? == some (some index))
    (fun entry => entry.link.map Prod.fst == some above.table.name.table)
    (declarationAt declaration root) DeclaredTable.table
    fun child entry here =>
      ⟨by rw [Bool.eq_iff_iff, beq_iff_eq, beq_iff_eq, along.parents_eq_some_iff here there],
        declarationAt_of_getElem? here⟩
  rw [along.linked.length_eq] at chosen
  rw [childIndexes, chosen, declarationAt_of_getElem? there, declaredBelow, declared]
  simp [List.filter_map, Function.comp_def]

theorem order_map_declarationAt_perm :
    (order.map (declarationAt declaration root)).Perm
      (root :: declaration.children.map (·.table)) := by
  have all := map_filter_range (fun _ => true) (fun _ => true) (declarationAt declaration root)
    DeclaredTable.table fun child entry here => ⟨rfl, declarationAt_of_getElem? here⟩
  rw [List.filter_true, List.filter_true, along.linked.length_eq, declared_map_table] at all
  exact all ▸ along.order_perm.map _

theorem preorder_declarations :
    PreorderOf declaration.declaredBelow [root] (order.map (declarationAt declaration root)) :=
  along.preorder_order.map fun _ present => along.map_childIndexes present

end WalkedAlong

namespace BuiltAlong

variable
  {order : List Nat}
  {group : Group}
  (along : BuiltAlong declaration root parents order group)

include along

/-! ### Tables in order -/

theorem length_tables :
    group.tables.length = order.length := by
  obtain ⟨added, whole, full, _⟩ := buildTables_steps along.builds
  rw [whole, List.nil_append, full]

theorem idxOf_getElem
    {place : Nat}
    (inside : place < order.length) :
    order.idxOf order[place] = place :=
  along.nodup_order.idxOf_getElem place inside

/-- The table at a place is built for the index at that place. -/
theorem builtTable_getElem
    {place : Nat}
    (inside : place < group.tables.length)
    (inOrder : place < order.length) :
    ∃ entry inherited, BuiltTable order (declared root declaration.children) parents
      (group.tables.take place) order[place] group.tables[place] entry inherited := by
  obtain ⟨added, whole, full, steps⟩ := buildTables_steps along.builds
  rw [List.nil_append] at whole
  subst whole
  exact buildTable_eq_ok (steps place _ _ (List.getElem?_eq_getElem inOrder)
    (List.getElem?_eq_getElem inside))

theorem numbered :
    group.Numbered := by
  refine List.ext_getElem (by simp) fun place inNames inNumbers => ?_
  have inside : place < group.tables.length := by simpa using inNames
  have inOrder : place < order.length := along.length_tables ▸ inside
  obtain ⟨_, _, parts⟩ := along.builtTable_getElem inside inOrder
  have fits : place + 1 < 2 ^ 32 := by
    have few := along.few
    unfold maxTables at few
    omega
  rw [List.getElem_map, List.getElem_range', parts.place, placeIn, along.idxOf_getElem inOrder,
    UInt32.toNat_ofNat', Nat.mod_eq_of_lt fits]
  omega

theorem stands_getElem
    {place : Nat}
    (inside : place < group.tables.length)
    (inOrder : place < order.length) :
    Stands order group order[place] group.tables[place] := by
  refine ⟨List.getElem_mem inOrder, ?_⟩
  rw [along.idxOf_getElem inOrder]
  exact List.getElem?_eq_getElem inside

theorem exists_stands
    {index : Nat}
    (present : index ∈ order) :
    ∃ table, Stands order group index table := by
  obtain ⟨place, inOrder, rfl⟩ := List.getElem_of_mem present
  exact ⟨_, along.stands_getElem (along.length_tables ▸ inOrder) inOrder⟩

theorem exists_index
    {table : Table}
    (present : table ∈ group.tables) :
    ∃ index, Stands order group index table := by
  obtain ⟨place, inside, rfl⟩ := List.getElem_of_mem present
  exact ⟨_, along.stands_getElem inside (along.length_tables ▸ inside)⟩

theorem stands_parts
    {index : Nat}
    {table : Table}
    (stands : Stands order group index table) :
    table.id.ordinal.toNat = order.idxOf index + 1 ∧
      ∃ entry inherited, BuiltTable order (declared root declaration.children) parents
        (group.tables.take (order.idxOf index)) index table entry inherited := by
  obtain ⟨present, found⟩ := stands
  obtain ⟨place, inOrder, rfl⟩ := List.getElem_of_mem present
  rw [along.idxOf_getElem inOrder] at found ⊢
  obtain ⟨inside, rfl⟩ := List.getElem?_eq_some_iff.mp found
  exact ⟨along.numbered.ordinal_getElem inside, along.builtTable_getElem inside inOrder⟩

theorem stands_index_unique
    {first second : Nat}
    {table : Table}
    (firstStands : Stands order group first table)
    (secondStands : Stands order group second table) :
    first = second := by
  have firstPlace := (along.stands_parts firstStands).1
  have secondPlace := (along.stands_parts secondStands).1
  exact (List.idxOf_inj firstStands.1).mp (by omega)

theorem table?_placeIn
    {index : Nat}
    {table : Table}
    (stands : Stands order group index table) :
    group.table? (placeIn order index) = some table := by
  obtain ⟨_, _, _, parts⟩ := along.stands_parts stands
  exact parts.place ▸ along.numbered.table?_of_mem stands.mem

/-- A table hangs below the table of its parent's index, if it has one. -/
theorem stands_hangs
    {index : Nat}
    {table : Table}
    (stands : Stands order group index table) :
    (parents[index]? = some none ∧ table.parent = none ∧ table.depth = 0) ∨
      ∃ above parent, parents[index]? = some (some above) ∧ Stands order group above parent ∧
        table.parent = some parent.id ∧ parent.id.ordinal < table.id.ordinal ∧
        table.depth = parent.depth + 1 := by
  obtain ⟨ordinal, entry, inherited, parts⟩ := along.stands_parts stands
  obtain ⟨linked, parentHere, finds⟩ := exists_getElem?_of_forall₂ along.linked parts.declared
  cases parts.inherits with
  | root unlinked nothing =>
      refine .inl ⟨?_, by simp [Table.parent, parts.join, nothing], by rw [parts.depth, nothing]⟩
      rw [parentHere] at unlinked ⊢
      rcases parentIndex_eq_ok finds with ⟨_, rfl⟩ | ⟨_, _, _, _, link, rfl, _⟩
      · rfl
      · simp [link] at unlinked
  | @child join above parent isLinked before joined sameParent deeper _ _ =>
      rw [parentHere, Option.join_some] at isLinked
      -- the parent was among the tables before this one
      rw [List.getElem?_take, Option.ite_none_right_eq_some] at before
      obtain ⟨early, found⟩ := before
      have inOrder : order.idxOf above < order.length :=
        along.length_tables ▸ (List.getElem?_eq_some_iff.mp found).1
      have aboveStands : Stands order group above parent :=
        ⟨List.idxOf_lt_length_iff.mp inOrder, found⟩
      refine .inr
        ⟨above, parent, isLinked ▸ parentHere, aboveStands, ?_, ?_, parts.depth.trans deeper⟩
      · simp [Table.parent, parts.join, joined, sameParent]
      · have aboveOrdinal := (along.stands_parts aboveStands).1
        rw [UInt32.lt_iff_toNat_lt]
        omega

/-! ### The tree -/

/-- The table of an index. -/
def tableAt (order : List Nat) (group : Group) (first : Table) (index : Nat) : Table :=
  (group.tables[order.idxOf index]?).getD first

omit along in
theorem tableAt_of_stands
    {first table : Table}
    {index : Nat}
    (stands : Stands order group index table) :
    tableAt order group first index = table := by
  rw [tableAt, stands.2, Option.getD_some]

theorem map_tableAt
    (first : Table) :
    order.map (tableAt order group first) = group.tables := by
  refine List.ext_getElem (by simp [along.length_tables]) fun place inOrder inside => ?_
  have inIndexes : place < order.length := along.length_tables ▸ inside
  rw [List.getElem_map, tableAt_of_stands (along.stands_getElem inside inIndexes)]

/-- The children of a table are those of the indexes below its index. -/
theorem children_eq
    {index : Nat}
    {table : Table}
    (first : Table)
    (stands : Stands order group index table) :
    group.children table.id = (childIndexes parents index).map (tableAt order group first) := by
  obtain ⟨_, _, _, parts⟩ := along.stands_parts stands
  have step : ∀ child ∈ childIndexes parents index,
      group.table? (placeIn order child) = some (tableAt order group first child) := by
    intro child below
    have present := along.preorder_order.mem_of_below index stands.1 child below
    obtain ⟨table, childStands⟩ := along.exists_stands present
    rw [along.table?_placeIn childStands, tableAt_of_stands childStands]
  rw [Group.children, along.numbered.table?_of_mem stands.mem]
  simp only [parts.children, List.filterMap_map]
  exact (List.filterMap_congr step).trans (by rw [List.filterMap_eq_map'])

theorem mem_children
    {table child : Table}
    (present : table ∈ group.tables) :
    child ∈ group.children table.id ↔ child ∈ group.tables ∧ child.parent = some table.id := by
  obtain ⟨index, stands⟩ := along.exists_index present
  rw [along.children_eq table stands, List.mem_map]
  constructor
  · rintro ⟨below, isBelow, rfl⟩
    have belowPresent := along.preorder_order.mem_of_below index stands.1 below isBelow
    obtain ⟨child, childStands⟩ := along.exists_stands belowPresent
    rw [tableAt_of_stands childStands]
    refine ⟨childStands.mem, ?_⟩
    rcases along.stands_hangs childStands with
      ⟨top, _⟩ | ⟨above, parent, linked, aboveStands, hangs, _⟩
    · simp [mem_childIndexes.mp isBelow] at top
    · obtain rfl : index = above := by simpa [mem_childIndexes.mp isBelow] using linked
      rw [hangs, Option.some.inj (aboveStands.2.symm.trans stands.2)]
  · rintro ⟨childPresent, isJoined⟩
    obtain ⟨below, childStands⟩ := along.exists_index childPresent
    refine ⟨below, ?_, tableAt_of_stands childStands⟩
    rcases along.stands_hangs childStands with
      ⟨_, top, _⟩ | ⟨above, parent, linked, aboveStands, hangs, _⟩
    · simp [top] at isJoined
    · have same : parent = table := along.numbered.eq_of_id aboveStands.mem present
        (Option.some.inj (hangs.symm.trans isJoined))
      obtain rfl := along.stands_index_unique (same ▸ aboveStands) stands
      exact mem_childIndexes.mpr linked

theorem isTree
    (built : declaration.build = .ok group) :
    group.IsTree where
  numbered := along.numbered
  preorder := by
    obtain ⟨root, rootStands⟩ := along.exists_stands
      (along.preorder_order.sublist_of_roots.subset (List.mem_singleton_self 0))
    refine ⟨root, ?_, ?_⟩
    · rcases along.stands_hangs rootStands with ⟨_, _, depth⟩ | ⟨_, _, linked, _⟩
      · exact depth
      · simp [along.top] at linked
    · have agree : ∀ index ∈ order, (childIndexes parents index).map (tableAt order group root) =
          group.children (tableAt order group root index).id := by
        intro index present
        obtain ⟨table, stands⟩ := along.exists_stands present
        rw [tableAt_of_stands stands, along.children_eq root stands]
      have walk : PreorderOf (fun table => group.children table.id)
          ([0].map (tableAt order group root)) (order.map (tableAt order group root)) :=
        along.preorder_order.map agree
      rwa [along.map_tableAt, List.map_singleton, tableAt_of_stands rootStands] at walk
  mem_children table present _ := along.mem_children present
  joined table present id hangs := by
    obtain ⟨index, stands⟩ := along.exists_index present
    rcases along.stands_hangs stands with
      ⟨_, top, _⟩ | ⟨_, parent, _, aboveStands, isJoined, before, deeper⟩
    · simp [top] at hangs
    · obtain rfl := Option.some.inj (isJoined.symm.trans hangs)
      exact ⟨parent, aboveStands.mem, rfl, before, deeper⟩
  sound := isSound_of_build built

theorem forall₂_isOf :
    List.Forall₂ Table.IsOf group.tables (order.map (declarationAt declaration root)) := by
  refine List.forall₂_iff_get.mpr ⟨by simp [along.length_tables], fun place inside inOrder => ?_⟩
  have inIndexes : place < order.length := along.length_tables ▸ inside
  obtain ⟨entry, _, parts⟩ := along.builtTable_getElem inside inIndexes
  rw [List.get_eq_getElem, List.get_eq_getElem, List.getElem_map,
    declarationAt_of_getElem? parts.declared]
  exact ⟨parts.name, parts.keyed⟩

theorem exists_joined
    {child : ChildDeclaration}
    (isChild : child ∈ declaration.children) :
    ∃ table ∈ group.tables, ∃ parent ∈ group.tables, table.name = child.table.name ∧
      parent.name.table = child.parent ∧ table.parent = some parent.id := by
  obtain ⟨index, here⟩ := List.getElem?_of_mem (mem_declared_of_child isChild)
  have present : index ∈ order := by
    rw [along.mem_order, ← along.linked.length_eq]
    exact (List.getElem?_eq_some_iff.mp here).1
  obtain ⟨table, stands⟩ := along.exists_stands present
  obtain ⟨_, entry, _, parts⟩ := along.stands_parts stands
  obtain rfl := Option.some.inj (here.symm.trans parts.declared)
  rcases along.stands_hangs stands with ⟨top, _⟩ | ⟨above, parent, linked, aboveStands, hangs, _⟩
  · obtain ⟨_, parentHere, finds⟩ := exists_getElem?_of_forall₂ along.linked here
    rcases parentIndex_eq_ok finds with ⟨link, _⟩ | ⟨_, _, _, _, _, rfl, _⟩
    · simp at link
    · simp [parentHere] at top
  · obtain ⟨_, aboveEntry, _, aboveParts⟩ := along.stands_parts aboveStands
    have named := (along.parents_eq_some_iff here aboveParts.declared).mp linked
    refine ⟨table, stands.mem, parent, aboveStands.mem, parts.name, ?_, hangs⟩
    rw [aboveParts.name]
    exact (Option.some.inj named).symm

theorem nodup_names :
    (group.tables.map (·.name.table)).Nodup := by
  have names : group.tables.map (·.name.table) =
      (order.map (declarationAt declaration root)).map (·.name.table) :=
    map_eq_map_of_forall₂ (fun _ _ isOf => congrArg TableName.table isOf.1) along.forall₂_isOf
  have declaredNames := (nodup_of_repeated? along.distinct).1
  rw [← Function.comp_def (fun table : TableDeclaration => table.name.table) DeclaredTable.table,
    ← List.map_map, declared_map_table] at declaredNames
  rw [names]
  exact (along.order_map_declarationAt_perm.map _).nodup_iff.mpr declaredNames

end BuiltAlong

/-! ## Built groups -/

/-- The tables of every group that can be built are a tree. -/
theorem isTree_of_build
    {declaration : GroupDeclaration}
    {group : Group}
    (built : declaration.build = .ok group) :
    group.IsTree := by
  obtain ⟨_, _, _, along⟩ := build_eq_ok built
  exact along.isTree built

/-- Whether a group is the tree that is declared. -/
structure Realizes (group : Group) (declaration : GroupDeclaration) : Prop where
  /-- The tables are the declared ones in pre-order, with siblings in declaration
  order. -/
  tables : ∃ root order, declaration.root = some root ∧
    order.Perm (root :: declaration.children.map (·.table)) ∧
    PreorderOf declaration.declaredBelow [root] order ∧
    List.Forall₂ Table.IsOf group.tables order
  /-- No two tables have one name. -/
  distinct : (group.tables.map (·.name.table)).Nodup
  /-- The places count from one. -/
  numbered : group.Numbered
  /-- Every other table than the root hangs below the table it is declared for. -/
  declared : ∀ child ∈ declaration.children, ∃ table ∈ group.tables, ∃ parent ∈ group.tables,
    table.name = child.table.name ∧ parent.name.table = child.parent ∧
      table.parent = some parent.id
  /-- A table is the root, or its parent has a smaller place and is one level up. -/
  upward : ∀ table ∈ group.tables,
    (table.id.ordinal = 1 ∧ table.parent = none ∧ table.depth = 0) ∨
      ∃ parent ∈ group.tables, table.parent = some parent.id ∧
        parent.id.ordinal < table.id.ordinal ∧ table.depth = parent.depth + 1
  /-- The way to the root goes from parent to parent. -/
  ancestors : ∀ id, group.ancestors id =
    match group.parent? id with
    | some parent => parent :: group.ancestors parent
    | none => []
  /-- The tables below a table are those with the table on their way to the root,
  in ascending order. -/
  descendants : ∀ id, (group.descendants id).Pairwise (fun first second =>
      first.ordinal < second.ordinal) ∧
    ∀ other, other ∈ group.descendants id ↔ group.isAncestor id other = true
  /-- The children of a table are the tables joined to it, in ascending order. -/
  children : ∀ id, (group.children id).Pairwise (fun first second =>
      first.id.ordinal < second.id.ordinal) ∧
    ∀ table, table ∈ group.children id ↔ table ∈ group.tables ∧ table.parent = some id
  /-- The key layout of a table has the whole keys of the tables on the path from
  the root to it. -/
  layout : ∀ table ∈ group.tables,
    table.keyLayout.map (·.table) = (group.ancestors table.id).reverse ++ [table.id] ∧
      ∀ key ∈ table.keyLayout, group.IsKey table.columns key

/-- Every group that can be built is the tree that is declared. -/
theorem realizes_of_build
    {declaration : GroupDeclaration}
    {group : Group}
    (built : declaration.build = .ok group) :
    Realizes group declaration := by
  obtain ⟨root, parents, order, along⟩ := build_eq_ok built
  have tree := along.isTree built
  exact {
    tables := ⟨root, _, along.root_eq, along.order_map_declarationAt_perm,
      along.preorder_declarations, along.forall₂_isOf⟩
    distinct := along.nodup_names
    numbered := along.numbered
    declared := fun _ isChild => along.exists_joined isChild
    upward := fun _ present => tree.top_or_joined present
    ancestors := tree.ancestors_eq
    descendants := fun id => ⟨tree.descendants_ascending id, fun _ => tree.mem_descendants⟩
    children := fun id => ⟨tree.children_ascending id, fun _ => tree.mem_children_iff⟩
    layout := fun _ present => tree.keyLayout_spec present }

end GroupDeclaration

/-! ## A lending library -/

namespace Lending

/-- Readers, their visits and loans, and the fines for a loan, which are declared
first. -/
def declaration : GroupDeclaration where
  id := 6
  name := "lending"
  root := some ⟨⟨"s", "readers"⟩, [Shop.number "reader"], ["reader"]⟩
  children :=
    [⟨"loans", ⟨⟨"s", "fines"⟩, [Shop.number "debtor", Shop.number "loan"], []⟩,
        ⟨["loan", "debtor"], ["loan", "reader"]⟩⟩,
      ⟨"readers", ⟨⟨"s", "visits"⟩, [Shop.number "day", Shop.number "reader"], ["day"]⟩,
        ⟨["reader"], ["reader"]⟩⟩,
      ⟨"readers", ⟨⟨"s", "loans"⟩, [Shop.number "loan", Shop.number "reader"], ["loan"]⟩,
        ⟨["reader"], ["reader"]⟩⟩]

/-- The readers of the lending library. -/
def readers : Table :=
  ⟨⟨1⟩, ⟨"s", "readers"⟩, [Shop.number "reader"], [0], none, [⟨2⟩, ⟨3⟩], 0, [⟨⟨1⟩, [0]⟩]⟩

/-- The visits of a reader. -/
def visits : Table :=
  ⟨⟨2⟩, ⟨"s", "visits"⟩, [Shop.number "day", Shop.number "reader"], [0], some ⟨⟨1⟩, [⟨1, 0⟩]⟩, [],
    1, [⟨⟨1⟩, [1]⟩, ⟨⟨2⟩, [0]⟩]⟩

/-- The loans of a reader. -/
def loans : Table :=
  ⟨⟨3⟩, ⟨"s", "loans"⟩, [Shop.number "loan", Shop.number "reader"], [0], some ⟨⟨1⟩, [⟨1, 0⟩]⟩,
    [⟨4⟩], 1, [⟨⟨1⟩, [1]⟩, ⟨⟨3⟩, [0]⟩]⟩

/-- The fines for a loan. -/
def fines : Table :=
  ⟨⟨4⟩, ⟨"s", "fines"⟩, [Shop.number "debtor", Shop.number "loan", Column.hiddenKey], [2],
    some ⟨⟨3⟩, [⟨1, 0⟩, ⟨0, 1⟩]⟩, [], 2, [⟨⟨1⟩, [0]⟩, ⟨⟨3⟩, [1]⟩, ⟨⟨4⟩, [2]⟩]⟩

/-- The built lending library. -/
def group : Group :=
  ⟨6, "lending", [readers, visits, loans, fines]⟩

theorem build_declaration :
    declaration.build = .ok group := rfl

/-- Loans and fines stand in the order of the tree and not of their declarations. -/
theorem realizes_declaration :
    declaration.build = .ok group ∧ GroupDeclaration.Realizes group declaration ∧
      group.descendants ⟨1⟩ = [⟨2⟩, ⟨3⟩, ⟨4⟩] ∧ group.descendants ⟨3⟩ = [⟨4⟩] :=
  ⟨build_declaration, GroupDeclaration.realizes_of_build build_declaration, rfl, rfl⟩

end Lending
end Keyspace
