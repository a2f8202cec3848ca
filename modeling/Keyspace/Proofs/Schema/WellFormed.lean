import Keyspace.Proofs.Schema.BuiltTree

/-!
# Well-formed declarations

A declaration is well-formed if its tables make one tree, its keys and joins
name columns that exist, and each join repeats all columns of the parent that
give keys of its rows.  These are conditions on the declaration alone, with its
children in any order.  Where every name has one table, a declared table stands
for its index, so the conditions can be read off the links between indexes.
-/

namespace Keyspace

namespace TableDeclaration

/-- The columns, with an added one if no key is declared. -/
def allColumns (table : TableDeclaration) : List Column :=
  if table.primaryKey.isEmpty then table.columns ++ [Column.hiddenKey] else table.columns

/-- The positions of the key. -/
def keyPositions (table : TableDeclaration) : List Nat :=
  if table.primaryKey.isEmpty then [table.columns.length]
  else table.primaryKey.filterMap (Column.position? table.columns)

end TableDeclaration

namespace JoinDeclaration

/-- The first column of the child that is joined to a position of the parent. -/
def childPosition?
    (join : JoinDeclaration)
    (childColumns parentColumns : List Column)
    (position : Nat) : Option Nat :=
  ((join.childColumns.zip join.parentColumns).find? fun names =>
    Column.position? parentColumns names.2 == some position).bind fun names =>
      Column.position? childColumns names.1

/-- Whether a join pairs columns that exist. -/
structure Joins
    (join : JoinDeclaration)
    (childColumns parentColumns : List Column) : Prop where
  /-- Every column has a partner. -/
  sameLength : join.childColumns.length = join.parentColumns.length
  /-- There is a pair. -/
  nonempty : join.childColumns ≠ []
  /-- The child has its columns. -/
  inChild : ∀ name ∈ join.childColumns, name ∈ childColumns.map (·.name)
  /-- The parent has its columns. -/
  inParent : ∀ name ∈ join.parentColumns, name ∈ parentColumns.map (·.name)

end JoinDeclaration

namespace GroupDeclaration

/-- All declared tables. -/
def tables (declaration : GroupDeclaration) : List TableDeclaration :=
  declaration.root.toList ++ declaration.children.map (·.table)

/-- Whether a table is the root or is declared below one that is reached. -/
inductive Reaches (declaration : GroupDeclaration) : TableDeclaration -> Prop
  | root {table : TableDeclaration}
      (isRoot : declaration.root = some table) :
      Reaches declaration table
  | child {child : ChildDeclaration} {parent : TableDeclaration}
      (isChild : child ∈ declaration.children)
      (reached : Reaches declaration parent)
      (named : parent.name.table = child.parent) :
      Reaches declaration child.table

/-- Whether a position of a table gives a part of a row's key: of the row's own
key, or through the join of a key of its parent. -/
inductive KeyColumn (declaration : GroupDeclaration) : TableDeclaration -> Nat -> Prop
  | own {table : TableDeclaration} {position : Nat}
      (isKey : position ∈ table.keyPositions) :
      KeyColumn declaration table position
  | joined {child : ChildDeclaration} {parent : TableDeclaration} {above position : Nat}
      (isChild : child ∈ declaration.children)
      (isTable : parent ∈ declaration.tables)
      (named : parent.name.table = child.parent)
      (parentKey : KeyColumn declaration parent above)
      (carried : child.join.childPosition? child.table.allColumns parent.allColumns above =
        some position) :
      KeyColumn declaration child.table position

/-- Whether a join repeats all columns of a parent that give keys. -/
def Cascades
    (declaration : GroupDeclaration)
    (join : JoinDeclaration)
    (parent : TableDeclaration) : Prop :=
  ∀ position, declaration.KeyColumn parent position ->
    ∃ name ∈ join.parentColumns, Column.position? parent.allColumns name = some position

/-- Whether the tables of a declaration are a tree whose keys go down all joins. -/
structure WellFormed (declaration : GroupDeclaration) : Prop where
  /-- There is a root. -/
  rooted : ∃ root, declaration.root = some root
  /-- No two tables have one unqualified name. -/
  distinct : (declaration.tables.map (·.name.table)).Nodup
  /-- Every child names another table as its parent. -/
  parents : ∀ child ∈ declaration.children, child.parent ≠ child.table.name.table ∧
    ∃ parent ∈ declaration.tables, parent.name.table = child.parent
  /-- Every table is reached from the root. -/
  reached : ∀ table ∈ declaration.tables, declaration.Reaches table
  /-- Every key is of columns of its table. -/
  keys : ∀ table ∈ declaration.tables, ∀ name ∈ table.primaryKey,
    name ∈ table.columns.map (·.name)
  /-- Every join is of columns of the child and of its parent. -/
  joins : ∀ child ∈ declaration.children, ∀ parent ∈ declaration.tables,
    parent.name.table = child.parent ->
      child.join.Joins child.table.allColumns parent.allColumns
  /-- Every join repeats the parent's key columns. -/
  cascades : ∀ child ∈ declaration.children, ∀ parent ∈ declaration.tables,
    parent.name.table = child.parent -> declaration.Cascades child.join parent

end GroupDeclaration

/-! ## Columns by name -/

theorem Column.exists_position?
    {columns : List Column}
    {name : String}
    (named : name ∈ columns.map (·.name)) :
    ∃ position, Column.position? columns name = some position := by
  rw [← Option.isSome_iff_exists, Column.position?, List.findIdx?_isSome]
  obtain ⟨column, present, rfl⟩ := List.mem_map.mp named
  exact List.any_eq_true.mpr ⟨column, present, by simp⟩

theorem Column.mem_names_of_position?
    {columns : List Column}
    {name : String}
    {position : Nat}
    (found : Column.position? columns name = some position) :
    name ∈ columns.map (·.name) := by
  obtain ⟨inside, here, _⟩ := List.findIdx?_eq_some_iff_getElem.mp found
  exact List.mem_map.mpr ⟨columns[position], List.getElem_mem inside, by simpa using here⟩

theorem JoinDeclaration.Joins.exists_childPosition?_iff
    {join : JoinDeclaration}
    {childColumns parentColumns : List Column}
    {position : Nat}
    (joins : join.Joins childColumns parentColumns) :
    (∃ childPosition, join.childPosition? childColumns parentColumns position =
        some childPosition) ↔
      ∃ name ∈ join.parentColumns, Column.position? parentColumns name = some position := by
  constructor
  · rintro ⟨childPosition, found⟩
    obtain ⟨names, first, _⟩ := Option.bind_eq_some_iff.mp found
    have here := List.find?_some (p := fun names : String × String =>
      Column.position? parentColumns names.2 == some position) first
    exact ⟨names.2, (List.of_mem_zip (List.mem_of_find?_eq_some first)).2, eq_of_beq here⟩
  · rintro ⟨name, present, here⟩
    rw [← List.map_snd_zip joins.sameLength.ge] at present
    obtain ⟨names, inZip, rfl⟩ := List.mem_map.mp present
    cases first : (join.childColumns.zip join.parentColumns).find? fun names =>
        Column.position? parentColumns names.2 == some position with
    | none => exact absurd (List.find?_eq_none.mp first names inZip) (by simp [here])
    | some earliest =>
        rw [JoinDeclaration.childPosition?, first, Option.bind_some]
        have among := (List.of_mem_zip (List.mem_of_find?_eq_some first)).1
        exact Column.exists_position? (joins.inChild _ among)

/-! ## Tables by name -/

/-- Whether a declared table is joined to its parent, if it names one, over all
columns that give keys. -/
def DeclaredTable.Hangs (declaration : GroupDeclaration) (entry : DeclaredTable) : Prop :=
  ∀ name join, entry.link = some (name, join) ->
    ∀ parent ∈ declaration.tables, parent.name.table = name ->
      join.Joins entry.table.allColumns parent.allColumns ∧ declaration.Cascades join parent

/-- Whether a declared table has the columns of its key and hangs below its parent. -/
def DeclaredTable.Fits (declaration : GroupDeclaration) (entry : DeclaredTable) : Prop :=
  (∀ name ∈ entry.table.primaryKey, name ∈ entry.table.columns.map (·.name)) ∧
    entry.Hangs declaration

namespace GroupDeclaration

variable
  {declaration : GroupDeclaration}
  {root : TableDeclaration}
  {parents : List (Option Nat)}

theorem tables_eq_of_root
    (isRoot : declaration.root = some root) :
    declaration.tables = (declared root declaration.children).map (·.table) := by
  rw [tables, isRoot, declared_map_table]
  rfl

theorem exists_child_of_link
    {entry : DeclaredTable}
    {name : String}
    {join : JoinDeclaration}
    (present : entry ∈ declared root declaration.children)
    (link : entry.link = some (name, join)) :
    ∃ child ∈ declaration.children, child.table = entry.table ∧ child.parent = name ∧
      child.join = join := by
  rcases List.mem_cons.mp present with rfl | present
  · simp at link
  · obtain ⟨child, isChild, rfl⟩ := List.mem_map.mp present
    obtain ⟨rfl, rfl⟩ := Prod.mk.inj (Option.some.inj link)
    exact ⟨child, isChild, rfl, rfl, rfl⟩

namespace LinkedAlong

variable
  (along : LinkedAlong declaration root parents)

include along

theorem tables_eq :
    declaration.tables = (declared root declaration.children).map (·.table) :=
  tables_eq_of_root along.root_eq

theorem exists_index_of_mem
    {table : TableDeclaration}
    (isTable : table ∈ declaration.tables) :
    ∃ (index : Nat) (entry : DeclaredTable),
      (declared root declaration.children)[index]? = some entry ∧ entry.table = table := by
  rw [along.tables_eq] at isTable
  obtain ⟨entry, present, rfl⟩ := List.mem_map.mp isTable
  obtain ⟨index, inside, rfl⟩ := List.getElem_of_mem present
  exact ⟨index, _, List.getElem?_eq_getElem inside, rfl⟩

theorem mem_tables
    {index : Nat}
    {entry : DeclaredTable}
    (here : (declared root declaration.children)[index]? = some entry) :
    entry.table ∈ declaration.tables := by
  rw [along.tables_eq]
  exact List.mem_map_of_mem (List.mem_of_getElem? here)

/-- A name is that of one table. -/
theorem eq_of_name
    {first second : TableDeclaration}
    (firstTable : first ∈ declaration.tables)
    (secondTable : second ∈ declaration.tables)
    (same : first.name.table = second.name.table) :
    first = second := by
  obtain ⟨index, entry, here, rfl⟩ := along.exists_index_of_mem firstTable
  obtain ⟨place, other, there, rfl⟩ := along.exists_index_of_mem secondTable
  obtain rfl := along.index_eq_of_name here there same
  rw [Option.some.inj (here.symm.trans there)]

/-- The declaration of a child stands at the index of its table. -/
theorem entry_of_child
    {index : Nat}
    {entry : DeclaredTable}
    {child : ChildDeclaration}
    (here : (declared root declaration.children)[index]? = some entry)
    (isChild : child ∈ declaration.children)
    (same : child.table = entry.table) :
    entry = ⟨child.table, some (child.parent, child.join)⟩ := by
  obtain ⟨place, there⟩ := List.getElem?_of_mem (mem_declared_of_child isChild)
  obtain rfl := along.index_eq_of_name here there (by rw [same])
  exact Option.some.inj (here.symm.trans there)

/-! ## Key columns -/

theorem keyColumn_iff
    {index position : Nat}
    {entry : DeclaredTable}
    (here : (declared root declaration.children)[index]? = some entry) :
    declaration.KeyColumn entry.table position ↔
      position ∈ entry.table.keyPositions ∨
        ∃ name join parent above, entry.link = some (name, join) ∧
          parent ∈ declaration.tables ∧ parent.name.table = name ∧
          declaration.KeyColumn parent above ∧
          join.childPosition? entry.table.allColumns parent.allColumns above = some position := by
  constructor
  · generalize same : entry.table = table
    rintro (isKey | ⟨isChild, isTable, named, parentKey, carried⟩)
    · exact .inl isKey
    · obtain rfl := along.entry_of_child here isChild same.symm
      exact .inr ⟨_, _, _, _, rfl, isTable, named, parentKey, carried⟩
  · rintro (isKey | ⟨name, join, parent, above, link, isTable, named, parentKey, carried⟩)
    · exact .own isKey
    · obtain ⟨child, isChild, same, rfl, rfl⟩ :=
        exists_child_of_link (List.mem_of_getElem? here) link
      rw [← same] at carried ⊢
      exact .joined isChild isTable named parentKey carried

section Linked

variable
  {index : Nat}
  {entry : DeclaredTable}
  {name : String}
  {join : JoinDeclaration}
  {parent : TableDeclaration}
  (here : (declared root declaration.children)[index]? = some entry)
  (link : entry.link = some (name, join))
  (isTable : parent ∈ declaration.tables)
  (named : parent.name.table = name)

include here link isTable named

theorem keyColumn_iff_of_link
    {position : Nat} :
    declaration.KeyColumn entry.table position ↔
      (∃ above, declaration.KeyColumn parent above ∧
        join.childPosition? entry.table.allColumns parent.allColumns above = some position) ∨
      position ∈ entry.table.keyPositions := by
  rw [along.keyColumn_iff here, or_comm]
  refine or_congr_left ⟨?_, ?_⟩
  · rintro ⟨_, _, other, above, sameLink, isOther, rfl, parentKey, carried⟩
    obtain ⟨sameName, rfl⟩ := Prod.mk.inj (Option.some.inj (link.symm.trans sameLink))
    obtain rfl := along.eq_of_name isTable isOther (named.trans sameName)
    exact ⟨above, parentKey, carried⟩
  · rintro ⟨above, parentKey, carried⟩
    exact ⟨name, join, parent, above, link, isTable, named, parentKey, carried⟩

omit here in
theorem hangs_iff_of_link :
    entry.Hangs declaration ↔
      join.Joins entry.table.allColumns parent.allColumns ∧
        declaration.Cascades join parent := by
  constructor
  · exact fun hangs => hangs name join link parent isTable named
  · rintro both _ _ sameLink other isOther rfl
    obtain ⟨sameName, rfl⟩ := Prod.mk.inj (Option.some.inj (link.symm.trans sameLink))
    obtain rfl := along.eq_of_name isTable isOther (named.trans sameName)
    exact both

end Linked

/-! ## Tables that are reached -/

/-- The tables that climb to the root are reached from it. -/
theorem reaches_of_climb
    {steps index : Nat}
    {entry : DeclaredTable}
    (here : (declared root declaration.children)[index]? = some entry)
    (climbs : climb parents steps index = some 0) :
    declaration.Reaches entry.table := by
  induction steps generalizing index entry with
  | zero =>
      obtain rfl := Option.some.inj climbs
      obtain rfl : (⟨root, none⟩ : DeclaredTable) = entry := Option.some.inj here
      exact .root along.root_eq
  | succ steps inductionHypothesis =>
      obtain ⟨parent, parentHere, finds⟩ := exists_getElem?_of_forall₂ along.linked here
      rw [climb, parentHere, Option.join_some] at climbs
      rcases parentIndex_eq_ok finds with
        ⟨_, rfl⟩ | ⟨name, join, above, other, link, rfl, there, named⟩
      · simp at climbs
      · obtain ⟨child, isChild, same, rfl, rfl⟩ :=
        exists_child_of_link (List.mem_of_getElem? here) link
        rw [← same]
        exact .child isChild (inductionHypothesis there climbs) named

/-- A walk from the root passes all tables that are reached. -/
theorem mem_order_of_reaches
    {order : List Nat}
    {table : TableDeclaration}
    (walk : PreorderOf (childIndexes parents) [0] order)
    (reached : declaration.Reaches table) :
    ∃ index ∈ order, ∃ entry : DeclaredTable,
      (declared root declaration.children)[index]? = some entry ∧ entry.table = table := by
  induction reached with
  | root isRoot =>
      obtain rfl := Option.some.inj (along.root_eq.symm.trans isRoot)
      exact ⟨0, walk.sublist_of_roots.subset (by simp), _, rfl, rfl⟩
  | @child child parent isChild _ named inductionHypothesis =>
      obtain ⟨above, member, parentEntry, there, rfl⟩ := inductionHypothesis
      have isTable : child.table ∈ declaration.tables :=
        List.mem_append_right _ (List.mem_map_of_mem isChild)
      obtain ⟨index, entry, here, same⟩ := along.exists_index_of_mem isTable
      obtain rfl := along.entry_of_child here isChild same.symm
      have linked := (along.parents_eq_some_iff here there).mpr (by simp [named])
      exact ⟨index, walk.mem_of_below above member index (mem_childIndexes.mpr linked), _,
        here, rfl⟩

/-- The walk from the root is complete if all tables are reached. -/
theorem length_order_eq_iff
    {order : List Nat}
    (walk : order = preorder parents parents.length 0) :
    order.length = parents.length ↔ ∀ table ∈ declaration.tables, declaration.Reaches table := by
  obtain ⟨isPreorder, distinct, inside⟩ := walk ▸ preorder_spec along.top
  constructor
  · intro complete table isTable
    obtain ⟨index, entry, here, rfl⟩ := along.exists_index_of_mem isTable
    have whole : WalkedAlong declaration root parents order := ⟨along, walk, complete⟩
    have present : index ∈ order := by
      rw [whole.mem_order, ← along.linked.length_eq]
      exact (List.getElem?_eq_some_iff.mp here).1
    obtain ⟨top, isTop, steps, climbs⟩ := exists_climb isPreorder index present
    obtain rfl := List.mem_singleton.mp isTop
    exact along.reaches_of_climb here climbs
  · intro reached
    have all : List.range parents.length ⊆ order := by
      intro index early
      rw [List.mem_range, ← along.linked.length_eq] at early
      have here := List.getElem?_eq_getElem early
      obtain ⟨place, present, other, there, same⟩ :=
        along.mem_order_of_reaches isPreorder (reached _ (along.mem_tables here))
      rwa [along.index_eq_of_name here there (by rw [same])]
    have most := (List.subperm_of_subset List.nodup_range all).length_le
    have least := (List.subperm_of_subset distinct
      fun index present => List.mem_range.mpr (inside index present)).length_le
    simpa using le_antisymm least most

/-- A complete walk passes few tables, each with a property, if few tables are
declared and each has the property. -/
theorem complete_and_iff
    {order : List Nat}
    {condition : DeclaredTable -> Prop}
    (walk : order = preorder parents parents.length 0) :
    (order.length = parents.length ∧ order.length ≤ maxTables ∧
        ∀ index ∈ order, ∀ entry, (declared root declaration.children)[index]? = some entry ->
          condition entry) ↔
      ((∀ table ∈ declaration.tables, declaration.Reaches table) ∧
        ∀ entry ∈ declared root declaration.children, condition entry) ∧
          declaration.tables.length ≤ maxTables := by
  rw [← along.length_order_eq_iff walk, and_assoc]
  refine and_congr_right fun complete => ?_
  have whole : WalkedAlong declaration root parents order := ⟨along, walk, complete⟩
  have sameLength : declaration.tables.length = order.length := by
    rw [along.tables_eq, List.length_map, along.linked.length_eq, complete]
  rw [sameLength, and_comm]
  refine and_congr_left' ⟨?_, ?_⟩
  · intro each entry present
    obtain ⟨index, here⟩ := List.getElem?_of_mem present
    refine each index (whole.mem_order.mpr ?_) entry here
    exact along.linked.length_eq ▸ (List.getElem?_eq_some_iff.mp here).1
  · exact fun each index _ entry here => each entry (List.mem_of_getElem? here)

end LinkedAlong

/-- With a root and distinct names, a declaration is well-formed if each of its
tables names another as its parent, is reached and fits. -/
theorem wellFormed_iff
    (isRoot : declaration.root = some root)
    (distinct : repeated? [] (declared root declaration.children) = none) :
    declaration.WellFormed ↔
      (∀ entry ∈ declared root declaration.children, ∀ name join,
        entry.link = some (name, join) -> name ≠ entry.table.name.table ∧
          ∃ other ∈ declared root declaration.children, other.table.name.table = name) ∧
      (∀ table ∈ declaration.tables, declaration.Reaches table) ∧
      ∀ entry ∈ declared root declaration.children, entry.Fits declaration := by
  have isTables := tables_eq_of_root isRoot
  constructor
  · intro wellFormed
    refine ⟨?_, wellFormed.reached, fun entry present => ⟨?_, ?_⟩⟩
    · intro entry present name join link
      obtain ⟨child, isChild, same, rfl, rfl⟩ := exists_child_of_link present link
      obtain ⟨differs, parent, isTable, named⟩ := wellFormed.parents child isChild
      obtain ⟨other, among, rfl⟩ := List.mem_map.mp (isTables ▸ isTable)
      exact ⟨same ▸ differs, other, among, named⟩
    · exact wellFormed.keys _ (isTables ▸ List.mem_map_of_mem present)
    · rintro name join link parent isTable named
      obtain ⟨child, isChild, same, rfl, rfl⟩ := exists_child_of_link present link
      rw [← same]
      exact ⟨wellFormed.joins child isChild parent isTable named,
        wellFormed.cascades child isChild parent isTable named⟩
  · rintro ⟨linked, reached, fit⟩
    have hangs : ∀ child ∈ declaration.children, ∀ parent ∈ declaration.tables,
        parent.name.table = child.parent ->
          child.join.Joins child.table.allColumns parent.allColumns ∧
            declaration.Cascades child.join parent :=
      fun child isChild => (fit _ (mem_declared_of_child isChild)).2 _ _ rfl
    refine ⟨⟨root, isRoot⟩, ?_, ?_, reached, ?_, ?_, ?_⟩
    · rw [isTables, List.map_map]
      exact (nodup_of_repeated? distinct).1
    · intro child isChild
      obtain ⟨differs, other, among, named⟩ := linked _ (mem_declared_of_child isChild) _ _ rfl
      exact ⟨differs, other.table, isTables ▸ List.mem_map_of_mem among, named⟩
    · rw [isTables]
      exact List.forall_mem_map.mpr fun entry present => (fit entry present).1
    · exact fun child isChild parent isTable named => (hangs child isChild parent isTable named).1
    · exact fun child isChild parent isTable named => (hangs child isChild parent isTable named).2

end GroupDeclaration
end Keyspace
