import Keyspace.Proofs.Row.Storage
import Keyspace.Proofs.Schema.BuiltTree
import Keyspace.Schema.Storability

/-!
# What a checked group can store

The check of a group looks at the declared types of its columns, and encoding
looks at the values of a row.  Both agree: the columns that the check names are
those at which some row is refused, and a group passes the check exactly if all
rows of its tables are encoded, as long as their values are of the classes of
their columns.
-/

namespace Keyspace

/-! ## Classes of types -/

namespace DataType

/-- The name of the class of values that columns of a type hold. -/
def className : DataType -> String
  | tinyInt => "tinyint"
  | smallInt => "smallint"
  | mediumInt => "int"
  | int => "int"
  | bigInt => "bigint"
  | unsignedTinyInt => "unsigned"
  | unsignedSmallInt => "unsigned"
  | unsignedMediumInt => "unsigned"
  | unsignedInt => "unsigned"
  | unsignedBigInt => "unsigned"
  | decimal _ _ => "decimal"
  | float => "float"
  | double => "double"
  | char _ => "string"
  | varchar _ => "string"
  | text => "string"
  | binary _ => "bytes"
  | varbinary _ => "bytes"
  | blob => "blob"
  | date => "date"
  | time => "time"
  | dateTime => "timestamp"
  | timestamp => "timestamp"
  | year => "year"
  | guid => "guid"
  | boolean => "boolean"
  | intervalMonths => "interval"
  | intervalMillis => "interval"

/-- Whether a value is absent or of the class of a type. -/
def Declares (dataType : DataType) (value : Value) : Prop :=
  value = .null ∨ value.typeName = dataType.className

theorem className_eq_interval_iff
    {dataType : DataType} :
    dataType.className = "interval" ↔ dataType.isTupleEncodable = false := by
  cases dataType <;> simp [className, isTupleEncodable]

end DataType

theorem Value.exists_toElement_iff
    {value : Value} :
    (∃ element, value.toElement = .ok element) ↔ value.typeName ≠ "interval" := by
  cases value <;> simp [toElement, typeName]

/-! ## Rows of the classes of their columns -/

namespace Row

/-- Whether there is one value per column, absent or of the class of the column's
type. -/
def HasClasses (row : Row) : Prop :=
  List.Forall₂ (fun column value => column.dataType.Declares value) row.rowType.columns row.values

/-- Whether the value at a position is there, and no other. -/
def IsLone (row : Row) (position : Nat) : Prop :=
  ∀ index value, row.values[index]? = some value -> (value ≠ .null ↔ index = position)

theorem isLone_lone
    {rowType : RowType}
    {position : Nat}
    {value : Value}
    (isThere : value ≠ .null) :
    (ofValues rowType (lone rowType.columns position value)).IsLone position := by
  intro index other found
  rw [ofValues, lone, List.getElem?_set] at found
  split at found
  case isTrue here =>
    obtain ⟨_, same⟩ := Option.ite_none_right_eq_some.mp found
    obtain rfl := Option.some.inj same
    exact iff_of_true isThere here.symm
  case isFalse elsewhere =>
    rw [List.getElem?_map] at found
    obtain ⟨_, _, rfl⟩ := Option.map_eq_some_iff.mp found
    exact iff_of_false (fun absent => absent rfl) fun same => elsewhere same.symm

/-- A row with one value per column is encoded exactly if none is an interval. -/
theorem exists_toTuple_iff
    {row : Row}
    (shaped : row.values.length = row.rowType.columns.length) :
    (∃ tuple, row.toTuple = .ok tuple) ↔ ∀ value ∈ row.values, value.typeName ≠ "interval" := by
  simp only [toTuple_eq_ok, shaped, true_and]
  constructor
  · rintro ⟨tuple, elements⟩ value present
    obtain ⟨index, here⟩ := List.getElem?_of_mem present
    obtain ⟨element, _, encoded⟩ := exists_getElem?_of_forall₂ elements here
    exact Value.exists_toElement_iff.mp ⟨element, encoded⟩
  · intro plain
    exact exists_forall₂ fun value present => Value.exists_toElement_iff.mpr (plain value present)

end Row

/-! ## Columns of a table -/

namespace Table

/-- Whether a row of the table with a value at one position only, of the class of
the column, is not encoded. -/
def RefusesAt (table : Table) (position : Nat) : Prop :=
  ∃ row : Row, row.rowType = table.rowType ∧ row.HasClasses ∧ row.IsLone position ∧
    ∃ error, row.toTuple = .error error

/-- Whether all rows of the table with values of the classes of their columns are
encoded. -/
def Encodes (table : Table) : Prop :=
  ∀ row : Row, row.rowType = table.rowType -> row.HasClasses -> ∃ tuple, row.toTuple = .ok tuple

theorem isUnstorable_eq_true_iff
    {table : Table}
    {position : Nat} :
    table.isUnstorable position = true ↔
      ∃ column, table.columns[position]? = some column ∧
        column.dataType.isTupleEncodable = false := by
  unfold isUnstorable
  split <;> simp_all

/-- A row that is not encoded has a value where the check finds a column. -/
theorem exists_isUnstorable_of_error
    {table : Table}
    {row : Row}
    {error : Error}
    (ofTable : row.rowType = table.rowType)
    (fits : row.HasClasses)
    (refused : row.toTuple = .error error) :
    ∃ position value, row.values[position]? = some value ∧ value ≠ .null ∧
      table.isUnstorable position = true := by
  have notPlain : ¬ ∀ value ∈ row.values, value.typeName ≠ "interval" := by
    rw [← Row.exists_toTuple_iff fits.length_eq.symm, refused]
    simp
  push Not at notPlain
  obtain ⟨value, present, isInterval⟩ := notPlain
  obtain ⟨position, here⟩ := List.getElem?_of_mem present
  obtain ⟨column, columnHere, declares⟩ := exists_getElem?_of_forall₂ fits.flip here
  have isThere : value ≠ .null := by
    rintro rfl
    simp [Value.typeName] at isInterval
  have sameClass := declares.resolve_left isThere
  refine ⟨position, value, here, isThere, isUnstorable_eq_true_iff.mpr ⟨column, ?_, ?_⟩⟩
  · rw [ofTable] at columnHere
    exact columnHere
  · exact DataType.className_eq_interval_iff.mp (sameClass.symm.trans isInterval)

/-- The check finds the columns at which a row is refused. -/
theorem refusesAt_iff
    {table : Table}
    {position : Nat} :
    table.RefusesAt position ↔ table.isUnstorable position = true := by
  constructor
  · rintro ⟨row, ofTable, fits, isLone, error, refused⟩
    obtain ⟨index, value, here, isThere, unstorable⟩ :=
      exists_isUnstorable_of_error ofTable fits refused
    obtain rfl := (isLone index value here).mp isThere
    exact unstorable
  · intro unstorable
    obtain ⟨column, here, notEncodable⟩ := isUnstorable_eq_true_iff.mp unstorable
    have isInterval := DataType.className_eq_interval_iff.mpr notEncodable
    have fits : (Row.ofValues table.rowType
        (Row.lone table.columns position (.interval 0))).HasClasses :=
      Row.forall₂_lone (fun _ => .inl rfl) here (.inr isInterval.symm)
    refine ⟨_, rfl, fits, Row.isLone_lone (by simp), ?_⟩
    cases encoded : (Row.ofValues table.rowType
        (Row.lone table.columns position (.interval 0))).toTuple with
    | error error => exact ⟨error, rfl⟩
    | ok tuple =>
        have plain := (Row.exists_toTuple_iff fits.length_eq.symm).mp ⟨tuple, encoded⟩
        exact absurd rfl (plain _ (List.mem_of_getElem? (Row.getElem?_lone here _)))

/-- All rows are encoded exactly if the check finds no column. -/
theorem encodes_iff
    {table : Table} :
    table.Encodes ↔ ∀ position, ¬ table.isUnstorable position = true := by
  constructor
  · intro encodes position unstorable
    obtain ⟨row, ofTable, fits, _, error, refused⟩ := refusesAt_iff.mpr unstorable
    obtain ⟨tuple, encoded⟩ := encodes row ofTable fits
    simp [refused] at encoded
  · intro storable row ofTable fits
    cases encoded : row.toTuple with
    | ok tuple => exact ⟨tuple, rfl⟩
    | error error =>
        obtain ⟨position, _, _, _, unstorable⟩ :=
          exists_isUnstorable_of_error ofTable fits encoded
        exact absurd unstorable (storable position)

/-- The positions of the columns that no tuple can hold. -/
def unstorablePositions (table : Table) : List Nat :=
  (table.usedPositions .keyAndRow).filter table.isUnstorable

theorem nodup_unstorablePositions
    (table : Table) :
    table.unstorablePositions.Nodup :=
  List.nodup_range.filter _

theorem mem_unstorablePositions
    {table : Table}
    {position : Nat} :
    position ∈ table.unstorablePositions ↔ table.isUnstorable position = true := by
  rw [unstorablePositions, List.mem_filter, usedPositions, List.mem_range, and_iff_right_iff_imp]
  intro unstorable
  obtain ⟨_, here, _⟩ := isUnstorable_eq_true_iff.mp unstorable
  exact (List.getElem?_eq_some_iff.mp here).1

end Table

/-! ## The tables of a group -/

namespace Group

variable {group : Group}

/-- A table and all tables below it. -/
def subtree (group : Group) (table : Table) : List Table :=
  table :: (group.descendants table.id).filterMap group.table?

/-- The columns of a table and of all tables below it that no tuple can hold, by
table and position. -/
def unstorablePlaces (group : Group) (table : Table) : List (Table × Nat) :=
  (group.subtree table).flatMap fun member => member.unstorablePositions.map (member, ·)

theorem unstorableColumns_eq
    {table : Table} :
    group.unstorableColumns table .keyAndRow =
      (group.unstorablePlaces table).map fun place => place.1.qualifiedColumn place.2 := by
  simp only [unstorableColumns, unstorablePlaces, subtree, List.map_flatMap, List.map_map]
  rfl

theorem mem_unstorablePlaces
    {table member : Table}
    {position : Nat} :
    (member, position) ∈ group.unstorablePlaces table ↔
      member ∈ group.subtree table ∧ member.RefusesAt position := by
  simp [unstorablePlaces, Table.refusesAt_iff, Table.mem_unstorablePositions]

theorem validate_eq_ok
    {root : Table}
    (isRoot : group.root? = some root) :
    group.validate = .ok () ↔ group.unstorablePlaces root = [] := by
  simp only [validate, isRoot, unstorableColumns_eq, List.isEmpty_iff, List.map_eq_nil_iff]
  split <;> simp_all

section Tree

variable (tree : group.IsTree)

include tree

theorem mem_subtree
    {table member : Table} :
    member ∈ group.subtree table ↔
      member = table ∨ member ∈ group.tables ∧ group.isAncestor table.id member.id = true := by
  simp only [subtree, List.mem_cons, List.mem_filterMap, tree.numbered.table?_eq_some,
    tree.mem_descendants]
  refine or_congr_right ⟨?_, ?_⟩
  · rintro ⟨_, below, inGroup, rfl⟩
    exact ⟨inGroup, below⟩
  · rintro ⟨inGroup, below⟩
    exact ⟨_, below, inGroup, rfl⟩

theorem nodup_subtree
    {table : Table}
    (present : table ∈ group.tables) :
    (group.subtree table).Nodup := by
  have distinct : (group.descendants table.id).Nodup := by
    refine (tree.descendants_ascending table.id).imp ?_
    rintro id _ before rfl
    exact UInt32.lt_irrefl _ before
  refine List.nodup_cons.mpr ⟨?_, distinct.filterMap ?_⟩
  · intro inBelow
    obtain ⟨id, below, found⟩ := List.mem_filterMap.mp inBelow
    obtain ⟨_, rfl⟩ := tree.numbered.table?_eq_some.mp found
    exact UInt32.lt_irrefl _ (tree.ordinal_lt_of_isAncestor present (tree.mem_descendants.mp below))
  · intro first second member isFirst isSecond
    obtain ⟨_, rfl⟩ := tree.numbered.table?_eq_some.mp isFirst
    exact (tree.numbered.table?_eq_some.mp isSecond).2

theorem nodup_unstorablePlaces
    {table : Table}
    (present : table ∈ group.tables) :
    (group.unstorablePlaces table).Nodup := by
  refine List.nodup_flatMap.mpr ⟨?_, ?_⟩
  · intro member _
    exact member.nodup_unstorablePositions.map fun first second same => (Prod.mk.inj same).2
  · refine (nodup_subtree tree present).imp ?_
    intro first second differ place inFirst inSecond
    obtain ⟨_, _, rfl⟩ := List.mem_map.mp inFirst
    obtain ⟨_, _, same⟩ := List.mem_map.mp inSecond
    exact differ (Prod.mk.inj same).1.symm

end Tree

/-- In every group that can be built, the check passes exactly if all rows of the
tables are encoded whose values are of the classes of their columns.  The columns
that it names for a table, each of them once, are those of the table and of all
tables below it at which a row is refused for the value there alone. -/
theorem validate_iff_encodes
    {declaration : GroupDeclaration}
    (built : declaration.build = .ok group) :
    (group.validate = .ok () ↔ ∀ table ∈ group.tables, table.Encodes) ∧
      ∀ table ∈ group.tables, ∃ places : List (Table × Nat), places.Nodup ∧
        group.unstorableColumns table .keyAndRow =
          places.map (fun place => place.1.qualifiedColumn place.2) ∧
        ∀ member position, (member, position) ∈ places ↔
          (member = table ∨
            member ∈ group.tables ∧ group.isAncestor table.id member.id = true) ∧
          member.RefusesAt position := by
  have tree := GroupDeclaration.isTree_of_build built
  refine ⟨?_, fun table present => ⟨_, nodup_unstorablePlaces tree present,
    unstorableColumns_eq, fun member position => ?_⟩⟩
  · obtain ⟨root, present, isRoot, reaches⟩ := tree.exists_root
    rw [validate_eq_ok isRoot, List.eq_nil_iff_forall_not_mem]
    constructor
    · intro clean table inGroup
      refine Table.encodes_iff.mpr fun position unstorable => clean (table, position) ?_
      refine mem_unstorablePlaces.mpr ⟨(mem_subtree tree).mpr ?_, Table.refusesAt_iff.mpr unstorable⟩
      exact (reaches table inGroup).imp_right fun below => ⟨inGroup, below⟩
    · rintro encodes ⟨member, position⟩ refused
      obtain ⟨inSubtree, refuses⟩ := mem_unstorablePlaces.mp refused
      have inGroup : member ∈ group.tables := by
        rcases (mem_subtree tree).mp inSubtree with rfl | ⟨inGroup, _⟩
        · exact present
        · exact inGroup
      exact Table.encodes_iff.mp (encodes member inGroup) position (Table.refusesAt_iff.mp refuses)
  · rw [mem_unstorablePlaces, mem_subtree tree]

end Group

/-! ## Flats to let -/

namespace Flats

/-- How many months a let runs. -/
def term : Column := ⟨"term", .intervalMonths, true, none, false⟩

/-- How long a notice waits. -/
def wait : Column := ⟨"wait", .intervalMillis, true, none, false⟩

/-- Flats, their lets and the notices of a let. -/
def declaration : GroupDeclaration where
  id := 11
  name := "flats"
  root := some ⟨⟨"s", "flats"⟩, [Shop.number "flat"], ["flat"]⟩
  children :=
    [⟨"flats", ⟨⟨"s", "lets"⟩, [Shop.number "let", Shop.number "flat", term], ["let"]⟩,
        ⟨["flat"], ["flat"]⟩⟩,
      ⟨"lets", ⟨⟨"s", "notices"⟩, [wait, Shop.number "let", Shop.number "flat"], []⟩,
        ⟨["let", "flat"], ["let", "flat"]⟩⟩]

/-- The flats. -/
def flats : Table :=
  ⟨⟨1⟩, ⟨"s", "flats"⟩, [Shop.number "flat"], [0], none, [⟨2⟩], 0, [⟨⟨1⟩, [0]⟩]⟩

/-- The lets of a flat. -/
def lets : Table :=
  ⟨⟨2⟩, ⟨"s", "lets"⟩, [Shop.number "let", Shop.number "flat", term], [0],
    some ⟨⟨1⟩, [⟨1, 0⟩]⟩, [⟨3⟩], 1, [⟨⟨1⟩, [1]⟩, ⟨⟨2⟩, [0]⟩]⟩

/-- The notices of a let. -/
def notices : Table :=
  ⟨⟨3⟩, ⟨"s", "notices"⟩, [wait, Shop.number "let", Shop.number "flat", Column.hiddenKey], [3],
    some ⟨⟨2⟩, [⟨1, 0⟩, ⟨2, 1⟩]⟩, [], 2, [⟨⟨1⟩, [2]⟩, ⟨⟨2⟩, [1]⟩, ⟨⟨3⟩, [3]⟩]⟩

/-- The built group of flats. -/
def group : Group := ⟨11, "flats", [flats, lets, notices]⟩

theorem build_declaration :
    declaration.build = .ok group := rfl

end Flats

namespace Group

/-- A term and a wait keep flats from being stored, and readers with their loans
can be. -/
theorem validate_iff_encodes_flats :
    Flats.declaration.build = .ok Flats.group ∧
      Flats.group.unstorableColumns Flats.flats .keyAndRow = ["s.lets.term", "s.notices.wait"] ∧
      (¬ ∀ table ∈ Flats.group.tables, table.Encodes) ∧
      Lending.declaration.build = .ok Lending.group ∧
      ∀ table ∈ Lending.group.tables, table.Encodes := by
  have named : Flats.group.unstorableColumns Flats.flats .keyAndRow =
      ["s.lets.term", "s.notices.wait"] := rfl
  refine ⟨Flats.build_declaration, named, fun encodes => ?_, Lending.build_declaration,
    (validate_iff_encodes Lending.build_declaration).1.mp rfl⟩
  have passes := (validate_iff_encodes Flats.build_declaration).1.mpr encodes
  rw [validate_eq_ok rfl] at passes
  rw [unstorableColumns_eq, passes] at named
  simp at named

end Group
end Keyspace
