import Keyspace.Proofs.Row.ValueOrder
import Keyspace.Proofs.Store.Calls
import Keyspace.Proofs.Tuple.RoundTrip

/-!
# Keys of index entries

The key of an index entry is the start of the index, the fields that the index
declares, and the key of the row.  A writer looks for the columns by their
positions, and takes the spatial run from the handler that it is given.  So an
entry holds the declared fields if the handler was made for the index, a word holds
the number of the last field of the run, and the row has the columns of the indexed
table, and other fields otherwise.
-/

namespace Keyspace

/-! ## Declared fields -/

/-- The value of a row in the first column of a name. -/
def Row.valueNamed (row : Row) (name : String) : Value :=
  match Column.position? row.rowType.columns name with
  | some position => row.valueOrNull position
  | none => .null

/-- What is read of the values of a row in columns, by their names. -/
def Row.readNamed?
    {Result : Type}
    (row : Row)
    (read : Value -> Option Result)
    (columns : List Column) : Option (List Result) :=
  columns.mapM fun column => read (row.valueNamed column.name)

/-- The elements of a row in columns. -/
def Row.elementsNamed? (row : Row) (columns : List Column) : Option Tuple :=
  row.readNamed? (fun value => value.toElement.toOption) columns

/-- The z-value of the point that a row has in columns. -/
def Space.zNamed? (space : Space) (columns : List Column) (row : Row) : Option Int64 := do
  let point ← row.readNamed? Value.toDouble? columns
  (space.shuffle point).toOption

/-- The key fields that an index declares: the elements of its key columns, with a
z-value in place of those of its spatial run. -/
def Index.declaredFields? (index : Index) (space : Option Space) (row : Row) : Option Tuple :=
  let columns := index.keyDefinitions
  match index.spatial with
  | none => row.elementsNamed? columns
  | some run => do
      let before ← row.elementsNamed? (columns.take run.first)
      let z ← (← space).zNamed? ((columns.drop run.first).take run.dimensions) row
      let behind ← row.elementsNamed? (columns.drop (run.first + run.dimensions))
      return before ++ Element.integer z :: behind

namespace GroupStore

/-- The key that an index declares for the entry of a row. -/
def declaredKey?
    (group : Group)
    (index : Index)
    (space : Option Space)
    (row : Row) : Option Bytes := do
  let elements ← index.declaredFields? space row
  let fields ← (Tuple.pack elements).toOption
  let hkey ← (hkeyOf group row).toOption
  let place ← hkey.encode.toOption
  return KeyLayout.indexStart index.id ++ fields ++ place

end GroupStore

/-! ## Plain fields -/

/-- Whether positions are those at which a row has columns, by their names. -/
def Row.Locates (row : Row) (positions : List Nat) (columns : List Column) : Prop :=
  List.Forall₂ (fun position column => row.valueNamed column.name = row.valueOrNull position)
    positions columns

theorem Row.Locates.take
    {row : Row}
    {positions : List Nat}
    {columns : List Column}
    (locates : row.Locates positions columns)
    (count : Nat) :
    row.Locates (positions.take count) (columns.take count) :=
  List.forall₂_take count locates

theorem Row.Locates.drop
    {row : Row}
    {positions : List Nat}
    {columns : List Column}
    (locates : row.Locates positions columns)
    (count : Nat) :
    row.Locates (positions.drop count) (columns.drop count) :=
  List.forall₂_drop count locates

/-- What is read at positions is read in the columns there. -/
theorem Row.Locates.readNamed?
    {Result : Type}
    {read : Value -> Option Result}
    {row : Row}
    {positions : List Nat}
    {columns : List Column}
    {results : List Result}
    (locates : row.Locates positions columns)
    (found : List.Forall₂ (fun position result => read (row.valueOrNull position) = some result)
      positions results) :
    row.readNamed? read columns = some results := by
  unfold Row.readNamed?
  induction locates generalizing results with
  | nil =>
      obtain rfl := List.forall₂_nil_left_iff.mp found
      rfl
  | @cons position column positions columns same _ inductionHypothesis =>
      obtain ⟨result, others, first, rest, rfl⟩ := List.forall₂_cons_left_iff.mp found
      rw [List.mapM_cons, same, first, inductionHypothesis rest]
      rfl

/-- Packed values at positions are the elements of the columns there. -/
theorem Row.Locates.elementsNamed?
    {row : Row}
    {positions : List Nat}
    {columns : List Column}
    {parts : List Bytes}
    (locates : row.Locates positions columns)
    (packed : List.Forall₂ (fun position part => (row.valueOrNull position).packed = .ok part)
      positions parts) :
    ∃ elements, row.elementsNamed? columns = some elements ∧
      Tuple.pack elements = .ok parts.flatten := by
  obtain ⟨elements, encoded, elementsPacked⟩ :=
    mapM_packed_eq_ok.mp (mapM_eq_ok.mpr (List.forall₂_map_left_iff.mpr packed))
  refine ⟨elements, locates.readNamed? ?_, bind_eq_ok.mpr ⟨parts, elementsPacked, rfl⟩⟩
  refine (List.forall₂_map_left_iff.mp (mapM_eq_ok.mp encoded)).imp fun _ _ found => ?_
  exact congrArg Except.toOption found

theorem Column.position?_eq_some
    {columns : List Column}
    {name : String}
    {position : Nat}
    (found : position? columns name = some position) :
    ∃ column, columns[position]? = some column ∧ column.name = name := by
  obtain ⟨inside, here, _⟩ := List.findIdx?_eq_some_iff_getElem.mp found
  exact ⟨columns[position], List.getElem?_eq_getElem inside, eq_of_beq here⟩

theorem Index.keyPosition_eq_ok
    {name column : String}
    {table : Table}
    {position : Nat}
    (found : keyPosition name table column = .ok position) :
    Column.position? table.columns column = some position := by
  unfold keyPosition at found
  split at found
  · next here => exact here.trans (congrArg some (Except.ok.inj found))
  · simp at found

theorem Row.locates_of_positions
    {row : Row}
    {names : List String}
    {positions : List Nat}
    (found : List.Forall₂
      (fun name position => Column.position? row.rowType.columns name = some position)
      names positions) :
    row.Locates positions
      (positions.filterMap fun position => row.rowType.columns[position]?) := by
  induction found with
  | nil => exact .nil
  | @cons name position names positions here _ inductionHypothesis =>
      obtain ⟨column, present, rfl⟩ := Column.position?_eq_some here
      rw [List.filterMap_cons, present]
      exact .cons (by rw [valueNamed, here]) inductionHypothesis

/-- A declared index has its run, and the columns of its table at the positions of the
names that it was declared over. -/
theorem Index.declare_eq_ok
    {id : UInt32}
    {name : String}
    {table : Table}
    {columns : List String}
    {spatial : Option SpatialRun}
    {index : Index}
    (declared : Index.declare id name table columns spatial = .ok index) :
    index.spatial = spatial ∧
      index.keyDefinitions = index.keyColumns.filterMap (fun position => table.columns[position]?) ∧
      List.Forall₂ (fun column position => Column.position? table.columns column = some position)
        columns index.keyColumns := by
  unfold declare at declared
  split at declared
  · simp at declared
  · obtain ⟨positions, found, built⟩ := bind_eq_ok.mp declared
    obtain rfl := pure_eq_ok.mp built
    exact ⟨rfl, rfl, (mapM_eq_ok.mp found).imp fun _ _ => keyPosition_eq_ok⟩

/-- An index finds its key columns in the rows of its own table. -/
theorem Index.locates_of_declare
    {id : UInt32}
    {name : String}
    {table : Table}
    {columns : List String}
    {spatial : Option SpatialRun}
    {index : Index}
    {row : Row}
    (declared : Index.declare id name table columns spatial = .ok index)
    (typed : row.rowType.columns = table.columns) :
    row.Locates index.keyColumns index.keyDefinitions := by
  obtain ⟨_, definitions, found⟩ := declare_eq_ok declared
  rw [definitions]
  rw [← typed] at found ⊢
  exact Row.locates_of_positions found

/-- The key columns of a declared index are columns of its table. -/
theorem Index.exists_column_of_declare
    {id : UInt32}
    {name : String}
    {table : Table}
    {columns : List String}
    {spatial : Option SpatialRun}
    {index : Index}
    (declared : Index.declare id name table columns spatial = .ok index) :
    ∀ position ∈ index.keyColumns, ∃ column, table.columns[position]? = some column := by
  intro position present
  obtain ⟨_, _, found⟩ := declare_eq_ok declared
  obtain ⟨_, _, here⟩ := exists_input_of_mem found position present
  obtain ⟨column, atPosition, _⟩ := Column.position?_eq_some here
  exact ⟨column, atPosition⟩

/-! ## Spatial fields -/

/-- Results of successive fields are results of the items there. -/
theorem forall₂_of_fields
    {Item Result : Type}
    {holds : Item -> Result -> Prop}
    {items : List Item}
    {start count : Nat}
    {results : List Result}
    (read : List.Forall₂
      (fun field result => ∃ item, items[field]? = some item ∧ holds item result)
      (List.range' start count) results) :
    List.Forall₂ holds ((items.drop start).take count) results := by
  induction count generalizing start results with
  | zero =>
      obtain rfl := List.forall₂_nil_left_iff.mp read
      simp
  | succ count inductionHypothesis =>
      rw [List.range'_succ, List.forall₂_cons_left_iff] at read
      obtain ⟨result, others, ⟨item, here, holdsFirst⟩, rest, rfl⟩ := read
      obtain ⟨inside, rfl⟩ := List.getElem?_eq_some_iff.mp here
      rw [List.drop_eq_getElem_cons inside, List.take_succ_cons]
      exact .cons holdsFirst (inductionHypothesis rest)

theorem Tuple.pack_append
    {left right : Tuple}
    {leftBytes rightBytes : Bytes}
    (leftPacked : left.pack = .ok leftBytes)
    (rightPacked : right.pack = .ok rightBytes) :
    Tuple.pack (left ++ right) = .ok (leftBytes ++ rightBytes) := by
  induction left generalizing leftBytes with
  | nil =>
      obtain rfl := Except.ok.inj leftPacked
      exact rightPacked
  | cons element left inductionHypothesis =>
      obtain ⟨first, others, firstPacked, othersPacked, rfl⟩ := pack_cons_eq_ok.mp leftPacked
      rw [List.append_assoc]
      exact pack_cons_eq_ok.mpr ⟨first, _, firstPacked, inductionHypothesis othersPacked, rfl⟩

namespace SpatialRun

/-- Whether a word of 64 bits holds the number of the last field. -/
def Counted (run : SpatialRun) : Prop :=
  run.first + (run.dimensions - 1) < 2 ^ 64

instance (run : SpatialRun) : Decidable run.Counted :=
  inferInstanceAs (Decidable (_ < _))

theorem Counted.last_eq
    {run : SpatialRun}
    (counted : run.Counted) :
    run.last = run.first + (run.dimensions - 1) := by
  unfold Counted at counted
  rw [last, UInt64.toNat_add, ← first,
    UInt64.toNat_ofNat_of_lt' (Nat.lt_of_le_of_lt (Nat.le_add_left _ _) counted),
    Nat.mod_eq_of_lt counted]

end SpatialRun

namespace SpatialIndex

/-- A handler that was made for an index, with a run whose last field a word holds. -/
structure MadeFor (handler : SpatialIndex) (index : Index) (run : SpatialRun) : Prop where
  declared : index.spatial = some run
  dimensions : run.dimensions = supportedDimensions
  counted : run.Counted
  inside : run.last < index.keyColumns.length
  keyPositions : handler.keyPositions = index.keyColumns
  first : handler.first = run.first
  last : handler.last = run.last
  coordinates : List.Forall₂ (fun field coordinate => coordinateOf index field = .ok coordinate)
    (List.range' run.first run.dimensions) handler.coordinates

theorem madeFor_of_make
    {index : Index}
    {table : Table}
    {space : Space}
    {handler : SpatialIndex}
    (made : make index table space = .ok handler)
    (counted : ∀ run ∈ index.spatial, run.Counted) :
    handler.space = space ∧ ∃ run, handler.MadeFor index run := by
  unfold make at made
  split at made
  · simp at made
  · split at made
    · simp at made
    · next run declared =>
        split at made
        · simp at made
        · next dimensions =>
            split at made
            · simp at made
            · split at made
              · simp at made
              · next inside =>
                  obtain ⟨coordinates, found, built⟩ := bind_eq_ok.mp made
                  obtain rfl := pure_eq_ok.mp built
                  have held := counted run (Option.mem_def.mpr declared)
                  have count : run.last + 1 - run.first = run.dimensions := by
                    rw [held.last_eq, not_not.mp dimensions, supportedDimensions]
                    omega
                  rw [count] at found
                  exact ⟨rfl, run, declared, not_not.mp dimensions, held, not_le.mp inside, rfl,
                    rfl, rfl, mapM_eq_ok.mp found⟩

theorem coordinateOf_eq_ok
    {index : Index}
    {field : Nat}
    {coordinate : Coordinate}
    (found : coordinateOf index field = .ok coordinate) :
    index.keyColumns[field]? = some coordinate.position := by
  unfold coordinateOf at found
  split at found
  · next here =>
      split at found
      · obtain rfl := Except.ok.inj found
        exact here
      · simp at found
  · simp at found

theorem coordinateValue_eq_ok
    {row : Row}
    {coordinate : Coordinate}
    {number : Double}
    (read : coordinateValue row coordinate = .ok number) :
    (row.valueOrNull coordinate.position).toDouble? = some number := by
  unfold coordinateValue at read
  dsimp only at read
  split at read
  · simp at read
  · next isDecimal => rw [isDecimal, ← Except.ok.inj read]; rfl
  · split at read
    · next integer isInteger =>
        rw [Value.toDouble?_of_asInteger? isInteger, Except.ok.inj read]
    · simp at read
  · simp at read

/-- The coordinates of a handler stand at the positions of the run. -/
theorem MadeFor.positions
    {handler : SpatialIndex}
    {index : Index}
    {run : SpatialRun}
    (made : handler.MadeFor index run) :
    List.Forall₂ (fun position coordinate => position = coordinate.position)
      ((index.keyColumns.drop run.first).take run.dimensions) handler.coordinates :=
  forall₂_of_fields (made.coordinates.imp fun _ coordinate found =>
    ⟨coordinate.position, coordinateOf_eq_ok found, rfl⟩)

theorem zValue_eq_ok
    {handler : SpatialIndex}
    {row : Row}
    {z : Int64}
    (shuffled : handler.zValue row = .ok z) :
    ∃ point, handler.coordinates.mapM (coordinateValue row) = .ok point ∧
      handler.space.shuffle point = .ok z := by
  obtain ⟨point, read, shuffled⟩ := bind_eq_ok.mp shuffled
  obtain ⟨number, folded, kept⟩ := bind_eq_ok.mp shuffled
  split at kept
  · simp at kept
  · obtain rfl := pure_eq_ok.mp kept
    exact ⟨point, read, folded⟩

/-- The z-value of a handler is that of the columns in its run, by their names. -/
theorem MadeFor.zNamed?
    {handler : SpatialIndex}
    {index : Index}
    {run : SpatialRun}
    {row : Row}
    {z : Int64}
    (made : handler.MadeFor index run)
    (locates : row.Locates index.keyColumns index.keyDefinitions)
    (shuffled : handler.zValue row = .ok z) :
    handler.space.zNamed? ((index.keyDefinitions.drop run.first).take run.dimensions) row =
      some z := by
  obtain ⟨point, read, folded⟩ := zValue_eq_ok shuffled
  have numbers : List.Forall₂
      (fun position number => (row.valueOrNull position).toDouble? = some number)
      ((index.keyColumns.drop run.first).take run.dimensions) point :=
    forall₂_trans (fun _ _ _ same read => same ▸ coordinateValue_eq_ok read) made.positions
      (mapM_eq_ok.mp read)
  rw [Space.zNamed?, ((locates.drop run.first).take run.dimensions).readNamed? numbers]
  exact congrArg Except.toOption folded

theorem MadeFor.last_eq
    {handler : SpatialIndex}
    {index : Index}
    {run : SpatialRun}
    (made : handler.MadeFor index run) :
    handler.last = handler.first + 1 := by
  rw [made.last, made.first, made.counted.last_eq, made.dimensions]
  rfl

theorem MadeFor.plainField
    {handler : SpatialIndex}
    {index : Index}
    {run : SpatialRun}
    {row : Row}
    {field : Nat}
    {part : Bytes}
    (made : handler.MadeFor index run)
    (plain : field < run.first ∨ run.first + 2 ≤ field)
    (read : handler.keyField row field = .ok part) :
    ∃ position, index.keyColumns[field]? = some position ∧
      (row.valueOrNull position).packed = .ok part := by
  have last := made.last_eq
  rw [← made.first] at plain
  rw [keyField, if_neg (by omega), if_neg (by omega), made.keyPositions] at read
  split at read
  · simp at read
  · next position here => exact ⟨position, here, read⟩

theorem MadeFor.zField
    {handler : SpatialIndex}
    {index : Index}
    {run : SpatialRun}
    {row : Row}
    {part : Bytes}
    (made : handler.MadeFor index run)
    (read : handler.keyField row run.first = .ok part) :
    ∃ z, handler.zValue row = .ok z ∧ part = Element.packInteger z.toInt := by
  rw [keyField, if_pos made.first.symm] at read
  obtain ⟨z, shuffled, packed⟩ := bind_eq_ok.mp read
  exact ⟨z, shuffled, (pure_eq_ok.mp packed).symm⟩

theorem MadeFor.gapField
    {handler : SpatialIndex}
    {index : Index}
    {run : SpatialRun}
    {row : Row}
    {part : Bytes}
    (made : handler.MadeFor index run)
    (read : handler.keyField row (run.first + 1) = .ok part) :
    part = [] := by
  have last := made.last_eq
  rw [← made.first, keyField, if_neg (by omega), if_pos (by omega)] at read
  exact (Except.ok.inj read).symm

/-- The fields that a handler reads one after the other are the packed values at the
positions there. -/
theorem MadeFor.plainFields
    {handler : SpatialIndex}
    {index : Index}
    {run : SpatialRun}
    {row : Row}
    {start count : Nat}
    {parts : List Bytes}
    (made : handler.MadeFor index run)
    (plain : start + count ≤ run.first ∨ run.first + 2 ≤ start)
    (read : (List.range' start count).mapM (handler.keyField row) = .ok parts) :
    List.Forall₂ (fun position part => (row.valueOrNull position).packed = .ok part)
      ((index.keyColumns.drop start).take count) parts := by
  have inside : ∀ field ∈ List.range' start count, start ≤ field ∧ field < start + count := by
    intro field present
    exact List.mem_range'_1.mp present
  refine forall₂_of_fields ?_
  refine ((List.forall₂_and_left _ _).mpr ⟨inside, mapM_eq_ok.mp read⟩).imp ?_
  rintro field part ⟨bounds, readField⟩
  exact made.plainField (by omega) readField

theorem MadeFor.end_le
    {handler : SpatialIndex}
    {index : Index}
    {run : SpatialRun}
    (made : handler.MadeFor index run) :
    run.first + 2 ≤ index.keyColumns.length := by
  have last := made.inside
  rw [made.counted.last_eq, made.dimensions] at last
  exact last

/-- The fields of a handler are the packed values before the run of the index that it was
made for, the z-value, and the packed values behind the run. -/
theorem MadeFor.exists_fields
    {handler : SpatialIndex}
    {index : Index}
    {run : SpatialRun}
    {row : Row}
    {parts : List Bytes}
    (made : handler.MadeFor index run)
    (read : (List.range index.keyColumns.length).mapM (handler.keyField row) = .ok parts) :
    ∃ before z behind, handler.zValue row = .ok z ∧
      List.Forall₂ (fun position part => (row.valueOrNull position).packed = .ok part)
        (index.keyColumns.take run.first) before ∧
      List.Forall₂ (fun position part => (row.valueOrNull position).packed = .ok part)
        (index.keyColumns.drop (run.first + run.dimensions)) behind ∧
      parts.flatten = before.flatten ++ (Element.packInteger z.toInt ++ behind.flatten) := by
  obtain ⟨rest, length⟩ := Nat.exists_eq_add_of_le made.end_le
  have fields : List.range index.keyColumns.length =
      List.range' 0 run.first ++
        run.first :: (run.first + 1) :: List.range' (run.first + 2) rest := by
    rw [length, List.range_eq_range', Nat.add_assoc, ← List.range'_append_1, Nat.add_comm 2 rest,
      List.range'_succ, List.range'_succ, Nat.zero_add]
  have columns : (index.keyColumns.drop (run.first + 2)).take rest =
      index.keyColumns.drop (run.first + 2) := by
    refine List.take_of_length_le ?_
    rw [List.length_drop]
    omega
  rw [fields] at read
  simp only [List.mapM_append, List.mapM_cons, bind_eq_ok, pure_eq_ok] at read
  obtain ⟨before, readBefore, _, ⟨zPart, readZ, _, ⟨gap, readGap, behind, readBehind, rfl⟩, rfl⟩,
    rfl⟩ := read
  have packedBefore := made.plainFields (.inl (Nat.zero_add _).le) readBefore
  have packedBehind := made.plainFields (.inr le_rfl) readBehind
  rw [columns] at packedBehind
  obtain ⟨z, shuffled, rfl⟩ := made.zField readZ
  obtain rfl := made.gapField readGap
  refine ⟨before, z, behind, shuffled, packedBefore, ?_, ?_⟩
  · rw [made.dimensions]
    exact packedBehind
  · rw [List.flatten_append, List.flatten_cons, List.flatten_cons, List.nil_append]

/-- The fields of a handler are the declared fields of the index it was made for. -/
theorem MadeFor.declaredFields?
    {handler : SpatialIndex}
    {index : Index}
    {run : SpatialRun}
    {row : Row}
    {parts : List Bytes}
    (made : handler.MadeFor index run)
    (locates : row.Locates index.keyColumns index.keyDefinitions)
    (read : (List.range index.keyColumns.length).mapM (handler.keyField row) = .ok parts) :
    ∃ elements, index.declaredFields? (some handler.space) row = some elements ∧
      Tuple.pack elements = .ok parts.flatten := by
  obtain ⟨before, z, behind, shuffled, packedBefore, packedBehind, whole⟩ :=
    made.exists_fields read
  obtain ⟨elementsBefore, namedBefore, tupleBefore⟩ :=
    (locates.take run.first).elementsNamed? packedBefore
  obtain ⟨elementsBehind, namedBehind, tupleBehind⟩ :=
    (locates.drop (run.first + run.dimensions)).elementsNamed? packedBehind
  have folded := made.zNamed? locates shuffled
  refine ⟨elementsBefore ++ .integer z :: elementsBehind, ?_, ?_⟩
  · simp only [Index.declaredFields?, made.declared, namedBefore, folded, namedBehind,
      Option.bind_eq_bind, Option.bind_some]
    rfl
  · rw [whole]
    exact Tuple.pack_append tupleBefore
      (Tuple.pack_cons_eq_ok.mpr ⟨_, _, rfl, tupleBehind, rfl⟩)

end SpatialIndex

namespace GroupStore

/-! ## Entries hold what their index declares -/

/-- The fields of an entry without a handler are the packed values of the key columns. -/
theorem indexFields_none
    {index : Index}
    {row : Row}
    {fields : Bytes}
    (given : KeyLayout.indexFields index none row = .ok fields) :
    index.spatial = none ∧ ∃ parts,
      List.Forall₂ (fun position part => (row.valueOrNull position).packed = .ok part)
        index.keyColumns parts ∧
      fields = parts.flatten := by
  unfold KeyLayout.indexFields at given
  dsimp only at given
  split at given
  · simp at given
  · next plain =>
      obtain ⟨parts, packed, whole⟩ := bind_eq_ok.mp given
      exact ⟨by simpa using plain, parts, mapM_eq_ok.mp packed, (pure_eq_ok.mp whole).symm⟩

/-- The fields of an entry are the declared fields, if the handler was made for the
index. -/
theorem declaredFields?_of_indexFields
    {index : Index}
    {table : Table}
    {spatial : Option SpatialIndex}
    {row : Row}
    {fields : Bytes}
    (locates : row.Locates index.keyColumns index.keyDefinitions)
    (made : ∀ handler ∈ spatial, ∃ space, SpatialIndex.make index table space = .ok handler)
    (counted : ∀ run ∈ index.spatial, run.Counted)
    (given : KeyLayout.indexFields index spatial row = .ok fields) :
    ∃ elements, index.declaredFields? (spatial.map (·.space)) row = some elements ∧
      Tuple.pack elements = .ok fields := by
  cases spatial with
  | some handler =>
      obtain ⟨space, making⟩ := made handler rfl
      obtain ⟨_, run, madeFor⟩ := SpatialIndex.madeFor_of_make making counted
      obtain ⟨parts, read, whole⟩ := bind_eq_ok.mp given
      obtain rfl := pure_eq_ok.mp whole
      exact madeFor.declaredFields? locates read
  | none =>
      obtain ⟨notSpatial, parts, packed, rfl⟩ := indexFields_none given
      obtain ⟨elements, named, elementsPacked⟩ := locates.elementsNamed? packed
      refine ⟨elements, ?_, elementsPacked⟩
      rw [Index.declaredFields?, notSpatial]
      exact named

/-- An entry is written at the key that its index declares, if the handler was made for
the index, a word holds the last field of its run, and the row has the columns of the
indexed table. -/
theorem writeIndexRow_declared
    {id : UInt32}
    {name : String}
    {table : Table}
    {columns : List String}
    {run : Option SpatialRun}
    {index : Index}
    {spatial : Option SpatialIndex}
    {row : Row}
    {store after : Store}
    {group : Group}
    {key : Bytes}
    (declared : Index.declare id name table columns run = .ok index)
    (made : ∀ handler ∈ spatial, ∃ space, SpatialIndex.make index table space = .ok handler)
    (counted : ∀ fields ∈ run, fields.Counted)
    (typed : row.rowType.columns = table.columns)
    (wrote : writeIndexRow store group index spatial row = .ok (key, after)) :
    declaredKey? group index (spatial.map (·.space)) row = some key ∧
      after = store.insert key [] := by
  obtain ⟨_, ⟨fields, hkey, place, given, known, encoded, rfl⟩, put⟩ := writesEntry_of_ok wrote
  obtain ⟨elements, declares, packed⟩ :=
    declaredFields?_of_indexFields (Index.locates_of_declare declared typed) made
      ((Index.declare_eq_ok declared).1 ▸ counted) given
  refine ⟨?_, put⟩
  simp only [declaredKey?, declares, packed, known, encoded, Except.toOption, Option.bind_eq_bind,
    Option.bind_some]
  rfl

end GroupStore

/-! ## An atlas -/

namespace Atlas

open GroupStore

/-- A column of integers. -/
def number (name : String) : Column := ⟨name, .int, true, none, false⟩

/-- Places by number, with a latitude and a longitude. -/
def places : Table :=
  ⟨⟨1⟩, ⟨"geo", "places"⟩, [number "id", number "lat", number "lon"], [0], none, [], 0,
    [⟨⟨1⟩, [0]⟩]⟩

/-- The atlas. -/
def group : Group := ⟨1, "atlas", [places]⟩

/-- Another table of the same name and place, with the longitude first. -/
def charts : Table :=
  { places with columns := [number "id", number "lon", number "lat"] }

/-- The earth, cut into eight parts each way. -/
def earth : Space :=
  ⟨Space.geographicLow, Space.geographicHigh, [3, 3], [0, 1, 0, 1, 0, 1]⟩

/-- An index of places by point. -/
def byPoint : Index :=
  ⟨40, "by_point", ⟨1⟩, [1, 2], [number "lat", number "lon"],
    ["geo.places.lat", "geo.places.lon"], some ⟨0, 2⟩⟩

/-- The handler of the index. -/
def handler : SpatialIndex :=
  ⟨40, [1, 2], 0, 1, [⟨1, "lat", .integer⟩, ⟨2, "lon", .integer⟩], earth⟩

/-- The handler of an index by longitude and latitude. -/
def turnedHandler : SpatialIndex :=
  ⟨41, [2, 1], 0, 1, [⟨2, "lon", .integer⟩, ⟨1, "lat", .integer⟩], earth⟩

/-- A place of the atlas. -/
def place : Row := Row.ofValues places.rowType [.int 1, .int 80, .int 10]

/-- The same place on a chart. -/
def chartPlace : Row := Row.ofValues charts.rowType [.int 1, .int 10, .int 80]

/-- An index of places by longitude and latitude. -/
def byTurnedPoint : Index :=
  ⟨41, "by_turned_point", ⟨1⟩, [2, 1], [number "lon", number "lat"],
    ["geo.places.lon", "geo.places.lat"], some ⟨0, 2⟩⟩

/-- The key of the place in the index by point. -/
def pointKey : Bytes := [0x11, 0x15, 40, 0x1C, 116, 0, 0, 0, 0, 0, 0, 6, 0x15, 1, 0x15, 1]

/-- The key of the place in the index by point, if latitude and longitude were exchanged. -/
def turnedKey : Bytes := [0x11, 0x15, 40, 0x1C, 98, 0, 0, 0, 0, 0, 0, 6, 0x15, 1, 0x15, 1]

theorem declare_byPoint :
    Index.declare 40 "by_point" places ["lat", "lon"] (some ⟨0, 2⟩) = .ok byPoint := by
  decide +kernel

theorem make_handler :
    SpatialIndex.make byPoint places earth = .ok handler := by
  decide +kernel

/-- The key that an index declares is the one that its own handler writes. -/
theorem writeIndexRow_declared_point :
    declaredKey? group byPoint (some earth) place = some pointKey := by
  obtain ⟨after, wrote⟩ : ∃ after,
      writeIndexRow Store.empty group byPoint (some handler) place = .ok (pointKey, after) := by
    have key : (writeIndexRow Store.empty group byPoint (some handler) place).map Prod.fst =
        .ok pointKey := by decide +kernel
    obtain ⟨⟨_, after⟩, wrote, rfl⟩ := map_eq_ok.mp key
    exact ⟨after, wrote⟩
  refine (writeIndexRow_declared declare_byPoint ?_ ?_ rfl wrote).1
  · rintro _ ⟨⟩
    exact ⟨earth, make_handler⟩
  · rintro _ ⟨⟩
    decide

/-- The handler of another index writes its own fields under the number of the index, and
a row of a table that is alike in name and place has other columns where the index looks
for its own. -/
theorem entries_of_other_columns :
    Index.declare 40 "by_point" places ["lat", "lon"] (some ⟨0, 2⟩) = .ok byPoint ∧
      Index.declare 41 "by_turned_point" places ["lon", "lat"] (some ⟨0, 2⟩) =
        .ok byTurnedPoint ∧
      SpatialIndex.make byPoint places earth = .ok handler ∧
      SpatialIndex.make byTurnedPoint places earth = .ok turnedHandler ∧
      (writeIndexRow Store.empty group byPoint (some turnedHandler) place).map Prod.fst =
        .ok turnedKey ∧
      declaredKey? group byPoint (some earth) place = some pointKey ∧
      (writeIndexRow Store.empty group byPoint (some handler) chartPlace).map Prod.fst =
        .ok turnedKey ∧
      declaredKey? group byPoint (some earth) chartPlace = some pointKey ∧
      turnedKey ≠ pointKey := by
  refine ⟨declare_byPoint, ?_, make_handler, ?_, ?_, ?_, ?_, ?_, ?_⟩ <;> decide +kernel

end Atlas
end Keyspace
