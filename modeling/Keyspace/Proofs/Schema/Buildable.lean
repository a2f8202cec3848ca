import Keyspace.Proofs.Checks
import Keyspace.Proofs.Schema.WellFormed

/-!
# Which declarations can be built

A build is a sequence of checks.  Each of its steps decides its own part of what
makes a declaration well-formed, given that the tables before it in the order of
the walk have the columns and the key columns of their declarations.  So a build
passes exactly if the declaration is well-formed.
-/

namespace Keyspace

/-- Whether a table has the columns and the key columns of its declaration. -/
structure Table.LaidOut
    (declaration : GroupDeclaration)
    (declared : TableDeclaration)
    (table : Table) : Prop where
  /-- The columns are the declared ones and an added one. -/
  columns : table.columns = declared.allColumns
  /-- The layout is of all positions that give keys. -/
  keys : ∀ position, position ∈ table.keyLayout.flatMap (·.positions) ↔
    declaration.KeyColumn declared position

namespace GroupDeclaration

/-! ## Columns and joins -/

theorem decides_columnPosition
    (columns : List Column)
    (table : TableDeclaration)
    (name : String) :
    Decides (columnPosition columns table name) (name ∈ columns.map (·.name))
      fun position => Column.position? columns name = some position := by
  unfold columnPosition
  split
  · next found => exact .passes rfl (Column.mem_names_of_position? found) found
  · next missing =>
      refine .refusal fun named => ?_
      obtain ⟨_, found⟩ := Column.exists_position? named
      simp [missing] at found

/-- A key is given by positions if its columns are in the table. -/
theorem decides_keyedColumns
    (table : TableDeclaration) :
    Decides (keyedColumns table) (∀ name ∈ table.primaryKey, name ∈ table.columns.map (·.name))
      fun keyed => keyed = (table.allColumns, table.keyPositions) := by
  unfold keyedColumns TableDeclaration.allColumns TableDeclaration.keyPositions
  split
  · next added => exact .passes rfl (by simp [List.isEmpty_iff.mp added]) rfl
  · have found := Decides.mapM fun name (_ : name ∈ table.primaryKey) =>
      decides_columnPosition table.columns table name
    refine (found.bind fun positions _ located => Decides.value ?_).imp (by rw [and_true])
      fun _ isFit => isFit
    rw [filterMap_of_forall₂ located]

theorem childPosition?_of_forall₂
    {childColumns parentColumns : List Column}
    {names : List (String × String)}
    {pairs : List JoinColumn}
    {position : Nat}
    (located : List.Forall₂ (fun names pair =>
      Column.position? childColumns names.1 = some pair.child ∧
        Column.position? parentColumns names.2 = some pair.parent) names pairs) :
    (pairs.find? fun pair => pair.parent == position).map (·.child) =
      (names.find? fun names => Column.position? parentColumns names.2 == some position).bind
        fun names => Column.position? childColumns names.1 := by
  induction located with
  | nil => rfl
  | @cons names pair _ _ here _ inductionHypothesis =>
      have agree : (Column.position? parentColumns names.2 == some position) =
          (pair.parent == position) := by
        rw [here.2]
        rfl
      rw [List.find?_cons, List.find?_cons, agree]
      split
      · exact here.1.symm
      · exact inductionHypothesis

/-- A join is resolved if it pairs columns that exist. -/
theorem decides_resolveJoin
    (join : JoinDeclaration)
    (child : TableDeclaration)
    (columns : List Column)
    (parent : TableDeclaration)
    (parentTable : Table) :
    Decides (resolveJoin join child columns parent parentTable)
      (join.Joins columns parentTable.columns)
      fun resolved => ∀ position, resolved.childPosition? position =
        join.childPosition? columns parentTable.columns position := by
  have found := Decides.mapM
    fun names (_ : names ∈ join.childColumns.zip join.parentColumns) =>
      (decides_columnPosition columns child names.1).bind fun childPosition _ inChild =>
        (decides_columnPosition parentTable.columns parent names.2).bind
          fun parentPosition _ inParent =>
            show Decides (.ok (JoinColumn.mk childPosition parentPosition)) True fun pair =>
                Column.position? columns names.1 = some pair.child ∧
                  Column.position? parentTable.columns names.2 = some pair.parent from
              .value ⟨inChild, inParent⟩
  refine (Decides.guarded fun _ => Decides.guarded fun _ => found.bind fun pairs _ located =>
    Decides.value fun position => childPosition?_of_forall₂ located).imp ?_ fun _ isFit => isFit
  constructor
  · rintro ⟨sameLength, nonempty, named, _⟩
    have sameLength := not_not.mp sameLength
    refine ⟨sameLength, mt List.length_eq_zero_iff.mpr nonempty, ?_, ?_⟩
    · rw [← List.map_fst_zip sameLength.le]
      exact List.forall_mem_map.mpr fun names present => (named names present).1
    · rw [← List.map_snd_zip sameLength.ge]
      exact List.forall_mem_map.mpr fun names present => (named names present).2.1
  · rintro ⟨sameLength, nonempty, inChild, inParent⟩
    refine ⟨not_not.mpr sameLength, mt List.length_eq_zero_iff.mp nonempty, ?_, trivial⟩
    intro names present
    exact ⟨inChild _ (List.of_mem_zip present).1, inParent _ (List.of_mem_zip present).2, trivial⟩

/-- A link leads to a parent if it names another table. -/
theorem decides_parentIndex
    (tables : List DeclaredTable)
    (entry : DeclaredTable) :
    Decides (parentIndex tables entry)
      (∀ name join, entry.link = some (name, join) ->
        name ≠ entry.table.name.table ∧ ∃ other ∈ tables, other.table.name.table = name)
      fun _ => True := by
  unfold parentIndex
  split
  · next link => exact .passes rfl (by simp [link]) trivial
  · next name join link =>
      have only {condition : String -> Prop} :
          (∀ other join, entry.link = some (other, join) -> condition other) ↔ condition name := by
        simp [link]
      rw [only]
      refine Decides.guarded fun _ => ?_
      split
      · next index found =>
          obtain ⟨inside, here, _⟩ := List.findIdx?_eq_some_iff_getElem.mp found
          exact .passes rfl ⟨tables[index], List.getElem_mem inside, eq_of_beq here⟩ trivial
      · next missing =>
          refine .refusal ?_
          rintro ⟨other, present, named⟩
          simpa [named] using List.findIdx?_eq_none_iff.mp missing other present

theorem decides_joinedPosition
    (join : Join)
    (child : TableDeclaration)
    (columns : List Column)
    (position : Nat) :
    Decides (joinedPosition join child columns position)
      (∃ childPosition, join.childPosition? position = some childPosition)
      fun childPosition => join.childPosition? position = some childPosition := by
  unfold joinedPosition
  split
  · next found => exact .passes rfl ⟨_, found⟩ found
  · next missing => exact .refusal (by simp [missing])

/-- A layout goes down a join that repeats all its positions. -/
theorem decides_cascadeLayout
    (parentTable : Table)
    (join : Join)
    (child : TableDeclaration) :
    Decides (cascadeLayout parentTable join child)
      (∀ position ∈ parentTable.keyLayout.flatMap (·.positions),
        ∃ childPosition, join.childPosition? position = some childPosition)
      fun layout => layout.flatMap (·.positions) =
        (parentTable.keyLayout.flatMap (·.positions)).filterMap join.childPosition? := by
  have carried := Decides.mapM fun segment (_ : segment ∈ parentTable.keyLayout) =>
    (Decides.mapM fun position (_ : position ∈ segment.positions) =>
      decides_joinedPosition join child parentTable.columns position).bind
        fun positions _ located =>
          show Decides (.ok (KeyColumns.mk segment.table positions)) True fun below =>
              segment.positions.filterMap join.childPosition? = below.positions from
            .value (filterMap_of_forall₂ located)
  refine carried.imp ?_ fun layout layoutCarried => ?_
  · simp only [and_true, List.forall_mem_flatMap]
  · rw [List.filterMap_flatMap, List.flatMap_def, List.flatMap_def]
    exact congrArg List.flatten (map_eq_map_of_forall₂ (fun _ _ same => same) layoutCarried).symm

/-! ## Tables of a build -/

variable
  {declaration : GroupDeclaration}
  {root : TableDeclaration}
  {parents : List (Option Nat)}

namespace LinkedAlong

variable
  (along : LinkedAlong declaration root parents)

include along

section Entry

variable
  {order : List Nat}
  {built : List Table}
  {index : Nat}
  {entry : DeclaredTable}
  (here : (declared root declaration.children)[index]? = some entry)
  (parentBuilt : ∀ above parent, parents[index]? = some (some above) ->
    (declared root declaration.children)[above]? = some parent ->
      ∃ table, built[order.idxOf above]? = some table ∧ table.LaidOut declaration parent.table)

include here parentBuilt

/-- What a table inherits is decided by its declaration. -/
theorem decides_inherit :
    Decides
      (inherit order (declared root declaration.children) parents built index entry
        entry.table.allColumns)
      (entry.Hangs declaration)
      fun inherited => ∀ position,
        position ∈ inherited.layout.flatMap (·.positions) ∨ position ∈ entry.table.keyPositions ↔
          declaration.KeyColumn entry.table position := by
  obtain ⟨linked, parentHere, finds⟩ := exists_getElem?_of_forall₂ along.linked here
  rcases parentIndex_eq_ok finds with
    ⟨link, rfl⟩ | ⟨name, join, above, parent, link, rfl, there, named⟩
  · simp only [inherit, link, parentHere, Option.join_some]
    refine .passes rfl (by simp [DeclaredTable.Hangs, link]) fun position => ?_
    rw [along.keyColumn_iff here, link]
    simp
  · obtain ⟨parentTable, before, laidOut⟩ := parentBuilt above parent parentHere there
    have isTable := along.mem_tables there
    have resolves := decides_resolveJoin join entry.table entry.table.allColumns parent.table
      parentTable
    rw [laidOut.columns] at resolves
    simp only [inherit, link, parentHere, Option.join_some, there, before]
    refine (resolves.bind fun resolved joins agree => ?_).imp
      (along.hangs_iff_of_link link isTable named).symm fun _ isFit => isFit
    refine ((decides_cascadeLayout parentTable resolved entry.table).bind
      fun layout _ carried => Decides.value ?_).imp ?_ fun _ isFit => isFit
    · intro position
      rw [along.keyColumn_iff_of_link here link isTable named, carried]
      simp only [List.mem_filterMap, laidOut.keys, agree]
    · simp only [and_true, laidOut.keys, agree, joins.exists_childPosition?_iff]
      rfl

theorem decides_buildTable :
    Decides (buildTable order (declared root declaration.children) parents built index)
      (entry.Fits declaration)
      (Table.LaidOut declaration entry.table) := by
  simp only [buildTable, here]
  refine (decides_keyedColumns entry.table).bind fun keyed _ isKeyed => ?_
  subst isKeyed
  refine ((along.decides_inherit here parentBuilt).bind fun inherited _ inherits =>
    Decides.value ⟨rfl, fun position => ?_⟩).imp (by rw [and_true]) fun _ isFit => isFit
  rw [← inherits, List.flatMap_append, List.mem_append, List.flatMap_singleton]

end Entry

/-- Tables are built in the order of the walk, where each stands behind its parent. -/
theorem decides_buildTables
    {order front rest : List Nat}
    {built : List Table}
    (walk : PreorderOf (childIndexes parents) [0] order)
    (inside : ∀ index ∈ order, index < parents.length)
    (parts : order = front ++ rest)
    (laidOut : List.Forall₂ (fun index table => ∃ entry : DeclaredTable,
      (declared root declaration.children)[index]? = some entry ∧
        table.LaidOut declaration entry.table) front built) :
    Decides (buildTables order (declared root declaration.children) parents built rest)
      (∀ index ∈ rest, ∀ entry, (declared root declaration.children)[index]? = some entry ->
        entry.Fits declaration)
      fun _ => True := by
  induction rest generalizing front built with
  | nil => exact .passes rfl (by simp) trivial
  | cons index rest inductionHypothesis =>
      have early : index < (declared root declaration.children).length := by
        rw [along.linked.length_eq]
        exact inside index (by simp [parts])
      have here := List.getElem?_eq_getElem early
      have parentBuilt : ∀ above parent, parents[index]? = some (some above) ->
          (declared root declaration.children)[above]? = some parent ->
            ∃ table, built[order.idxOf above]? = some table ∧
              table.LaidOut declaration parent.table := by
        intro above parent parentHere there
        -- the parent is among the indexes in front
        rcases walk.root_or_below_earlier parts with isTop | ⟨earlier, member, below⟩
        · obtain rfl := List.mem_singleton.mp isTop
          simp [along.top] at parentHere
        · obtain rfl : earlier = above := by simpa [mem_childIndexes.mp below] using parentHere
          obtain ⟨table, found, parentEntry, parentThere, isLaidOut⟩ :=
            exists_getElem?_of_forall₂ laidOut (List.getElem?_idxOf member)
          obtain rfl := Option.some.inj (there.symm.trans parentThere)
          rw [parts, List.idxOf_append_of_mem member]
          exact ⟨table, found, isLaidOut⟩
      have step := (along.decides_buildTable here parentBuilt).bind fun table _ fresh =>
        inductionHypothesis (by simp [parts])
          (List.rel_append laidOut (.cons ⟨_, here, fresh⟩ .nil))
      refine step.imp ?_ fun _ isFit => isFit
      rw [List.forall_mem_cons]
      refine and_congr_left' ⟨?_, fun all => all _ here⟩
      rintro fits entry same
      obtain rfl := Option.some.inj (here.symm.trans same)
      exact fits

end LinkedAlong

/-- A build decides whether a declaration is well-formed. -/
theorem decides_build
    (declaration : GroupDeclaration) :
    Decides declaration.build (declaration.WellFormed ∧ declaration.tables.length ≤ maxTables)
      fun _ => True := by
  unfold build
  split
  · next missing =>
      refine .refusal ?_
      rintro ⟨wellFormed, _⟩
      obtain ⟨_, isRoot⟩ := wellFormed.rooted
      simp [missing] at isRoot
  · next root isRoot =>
      dsimp only
      split
      · next name repeats =>
          refine .refusal ?_
          rintro ⟨wellFormed, _⟩
          have distinct := wellFormed.distinct
          rw [tables_eq_of_root isRoot, List.map_map] at distinct
          exact not_nodup_of_repeated? repeats ⟨distinct, by simp⟩
      · next distinct =>
          rw [wellFormed_iff isRoot distinct, and_assoc]
          have links := Decides.mapM fun entry (_ : entry ∈ declared root declaration.children) =>
            (decides_parentIndex (declared root declaration.children) entry).and_eq_ok
          refine links.bind fun parents _ linked => ?_
          have along : LinkedAlong declaration root parents :=
            ⟨isRoot, distinct, linked.imp fun _ _ both => both.1⟩
          obtain ⟨walk, _, inside⟩ := preorder_spec along.top
          rw [along.linked.length_eq]
          refine (Decides.guarded fun _ => Decides.guarded fun _ =>
            (along.decides_buildTables walk inside rfl .nil).bind fun _ _ _ =>
              Decides.value trivial).imp ?_ fun _ isFit => isFit
          rw [not_not, not_lt, and_true]
          exact along.complete_and_iff rfl

/-- With fewer tables than there are places, a declaration can be built exactly if
it is well-formed.  Every other one is refused as an invalid argument, and a build
that passes has all tables of the declaration. -/
theorem exists_build_iff_wellFormed
    (declaration : GroupDeclaration) :
    ((∃ group, declaration.build = .ok group) ↔
      declaration.WellFormed ∧ declaration.tables.length < 2 ^ 32) ∧
      (∀ error, declaration.build = .error error -> ∃ message, error = .invalidArgument message) ∧
      ∀ group, declaration.build = .ok group ->
        ∃ order, order.Perm declaration.tables ∧ List.Forall₂ Table.IsOf group.tables order := by
  have decides := decides_build declaration
  refine ⟨?_, fun _ failed => decides.eq_error failed, ?_⟩
  · have few : declaration.tables.length ≤ maxTables ↔ declaration.tables.length < 2 ^ 32 :=
      Nat.lt_succ_iff.symm
    rw [decides.exists_eq_ok_iff, few]
  · intro group built
    obtain ⟨root, parents, order, along⟩ := build_eq_ok built
    refine ⟨_, ?_, along.forall₂_isOf⟩
    rw [along.tables_eq, declared_map_table]
    exact along.order_map_declarationAt_perm

end GroupDeclaration
end Keyspace
