import Keyspace.Proofs.Schema.KeyLayout
import Keyspace.Proofs.Schema.Preorder

/-!
# Trees of tables

In a tree of tables that are numbered in pre-order, every join leads to a smaller
number.  So the way to the root ends, and what is below a table, read off as a
run of greater depths, is what has the table on its way to the root.
-/

namespace Keyspace

/-- Whether the places of a group's tables count from one. -/
def Group.Numbered (group : Group) : Prop :=
  group.tables.map (·.id.ordinal.toNat) = List.range' 1 group.tables.length

/-! ## Places -/

namespace Group.Numbered

variable {group : Group} (numbered : group.Numbered)

include numbered

theorem ordinal_getElem
    {index : Nat}
    (inside : index < group.tables.length) :
    group.tables[index].id.ordinal.toNat = index + 1 := by
  have inNumbers : index < (group.tables.map (·.id.ordinal.toNat)).length := by simpa using inside
  have here := List.getElem_of_eq numbered inNumbers
  rw [List.getElem_map, List.getElem_range'] at here
  omega

theorem table?_of_mem
    {table : Table}
    (present : table ∈ group.tables) :
    group.table? table.id = some table := by
  obtain ⟨index, inside, rfl⟩ := List.getElem_of_mem present
  rw [table?, numbered.ordinal_getElem inside]
  exact List.getElem?_eq_getElem inside

theorem table?_eq_some
    {id : TableId}
    {table : Table} :
    group.table? id = some table ↔ table ∈ group.tables ∧ table.id = id := by
  constructor
  · intro found
    refine ⟨mem_of_table? found, ?_⟩
    unfold table? at found
    split at found
    · simp at found
    · next index ordinal =>
        obtain ⟨inside, rfl⟩ := List.getElem?_eq_some_iff.mp found
        have same : group.tables[index].id.ordinal = id.ordinal :=
          UInt32.toNat.inj ((numbered.ordinal_getElem inside).trans ordinal.symm)
        cases id
        exact congrArg TableId.mk same
  · rintro ⟨present, rfl⟩
    exact numbered.table?_of_mem present

theorem eq_of_id
    {table other : Table}
    (present : table ∈ group.tables)
    (otherPresent : other ∈ group.tables)
    (same : table.id = other.id) :
    table = other := by
  have found := numbered.table?_of_mem present
  rw [same, numbered.table?_of_mem otherPresent] at found
  exact (Option.some.inj found).symm

theorem ordinal_le
    {table : Table}
    (present : table ∈ group.tables) :
    table.id.ordinal.toNat ≤ group.tables.length := by
  obtain ⟨index, inside, rfl⟩ := List.getElem_of_mem present
  rw [numbered.ordinal_getElem inside]
  omega

theorem ascending :
    group.tables.Pairwise fun first second => first.id.ordinal < second.id.ordinal := by
  have numbers : (group.tables.map (·.id.ordinal.toNat)).Pairwise (· < ·) := by
    rw [numbered]
    exact List.pairwise_lt_range'
  exact (List.pairwise_map.mp numbers).imp UInt32.lt_iff_toNat_lt.mpr

end Group.Numbered

/-- Whether the tables of a group are a tree, numbered in pre-order. -/
structure Group.IsTree (group : Group) : Prop where
  /-- The places count from one. -/
  numbered : group.Numbered
  /-- The tables are the pre-order of the tree below one root. -/
  preorder : ∃ root, root.depth = 0 ∧
    PreorderOf (fun table => group.children table.id) [root] group.tables
  /-- The children of a table are the tables that are joined to it. -/
  mem_children : ∀ table ∈ group.tables, ∀ child,
    child ∈ group.children table.id ↔ child ∈ group.tables ∧ child.parent = some table.id
  /-- A join leads one level up, to a smaller place. -/
  joined : ∀ table ∈ group.tables, ∀ id, table.parent = some id ->
    ∃ parent ∈ group.tables, parent.id = id ∧ id.ordinal < table.id.ordinal ∧
      table.depth = parent.depth + 1
  /-- Keys are among the columns, and key layouts are derived along the joins. -/
  sound : ∀ table ∈ group.tables, GroupDeclaration.IsSound group.tables table

/-- Whether key columns give the whole key of some table, from a row of given
columns. -/
def Group.IsKey (group : Group) (columns : List Column) (key : KeyColumns) : Prop :=
  ∃ owner, group.table? key.table = some owner ∧
    key.positions.length = owner.primaryKey.length ∧
    ∀ position ∈ key.positions, position < columns.length

theorem Group.IsKey.carry
    {group : Group}
    {join : Join}
    {above below : KeyColumns}
    {columns parentColumns : List Column}
    (inRange : ∀ pair ∈ join.columns, pair.child < columns.length)
    (carried : join.Carries above below)
    (isKey : group.IsKey parentColumns above) :
    group.IsKey columns below := by
  obtain ⟨sameTable, joined⟩ := carried
  obtain ⟨owner, found, full, _⟩ := isKey
  refine ⟨owner, sameTable ▸ found, joined.length_eq ▸ full, ?_⟩
  intro position present
  obtain ⟨_, _, pair⟩ := exists_input_of_mem joined position present
  exact inRange _ pair

namespace Group.IsTree

variable {group : Group}

section Joins

variable (tree : group.IsTree)

include tree

theorem parent?_of_mem
    {table : Table}
    (present : table ∈ group.tables) :
    group.parent? table.id = table.parent := by
  rw [parent?, tree.numbered.table?_of_mem present, Option.bind_some]

theorem parent?_eq_some
    {id parent : TableId} :
    group.parent? id = some parent ↔
      ∃ table ∈ group.tables, table.id = id ∧ table.parent = some parent := by
  simp only [parent?, Option.bind_eq_some_iff, tree.numbered.table?_eq_some, and_assoc]

/-- What a table hands down to every table joined to it, all tables have. -/
theorem induction
    {motive : Table -> Prop}
    (top : ∀ table ∈ group.tables, table.parent = none -> motive table)
    (below : ∀ table ∈ group.tables, ∀ parent ∈ group.tables,
      table.parent = some parent.id -> motive parent -> motive table) :
    ∀ table ∈ group.tables, motive table := by
  intro table present
  induction place : table.id.ordinal.toNat using Nat.strongRecOn generalizing table with
  | ind place inductionHypothesis =>
      cases hangs : table.parent with
      | none => exact top table present hangs
      | some id =>
          obtain ⟨parent, member, rfl, before, _⟩ := tree.joined table present id hangs
          exact below table present parent member hangs
            (inductionHypothesis _ (place ▸ before) parent member rfl)

/-! ## The way to the root -/

/-- No way to the root has more steps than the place it starts from. -/
theorem ancestorsWithin_eq
    {table : Table}
    (present : table ∈ group.tables) :
    ∀ steps further, table.id.ordinal.toNat ≤ steps -> table.id.ordinal.toNat ≤ further ->
      group.ancestorsWithin steps table.id = group.ancestorsWithin further table.id := by
  refine tree.induction (motive := fun table => ∀ steps further,
    table.id.ordinal.toNat ≤ steps -> table.id.ordinal.toNat ≤ further ->
      group.ancestorsWithin steps table.id = group.ancestorsWithin further table.id)
    ?_ ?_ table present
  · intro table present isTop steps further _ _
    have noParent := (tree.parent?_of_mem present).trans isTop
    cases steps <;> cases further <;> simp [ancestorsWithin, noParent]
  · intro table present parent member hangs inductionHypothesis steps further enough alsoEnough
    have above := (tree.parent?_of_mem present).trans hangs
    obtain ⟨_, _, _, before, _⟩ := tree.joined table present parent.id hangs
    have smaller : parent.id.ordinal.toNat < table.id.ordinal.toNat := before
    obtain _ | steps := steps
    · omega
    obtain _ | further := further
    · omega
    rw [ancestorsWithin, ancestorsWithin, above]
    exact congrArg _ (inductionHypothesis steps further (by omega) (by omega))

/-- The way to the root goes through the parent, and on from there. -/
theorem ancestors_eq
    (id : TableId) :
    group.ancestors id =
      match group.parent? id with
      | some parent => parent :: group.ancestors parent
      | none => [] := by
  cases above : group.parent? id with
  | none => cases steps : group.tables.length <;> simp [ancestors, steps, ancestorsWithin, above]
  | some parent =>
      obtain ⟨table, present, rfl, hangs⟩ := tree.parent?_eq_some.mp above
      obtain ⟨parent, member, rfl, before, _⟩ := tree.joined table present _ hangs
      have smaller : parent.id.ordinal.toNat < table.id.ordinal.toNat := before
      have inside := tree.numbered.ordinal_le present
      have inNumbers := tree.numbered.ordinal_le member
      obtain ⟨steps, count⟩ := Nat.exists_eq_succ_of_ne_zero (n := group.tables.length) (by omega)
      rw [ancestors, count, ancestorsWithin, above]
      exact congrArg _ (tree.ancestorsWithin_eq member steps group.tables.length (by omega)
        inNumbers)

theorem not_isAncestor_top
    {ancestor : TableId}
    {table : Table}
    (present : table ∈ group.tables)
    (isTop : table.parent = none) :
    group.isAncestor ancestor table.id = false := by
  rw [isAncestor, tree.ancestors_eq, tree.parent?_of_mem present, isTop]
  rfl

theorem isAncestor_of_parent
    {ancestor parent : TableId}
    {table : Table}
    (present : table ∈ group.tables)
    (hangs : table.parent = some parent) :
    group.isAncestor ancestor table.id = true ↔
      ancestor = parent ∨ group.isAncestor ancestor parent = true := by
  simp only [isAncestor, List.contains_iff_mem]
  rw [tree.ancestors_eq table.id, tree.parent?_of_mem present, hangs, List.mem_cons]

theorem ordinal_lt_of_isAncestor
    {ancestor : TableId}
    {table : Table}
    (present : table ∈ group.tables)
    (onTheWay : group.isAncestor ancestor table.id = true) :
    ancestor.ordinal < table.id.ordinal := by
  revert onTheWay
  refine tree.induction (motive := fun table =>
    group.isAncestor ancestor table.id = true -> ancestor.ordinal < table.id.ordinal)
    ?_ ?_ table present
  · intro table present isTop onTheWay
    simp [tree.not_isAncestor_top present isTop] at onTheWay
  · intro table present parent _ hangs inductionHypothesis onTheWay
    obtain ⟨_, _, _, before, _⟩ := tree.joined table present _ hangs
    rcases (tree.isAncestor_of_parent present hangs).mp onTheWay with rfl | further
    · exact before
    · exact UInt32.lt_trans (inductionHypothesis further) before

/-- Only tables have others on their way to the root. -/
theorem exists_of_isAncestor
    {ancestor id : TableId}
    (onTheWay : group.isAncestor ancestor id = true) :
    ∃ table ∈ group.tables, table.id = id := by
  rw [isAncestor, tree.ancestors_eq] at onTheWay
  cases above : group.parent? id with
  | none => simp [above] at onTheWay
  | some parent =>
      obtain ⟨table, present, same, _⟩ := tree.parent?_eq_some.mp above
      exact ⟨table, present, same⟩

/-- No join leads to a place that no table has. -/
theorem not_isAncestor_of_unknown
    {id : TableId}
    {table : Table}
    (present : table ∈ group.tables)
    (unknown : group.table? id = none) :
    group.isAncestor id table.id = false := by
  refine tree.induction (motive := fun table => group.isAncestor id table.id = false)
    (fun table present isTop => tree.not_isAncestor_top present isTop) ?_ table present
  intro table present parent member hangs inductionHypothesis
  refine Bool.eq_false_iff.mpr fun onTheWay => ?_
  rcases (tree.isAncestor_of_parent present hangs).mp onTheWay with rfl | further
  · rw [tree.numbered.table?_of_mem member] at unknown
    simp at unknown
  · simp [inductionHypothesis] at further

/-! ## What is below a table -/

/-- What is below a table is a run of the tables, and the pre-order of what is
below its children. -/
theorem exists_below
    {table : Table}
    (present : table ∈ group.tables) :
    ∃ under, group.descendants table.id = under.map (·.id) ∧ under.Sublist group.tables ∧
      PreorderOf (fun table => group.children table.id) (group.children table.id) under := by
  obtain ⟨root, rootDepth, walk⟩ := tree.preorder
  have depths : ∀ table ∈ group.tables, ∀ child ∈ group.children table.id,
      child.depth = table.depth + 1 := by
    intro table present child isChild
    obtain ⟨member, hangs⟩ := (tree.mem_children table present child).mp isChild
    obtain ⟨parent, parentPresent, same, _, deeper⟩ := tree.joined child member _ hangs
    rw [deeper, tree.numbered.eq_of_id parentPresent present same]
  have rootDepths : ∀ other ∈ [root], other.depth = 0 := by simpa using rootDepth
  obtain ⟨index, inside, rfl⟩ := List.getElem_of_mem present
  have parts : group.tables =
      group.tables.take index ++ group.tables[index] :: group.tables.drop (index + 1) := by
    rw [← List.drop_eq_getElem_cons inside, List.take_append_drop]
  obtain ⟨under, after, split, downWalk, falls⟩ :=
    walk.exists_run depths rootDepths parts
  have underPresent : under.Sublist group.tables :=
    (split ▸ List.sublist_append_left under after).trans (List.drop_sublist _ _)
  have deeper : ∀ other ∈ under, group.tables[index].depth < other.depth :=
    downWalk.le_level (fun other member => depths other (underPresent.subset member))
      (depths _ present)
  refine ⟨under, ?_, underPresent, downWalk⟩
  have ends : after.takeWhile (fun other => group.tables[index].depth < other.depth) = [] := by
    cases after with
    | nil => rfl
    | cons next after => simpa using falls next (by simp)
  simp only [descendants, tree.numbered.table?_of_mem present,
    tree.numbered.ordinal_getElem inside, split]
  rw [List.takeWhile_append_of_pos (by simpa using deeper), ends, List.append_nil]

/-- The tables below a table are read off in ascending order. -/
theorem descendants_ascending
    (id : TableId) :
    (group.descendants id).Pairwise fun first second => first.ordinal < second.ordinal := by
  cases found : group.table? id with
  | none => simp [descendants, found]
  | some table =>
      obtain ⟨present, rfl⟩ := tree.numbered.table?_eq_some.mp found
      obtain ⟨under, whole, inside, _⟩ := tree.exists_below present
      rw [whole]
      exact List.pairwise_map.mpr (tree.numbered.ascending.sublist inside)

section Below

variable
  {table : Table}
  {under : List Table}
  (present : table ∈ group.tables)
  (inside : under.Sublist group.tables)
  (walk : PreorderOf (fun table => group.children table.id) (group.children table.id) under)

include present walk

include inside in
theorem isAncestor_of_below
    {member : Table}
    (below : member ∈ under) :
    group.isAncestor table.id member.id = true := by
  refine tree.induction (motive := fun member =>
    member ∈ under -> group.isAncestor table.id member.id = true)
    ?_ ?_ member (inside.subset below) below
  · intro member _ isTop below
    rcases walk.root_or_below member below with child | ⟨between, above, child⟩
    · simp [((tree.mem_children table present member).mp child).2] at isTop
    · simp [((tree.mem_children between (inside.subset above) member).mp child).2] at isTop
  · intro member memberPresent parent parentPresent hangs inductionHypothesis below
    refine (tree.isAncestor_of_parent memberPresent hangs).mpr ?_
    rcases walk.root_or_below member below with child | ⟨between, above, child⟩
    · have here := ((tree.mem_children table present member).mp child).2
      exact .inl (Option.some.inj (here.symm.trans hangs))
    · have here := ((tree.mem_children between (inside.subset above) member).mp child).2
      have same : between = parent := tree.numbered.eq_of_id (inside.subset above) parentPresent
        (Option.some.inj (here.symm.trans hangs))
      exact .inr (inductionHypothesis (same ▸ above))

theorem mem_below_of_isAncestor
    {member : Table}
    (memberPresent : member ∈ group.tables)
    (onTheWay : group.isAncestor table.id member.id = true) :
    member ∈ under := by
  refine tree.induction (motive := fun member =>
    group.isAncestor table.id member.id = true -> member ∈ under)
    ?_ ?_ member memberPresent onTheWay
  · intro member memberPresent isTop onTheWay
    simp [tree.not_isAncestor_top memberPresent isTop] at onTheWay
  · intro member memberPresent parent parentPresent hangs inductionHypothesis onTheWay
    rcases (tree.isAncestor_of_parent memberPresent hangs).mp onTheWay with here | further
    · exact walk.sublist_of_roots.subset
        ((tree.mem_children table present member).mpr ⟨memberPresent, here ▸ hangs⟩)
    · exact walk.mem_of_below parent (inductionHypothesis further) member
        ((tree.mem_children parent parentPresent member).mpr ⟨memberPresent, hangs⟩)

end Below

/-- What is below a table is what has the table on its way to the root. -/
theorem mem_descendants
    {id other : TableId} :
    other ∈ group.descendants id ↔ group.isAncestor id other = true := by
  cases found : group.table? id with
  | none =>
      simp only [descendants, found, List.not_mem_nil, false_iff]
      intro onTheWay
      obtain ⟨member, memberPresent, rfl⟩ := tree.exists_of_isAncestor onTheWay
      simp [tree.not_isAncestor_of_unknown memberPresent found] at onTheWay
  | some table =>
      obtain ⟨present, rfl⟩ := tree.numbered.table?_eq_some.mp found
      obtain ⟨under, whole, inside, walk⟩ := tree.exists_below present
      rw [whole, List.mem_map]
      constructor
      · rintro ⟨member, below, rfl⟩
        exact tree.isAncestor_of_below present inside walk below
      · intro onTheWay
        obtain ⟨member, memberPresent, rfl⟩ := tree.exists_of_isAncestor onTheWay
        exact ⟨member, tree.mem_below_of_isAncestor present walk memberPresent onTheWay, rfl⟩

/-- The children of a place are the tables that are joined to it. -/
theorem mem_children_iff
    {id : TableId}
    {child : Table} :
    child ∈ group.children id ↔ child ∈ group.tables ∧ child.parent = some id := by
  cases found : group.table? id with
  | none =>
      simp only [children, found, List.not_mem_nil, false_iff, not_and]
      intro present hangs
      obtain ⟨parent, member, rfl, _⟩ := tree.joined child present id hangs
      simp [tree.numbered.table?_of_mem member] at found
  | some table =>
      obtain ⟨present, rfl⟩ := tree.numbered.table?_eq_some.mp found
      exact tree.mem_children table present child

/-- The children of a table are listed in ascending order. -/
theorem children_ascending
    (id : TableId) :
    (group.children id).Pairwise fun first second => first.id.ordinal < second.id.ordinal := by
  cases found : group.table? id with
  | none => simp [children, found]
  | some table =>
      obtain ⟨present, rfl⟩ := tree.numbered.table?_eq_some.mp found
      obtain ⟨under, _, inside, walk⟩ := tree.exists_below present
      exact tree.numbered.ascending.sublist (walk.sublist_of_roots.trans inside)

/-- A table without a parent is the root. -/
theorem top_or_joined
    {table : Table}
    (present : table ∈ group.tables) :
    (table.id.ordinal = 1 ∧ table.parent = none ∧ table.depth = 0) ∨
      ∃ parent ∈ group.tables, table.parent = some parent.id ∧
        parent.id.ordinal < table.id.ordinal ∧ table.depth = parent.depth + 1 := by
  cases hangs : table.parent with
  | some id =>
      obtain ⟨parent, member, rfl, before, deeper⟩ := tree.joined table present id hangs
      exact .inr ⟨parent, member, rfl, before, deeper⟩
  | none =>
      obtain ⟨root, rootDepth, walk⟩ := tree.preorder
      obtain isRoot | ⟨above, member, child⟩ := walk.root_or_below table present
      · obtain rfl := List.mem_singleton.mp isRoot
        generalize places : group.tables = order at walk
        cases walk with
        | cons _ _ =>
            have inside : 0 < group.tables.length := by simp [places]
            have ordinal := tree.numbered.ordinal_getElem inside
            simp only [places, List.getElem_cons_zero] at ordinal
            exact .inl ⟨UInt32.toNat.inj ordinal, rfl, rootDepth⟩
      · simp [hangs, tree.mem_children above member] at child

theorem root?_of_top
    {table : Table}
    (present : table ∈ group.tables)
    (isTop : table.parent = none) :
    group.root? = some table := by
  rcases tree.top_or_joined present with ⟨first, _⟩ | ⟨parent, _, hangs, _⟩
  · have found := tree.numbered.table?_of_mem present
    rw [table?, first] at found
    rw [root?, List.head?_eq_getElem?]
    exact found
  · simp [isTop] at hangs

/-- There is a root, and every other table has it on its way up. -/
theorem exists_root :
    ∃ root ∈ group.tables, group.root? = some root ∧
      ∀ table ∈ group.tables, table = root ∨ group.isAncestor root.id table.id = true := by
  obtain ⟨first, _, walk⟩ := tree.preorder
  have someTable := walk.sublist_of_roots.subset (List.mem_singleton_self first)
  obtain ⟨root, isRoot⟩ := Option.isSome_iff_exists.mp
    (List.isSome_head?.mpr (List.ne_nil_of_mem someTable))
  refine ⟨root, List.mem_of_head? isRoot, isRoot, ?_⟩
  refine tree.induction (motive := fun table =>
    table = root ∨ group.isAncestor root.id table.id = true) ?_ ?_
  · intro table present isTop
    exact .inl (Option.some.inj ((tree.root?_of_top present isTop).symm.trans isRoot))
  · intro table present parent _ hangs inductionHypothesis
    refine .inr ((tree.isAncestor_of_parent present hangs).mpr ?_)
    rcases inductionHypothesis with rfl | onTheWay
    · exact .inl rfl
    · exact .inr onTheWay

/-! ## Key layouts -/

/-- The layout of a table has the whole keys of the tables on the path from the
root to it, in this order. -/
theorem keyLayout_spec
    {table : Table}
    (present : table ∈ group.tables) :
    table.keyLayout.map (·.table) = (group.ancestors table.id).reverse ++ [table.id] ∧
      ∀ key ∈ table.keyLayout, group.IsKey table.columns key := by
  refine tree.induction (motive := fun table =>
    table.keyLayout.map (·.table) = (group.ancestors table.id).reverse ++ [table.id] ∧
      ∀ key ∈ table.keyLayout, group.IsKey table.columns key) ?_ ?_ table present
  all_goals
    intro table present
    have sound := tree.sound table present
    have ownKey : group.IsKey table.columns ⟨table.id, table.primaryKey⟩ :=
      ⟨table, tree.numbered.table?_of_mem present, rfl, sound.key_lt⟩
    have derived := sound.derived group (List.prefix_refl _)
  · intro isTop
    cases derived with
    | child joined => simp [Table.parent, joined] at isTop
    | root _ layout =>
        rw [tree.ancestors_eq, tree.parent?_of_mem present, isTop, layout]
        exact ⟨rfl, by simpa using ownKey⟩
  · rintro parent member hangs ⟨parentPath, parentKeys⟩
    cases derived with
    | root isRoot => simp [Table.parent, isRoot] at hangs
    | @child join found inherited joined isParent inRange carried layout =>
        have sameParent : join.parent = parent.id := by simpa [Table.parent, joined] using hangs
        rw [sameParent, tree.numbered.table?_of_mem member] at isParent
        obtain rfl := Option.some.inj isParent
        have path : inherited.map (·.table) = parent.keyLayout.map (·.table) :=
          (map_eq_map_of_forall₂ (fun _ _ carries => carries.1) carried).symm
        rw [tree.ancestors_eq, tree.parent?_of_mem present, hangs, layout]
        constructor
        · rw [List.map_append, path, parentPath, List.reverse_cons]
          rfl
        · intro key inLayout
          rcases List.mem_append.mp inLayout with above | own
          · obtain ⟨source, inParent, carries⟩ := exists_input_of_mem carried key above
            exact (parentKeys source inParent).carry (fun pair among => (inRange pair among).1)
              carries
          · exact List.mem_singleton.mp own ▸ ownKey

end Joins

end Group.IsTree
end Keyspace
