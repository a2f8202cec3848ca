import Keyspace.Schema.Declaration
import Mathlib.Data.List.Nodup
import Mathlib.Data.List.Perm.Subperm
import Mathlib.Order.Nat
import Mathlib.Tactic.Common

/-!
# Pre-order

A list of nodes is the pre-order of a forest if every node is followed by all
nodes below it, child after child, and then by its siblings.  So what lies below
a node is a run of the list, and the run ends where the level falls back to that
of the node.  Parent links in which the first index has no parent determine such
a list, and walking them down to a depth of the number of links finds all of it.
-/

namespace Keyspace

/-- Whether a list is the pre-order of the trees with given roots. -/
inductive PreorderOf {α : Type} (below : α -> List α) : List α -> List α -> Prop
  /-- No root, no node. -/
  | nil : PreorderOf below [] []
  /-- The first root comes first, then what is below it, then its siblings. -/
  | cons {node : α} {siblings under after : List α}
      (down : PreorderOf below (below node) under)
      (beside : PreorderOf below siblings after) :
      PreorderOf below (node :: siblings) (node :: (under ++ after))

namespace PreorderOf

variable {α β : Type} {below : α -> List α} {roots order : List α}

theorem append
    {others further : List α}
    (first : PreorderOf below roots order)
    (second : PreorderOf below others further) :
    PreorderOf below (roots ++ others) (order ++ further) := by
  induction first with
  | nil => exact second
  | cons down _ _ inductionHypothesis =>
      rw [List.cons_append, List.cons_append, List.append_assoc]
      exact .cons down inductionHypothesis

theorem flatMap
    {list : α -> List α}
    (single : ∀ root ∈ roots, PreorderOf below [root] (list root)) :
    PreorderOf below roots (roots.flatMap list) := by
  induction roots with
  | nil => exact .nil
  | cons root roots inductionHypothesis =>
      rw [List.flatMap_cons]
      exact (single root (by simp)).append
        (inductionHypothesis fun other present => single other (by simp [present]))

theorem map
    {above : β -> List β}
    {image : α -> β}
    (walk : PreorderOf below roots order)
    (agree : ∀ node ∈ order, (below node).map image = above (image node)) :
    PreorderOf above (roots.map image) (order.map image) := by
  induction walk with
  | nil => exact .nil
  | @cons node siblings under after _ _ downHypothesis besideHypothesis =>
      rw [List.map_cons, List.map_cons, List.map_append]
      refine .cons ?_ (besideHypothesis fun other present => agree other (by simp [present]))
      rw [← agree node (by simp)]
      exact downHypothesis fun other present => agree other (by simp [present])

/-- The roots stand in their own order. -/
theorem sublist_of_roots
    (walk : PreorderOf below roots order) :
    roots.Sublist order := by
  induction walk with
  | nil => exact .slnil
  | cons _ _ _ inductionHypothesis =>
      exact (inductionHypothesis.trans (List.sublist_append_right _ _)).cons_cons _

/-- A pre-order leaves out nothing below its nodes. -/
theorem mem_of_below
    (walk : PreorderOf below roots order) :
    ∀ node ∈ order, ∀ child ∈ below node, child ∈ order := by
  induction walk with
  | nil => simp
  | @cons top siblings under after down _ downHypothesis besideHypothesis =>
      intro node present child isBelow
      refine List.mem_cons_of_mem top (List.mem_append.mpr ?_)
      rcases List.mem_cons.mp present with rfl | others
      · exact .inl (down.sublist_of_roots.subset isBelow)
      · rcases List.mem_append.mp others with under | beside
        · exact .inl (downHypothesis node under child isBelow)
        · exact .inr (besideHypothesis node beside child isBelow)

/-- No level is above that of the roots. -/
theorem le_level
    {level : α -> Nat}
    {least : Nat}
    (walk : PreorderOf below roots order)
    (levels : ∀ node ∈ order, ∀ child ∈ below node, level child = level node + 1)
    (rootLevels : ∀ root ∈ roots, level root = least) :
    ∀ node ∈ order, least ≤ level node := by
  induction walk generalizing least with
  | nil => simp
  | @cons top siblings under after _ _ downHypothesis besideHypothesis =>
      have topLevel := rootLevels top (by simp)
      have downLevels : ∀ node ∈ under, least + 1 ≤ level node :=
        downHypothesis (fun node present => levels node (by simp [present]))
          fun child present => by rw [levels top (by simp) child present, topLevel]
      have besideLevels := besideHypothesis
        (fun node present => levels node (by simp [present]))
        fun root present => rootLevels root (by simp [present])
      intro node present
      rcases List.mem_cons.mp present with rfl | others
      · exact topLevel.ge
      · rcases List.mem_append.mp others with under | beside
        · exact (Nat.le_succ least).trans (downLevels node under)
        · exact besideLevels node beside

theorem split_at_member
    {first second front back : List α}
    {node : α}
    (parts : first ++ second = front ++ node :: back) :
    (∃ rest, first = front ++ node :: rest ∧ back = rest ++ second) ∨
      ∃ skipped, front = first ++ skipped ∧ second = skipped ++ node :: back := by
  rcases List.append_eq_append_iff.mp parts with ⟨skipped, rfl, inSecond⟩ | ⟨rest, rfl, inFirst⟩
  · exact .inr ⟨skipped, rfl, inSecond⟩
  · obtain _ | ⟨next, rest⟩ := rest
    · exact .inr ⟨[], by simp, inFirst.symm⟩
    · obtain ⟨rfl, rfl⟩ := List.cons.inj inFirst
      exact .inl ⟨rest, rfl, rfl⟩

/-- Every node is a root or comes behind the node that it is below. -/
theorem root_or_below_earlier
    {node : α}
    {front back : List α}
    (walk : PreorderOf below roots order)
    (parts : order = front ++ node :: back) :
    node ∈ roots ∨ ∃ parent ∈ front, node ∈ below parent := by
  induction walk generalizing front back with
  | nil => simp at parts
  | @cons top siblings under after _ _ downHypothesis besideHypothesis =>
      obtain _ | ⟨first, front⟩ := front
      · obtain ⟨rfl, _⟩ := List.cons.inj parts
        exact .inl (by simp)
      · obtain ⟨rfl, others⟩ := List.cons.inj parts
        rcases split_at_member others with ⟨rest, inUnder, _⟩ | ⟨skipped, rfl, inBeside⟩
        · rcases downHypothesis inUnder with child | ⟨parent, earlier, child⟩
          · exact .inr ⟨top, by simp, child⟩
          · exact .inr ⟨parent, by simp [earlier], child⟩
        · rcases besideHypothesis inBeside with root | ⟨parent, earlier, child⟩
          · exact .inl (by simp [root])
          · exact .inr ⟨parent, by simp [earlier], child⟩

/-- Every node is a root or stands below another node. -/
theorem root_or_below
    (walk : PreorderOf below roots order) :
    ∀ node ∈ order, node ∈ roots ∨ ∃ parent ∈ order, node ∈ below parent := by
  intro node present
  obtain ⟨front, back, rfl⟩ := List.append_of_mem present
  refine (walk.root_or_below_earlier rfl).imp_right ?_
  rintro ⟨parent, earlier, child⟩
  exact ⟨parent, List.mem_append_left _ earlier, child⟩

/-- What is below a node is a run behind it, and what follows the run begins on
no deeper level than the node. -/
theorem exists_run
    {level : α -> Nat}
    {least : Nat}
    {node : α}
    {front back : List α}
    (walk : PreorderOf below roots order)
    (levels : ∀ node ∈ order, ∀ child ∈ below node, level child = level node + 1)
    (rootLevels : ∀ root ∈ roots, level root = least)
    (parts : order = front ++ node :: back) :
    ∃ under after, back = under ++ after ∧ PreorderOf below (below node) under ∧
      ∀ next ∈ after.head?, level next ≤ level node := by
  induction walk generalizing least front back with
  | nil => simp at parts
  | @cons top siblings under after down beside downHypothesis besideHypothesis =>
      have topLevel := rootLevels top (by simp)
      have downLevels : ∀ node ∈ under, ∀ child ∈ below node, level child = level node + 1 :=
        fun node present => levels node (by simp [present])
      have besideLevels : ∀ node ∈ after, ∀ child ∈ below node, level child = level node + 1 :=
        fun node present => levels node (by simp [present])
      have siblingLevels : ∀ root ∈ siblings, level root = least :=
        fun root present => rootLevels root (by simp [present])
      have childLevels : ∀ child ∈ below top, level child = least + 1 :=
        fun child present => by rw [levels top (by simp) child present, topLevel]
      -- what comes first among the siblings is a root itself
      have besideFirst : ∀ next ∈ after.head?, level next = least := by
        cases beside with
        | nil => simp
        | cons _ _ => simpa using siblingLevels _ (by simp)
      obtain _ | ⟨first, front⟩ := front
      · obtain ⟨rfl, rfl⟩ := List.cons.inj parts
        exact ⟨under, after, rfl, down, fun next first =>
          (besideFirst next first).trans_le topLevel.ge⟩
      · obtain ⟨rfl, others⟩ := List.cons.inj parts
        rcases split_at_member others with ⟨rest, inUnder, rfl⟩ | ⟨skipped, rfl, inBeside⟩
        · obtain ⟨run, behind, rfl, runWalk, falls⟩ :=
            downHypothesis downLevels childLevels inUnder
          refine ⟨run, behind ++ after, by simp, runWalk, ?_⟩
          obtain _ | ⟨next, behind⟩ := behind
          · intro next first
            have nodeLevel := down.le_level downLevels childLevels node (by simp [inUnder])
            have nextLevel := besideFirst next (by simpa using first)
            omega
          · exact falls
        · exact besideHypothesis besideLevels siblingLevels inBeside

end PreorderOf

/-! ## Parent links -/

namespace GroupDeclaration

variable {parents : List (Option Nat)}

theorem mem_childIndexes
    {index child : Nat} :
    child ∈ childIndexes parents index ↔ parents[child]? = some (some index) := by
  rw [childIndexes, List.mem_filter, List.mem_range, beq_iff_eq, and_iff_right_iff_imp]
  exact fun here => (List.getElem?_eq_some_iff.mp here).1

theorem nodup_childIndexes
    (parents : List (Option Nat))
    (index : Nat) :
    (childIndexes parents index).Nodup :=
  List.nodup_range.filter _

/-- The index that a number of steps upward lead to. -/
def climb (parents : List (Option Nat)) : Nat -> Nat -> Option Nat
  | 0, index => some index
  | steps + 1, index => (parents[index]?.join).bind (climb parents steps)

theorem climb_add
    (first second index : Nat) :
    climb parents (first + second) index =
      (climb parents first index).bind (climb parents second) := by
  induction first generalizing index with
  | zero => simp [climb]
  | succ first inductionHypothesis =>
      rw [Nat.add_right_comm, climb, climb]
      cases parents[index]?.join with
      | none => rfl
      | some parent => exact inductionHypothesis parent

theorem climb_one_of_mem
    {index child : Nat}
    (below : child ∈ childIndexes parents index) :
    climb parents 1 child = some index := by
  simp [climb, mem_childIndexes.mp below]

/-- Everything in a pre-order climbs to one of its roots. -/
theorem exists_climb
    {roots order : List Nat}
    (walk : PreorderOf (childIndexes parents) roots order) :
    ∀ node ∈ order, ∃ root ∈ roots, ∃ steps, climb parents steps node = some root := by
  induction walk with
  | nil => simp
  | @cons top siblings under after _ _ downHypothesis besideHypothesis =>
      intro node present
      rcases List.mem_cons.mp present with rfl | others
      · exact ⟨node, by simp, 0, rfl⟩
      · rcases List.mem_append.mp others with under | beside
        · obtain ⟨child, below, steps, climbs⟩ := downHypothesis node under
          refine ⟨top, by simp, steps + 1, ?_⟩
          rw [climb_add, climbs, Option.bind_some, climb_one_of_mem below]
        · obtain ⟨root, member, steps, climbs⟩ := besideHypothesis node beside
          exact ⟨root, by simp [member], steps, climbs⟩

section Tree

variable (top : parents[0]? = some none)

include top

theorem climb_top
    {steps index : Nat}
    (climbs : climb parents steps 0 = some index) :
    steps = 0 := by
  cases steps with
  | zero => rfl
  | succ steps => simp [climb, top] at climbs

/-- The way to the first index has one length. -/
theorem climb_unique
    {first second index : Nat}
    (firstClimbs : climb parents first index = some 0)
    (secondClimbs : climb parents second index = some 0) :
    first = second := by
  wlog shorter : first ≤ second generalizing first second
  · exact (this secondClimbs firstClimbs (Nat.le_of_not_le shorter)).symm
  · obtain ⟨further, rfl⟩ := Nat.exists_eq_add_of_le shorter
    rw [climb_add, firstClimbs, Option.bind_some] at secondClimbs
    rw [climb_top top secondClimbs, Nat.add_zero]

/-- Two ways up to one level are one way. -/
theorem climb_to_level
    {first second level index left right : Nat}
    (firstClimbs : climb parents first index = some left)
    (secondClimbs : climb parents second index = some right)
    (leftLevel : climb parents level left = some 0)
    (rightLevel : climb parents level right = some 0) :
    first = second ∧ left = right := by
  have firstWhole : climb parents (first + level) index = some 0 := by
    rw [climb_add, firstClimbs, Option.bind_some, leftLevel]
  have secondWhole : climb parents (second + level) index = some 0 := by
    rw [climb_add, secondClimbs, Option.bind_some, rightLevel]
  obtain rfl : first = second := Nat.add_right_cancel (climb_unique top firstWhole secondWhole)
  exact ⟨rfl, Option.some.inj (firstClimbs.symm.trans secondClimbs)⟩

/-- A pre-order of trees on one level has no node twice. -/
theorem nodup_of_preorder
    {roots order : List Nat}
    {level : Nat}
    (walk : PreorderOf (childIndexes parents) roots order)
    (distinct : roots.Nodup)
    (levels : ∀ root ∈ roots, climb parents level root = some 0) :
    order.Nodup := by
  induction walk generalizing level with
  | nil => exact .nil
  | @cons node siblings under after down beside downHypothesis besideHypothesis =>
      obtain ⟨notSibling, siblingsDistinct⟩ := List.nodup_cons.mp distinct
      have nodeLevel := levels node (by simp)
      have siblingLevels : ∀ root ∈ siblings, climb parents level root = some 0 :=
        fun root present => levels root (by simp [present])
      have childLevels : ∀ child ∈ childIndexes parents node,
          climb parents (level + 1) child = some 0 := by
        intro child below
        rw [Nat.add_comm, climb_add, climb_one_of_mem below, Option.bind_some, nodeLevel]
      have climbsUnder : ∀ other ∈ under, ∃ steps, climb parents (steps + 1) other = some node := by
        intro other present
        obtain ⟨child, below, steps, climbs⟩ := exists_climb down other present
        refine ⟨steps, ?_⟩
        rw [climb_add, climbs, Option.bind_some, climb_one_of_mem below]
      have apart : ∀ other ∈ after, ∀ steps, climb parents steps other ≠ some node := by
        intro other present steps climbs
        obtain ⟨root, member, further, reaches⟩ := exists_climb beside other present
        obtain ⟨_, rfl⟩ := climb_to_level top climbs reaches nodeLevel (siblingLevels root member)
        exact notSibling member
      refine List.nodup_cons.mpr ⟨?_, List.nodup_append.mpr
        ⟨downHypothesis (nodup_childIndexes parents node) childLevels,
          besideHypothesis siblingsDistinct siblingLevels, ?_⟩⟩
      · intro again
        rcases List.mem_append.mp again with inUnder | inAfter
        · obtain ⟨steps, climbs⟩ := climbsUnder node inUnder
          have same := (climb_to_level top climbs (show climb parents 0 node = _ from rfl) nodeLevel
            nodeLevel).1
          omega
        · exact apart node inAfter 0 rfl
      · rintro other inUnder _ inAfter rfl
        obtain ⟨steps, climbs⟩ := climbsUnder other inUnder
        exact apart other inAfter _ climbs

theorem lt_length_of_climb
    {steps index : Nat}
    (climbs : climb parents steps index = some 0) :
    index < parents.length := by
  cases steps with
  | zero =>
      obtain rfl := Option.some.inj climbs
      exact (List.getElem?_eq_some_iff.mp top).1
  | succ steps =>
      by_contra outside
      rw [climb, List.getElem?_eq_none (Nat.le_of_not_lt outside)] at climbs
      simp at climbs

/-- No way to the first index has as many steps as there are indexes. -/
theorem climb_steps_lt
    {steps index : Nat}
    (climbs : climb parents steps index = some 0) :
    steps < parents.length := by
  have onTheWay : ∀ before ≤ steps, ∃ passed, climb parents before index = some passed ∧
      climb parents (steps - before) passed = some 0 := by
    intro before early
    obtain ⟨further, rfl⟩ := Nat.exists_eq_add_of_le early
    rw [climb_add] at climbs
    obtain ⟨passed, reaches, rest⟩ := Option.bind_eq_some_iff.mp climbs
    exact ⟨passed, reaches, by rwa [Nat.add_sub_cancel_left]⟩
  let visited := (List.range (steps + 1)).map fun before => (climb parents before index).getD 0
  have distinct : visited.Nodup := by
    refine List.Nodup.map_on ?_ List.nodup_range
    intro first firstEarly second secondEarly same
    obtain ⟨left, leftReached, leftRest⟩ :=
      onTheWay first (by simpa [Nat.lt_succ_iff] using firstEarly)
    obtain ⟨right, rightReached, rightRest⟩ :=
      onTheWay second (by simpa [Nat.lt_succ_iff] using secondEarly)
    simp only [leftReached, rightReached, Option.getD_some] at same
    have remaining := climb_unique top leftRest (same ▸ rightRest)
    simp only [List.mem_range] at firstEarly secondEarly
    omega
  have inside : visited ⊆ List.range parents.length := by
    intro passed member
    obtain ⟨before, early, rfl⟩ := List.mem_map.mp member
    obtain ⟨index, reached, rest⟩ := onTheWay before (by simpa [Nat.lt_succ_iff] using early)
    rw [reached, Option.getD_some]
    exact List.mem_range.mpr (lt_length_of_climb top rest)
  have shorter := (List.subperm_of_subset distinct inside).length_le
  exact Nat.lt_of_succ_le (by simpa [visited] using shorter)

/-- Below an index the walk is complete if it may go on down to a depth of the
number of indexes. -/
theorem preorder_walk
    {depth level index : Nat}
    (climbs : climb parents level index = some 0)
    (deep : parents.length ≤ level + depth) :
    PreorderOf (childIndexes parents) [index] (preorder parents depth index) := by
  induction depth generalizing level index with
  | zero => exact absurd (climb_steps_lt top climbs) (by omega)
  | succ depth inductionHypothesis =>
      have single : ∀ child ∈ childIndexes parents index,
          PreorderOf (childIndexes parents) [child] (preorder parents depth child) := by
        intro child below
        have childClimbs : climb parents (level + 1) child = some 0 := by
          rw [Nat.add_comm, climb_add, climb_one_of_mem below, Option.bind_some, climbs]
        exact inductionHypothesis childClimbs (by omega)
      have whole := PreorderOf.cons (PreorderOf.flatMap single) .nil
      rwa [List.append_nil] at whole

/-- The walk from the first index is the pre-order of the tree below it, and
passes no index twice. -/
theorem preorder_spec :
    PreorderOf (childIndexes parents) [0] (preorder parents parents.length 0) ∧
      (preorder parents parents.length 0).Nodup ∧
      ∀ index ∈ preorder parents parents.length 0, index < parents.length := by
  have walk := preorder_walk top (show climb parents 0 0 = some 0 from rfl)
    (show parents.length ≤ 0 + parents.length by omega)
  have topLevels : ∀ root ∈ [0], climb parents 0 root = some 0 := by simp [climb]
  refine ⟨walk, nodup_of_preorder top walk (by simp) topLevels, ?_⟩
  intro index present
  obtain ⟨root, isTop, steps, climbs⟩ := exists_climb walk index present
  rw [List.mem_singleton.mp isTop] at climbs
  exact lt_length_of_climb top climbs

end Tree

end GroupDeclaration
end Keyspace
