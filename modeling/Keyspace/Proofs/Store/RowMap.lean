import Keyspace.Proofs.Cursor.Subtree
import Keyspace.Proofs.Store.Calls

/-!
# A group store as a map from keys to rows

What a group store answers depends only on the latest change at each key of
each group.  The key-value store reflects the changes after every call: keys of
two groups, or of rows and of index entries, never meet, and two paths share a
key only if they are alike.
-/

namespace Keyspace

open GroupStore (Effect)

/-! ## Latest changes -/

namespace Value

/-- A test for values that are alike. -/
def isAlike : Value -> Value -> Bool
  | decimal left, decimal right => left.compare right == .eq
  | left, right => decide (left = right)

theorem isAlike_iff
    {left right : Value} :
    left.isAlike right = true ↔ left.Alike right := by
  unfold isAlike Alike
  split <;> simp

instance : DecidableRel Value.Alike := fun _ _ => decidable_of_iff _ isAlike_iff

end Value

instance : DecidableRel Segment.Alike := fun left right =>
  inferInstanceAs (Decidable (left.table = right.table ∧
    List.Forall₂ Value.Alike left.values right.values))

instance : DecidableRel HKey.Alike := fun left right =>
  inferInstanceAs (Decidable (List.Forall₂ Segment.Alike left.segments right.segments))

namespace RowChange

/-- Whether a change was made at a key of a group. -/
def Touches (change : RowChange) (group : Group) (hkey : HKey) : Prop :=
  change.group.id = group.id ∧ change.hkey.Alike hkey

instance (change : RowChange) (group : Group) (hkey : HKey) :
    Decidable (change.Touches group hkey) :=
  inferInstanceAs (Decidable (change.group.id = group.id ∧ change.hkey.Alike hkey))

/-- Whether a change was made at a path of its group, with one fitting value
per column of the table that the path names. -/
def Fits (change : RowChange) : Prop :=
  change.hkey.Rooted change.group ∧
    ∀ row table, change.row = some row ->
      change.hkey.table?.bind change.group.table? = some table ->
        table.rowType.Takes row.values

/-- Whether changes were made at fitting paths of given groups, of which no two
have one number. -/
structure Admissible (groups : List Group) (changes : List RowChange) : Prop where
  /-- The number tells the group. -/
  distinct : ∀ left ∈ groups, ∀ right ∈ groups, left.id = right.id -> left = right
  /-- Only these groups were changed. -/
  listed : ∀ change ∈ changes, change.group ∈ groups
  /-- Every change fits. -/
  fits : ∀ change ∈ changes, change.Fits

theorem Admissible.of_append
    {groups : List Group}
    {later earlier : List RowChange}
    (admissible : Admissible groups (later ++ earlier)) :
    Admissible groups earlier where
  distinct := admissible.distinct
  listed change present := admissible.listed change (List.mem_append_right _ present)
  fits change present := admissible.fits change (List.mem_append_right _ present)

/-- The row that changes left at a key of a group, where the latest change
comes first. -/
def lastWritten : List RowChange -> Group -> HKey -> Option Row
  | [], _, _ => none
  | change :: earlier, group, hkey =>
      if change.Touches group hkey then change.row else lastWritten earlier group hkey

theorem exists_of_lastWritten
    {changes : List RowChange}
    {group : Group}
    {hkey : HKey}
    {row : Row}
    (written : lastWritten changes group hkey = some row) :
    ∃ change ∈ changes, change.Touches group hkey ∧ change.row = some row := by
  induction changes with
  | nil => simp [lastWritten] at written
  | cons change earlier inductionHypothesis =>
      unfold lastWritten at written
      split at written
      · next touches => exact ⟨change, by simp, touches, written⟩
      · obtain ⟨other, present, found⟩ := inductionHypothesis written
        exact ⟨other, by simp [present], found⟩

end RowChange

/-! ## Keys of rows -/

namespace KeyLayout

theorem exists_rowKey
    {group : Group}
    {hkey : HKey}
    (rooted : hkey.Rooted group) :
    ∃ key, rowKey group hkey = .ok key := by
  obtain ⟨bytes, encoded⟩ := HKey.exists_encode rooted
  exact ⟨_, rowKey_eq_ok.mpr ⟨bytes, encoded, rfl⟩⟩

theorem groupStart_split
    {left right : UInt32}
    {leftRest rightRest : Bytes}
    (equal : groupStart left ++ leftRest = groupStart right ++ rightRest) :
    left = right ∧ leftRest = rightRest :=
  Element.packInteger_split (List.cons.inj equal).2

/-- Rows share a key exactly if they are of one group and their paths are
alike. -/
theorem rowKey_eq_iff
    {left right : Group}
    {leftHKey rightHKey : HKey}
    {leftKey rightKey : Bytes}
    (sameGroup : left.id = right.id -> left = right)
    (leftRooted : leftHKey.Rooted left)
    (rightRooted : rightHKey.Rooted right)
    (leftKeyed : rowKey left leftHKey = .ok leftKey)
    (rightKeyed : rowKey right rightHKey = .ok rightKey) :
    leftKey = rightKey ↔ left.id = right.id ∧ leftHKey.Alike rightHKey := by
  obtain ⟨leftBytes, leftEncoded, rfl⟩ := rowKey_eq_ok.mp leftKeyed
  obtain ⟨rightBytes, rightEncoded, rfl⟩ := rowKey_eq_ok.mp rightKeyed
  constructor
  · intro equal
    obtain ⟨sameId, rfl⟩ := groupStart_split equal
    obtain rfl := sameGroup sameId
    exact ⟨sameId, HKey.alike_of_encode_eq leftRooted rightRooted leftEncoded rightEncoded⟩
  · rintro ⟨sameId, alike⟩
    have sameBytes := (alike.encode rightEncoded).symm.trans leftEncoded
    rw [sameId, Except.ok.inj sameBytes]

theorem head?_rowKey
    {group : Group}
    {hkey : HKey}
    {key : Bytes}
    (keyed : rowKey group hkey = .ok key) :
    key.head? = some groupSubspace := by
  obtain ⟨bytes, _, rfl⟩ := rowKey_eq_ok.mp keyed
  rfl

end KeyLayout

/-! ## Stores that reflect changes -/

/-- Whether bytes found at a key are those of the row that stands there. -/
def Row.IsStoredAs : Option Row -> Option Bytes -> Prop
  | none, found => found = none
  | some row, found => ∃ value, row.encode = .ok value ∧ found = some value

/-- Whether a store has, in the subspace of rows, what changes left there. -/
structure Store.Reflects (store : Store) (groups : List Group) (changes : List RowChange) :
    Prop where
  /-- Rows were only written at keys that name a table and have an encoding. -/
  named : ∀ change ∈ changes, change.row ≠ none ->
    change.hkey.table? ≠ none ∧ ∃ bytes, change.hkey.encode = .ok bytes
  /-- No other keys are there. -/
  keyed : ∀ key value, store.get? key = some value ->
    key.head? = some KeyLayout.groupSubspace ->
      ∃ change ∈ changes, KeyLayout.rowKey change.group change.hkey = .ok key
  /-- At the key of a path stands the row written last. -/
  stored : ∀ group ∈ groups, ∀ hkey key, hkey.Rooted group ->
    KeyLayout.rowKey group hkey = .ok key ->
      Row.IsStoredAs (RowChange.lastWritten changes group hkey) (store.get? key)

namespace Store

theorem reflects_empty
    (groups : List Group) :
    empty.Reflects groups [] := by
  refine ⟨by simp, ?_, ?_⟩
  · intro key value found
    simp at found
  · intro group _ hkey key _ _
    exact get?_empty key

variable {groups : List Group} {changes : List RowChange} {before after : Store}

/-- What is made of one key shows there and nowhere else. -/
theorem Reflects.change
    {made : RowChange}
    {madeKey : Bytes}
    {found : Option Bytes}
    (admissible : RowChange.Admissible groups (made :: changes))
    (reflects : before.Reflects groups changes)
    (named : made.row ≠ none -> made.hkey.table? ≠ none)
    (madeKeyed : KeyLayout.rowKey made.group made.hkey = .ok madeKey)
    (stands : Row.IsStoredAs made.row found)
    (get?_after : ∀ key, after.get? key = if madeKey = key then found else before.get? key) :
    after.Reflects groups (made :: changes) := by
  refine ⟨?_, ?_, ?_⟩
  · intro change member
    rcases List.mem_cons.mp member with rfl | earlier
    · obtain ⟨bytes, encoded, _⟩ := KeyLayout.rowKey_eq_ok.mp madeKeyed
      exact fun wrote => ⟨named wrote, bytes, encoded⟩
    · exact reflects.named change earlier
  · intro key value present isRow
    rw [get?_after] at present
    split at present
    · next same => exact ⟨made, by simp, same ▸ madeKeyed⟩
    · obtain ⟨earlier, member, keyed⟩ := reflects.keyed key value present isRow
      exact ⟨earlier, by simp [member], keyed⟩
  · intro group present hkey key otherRooted keyed
    have sameKey : madeKey = key ↔ made.Touches group hkey :=
      KeyLayout.rowKey_eq_iff (admissible.distinct _ (admissible.listed made (by simp)) _ present)
        (admissible.fits made (by simp)).1 otherRooted madeKeyed keyed
    rw [get?_after, RowChange.lastWritten]
    by_cases touches : made.Touches group hkey
    · rw [if_pos touches, if_pos (sameKey.mpr touches)]
      exact stands
    · rw [if_neg touches, if_neg (mt sameKey.mp touches)]
      exact reflects.stored group present hkey key otherRooted keyed

/-- One call keeps the store up with the changes. -/
theorem Reflects.step
    {change : Option RowChange}
    (admissible : RowChange.Admissible groups (change.toList ++ changes))
    (reflects : before.Reflects groups changes)
    (effect : Effect before change after) :
    after.Reflects groups (change.toList ++ changes) := by
  cases effect with
  | unchanged => exact reflects
  | indexed rest =>
      have other : ∀ key : Bytes, key.head? = some KeyLayout.groupSubspace ->
          KeyLayout.indexSubspace :: rest ≠ key := by
        rintro key isRow rfl
        exact absurd (Option.some.inj isRow) (by decide)
      refine ⟨reflects.named, ?_, ?_⟩
      · intro key value found isRow
        rw [get?_insert, if_neg (other key isRow)] at found
        exact reflects.keyed key value found isRow
      · intro group present hkey key rooted keyed
        rw [get?_insert, if_neg (other key (KeyLayout.head?_rowKey keyed))]
        exact reflects.stored group present hkey key rooted keyed
  | @written _ _ _ key value named keyed encoded =>
      exact reflects.change admissible (fun _ => named) keyed ⟨value, encoded, rfl⟩
        (before.get?_insert key value)
  | @deleted _ _ key keyed =>
      exact reflects.change admissible (absurd rfl) keyed rfl (before.get?_erase key)

/-- The store reflects the changes after every run. -/
theorem reflects_run
    (calls : List StoreCall)
    (admissible : RowChange.Admissible groups (GroupStore.run calls).1) :
    (GroupStore.run calls).2.store.Reflects groups (GroupStore.run calls).1 := by
  induction calls using List.reverseRecOn with
  | nil => exact reflects_empty groups
  | append_singleton calls call inductionHypothesis =>
      rw [GroupStore.run_concat] at admissible ⊢
      exact (inductionHypothesis admissible.of_append).step admissible
        (GroupStore.effect_perform _ call)

end Store

/-! ## Answers -/

namespace HKey

theorem exists_table_of_mem
    {group : Group}
    {above : Option TableId}
    {segments : List Segment}
    (follows : FollowsJoins group above segments) :
    ∀ segment ∈ segments, ∃ table, group.table? segment.table = some table := by
  induction segments generalizing above with
  | nil => simp
  | cons segment segments inductionHypothesis =>
      intro other present
      rcases List.mem_cons.mp present with rfl | further
      · obtain ⟨⟨table, found, _⟩, _⟩ := follows
        exact ⟨table, found⟩
      · exact inductionHypothesis follows.2 other further

/-- The table that a path names is one of its group. -/
theorem exists_table
    {group : Group}
    {hkey : HKey}
    (rooted : hkey.Rooted group)
    (named : hkey.table? ≠ none) :
    ∃ table, hkey.table?.bind group.table? = some table := by
  have nonempty : hkey.segments ≠ [] := by
    intro empty
    simp [table?, empty] at named
  obtain ⟨table, found⟩ :=
    exists_table_of_mem rooted _ (List.getLast_mem nonempty)
  refine ⟨table, ?_⟩
  rw [table?, List.getLast?_eq_some_getLast nonempty]
  exact found

end HKey
namespace RowChange

theorem touches_congr
    {change : RowChange}
    {group : Group}
    {left right : HKey}
    (alike : left.Alike right) :
    change.Touches group left ↔ change.Touches group right :=
  and_congr_right fun _ => ⟨fun touches => touches.trans alike,
    fun touches => touches.trans alike.symm⟩

theorem lastWritten_congr
    {left right : HKey}
    (changes : List RowChange)
    (group : Group)
    (alike : left.Alike right) :
    lastWritten changes group left = lastWritten changes group right := by
  induction changes with
  | nil => rfl
  | cons change earlier inductionHypothesis =>
      simp only [lastWritten, touches_congr alike, inductionHypothesis]

/-- The row written last has a fitting value for each column of its table. -/
theorem takes_of_lastWritten
    {groups : List Group}
    {changes : List RowChange}
    {group : Group}
    {hkey : HKey}
    {row : Row}
    {table : Table}
    (admissible : RowChange.Admissible groups changes)
    (present : group ∈ groups)
    (written : lastWritten changes group hkey = some row)
    (named : hkey.table?.bind group.table? = some table) :
    table.rowType.Takes row.values := by
  obtain ⟨change, member, ⟨sameId, alike⟩, wrote⟩ := exists_of_lastWritten written
  have sameGroup := admissible.distinct _ (admissible.listed change member) _ present sameId
  apply (admissible.fits change member).2 row table wrote
  rw [alike.table?_eq, sameGroup]
  exact named

end RowChange

namespace Store

variable {groups : List Group} {changes : List RowChange} {store : Store} {group : Group}

theorem Reflects.readRow
    {hkey : HKey}
    (admissible : RowChange.Admissible groups changes)
    (reflects : store.Reflects groups changes)
    (present : group ∈ groups)
    (rooted : hkey.Rooted group)
    (named : hkey.table? ≠ none) :
    (RowChange.lastWritten changes group hkey = none ->
        GroupStore.readRow store group hkey = .ok none) ∧
      ∀ written, RowChange.lastWritten changes group hkey = some written ->
        ∃ row, GroupStore.readRow store group hkey = .ok (some row) ∧ row.hkey = some hkey ∧
          List.Forall₂ Value.Alike row.values written.values := by
  obtain ⟨table, found⟩ := HKey.exists_table rooted named
  obtain ⟨key, keyed⟩ := KeyLayout.exists_rowKey rooted
  have stands := reflects.stored group present hkey key rooted keyed
  constructor
  · intro unwritten
    rw [unwritten] at stands
    have absent : store.get? key = none := stands
    simp only [GroupStore.readRow, found, keyed, bind, Except.bind, absent]
    rfl
  · intro written last
    have takes := RowChange.takes_of_lastWritten admissible present last found
    rw [last] at stands
    obtain ⟨value, rowEncoded, stored⟩ := stands
    obtain ⟨values, decoded, alike⟩ := Row.exists_decode takes rowEncoded
    refine ⟨(Row.ofValues table.rowType values).withHKey hkey, ?_, rfl, alike⟩
    simp only [GroupStore.readRow, found, keyed, bind, Except.bind, stored, decoded]
    rfl

/-- Every entry of a group holds the row that was written last at its key. -/
theorem Reflects.exists_row
    {entry : Entry}
    (admissible : RowChange.Admissible groups changes)
    (reflects : store.Reflects groups changes)
    (present : group ∈ groups)
    (member : entry ∈ store.startingWith (KeyLayout.groupStart group.id)) :
    ∃ row, group.Holds entry row ∧ ∃ hkey written, row.hkey = some hkey ∧
      RowChange.lastWritten changes group hkey = some written ∧
      List.Forall₂ Value.Alike row.values written.values := by
  obtain ⟨stored, starts⟩ := List.mem_filter.mp member
  obtain ⟨rest, split⟩ := of_decide_eq_true starts
  have found := mem_entries.mp stored
  have isRow : entry.key.head? = some KeyLayout.groupSubspace := by
    rw [← split]
    rfl
  obtain ⟨change, made, keyed⟩ := reflects.keyed entry.key entry.value found isRow
  obtain ⟨bytes, encoded, otherSplit⟩ := KeyLayout.rowKey_eq_ok.mp keyed
  obtain ⟨sameId, _⟩ := KeyLayout.groupStart_split (otherSplit.symm.trans split.symm)
  have sameGroup := admissible.distinct _ (admissible.listed change made) _ present sameId
  have rooted := (admissible.fits change made).1
  rw [sameGroup] at keyed rooted
  have stands := reflects.stored group present change.hkey _ rooted keyed
  rw [found] at stands
  cases last : RowChange.lastWritten changes group change.hkey with
  | none =>
      rw [last] at stands
      simp [Row.IsStoredAs] at stands
  | some written =>
      rw [last] at stands
      obtain ⟨value, rowEncoded, same⟩ := stands
      obtain rfl := Option.some.inj same
      have named : change.hkey.table? ≠ none := by
        obtain ⟨writer, member, ⟨_, alike⟩, wrote⟩ := RowChange.exists_of_lastWritten last
        rw [← alike.table?_eq]
        exact (reflects.named writer member (by simp [wrote])).1
      obtain ⟨table, tableFound⟩ := HKey.exists_table rooted named
      have takes := RowChange.takes_of_lastWritten admissible present last tableFound
      obtain ⟨values, decoded, alike⟩ := Row.exists_decode takes rowEncoded
      obtain ⟨back, backAlike, holds⟩ := Group.exists_holds rooted keyed tableFound decoded
      exact ⟨_, holds, back, written, rfl,
        (RowChange.lastWritten_congr changes group backAlike).trans last, alike⟩

/-- Stores that agree on the keys with a common start have the same entries
there. -/
theorem startingWith_congr
    {before after : Store}
    {start : Bytes}
    (agree : ∀ key, start <+: key -> after.get? key = before.get? key) :
    after.startingWith start = before.startingWith start := by
  let rises : Entry -> Entry -> Prop := fun first second => Bytes.Precedes first.key second.key
  have irreflexive : Std.Irrefl rises := ⟨fun entry => Bytes.not_precedes_self entry.key⟩
  have antisymmetric : Std.Antisymm rises :=
    ⟨fun _ _ forth back => absurd (forth.trans back) (Bytes.not_precedes_self _)⟩
  apply List.Pairwise.eq_of_mem_iff (r := rises) (after.ascending_entries.filter _)
    (before.ascending_entries.filter _)
  intro entry
  simp only [List.mem_filter, mem_entries]
  constructor
  · rintro ⟨found, starts⟩
    exact ⟨(agree _ (of_decide_eq_true starts)).symm.trans found, starts⟩
  · rintro ⟨found, starts⟩
    exact ⟨(agree _ (of_decide_eq_true starts)).trans found, starts⟩

end Store

namespace GroupStore

/-- A call leaves every row key alone that is not the one of its change. -/
theorem Effect.get?_eq
    {before after : Store}
    {change : Option RowChange}
    {key : Bytes}
    (effect : Effect before change after)
    (isRow : key.head? = some KeyLayout.groupSubspace)
    (elsewhere : ∀ made ∈ change, KeyLayout.rowKey made.group made.hkey ≠ .ok key) :
    after.get? key = before.get? key := by
  cases effect with
  | unchanged => rfl
  | indexed rest =>
      rw [Store.get?_insert, if_neg]
      rintro rfl
      exact absurd (Option.some.inj isRow) (by decide)
  | written named keyed encoded =>
      rw [Store.get?_insert, if_neg]
      rintro rfl
      exact elsewhere _ rfl keyed
  | deleted keyed =>
      rw [Store.get?_erase, if_neg]
      rintro rfl
      exact elsewhere _ rfl keyed

theorem readRow_congr
    {before after : Store}
    {group : Group}
    {hkey : HKey}
    (agree : ∀ key, KeyLayout.rowKey group hkey = .ok key -> after.get? key = before.get? key) :
    readRow after group hkey = readRow before group hkey := by
  unfold readRow
  split
  · rfl
  · cases keyed : KeyLayout.rowKey group hkey with
    | error error => rfl
    | ok key => simp only [bind, Except.bind, agree key keyed]

end GroupStore

/-! ## Full scans -/

/-- Whether the encoded key of one row comes before that of another. -/
def Row.Precedes (first second : Row) : Prop :=
  ∃ firstHKey secondHKey firstBytes secondBytes,
    first.hkey = some firstHKey ∧ second.hkey = some secondHKey ∧
      firstHKey.encode = .ok firstBytes ∧ secondHKey.encode = .ok secondBytes ∧
      Bytes.Precedes firstBytes secondBytes

theorem Group.Holds.precedes
    {group : Group}
    {firstEntry secondEntry : Entry}
    {first second : Row}
    (firstHolds : group.Holds firstEntry first)
    (secondHolds : group.Holds secondEntry second)
    (rises : Bytes.Precedes firstEntry.key secondEntry.key) :
    first.Precedes second := by
  obtain ⟨_, firstHKey, firstPlaced, _, firstKeyed⟩ := firstHolds
  obtain ⟨_, secondHKey, secondPlaced, _, secondKeyed⟩ := secondHolds
  obtain ⟨firstBytes, firstEncoded, firstSplit⟩ := KeyLayout.rowKey_eq_ok.mp firstKeyed
  obtain ⟨secondBytes, secondEncoded, secondSplit⟩ := KeyLayout.rowKey_eq_ok.mp secondKeyed
  refine ⟨firstHKey, secondHKey, firstBytes, secondBytes, firstPlaced, secondPlaced,
    firstEncoded, secondEncoded, ?_⟩
  rwa [firstSplit, secondSplit, Bytes.Precedes, Bytes.compare_append_self] at rises

namespace Store

variable {groups : List Group} {changes : List RowChange} {store : Store} {group : Group}

/-- A full scan delivers the row written last at each path that has one, by
rising keys. -/
theorem Reflects.fullScan
    (admissible : RowChange.Admissible groups changes)
    (reflects : store.Reflects groups changes)
    (present : group ∈ groups) :
    ∃ rows, (∀ batchSize, GroupCursor.fullScan batchSize group store = .ok rows) ∧
      rows.Pairwise Row.Precedes ∧
      (∀ row ∈ rows, ∃ hkey written, row.hkey = some hkey ∧ hkey.Rooted group ∧
        RowChange.lastWritten changes group hkey = some written ∧
        List.Forall₂ Value.Alike row.values written.values) ∧
      ∀ hkey written, hkey.Rooted group ->
        RowChange.lastWritten changes group hkey = some written ->
          ∃ row ∈ rows, ∃ back, row.hkey = some back ∧ back.Alike hkey := by
  obtain ⟨rows, holds⟩ := exists_forall₂ fun entry member =>
    reflects.exists_row admissible present member
  refine ⟨rows, ?_, ?_, ?_, ?_⟩
  · intro batchSize
    rw [GroupCursor.fullScan_eq]
    exact Group.mapM_rowOfEntry (holds.imp fun _ _ held => held.1)
  · apply pairwise_of_forall₂ _ holds (store.ascending_entries.filter _)
    exact fun first second rises => first.1.precedes second.1 rises
  · intro row member
    obtain ⟨entry, _, held, hkey, written, placed, last, alike⟩ :=
      exists_input_of_mem holds row member
    obtain ⟨_, other, otherPlaced, rooted, _⟩ := held
    obtain rfl := Option.some.inj (placed.symm.trans otherPlaced)
    exact ⟨hkey, written, placed, rooted, last, alike⟩
  · intro hkey written rooted last
    obtain ⟨writer, member, ⟨_, alike⟩, wrote⟩ := RowChange.exists_of_lastWritten last
    obtain ⟨_, bytes, encoded⟩ := reflects.named writer member (by simp [wrote])
    have keyed : KeyLayout.rowKey group hkey = .ok (KeyLayout.groupStart group.id ++ bytes) :=
      KeyLayout.rowKey_eq_ok.mpr ⟨bytes, alike.symm.encode encoded, rfl⟩
    have stands := reflects.stored group present hkey _ rooted keyed
    rw [last] at stands
    obtain ⟨value, _, found⟩ := stands
    have entryMember : Entry.mk (KeyLayout.groupStart group.id ++ bytes) value ∈
        store.startingWith (KeyLayout.groupStart group.id) :=
      List.mem_filter.mpr ⟨mem_entries.mpr found, by simp⟩
    obtain ⟨row, rowMember, held, _⟩ := exists_input_of_mem holds.flip _ entryMember
    obtain ⟨_, back, placed, backRooted, backKeyed⟩ := held
    have same := (KeyLayout.rowKey_eq_iff (fun _ => rfl) backRooted rooted backKeyed keyed).mp rfl
    exact ⟨row, rowMember, back, placed, same.2⟩

end Store
namespace GroupStore

/-- After any run of calls a group store is the map of the rows written last:
a read gives the row written last at its key, a full scan gives all of them by
rising keys, and a call that changes another group, another key or an index
changes neither answer. -/
theorem run_refines_rows
    {groups : List Group}
    {group : Group}
    (calls : List StoreCall)
    (admissible : RowChange.Admissible groups (run calls).1)
    (present : group ∈ groups) :
    (∀ hkey, hkey.Rooted group -> hkey.table? ≠ none ->
      (RowChange.lastWritten (run calls).1 group hkey = none ->
        readRow (run calls).2.store group hkey = .ok none) ∧
      ∀ written, RowChange.lastWritten (run calls).1 group hkey = some written ->
        ∃ row, readRow (run calls).2.store group hkey = .ok (some row) ∧
          row.hkey = some hkey ∧ List.Forall₂ Value.Alike row.values written.values) ∧
    (∃ rows,
      (∀ batchSize, GroupCursor.fullScan batchSize group (run calls).2.store = .ok rows) ∧
      rows.Pairwise Row.Precedes ∧
      (∀ row ∈ rows, ∃ hkey written, row.hkey = some hkey ∧ hkey.Rooted group ∧
        RowChange.lastWritten (run calls).1 group hkey = some written ∧
        List.Forall₂ Value.Alike row.values written.values) ∧
      ∀ hkey written, hkey.Rooted group ->
        RowChange.lastWritten (run calls).1 group hkey = some written ->
          ∃ row ∈ rows, ∃ back, row.hkey = some back ∧ back.Alike hkey) ∧
    ∀ call change after, (run calls).2.perform call = (change, after) ->
      RowChange.Admissible groups (change.toList ++ (run calls).1) ->
        (∀ hkey, hkey.Rooted group -> (∀ made ∈ change, ¬ made.Touches group hkey) ->
          readRow after.store group hkey = readRow (run calls).2.store group hkey) ∧
        ((∀ made ∈ change, made.group.id ≠ group.id) -> ∀ batchSize,
          GroupCursor.fullScan batchSize group after.store =
            GroupCursor.fullScan batchSize group (run calls).2.store) := by
  have reflects := Store.reflects_run calls admissible
  refine ⟨?_, reflects.fullScan admissible present, ?_⟩
  · intro hkey rooted named
    exact reflects.readRow admissible present rooted named
  · intro call change after performed further
    have effect := effect_perform (run calls).2 call
    rw [performed] at effect
    constructor
    · intro hkey rooted untouched
      apply readRow_congr
      intro key keyed
      apply effect.get?_eq (KeyLayout.head?_rowKey keyed)
      intro made isMade madeKeyed
      have member : made ∈ change.toList ++ (run calls).1 :=
        List.mem_append_left _ (Option.mem_toList.mpr isMade)
      apply untouched made isMade
      exact (KeyLayout.rowKey_eq_iff
        (further.distinct _ (further.listed made member) _ present)
        (further.fits made member).1 rooted madeKeyed keyed).mp rfl
    · intro otherGroup batchSize
      rw [GroupCursor.fullScan_eq, GroupCursor.fullScan_eq, Store.startingWith_congr]
      rintro _ ⟨rest, rfl⟩
      apply effect.get?_eq rfl
      intro made isMade madeKeyed
      obtain ⟨bytes, _, split⟩ := KeyLayout.rowKey_eq_ok.mp madeKeyed
      exact otherGroup made isMade (KeyLayout.groupStart_split split).1.symm

end GroupStore

namespace Library

/-- A second library. -/
def archive : Group := { group with id := 8, name := "archive" }

/-- The row of an author. -/
def authorRow (name : String) : Row := Row.ofValues authors.rowType [.string name]

/-- An author written in both libraries and deleted from the second. -/
def calls : List StoreCall :=
  [.writeRow group (authorRow "a"), .writeAt archive (author "a") (authorRow "a"),
    .deleteRow archive (author "a")]

theorem changes_calls :
    (GroupStore.run calls).1 =
      [⟨archive, author "a", none⟩, ⟨archive, author "a", some (authorRow "a")⟩,
        ⟨group, author "a", some (authorRow "a")⟩] := rfl

theorem admissible_calls : RowChange.Admissible [group, archive] (GroupStore.run calls).1 := by
  rw [changes_calls]
  have takes : authors.rowType.Takes (authorRow "a").values := .cons rfl .nil
  refine ⟨?_, ?_, ?_⟩
  · simp [archive, group]
  · simp
  · simp only [List.mem_cons, List.not_mem_nil, or_false]
    rintro change (rfl | rfl | rfl)
    · exact ⟨author_rooted "a", by simp⟩
    · refine ⟨author_rooted "a", ?_⟩
      rintro row table same named
      obtain rfl := Option.some.inj same
      obtain rfl := Option.some.inj named
      exact takes
    · refine ⟨author_rooted "a", ?_⟩
      rintro row table same named
      obtain rfl := Option.some.inj same
      obtain rfl := Option.some.inj named
      exact takes

end Library

namespace GroupStore

/-- The author deleted from the second library is still in the first. -/
theorem run_refines_rows_two_libraries :
    RowChange.Admissible [Library.group, Library.archive] (run Library.calls).1 ∧
      ∃ row, readRow (run Library.calls).2.store Library.group (Library.author "a") =
        .ok (some row) := by
  refine ⟨Library.admissible_calls, ?_⟩
  obtain ⟨reads, _⟩ := run_refines_rows Library.calls Library.admissible_calls
    (show Library.group ∈ [Library.group, Library.archive] by simp)
  obtain ⟨row, read, _⟩ := (reads (Library.author "a") (Library.author_rooted "a")
    (by decide)).2 (Library.authorRow "a") rfl
  exact ⟨row, read⟩

end GroupStore
end Keyspace
