import Keyspace.Proofs.Cursor.Drain
import Keyspace.Proofs.HKey.Encoding

/-!
# The rows below a row

A full scan, the scan of a subtree and the read of one key use three different
bounds.  They agree on every group whose keys are encoded paths: a bound cursor
delivers the rows of a full scan whose paths start with its row, or only the
row itself.
-/

namespace Keyspace

open Bytes (Continues)

/-! ## Places relative to an anchor -/

namespace Segment

theorem length_le_of_startWith
    {segments starts : List Segment}
    (goesOn : startWith segments starts = true) :
    starts.length ≤ segments.length := by
  induction starts generalizing segments with
  | nil => exact Nat.zero_le _
  | cons start starts inductionHypothesis =>
      obtain _ | ⟨segment, segments⟩ := segments
      · simp [startWith] at goesOn
      · exact Nat.succ_le_succ (inductionHypothesis (Bool.and_eq_true_iff.mp goesOn).2)

end Segment

namespace HKey

/-- Whether a key names the row of an anchor. -/
def isAt (hkey anchor : HKey) : Bool :=
  hkey.startsWith anchor && hkey.segments.length == anchor.segments.length

/-- Whether a key names a row below an anchor. -/
def isBelow (hkey anchor : HKey) : Bool :=
  hkey.startsWith anchor && decide (anchor.segments.length < hkey.segments.length)

/-- A path with the segments of another and no more has its encoded key. -/
theorem encode_eq_of_startWith
    {segments starts : List Segment}
    {bytes startBytes : Bytes}
    (encoded : encode ⟨segments⟩ = .ok bytes)
    (startEncoded : encode ⟨starts⟩ = .ok startBytes)
    (goesOn : Segment.startWith segments starts = true)
    (sameLength : segments.length = starts.length) :
    bytes = startBytes := by
  induction starts generalizing segments bytes startBytes with
  | nil =>
      obtain rfl := List.length_eq_zero_iff.mp sameLength
      exact Except.ok.inj (encoded.symm.trans startEncoded)
  | cons start starts inductionHypothesis =>
      obtain _ | ⟨segment, segments⟩ := segments
      · simp at sameLength
      · obtain ⟨startParts, startOthers, startPacked, startOthersEncoded, rfl⟩ :=
          encode_cons_eq_ok.mp startEncoded
        obtain ⟨parts, others, packed, othersEncoded, rfl⟩ := encode_cons_eq_ok.mp encoded
        obtain ⟨agrees, further⟩ := Bool.and_eq_true_iff.mp goesOn
        obtain ⟨sameTable, rfl⟩ := (Segment.agrees_iff packed startPacked).mp agrees
        rw [sameTable, inductionHypothesis othersEncoded startOthersEncoded further
          (Nat.succ.inj sameLength)]

variable {group : Group} {hkey anchor : HKey} {bytes anchorBytes : Bytes}

/-- Paths name one row exactly if they have one encoded key. -/
theorem isAt_iff
    (rooted : hkey.Rooted group)
    (anchorRooted : anchor.Rooted group)
    (encoded : hkey.encode = .ok bytes)
    (anchorEncoded : anchor.encode = .ok anchorBytes) :
    hkey.isAt anchor = true ↔ bytes = anchorBytes := by
  rw [isAt, Bool.and_eq_true, beq_iff_eq]
  constructor
  · rintro ⟨goesOn, sameLength⟩
    exact encode_eq_of_startWith encoded anchorEncoded goesOn sameLength
  · rintro rfl
    have goesOn := (startsWith_iff rooted anchorRooted encoded anchorEncoded).mpr
      ⟨[], Bytes.continues_nil, by simp⟩
    have back := (startsWith_iff anchorRooted rooted anchorEncoded encoded).mpr
      ⟨[], Bytes.continues_nil, by simp⟩
    exact ⟨goesOn, Nat.le_antisymm (Segment.length_le_of_startWith back)
      (Segment.length_le_of_startWith goesOn)⟩

/-- A path that starts with an anchor is at it or below it, and not both. -/
theorem isBelow_eq
    (hkey anchor : HKey) :
    hkey.isBelow anchor = (hkey.startsWith anchor && !hkey.isAt anchor) := by
  rw [isBelow, isAt]
  cases goesOn : hkey.startsWith anchor with
  | false => rfl
  | true =>
      have longer : anchor.segments.length ≤ hkey.segments.length :=
        Segment.length_le_of_startWith goesOn
      rw [Bool.true_and, Bool.true_and, Bool.true_and, Bool.eq_iff_iff]
      simp only [decide_eq_true_eq, Bool.not_eq_true', beq_eq_false_iff_ne]
      omega

end HKey

namespace Row

/-- Whether the key of a row starts with the segments of an anchor. -/
def isWithin (row : Row) (anchor : HKey) : Bool :=
  row.hkey.any fun hkey => hkey.startsWith anchor

/-- Whether a row stands at an anchor. -/
def isAt (row : Row) (anchor : HKey) : Bool :=
  row.hkey.any fun hkey => hkey.isAt anchor

/-- Whether a row stands below an anchor. -/
def isBelow (row : Row) (anchor : HKey) : Bool :=
  row.hkey.any fun hkey => hkey.isBelow anchor

end Row

/-! ## Stored rows -/

namespace Bytes

@[simp] theorem dropStart?_append
    (start rest : Bytes) :
    dropStart? start (start ++ rest) = some rest := by
  induction start with
  | nil => rfl
  | cons byte start inductionHypothesis => simpa [dropStart?] using inductionHypothesis

end Bytes

namespace KeyLayout

theorem rowKey_eq_ok
    {group : Group}
    {hkey : HKey}
    {key : Bytes} :
    rowKey group hkey = .ok key ↔
      ∃ bytes, hkey.encode = .ok bytes ∧ key = groupStart group.id ++ bytes := by
  rw [rowKey, bind_eq_ok]
  exact exists_congr fun bytes => and_congr_right fun _ => pure_eq_ok.trans eq_comm

theorem groupStart_prefix
    {group : Group}
    {hkey : HKey}
    {key : Bytes}
    (keyed : rowKey group hkey = .ok key) :
    groupStart group.id <+: key := by
  obtain ⟨bytes, _, rfl⟩ := rowKey_eq_ok.mp keyed
  exact List.prefix_append _ _

/-- The range of the subtree below a key has what goes on from it. -/
theorem contains_subtreeEnd_iff
    {start key : Bytes} :
    (KeyRange.halfOpen start (subtreeEnd start)).contains key = true ↔
      ∃ rest, Continues rest ∧ key = start ++ rest :=
  (KeyRange.contains_halfOpen _ _ _).trans Bytes.between_escape_iff

theorem contains_subtreeEnd_self
    (start : Bytes) :
    (KeyRange.halfOpen start (subtreeEnd start)).contains start = true :=
  contains_subtreeEnd_iff.mpr ⟨[], Bytes.continues_nil, (List.append_nil start).symm⟩

theorem prefix_of_contains_subtreeEnd
    {start key : Bytes}
    (inside : (KeyRange.halfOpen start (subtreeEnd start)).contains key = true) :
    start <+: key := by
  obtain ⟨rest, _, rfl⟩ := contains_subtreeEnd_iff.mp inside
  exact List.prefix_append _ _

end KeyLayout

/-- Whether every key of a group in a store is the key of a path that names a
row, with bytes that decode as a row of its table. -/
def Store.HoldsRowsOf (store : Store) (group : Group) : Prop :=
  ∀ entry ∈ store.entries, KeyLayout.groupStart group.id <+: entry.key ->
    ∃ hkey table row, hkey.Rooted group ∧ KeyLayout.rowKey group hkey = .ok entry.key ∧
      hkey.table?.bind group.table? = some table ∧
      Row.decode table.rowType entry.value = .ok row

/-- Whether an entry holds a row at a path of a group. -/
def Group.Holds (group : Group) (entry : Entry) (row : Row) : Prop :=
  group.rowOfEntry entry = .ok row ∧
    ∃ hkey, row.hkey = some hkey ∧ hkey.Rooted group ∧
      KeyLayout.rowKey group hkey = .ok entry.key

namespace Group

theorem exists_holds
    {group : Group}
    {hkey : HKey}
    {entry : Entry}
    {table : Table}
    {row : Row}
    (rooted : hkey.Rooted group)
    (keyed : KeyLayout.rowKey group hkey = .ok entry.key)
    (named : hkey.table?.bind group.table? = some table)
    (decoded : Row.decode table.rowType entry.value = .ok row) :
    ∃ back, back.Alike hkey ∧ group.Holds entry (row.withHKey back) := by
  obtain ⟨bytes, encoded, split⟩ := KeyLayout.rowKey_eq_ok.mp keyed
  obtain ⟨back, read, alike⟩ := HKey.exists_decode rooted encoded
  refine ⟨back, alike, ?_, back, rfl, alike.rooted rooted,
    KeyLayout.rowKey_eq_ok.mpr ⟨bytes, alike.encode encoded, split⟩⟩
  rw [rowOfEntry, split, Bytes.dropStart?_append]
  simp only [read, bind, Except.bind, alike.table?_eq, named, decoded]
  rfl

/-- A store of rows has a row in every entry of the group. -/
theorem exists_rows
    {group : Group}
    {store : Store}
    (holdsRows : store.HoldsRowsOf group) :
    ∃ rows, List.Forall₂ group.Holds (store.startingWith (KeyLayout.groupStart group.id)) rows := by
  apply exists_forall₂
  intro entry present
  obtain ⟨stored, starts⟩ := List.mem_filter.mp present
  obtain ⟨hkey, table, row, rooted, keyed, named, decoded⟩ :=
    holdsRows entry stored (of_decide_eq_true starts)
  obtain ⟨back, _, held⟩ := exists_holds rooted keyed named decoded
  exact ⟨_, held⟩

theorem mapM_rowOfEntry
    {group : Group}
    {entries : List Entry}
    {rows : List Row}
    (holds : List.Forall₂ group.Holds entries rows) :
    entries.mapM group.rowOfEntry = .ok rows :=
  mapM_eq_ok.mpr (holds.imp fun _ _ held => held.1)

variable {group : Group} {anchor : HKey} {anchorKey : Bytes} {entry : Entry} {row : Row}

/-- The entries in the range of a subtree are those whose rows stand in it. -/
theorem contains_subtree_iff
    (anchorRooted : anchor.Rooted group)
    (anchorKeyed : KeyLayout.rowKey group anchor = .ok anchorKey)
    (holds : group.Holds entry row) :
    (KeyRange.halfOpen anchorKey (KeyLayout.subtreeEnd anchorKey)).contains entry.key = true ↔
      row.isWithin anchor = true := by
  obtain ⟨_, hkey, placed, rooted, keyed⟩ := holds
  obtain ⟨bytes, encoded, split⟩ := KeyLayout.rowKey_eq_ok.mp keyed
  obtain ⟨anchorBytes, anchorEncoded, rfl⟩ := KeyLayout.rowKey_eq_ok.mp anchorKeyed
  rw [KeyLayout.contains_subtreeEnd_iff, split, Row.isWithin, placed, Option.any_some,
    HKey.startsWith_iff rooted anchorRooted encoded anchorEncoded]
  refine exists_congr fun rest => and_congr_right fun _ => ?_
  rw [List.append_assoc, List.append_cancel_left_eq]

theorem key_beq_iff
    (anchorRooted : anchor.Rooted group)
    (anchorKeyed : KeyLayout.rowKey group anchor = .ok anchorKey)
    (holds : group.Holds entry row) :
    (entry.key == anchorKey) = true ↔ row.isAt anchor = true := by
  obtain ⟨_, hkey, placed, rooted, keyed⟩ := holds
  obtain ⟨bytes, encoded, split⟩ := KeyLayout.rowKey_eq_ok.mp keyed
  obtain ⟨anchorBytes, anchorEncoded, rfl⟩ := KeyLayout.rowKey_eq_ok.mp anchorKeyed
  rw [beq_iff_eq, split, List.append_cancel_left_eq, Row.isAt, placed, Option.any_some,
    HKey.isAt_iff rooted anchorRooted encoded anchorEncoded]

theorem inside_and_ne_iff
    (anchorRooted : anchor.Rooted group)
    (anchorKeyed : KeyLayout.rowKey group anchor = .ok anchorKey)
    (holds : group.Holds entry row) :
    ((KeyRange.halfOpen anchorKey (KeyLayout.subtreeEnd anchorKey)).contains entry.key &&
        entry.key != anchorKey) = true ↔ row.isBelow anchor = true := by
  have isWithin := contains_subtree_iff anchorRooted anchorKeyed holds
  have isAt := key_beq_iff anchorRooted anchorKeyed holds
  obtain ⟨_, hkey, placed, _⟩ := holds
  simp only [Row.isWithin, Row.isAt, Row.isBelow, placed, Option.any_some] at isWithin isAt ⊢
  rw [HKey.isBelow_eq, Bool.and_eq_true, Bool.and_eq_true, isWithin, bne, Bool.not_eq_true',
    Bool.not_eq_true', ← Bool.not_eq_true, ← Bool.not_eq_true, isAt]

end Group

/-! ## Entries of a group -/

namespace Store

theorem filter_startingWith
    {start : Bytes}
    (chosen : Bytes -> Bool)
    (starts : ∀ key, chosen key = true -> start <+: key)
    (store : Store) :
    ((store.startingWith start).filter fun entry => chosen entry.key) =
      store.entries.filter fun entry => chosen entry.key := by
  rw [startingWith, List.filter_filter]
  congr 1
  funext entry
  cases isChosen : chosen entry.key with
  | false => rfl
  | true => simp [starts entry.key isChosen]

/-- The entry of a key is the only one with it. -/
theorem filter_key
    (store : Store)
    (key : Bytes) :
    (store.entries.filter fun entry => entry.key == key) =
      (store.get? key).toList.map (Entry.mk key) := by
  cases found : store.get? key with
  | none =>
      rw [Option.toList_none, List.map_nil, List.filter_eq_nil_iff]
      rintro entry present same
      rw [eq_of_beq same |>.symm, mem_entries.mp present] at found
      simp at found
  | some value =>
      have present : Entry.mk key value ∈ store.entries := mem_entries.mpr found
      obtain ⟨front, back, parts⟩ := List.append_of_mem present
      have ascending := store.ascending_entries
      rw [parts] at ascending ⊢
      obtain ⟨_, entryBack, frontEntry⟩ := List.pairwise_append.mp ascending
      have noneBefore : (front.filter fun entry => entry.key == key) = [] := by
        rw [List.filter_eq_nil_iff]
        intro entry before same
        have below := frontEntry entry before ⟨key, value⟩ (by simp)
        rw [eq_of_beq same] at below
        exact Bytes.not_precedes_self _ below
      have noneBehind : (back.filter fun entry => entry.key == key) = [] := by
        rw [List.filter_eq_nil_iff]
        intro entry behind same
        have above := List.rel_of_pairwise_cons entryBack behind
        rw [eq_of_beq same] at above
        exact Bytes.not_precedes_self _ above
      rw [List.filter_append, List.filter_cons_of_pos (by simp), noneBefore, noneBehind]
      rfl

end Store

/-- In ascending entries the one of the first key that is chosen comes before
the other chosen ones. -/
theorem filter_first
    {entries : List Entry}
    {first : Bytes}
    (chosen : Bytes -> Bool)
    (ascending : Ascending entries)
    (least : ∀ key, chosen key = true -> Bytes.compare key first ≠ .lt)
    (chosenFirst : chosen first = true) :
    (entries.filter fun entry => chosen entry.key) =
      (entries.filter fun entry => entry.key == first) ++
        entries.filter fun entry => chosen entry.key && entry.key != first := by
  induction entries with
  | nil => rfl
  | cons entry entries inductionHypothesis =>
      obtain ⟨above, others⟩ := List.pairwise_cons.mp ascending
      by_cases isChosen : chosen entry.key = true
      · have notFirst : ∀ other ∈ entries, other.key ≠ first := by
          intro other present same
          have below : Bytes.compare entry.key first = .lt := same ▸ above other present
          exact least _ isChosen below
        have noneBehind : (entries.filter fun other => other.key == first) = [] := by
          rw [List.filter_eq_nil_iff]
          intro other present
          simpa using notFirst other present
        have further := inductionHypothesis others
        rw [noneBehind, List.nil_append] at further
        by_cases same : entry.key = first
        · simp [same, noneBehind, ← further, chosenFirst]
        · simp [isChosen, same, noneBehind, ← further]
      · have same : entry.key ≠ first := by
          rintro rfl
          exact isChosen chosenFirst
        simp [isChosen, same, inductionHypothesis others]

namespace Store

variable {group : Group} {anchor : HKey} {anchorKey : Bytes}

theorem within_subtree
    (anchorKeyed : KeyLayout.rowKey group anchor = .ok anchorKey)
    (store : Store) :
    store.within (KeyRange.halfOpen anchorKey (KeyLayout.subtreeEnd anchorKey)) =
      (store.startingWith (KeyLayout.groupStart group.id)).filter fun entry =>
        (KeyRange.halfOpen anchorKey (KeyLayout.subtreeEnd anchorKey)).contains entry.key := by
  rw [within_eq, filter_startingWith (KeyRange.halfOpen _ _).contains]
  intro key inside
  exact (KeyLayout.groupStart_prefix anchorKeyed).trans
    (KeyLayout.prefix_of_contains_subtreeEnd inside)

theorem filter_rowKey
    (anchorKeyed : KeyLayout.rowKey group anchor = .ok anchorKey)
    (store : Store) :
    ((store.startingWith (KeyLayout.groupStart group.id)).filter fun entry =>
        entry.key == anchorKey) =
      (store.get? anchorKey).toList.map (Entry.mk anchorKey) := by
  rw [filter_startingWith (fun key => key == anchorKey), filter_key]
  intro key same
  exact eq_of_beq same ▸ KeyLayout.groupStart_prefix anchorKeyed

end Store

/-! ## Rows of a group -/

namespace Group

variable {group : Group} {anchor : HKey} {anchorKey : Bytes} {store : Store} {rows : List Row}

/-- No two rows of a group stand at one path. -/
theorem length_filter_isAt_le
    (anchorRooted : anchor.Rooted group)
    (anchorKeyed : KeyLayout.rowKey group anchor = .ok anchorKey)
    (holds : List.Forall₂ group.Holds
      (store.startingWith (KeyLayout.groupStart group.id)) rows) :
    (rows.filter fun row => row.isAt anchor).length ≤ 1 := by
  have chosen := forall₂_filter (fun _ _ held => key_beq_iff anchorRooted anchorKeyed held) holds
  rw [← chosen.length_eq, Store.filter_rowKey anchorKeyed, List.length_map]
  exact Option.length_toList_le

/-- The row at a path comes before the rows below it. -/
theorem filter_isWithin_eq
    (anchorRooted : anchor.Rooted group)
    (anchorKeyed : KeyLayout.rowKey group anchor = .ok anchorKey)
    (holds : List.Forall₂ group.Holds
      (store.startingWith (KeyLayout.groupStart group.id)) rows) :
    (rows.filter fun row => row.isWithin anchor) =
      (rows.filter fun row => row.isAt anchor) ++ rows.filter fun row => row.isBelow anchor := by
  have whole := forall₂_filter
    (fun _ _ held => contains_subtree_iff anchorRooted anchorKeyed held) holds
  have first := forall₂_filter (fun _ _ held => key_beq_iff anchorRooted anchorKeyed held) holds
  have below := forall₂_filter
    (fun _ _ held => inside_and_ne_iff anchorRooted anchorKeyed held) holds
  have ascending : Ascending (store.startingWith (KeyLayout.groupStart group.id)) :=
    store.ascending_entries.filter _
  rw [filter_first (KeyRange.halfOpen anchorKey (KeyLayout.subtreeEnd anchorKey)).contains
    ascending (fun _ inside => ((KeyRange.contains_halfOpen _ _ _).mp inside).1)
    (KeyLayout.contains_subtreeEnd_self anchorKey)] at whole
  have joined := mapM_rowOfEntry (List.rel_append first below)
  exact Except.ok.inj ((mapM_rowOfEntry whole).symm.trans joined)

end Group

namespace GroupCursor

/-- A cursor bound to a row delivers, in the order of a full scan, the rows
whose paths start with the row's if it is deep, and otherwise the row alone, if
it is there.  The row itself comes before the rows below it. -/
theorem rowsFrom_subtree
    {batchSize : Nat}
    {cursor : GroupCursor Store RangeScan}
    {store : Store}
    {anchor : HKey}
    (ofStore : cursor.source = Source.ofStore batchSize)
    (inactive : cursor.phase.isActive = false)
    (holdsRows : store.HoldsRowsOf cursor.group)
    (rooted : anchor.Rooted cursor.group) :
    ∃ rows,
      List.Forall₂ cursor.group.Holds
        (store.startingWith (KeyLayout.groupStart cursor.group.id)) rows ∧
      (∀ deep usage, cursor.rowsFrom none deep store usage = .ok rows) ∧
      (∀ usage, cursor.rowsFrom (some anchor) true store usage =
        .ok (rows.filter fun row => row.isWithin anchor)) ∧
      (∀ usage, cursor.rowsFrom (some anchor) false store usage =
        .ok (rows.filter fun row => row.isAt anchor)) ∧
      (rows.filter fun row => row.isAt anchor).length ≤ 1 ∧
      (rows.filter fun row => row.isWithin anchor) =
        (rows.filter fun row => row.isAt anchor) ++
          rows.filter fun row => row.isBelow anchor := by
  obtain ⟨anchorBytes, anchorEncoded⟩ := HKey.exists_encode rooted
  have anchorKeyed : KeyLayout.rowKey cursor.group anchor =
      .ok (KeyLayout.groupStart cursor.group.id ++ anchorBytes) :=
    KeyLayout.rowKey_eq_ok.mpr ⟨anchorBytes, anchorEncoded, rfl⟩
  obtain ⟨rows, holds⟩ := Group.exists_rows holdsRows
  refine ⟨rows, holds, ?_, ?_, ?_, Group.length_filter_isAt_le rooted anchorKeyed holds,
    Group.filter_isWithin_eq rooted anchorKeyed holds⟩
  · intro deep usage
    rw [rowsFrom_none ofStore inactive, Group.mapM_rowOfEntry holds]
  · intro usage
    rw [rowsFrom_deep ofStore inactive anchorKeyed, Store.within_subtree anchorKeyed]
    exact Group.mapM_rowOfEntry (forall₂_filter
      (fun _ _ held => Group.contains_subtree_iff rooted anchorKeyed held) holds)
  · intro usage
    rw [rowsFrom_shallow ofStore inactive anchorKeyed, ← Store.filter_rowKey anchorKeyed]
    exact Group.mapM_rowOfEntry (forall₂_filter
      (fun _ _ held => Group.key_beq_iff rooted anchorKeyed held) holds)

end GroupCursor

/-! ## A library -/

namespace Library

/-- Authors, kept by name. -/
def authors : Table :=
  ⟨⟨1⟩, ⟨"library", "authors"⟩, [⟨"name", .varchar 20, false, none, false⟩], [0], none, [⟨2⟩], 0,
    [⟨⟨1⟩, [0]⟩]⟩

/-- The books of an author, kept by number. -/
def books : Table :=
  ⟨⟨2⟩, ⟨"library", "books"⟩,
    [⟨"author", .varchar 20, false, none, false⟩, ⟨"number", .int, false, none, false⟩], [1],
    some ⟨⟨1⟩, [⟨0, 0⟩]⟩, [], 1, [⟨⟨1⟩, [0]⟩, ⟨⟨2⟩, [1]⟩]⟩

/-- Authors with their books. -/
def group : Group := ⟨7, "library", [authors, books]⟩

/-- The key of an author. -/
def author (name : String) : HKey := ⟨[⟨⟨1⟩, [.string name]⟩]⟩

/-- The key of a book. -/
def book (name : String) (number : Int32) : HKey :=
  ⟨[⟨⟨1⟩, [.string name]⟩, ⟨⟨2⟩, [.int number]⟩]⟩

/-- A book of an author without a row, and a second author whose name goes on
from the first one's with a zero byte. -/
def store : Store :=
  (Store.empty.insert [16, 21, 7, 21, 1, 2, 97, 0, 255, 0] [2, 97, 0, 255, 0]).insert
    [16, 21, 7, 21, 1, 2, 97, 0, 21, 2, 21, 7] [2, 97, 0, 21, 7]

theorem author_rooted
    (name : String) :
    (author name).Rooted group := by
  refine ⟨⟨authors, rfl, rfl, rfl, rfl, ?_⟩, trivial⟩
  rintro pair present
  obtain rfl := List.mem_singleton.mp present
  exact ⟨_, rfl, rfl⟩

theorem book_rooted
    (name : String)
    (number : Int32) :
    (book name number).Rooted group := by
  refine ⟨(author_rooted name).1, ⟨books, rfl, rfl, rfl, rfl, ?_⟩, trivial⟩
  rintro pair present
  obtain rfl := List.mem_singleton.mp present
  exact ⟨_, rfl, rfl⟩

theorem holdsRowsOf : store.HoldsRowsOf group := by
  intro entry present starts
  obtain ⟨key, value⟩ := entry
  rw [Store.mem_entries, store, Store.get?_insert, Store.get?_insert, Store.get?_empty] at present
  split at present
  · next same =>
      subst same
      obtain rfl := Option.some.inj present
      exact ⟨book "a" 7, books, _, book_rooted _ _, rfl, rfl, rfl⟩
  · split at present
    · next same =>
        subst same
        obtain rfl := Option.some.inj present
        exact ⟨author "a\x00", authors, _, author_rooted _, rfl, rfl, rfl⟩
    · simp at present

end Library

namespace GroupCursor

/-- The author's row is gone and its book is not, and the other author is none
of its rows. -/
theorem rowsFrom_subtree_embedded_zero :
    Library.store.HoldsRowsOf Library.group ∧
      (Library.author "a").Rooted Library.group ∧
      ∃ rows,
        (∀ deep usage, (make (Source.ofStore 1) Library.group).rowsFrom none deep
          Library.store usage = .ok rows) ∧
        (∀ usage, (make (Source.ofStore 1) Library.group).rowsFrom (some (Library.author "a")) true
          Library.store usage = .ok (rows.filter fun row => row.isWithin (Library.author "a"))) := by
  refine ⟨Library.holdsRowsOf, Library.author_rooted "a", ?_⟩
  obtain ⟨rows, _, full, deep, _⟩ := rowsFrom_subtree
    (show (make (Source.ofStore 1) Library.group).source = Source.ofStore 1 from rfl) rfl
    Library.holdsRowsOf (Library.author_rooted "a")
  exact ⟨rows, full, deep⟩

end GroupCursor
end Keyspace
