import Keyspace.Proofs.HKey.NaturalOrder
import Keyspace.Proofs.Store.IndexKeys
import Keyspace.Proofs.Store.RowMap
import Keyspace.Proofs.Store.Scan

/-!
# Entries of a plain index

The keys of an index that is not spatial are the entries that were written in
it, each once, by rising key columns and then by the encoded keys of the rows.
What is written elsewhere lies outside the range of the index: row keys start
with another byte, and no number is packed into the start of another.
-/

namespace Keyspace

/-! ## Elements of keys -/

/-- The elements of a segment: the place of the table, then those of the values. -/
def Segment.elements (segment : Segment) : Except Error Tuple := do
  let values ← segment.values.mapM Value.toElement
  return Element.integer (Int64.ofInt segment.table.ordinal.toNat) :: values

namespace HKey

/-- The elements of a key, segment by segment. -/
def elements (hkey : HKey) : Except Error Tuple := do
  let parts ← hkey.segments.mapM Segment.elements
  return parts.flatten

theorem elements_cons_eq_ok
    {segment : Segment}
    {segments : List Segment}
    {tuple : Tuple} :
    elements ⟨segment :: segments⟩ = .ok tuple ↔
      ∃ values others, segment.values.mapM Value.toElement = .ok values ∧
        elements ⟨segments⟩ = .ok others ∧
        tuple =
          Element.integer (Int64.ofInt segment.table.ordinal.toNat) :: (values ++ others) := by
  simp only [elements, Segment.elements, List.mapM_cons, bind_eq_ok, pure_eq_ok]
  constructor
  · rintro ⟨_, ⟨_, ⟨values, encoded, rfl⟩, others, rest, rfl⟩, rfl⟩
    exact ⟨values, _, encoded, ⟨others, rest, rfl⟩, rfl⟩
  · rintro ⟨values, _, encoded, ⟨others, rest, rfl⟩, rfl⟩
    exact ⟨_, ⟨_, ⟨values, encoded, rfl⟩, others, rest, rfl⟩, rfl⟩

/-- An encoded key is the packed tuple of its elements. -/
theorem exists_elements
    {segments : List Segment}
    {bytes : Bytes}
    (encoded : encode ⟨segments⟩ = .ok bytes) :
    ∃ tuple, elements ⟨segments⟩ = .ok tuple ∧ Tuple.pack tuple = .ok bytes := by
  induction segments generalizing bytes with
  | nil =>
      obtain rfl := Except.ok.inj encoded
      exact ⟨[], rfl, rfl⟩
  | cons segment segments inductionHypothesis =>
      obtain ⟨parts, others, packed, othersEncoded, rfl⟩ := encode_cons_eq_ok.mp encoded
      obtain ⟨values, valuesEncoded, valuesPacked⟩ := mapM_packed_eq_ok.mp packed
      obtain ⟨tuple, tupleElements, tuplePacked⟩ := inductionHypothesis othersEncoded
      refine ⟨_, elements_cons_eq_ok.mpr ⟨values, tuple, valuesEncoded, tupleElements, rfl⟩, ?_⟩
      have place : (Element.integer (Int64.ofInt segment.table.ordinal.toNat)).pack =
          .ok (Element.packInteger segment.table.ordinal.toNat) := by
        have bound := segment.table.ordinal.toNat_lt
        rw [Element.pack, Int64.toInt_ofInt_of_le (by omega) (by omega)]
      exact Tuple.pack_cons_eq_ok.mpr ⟨_, _, place,
        Tuple.pack_append (bind_eq_ok.mpr ⟨parts, valuesPacked, rfl⟩) tuplePacked, rfl⟩

end HKey

/-! ## Entries -/

/-- An entry of an index: the values of a row in the key columns, and the key of the row. -/
structure IndexEntry where
  /-- The values. -/
  values : List Value
  /-- The key of the row. -/
  hkey : HKey
  /-- The encoded key of the row. -/
  place : Bytes
  encoded : hkey.encode = .ok place

namespace IndexEntry

/-- The entry of a row, if the key of the row has an encoding. -/
def ofRow? (group : Group) (index : Index) (row : Row) : Option IndexEntry :=
  match GroupStore.hkeyOf group row with
  | .error _ => none
  | .ok hkey =>
      match encoded : hkey.encode with
      | .error _ => none
      | .ok place => some ⟨index.keyColumns.map row.valueOrNull, hkey, place, encoded⟩

theorem ofRow?_eq_some
    {group : Group}
    {index : Index}
    {row : Row}
    {hkey : HKey}
    {place : Bytes}
    (known : GroupStore.hkeyOf group row = .ok hkey)
    (encoded : hkey.encode = .ok place) :
    ofRow? group index row =
      some ⟨index.keyColumns.map row.valueOrNull, hkey, place, encoded⟩ := by
  unfold ofRow?
  rw [known]
  dsimp only
  split
  · next failed => simp [encoded] at failed
  · next other found =>
      obtain rfl := Except.ok.inj (encoded.symm.trans found)
      rfl

theorem values_of_ofRow?
    {group : Group}
    {index : Index}
    {row : Row}
    {entry : IndexEntry}
    (made : ofRow? group index row = some entry) :
    entry.values = index.keyColumns.map row.valueOrNull := by
  unfold ofRow? at made
  split at made
  · simp at made
  · split at made
    · simp at made
    · rw [← Option.some.inj made]

/-- The order of entries: by the key columns, and then by the encoded keys of the rows. -/
def compare (left right : IndexEntry) : Ordering :=
  (List.compareLex Value.compareNatural left.values right.values).then
    (Bytes.compare left.place right.place)

/-- The elements of an entry: those of the key columns, then those of the row's key. -/
def elements (entry : IndexEntry) : Except Error Tuple := do
  let fields ← entry.values.mapM Value.toElement
  return fields ++ (← entry.hkey.elements)

/-- Whether an entry of an index stands at a key. -/
def StandsAt (entry : IndexEntry) (id : UInt32) (key : Bytes) : Prop :=
  ∃ parts, List.Forall₂ (fun value part => value.packed = .ok part) entry.values parts ∧
    key = KeyLayout.indexStart id ++ (parts.flatten ++ entry.place)

/-- Whether what is behind the start of an index in a key unpacks to the elements of
an entry. -/
def ReadsFrom (entry : IndexEntry) (id : UInt32) (key : Bytes) : Prop :=
  ∃ rest tuple back, key = KeyLayout.indexStart id ++ rest ∧ entry.elements = .ok tuple ∧
    Tuple.unpack rest = .ok back ∧ List.Forall₂ Element.ReadsAs tuple back

variable {entry left right : IndexEntry} {id : UInt32} {key leftKey rightKey : Bytes}

theorem StandsAt.readsFrom
    (stands : entry.StandsAt id key) :
    entry.ReadsFrom id key := by
  obtain ⟨parts, packed, rfl⟩ := stands
  obtain ⟨fields, encoded, fieldsPacked⟩ := mapM_packed_eq_ok.mp (mapM_eq_ok.mpr packed)
  obtain ⟨tuple, tupleElements, tuplePacked⟩ := HKey.exists_elements entry.encoded
  obtain ⟨back, read, reads⟩ := Tuple.unpack_of_pack
    (Tuple.pack_append (bind_eq_ok.mpr ⟨parts, fieldsPacked, rfl⟩) tuplePacked)
  exact ⟨_, fields ++ tuple, back, rfl,
    bind_eq_ok.mpr ⟨fields, encoded, bind_eq_ok.mpr ⟨tuple, tupleElements, rfl⟩⟩, read, reads⟩

/-- Keys compare like the entries that stand at them. -/
theorem StandsAt.compare_eq
    (comparable : List.Forall₂ Value.Comparable left.values right.values)
    (leftStands : left.StandsAt id leftKey)
    (rightStands : right.StandsAt id rightKey) :
    Bytes.compare leftKey rightKey = left.compare right := by
  obtain ⟨leftParts, leftPacked, rfl⟩ := leftStands
  obtain ⟨rightParts, rightPacked, rfl⟩ := rightStands
  rw [Bytes.compare_append_self]
  exact Segment.ordersAs_parts comparable leftPacked rightPacked _ _
    (HKey.continues_encode left.encoded) (HKey.continues_encode right.encoded)

/-- Entries of paths in one group are one entry exactly if their key columns compare as
equal and the paths are alike. -/
theorem compare_eq_eq_iff
    {group : Group}
    (leftRooted : left.hkey.Rooted group)
    (rightRooted : right.hkey.Rooted group) :
    left.compare right = .eq ↔
      List.compareLex Value.compareNatural left.values right.values = .eq ∧
        left.hkey.Alike right.hkey := by
  have places : left.place = right.place ↔ left.hkey.Alike right.hkey := by
    constructor
    · intro same
      exact HKey.alike_of_encode_eq leftRooted rightRooted left.encoded (same ▸ right.encoded)
    · intro alike
      exact Except.ok.inj (left.encoded.symm.trans (alike.encode right.encoded))
  rw [IndexEntry.compare, Ordering.then_eq_eq, ← places]
  exact and_congr_right fun _ => Std.LawfulEqCmp.compare_eq_iff_eq

end IndexEntry

namespace GroupStore

/-! ## Entries that are written -/

/-- The entry that a call writes under the number of an index. -/
def entryOf? (session : GroupStore) (id : UInt32) : StoreCall -> Option IndexEntry
  | .writeIndexRow group index spatial row =>
      if index.id = id ∧ (writeIndexRow session.store group index spatial row).isOk then
        IndexEntry.ofRow? group index row
      else none
  | _ => none

/-- The entries that calls write under the number of an index, one after the other. -/
def written (id : UInt32) : GroupStore -> List StoreCall -> List IndexEntry
  | _, [] => []
  | session, call :: calls =>
      (session.entryOf? id call).toList ++ written id (session.perform call).2 calls

end GroupStore

/-- Whether a call writes under the number of an index only entries of that index, with
no handler but one made for it, and of rows whose values fit the columns of the table. -/
def StoreCall.Respects (index : Index) (table : Table) : StoreCall -> Prop
  | .writeIndexRow _ other spatial row =>
      other.id = index.id ->
        other = index ∧
        (∀ handler ∈ spatial, ∃ space, SpatialIndex.make index table space = .ok handler) ∧
        ∀ (position : Nat) (column : Column), table.columns[position]? = some column ->
          column.dataType.admits (row.valueOrNull position) = true
  | _ => True

/-- Whether the keys of an index in a store are those of entries. -/
structure Store.HasEntries (store : Store) (id : UInt32) (entries : List IndexEntry) : Prop where
  stands : ∀ entry ∈ entries, ∃ key, entry.StandsAt id key ∧ (store.get? key).isSome = true
  keyed : ∀ key, KeyLayout.indexStart id <+: key -> (store.get? key).isSome = true ->
    ∃ entry ∈ entries, entry.StandsAt id key

namespace GroupStore

variable {id : UInt32} {index : Index} {table : Table} {session : GroupStore}

/-- The key of an entry and nothing else is written under the number of its index. -/
theorem exists_entry
    {before after : Store}
    {group : Group}
    {row : Row}
    {key : Bytes}
    (wrote : writeIndexRow before group index none row = .ok (key, after)) :
    ∃ entry, IndexEntry.ofRow? group index row = some entry ∧ entry.StandsAt index.id key ∧
      after = before.insert key [] := by
  obtain ⟨_, ⟨fields, hkey, place, given, known, encoded, rfl⟩, put⟩ := writesEntry_of_ok wrote
  obtain ⟨_, parts, packed, rfl⟩ := indexFields_none given
  refine ⟨_, IndexEntry.ofRow?_eq_some known encoded, ⟨parts, ?_, List.append_assoc ..⟩, put⟩
  exact List.forall₂_map_left_iff.mpr packed

end GroupStore

/-! ## Keys outside an index -/

theorem KeyLayout.eq_of_indexStart_prefix
    {left right : UInt32}
    {rest : Bytes}
    (starts : indexStart left <+: indexStart right ++ rest) :
    left = right := by
  obtain ⟨leftRest, equal⟩ := starts
  exact (Element.packInteger_split (List.cons.inj equal).2).1

theorem KeyLayout.head?_of_indexStart_prefix
    {id : UInt32}
    {key : Bytes}
    (starts : indexStart id <+: key) :
    key.head? = some indexSubspace := by
  obtain ⟨rest, rfl⟩ := starts
  rfl

theorem IndexEntry.StandsAt.starts
    {entry : IndexEntry}
    {id : UInt32}
    {key : Bytes}
    (stands : entry.StandsAt id key) :
    KeyLayout.indexStart id <+: key := by
  obtain ⟨parts, _, rfl⟩ := stands
  exact List.prefix_append ..

/-- A change of a row leaves all index keys alone. -/
theorem GroupStore.Effect.get?_of_index
    {before after : Store}
    {change : RowChange}
    {key : Bytes}
    (effect : Effect before (some change) after)
    (isIndex : key.head? = some KeyLayout.indexSubspace) :
    after.get? key = before.get? key := by
  have notRow : ∀ {group hkey rowKey}, KeyLayout.rowKey group hkey = .ok rowKey ->
      rowKey ≠ key := by
    rintro group hkey _ keyed rfl
    rw [KeyLayout.head?_rowKey keyed] at isIndex
    exact absurd (Option.some.inj isIndex) (by decide)
  cases effect with
  | written named keyed encoded => rw [Store.get?_insert, if_neg (notRow keyed)]
  | deleted keyed => rw [Store.get?_erase, if_neg (notRow keyed)]

namespace Store.HasEntries

variable {before after : Store} {id : UInt32} {entries : List IndexEntry}

theorem congr
    (agree : ∀ key, KeyLayout.indexStart id <+: key -> after.get? key = before.get? key)
    (has : before.HasEntries id entries) :
    after.HasEntries id entries := by
  constructor
  · intro entry present
    obtain ⟨key, stands, stored⟩ := has.stands entry present
    exact ⟨key, stands, agree key stands.starts ▸ stored⟩
  · intro key starts stored
    exact has.keyed key starts (agree key starts ▸ stored)

theorem insert
    {entry : IndexEntry}
    {key : Bytes}
    (stands : entry.StandsAt id key)
    (has : before.HasEntries id entries) :
    (before.insert key []).HasEntries id (entries ++ [entry]) := by
  constructor
  · intro other present
    rcases List.mem_append.mp present with earlier | last
    · obtain ⟨otherKey, otherStands, stored⟩ := has.stands other earlier
      refine ⟨otherKey, otherStands, ?_⟩
      rw [get?_insert]
      split
      · rfl
      · exact stored
    · obtain rfl := List.mem_singleton.mp last
      exact ⟨key, stands, by rw [get?_insert, if_pos rfl]; rfl⟩
  · intro other starts stored
    by_cases same : key = other
    · exact ⟨entry, by simp, same ▸ stands⟩
    · rw [get?_insert, if_neg same] at stored
      obtain ⟨found, present, foundStands⟩ := has.keyed other starts stored
      exact ⟨found, by simp [present], foundStands⟩

end Store.HasEntries

namespace GroupStore

variable {index : Index} {table : Table} {session : GroupStore} {entries : List IndexEntry}

/-- A plain index has no handler. -/
theorem spatial_eq_none
    {spatial : Option SpatialIndex}
    (plain : index.spatial = none)
    (made : ∀ handler ∈ spatial, ∃ space, SpatialIndex.make index table space = .ok handler) :
    spatial = none := by
  cases spatial with
  | none => rfl
  | some handler =>
      obtain ⟨space, making⟩ := made handler rfl
      obtain ⟨_, run, madeFor⟩ := SpatialIndex.madeFor_of_make making (by simp [plain])
      exact absurd (plain.symm.trans madeFor.declared) (by simp)

/-- A call that writes no entry in an index and leaves its keys alone keeps its entries. -/
theorem hasEntries_of_kept
    {call : StoreCall}
    {id : UInt32}
    (nothing : session.entryOf? id call = none)
    (kept : ∀ key, KeyLayout.indexStart id <+: key ->
      (session.perform call).2.store.get? key = session.store.get? key)
    (has : session.store.HasEntries id entries) :
    (session.perform call).2.store.HasEntries id
      (entries ++ (session.entryOf? id call).toList) := by
  rw [nothing, Option.toList_none, List.append_nil]
  exact has.congr kept

/-- A write of an entry adds it to its own index and leaves every other one alone. -/
theorem hasEntries_writeIndexRow
    {group : Group}
    {other : Index}
    {spatial : Option SpatialIndex}
    {row : Row}
    (plain : index.spatial = none)
    (respects : (StoreCall.writeIndexRow group other spatial row).Respects index table)
    (has : session.store.HasEntries index.id entries) :
    (session.perform (.writeIndexRow group other spatial row)).2.store.HasEntries index.id
      (entries ++ (session.entryOf? index.id (.writeIndexRow group other spatial row)).toList) := by
  cases wrote : writeIndexRow session.store group other spatial row with
  | error error =>
      refine hasEntries_of_kept ?_ (fun key _ => by simp only [perform, wrote]) has
      rw [entryOf?, if_neg]
      simp [wrote, Except.isOk, Except.toBool]
  | ok result =>
      obtain ⟨key, after⟩ := result
      have performed : (session.perform (.writeIndexRow group other spatial row)).2.store =
          after := by
        simp only [perform, wrote]
      by_cases same : other.id = index.id
      · obtain ⟨rfl, made, _⟩ := respects same
        obtain rfl := spatial_eq_none plain made
        obtain ⟨entry, entered, stands, rfl⟩ := exists_entry wrote
        have whole : session.entryOf? other.id (.writeIndexRow group other none row) =
            some entry := by
          rw [entryOf?, if_pos ⟨rfl, by rw [wrote]; rfl⟩, entered]
        rw [performed, whole]
        exact has.insert stands
      · refine hasEntries_of_kept (by rw [entryOf?, if_neg fun both => same both.1]) ?_ has
        obtain ⟨_, ⟨fields, hkey, place, _, _, _, rfl⟩, rfl⟩ := writesEntry_of_ok wrote
        intro key starts
        rw [performed, Store.get?_insert, if_neg]
        rintro rfl
        rw [List.append_assoc] at starts
        exact same (KeyLayout.eq_of_indexStart_prefix starts).symm

/-- Every call adds to an index the entry that it writes in it. -/
theorem hasEntries_step
    {call : StoreCall}
    (plain : index.spatial = none)
    (respects : call.Respects index table)
    (has : session.store.HasEntries index.id entries) :
    (session.perform call).2.store.HasEntries index.id
      (entries ++ (session.entryOf? index.id call).toList) := by
  cases call with
  | writeIndexRow group other spatial row => exact hasEntries_writeIndexRow plain respects has
  | writeRow group row =>
      refine hasEntries_of_kept rfl (fun key starts => ?_) has
      rcases session.writeRow_cases group row with ⟨_, kept⟩ | ⟨hkey, _, wrote⟩
      · rw [kept]
      · exact (writeAt_effect wrote).get?_of_index (KeyLayout.head?_of_indexStart_prefix starts)
  | writeAt group hkey row =>
      refine hasEntries_of_kept rfl (fun key starts => ?_) has
      cases wrote : writeAt session.store group hkey row with
      | error error => simp only [perform, wrote]
      | ok store =>
          simp only [perform, wrote]
          exact (writeAt_effect wrote).get?_of_index (KeyLayout.head?_of_indexStart_prefix starts)
  | deleteRow group hkey =>
      refine hasEntries_of_kept rfl (fun key starts => ?_) has
      cases deleted : deleteRow session.store group hkey with
      | error error => simp only [perform, deleted]
      | ok result =>
          obtain ⟨found, store⟩ := result
          simp only [perform, deleted]
          exact (deleteRow_effect deleted).get?_of_index
            (KeyLayout.head?_of_indexStart_prefix starts)

/-- After calls an index has the entries that they wrote in it. -/
theorem hasEntries_after
    (plain : index.spatial = none)
    {calls : List StoreCall}
    (respect : ∀ call ∈ calls, call.Respects index table)
    (has : session.store.HasEntries index.id entries) :
    (session.after calls).store.HasEntries index.id
      (entries ++ session.written index.id calls) := by
  induction calls generalizing session entries with
  | nil => simpa [written, after] using has
  | cons call calls inductionHypothesis =>
      have step := hasEntries_step plain (respect call List.mem_cons_self) has
      have run := inductionHypothesis
        (fun later present => respect later (List.mem_cons_of_mem _ present)) step
      rw [List.append_assoc] at run
      exact run

/-! ## Entries of one table -/

theorem exists_row_of_written
    {calls : List StoreCall}
    (respect : ∀ call ∈ calls, call.Respects index table)
    {entry : IndexEntry}
    (present : entry ∈ session.written index.id calls) :
    ∃ row : Row, entry.values = index.keyColumns.map row.valueOrNull ∧
      ∀ (position : Nat) (column : Column), table.columns[position]? = some column ->
        column.dataType.admits (row.valueOrNull position) = true := by
  induction calls generalizing session with
  | nil => simp [written] at present
  | cons call calls inductionHypothesis =>
      rcases List.mem_append.mp present with here | later
      · have entered := Option.mem_toList.mp here
        cases call with
        | writeIndexRow group other spatial row =>
            rw [entryOf?] at entered
            split at entered
            · next both =>
                obtain ⟨rfl, _, fits⟩ := respect _ List.mem_cons_self both.1
                exact ⟨row, IndexEntry.values_of_ofRow? entered, fits⟩
            · simp at entered
        | _ => simp [entryOf?] at entered
      · exact inductionHypothesis
          (fun other member => respect other (List.mem_cons_of_mem _ member)) later

/-- The values of entries of one table stand in the same columns. -/
theorem comparable_of_written
    {calls : List StoreCall}
    (columns : ∀ position ∈ index.keyColumns, ∃ column, table.columns[position]? = some column)
    (respect : ∀ call ∈ calls, call.Respects index table)
    {left right : IndexEntry}
    (leftPresent : left ∈ session.written index.id calls)
    (rightPresent : right ∈ session.written index.id calls) :
    List.Forall₂ Value.Comparable left.values right.values := by
  obtain ⟨leftRow, leftValues, leftFits⟩ := exists_row_of_written respect leftPresent
  obtain ⟨rightRow, rightValues, rightFits⟩ := exists_row_of_written respect rightPresent
  rw [leftValues, rightValues]
  exact Row.forall₂_comparable columns (fun position _ => leftFits position)
    (fun position _ => rightFits position)

/-! ## Keys of an index -/

theorem indexKeys_eq
    (store : Store)
    (index : Index) :
    indexKeys store index =
      .ok ((store.startingWith (KeyLayout.indexStart index.id)).map Entry.key) := by
  obtain ⟨next, successor, found⟩ := KeyLayout.exists_successor_indexStart index.id
  rw [indexKeys, KeyRange.ofStart, successor]
  refine congrArg Except.ok (congrArg (List.map Entry.key) ?_)
  exact Store.within_halfOpen fun key => Bytes.between_successor_iff found

/-- The keys of an index are those that start with its start. -/
theorem mem_keys_iff
    {store : Store}
    {start key : Bytes} :
    key ∈ (store.startingWith start).map Entry.key ↔
      start <+: key ∧ (store.get? key).isSome = true := by
  simp only [List.mem_map, Store.startingWith, List.mem_filter, Store.mem_entries,
    decide_eq_true_eq]
  constructor
  · rintro ⟨entry, ⟨found, starts⟩, rfl⟩
    exact ⟨starts, by rw [found]; rfl⟩
  · rintro ⟨starts, stored⟩
    obtain ⟨value, found⟩ := Option.isSome_iff_exists.mp stored
    exact ⟨⟨key, value⟩, ⟨found, starts⟩, rfl⟩

/-- The keys of an index are in order those of its entries, each once. -/
theorem exists_indexKeys
    {store : Store}
    (has : store.HasEntries index.id entries)
    (comparable : ∀ left ∈ entries, ∀ right ∈ entries,
      List.Forall₂ Value.Comparable left.values right.values) :
    ∃ keys listed, indexKeys store index = .ok keys ∧
      List.Forall₂ (fun key entry => entry ∈ entries ∧ entry.StandsAt index.id key) keys listed ∧
      listed.Pairwise (fun first second => first.compare second = .lt) ∧
      ∀ entry ∈ entries, ∃ same ∈ listed, entry.compare same = .eq := by
  have stand : ∀ key ∈ (store.startingWith (KeyLayout.indexStart index.id)).map Entry.key,
      ∃ entry, entry ∈ entries ∧ entry.StandsAt index.id key := by
    intro key present
    obtain ⟨starts, stored⟩ := mem_keys_iff.mp present
    exact has.keyed key starts stored
  obtain ⟨listed, related⟩ := exists_forall₂ stand
  refine ⟨_, listed, indexKeys_eq store index, related, ?_, ?_⟩
  · have rising : ((store.startingWith (KeyLayout.indexStart index.id)).map Entry.key).Pairwise
        Bytes.Precedes := List.pairwise_map.mpr (store.ascending_entries.filter _)
    refine pairwise_of_forall₂ ?_ related rising
    intro firstKey secondKey first second firstStands secondStands less
    rw [← firstStands.2.compare_eq (comparable first firstStands.1 second secondStands.1)
      secondStands.2]
    exact less
  · intro entry present
    obtain ⟨key, stands, stored⟩ := has.stands entry present
    obtain ⟨same, member, sameIn, sameStands⟩ := exists_input_of_mem related.flip key
      (mem_keys_iff.mpr ⟨stands.starts, stored⟩)
    refine ⟨same, member, ?_⟩
    rw [← stands.compare_eq (comparable entry present same sameIn) sameStands]
    exact Bytes.compare_self key

/-- After calls that write in a plain index only rows that fit its table, the keys of the
index are those of the entries that were written: each once, by rising key columns and then
by the encoded keys of the rows, and each key unpacks to the elements of its entry.  Entries
of paths in one group are one entry exactly if their key columns compare as equal and the
paths are alike. -/
theorem indexKeys_after
    {id : UInt32}
    {name : String}
    {columns : List String}
    {start : GroupStore}
    {calls : List StoreCall}
    (declared : Index.declare id name table columns none = .ok index)
    (unused : ∀ key, KeyLayout.indexStart index.id <+: key -> start.store.get? key = none)
    (respect : ∀ call ∈ calls, call.Respects index table) :
    ∃ keys entries,
      indexKeys (start.after calls).store index = .ok keys ∧
      List.Forall₂ (fun key entry => entry.ReadsFrom index.id key) keys entries ∧
      entries.Pairwise (fun first second => first.compare second = .lt) ∧
      (∀ entry ∈ entries, entry ∈ start.written index.id calls) ∧
      (∀ entry ∈ start.written index.id calls, ∃ same ∈ entries, entry.compare same = .eq) ∧
      ∀ group, ∀ first ∈ start.written index.id calls, ∀ second ∈ start.written index.id calls,
        first.hkey.Rooted group -> second.hkey.Rooted group ->
          (first.compare second = .eq ↔
            List.compareLex Value.compareNatural first.values second.values = .eq ∧
              first.hkey.Alike second.hkey) := by
  have nothing : start.store.HasEntries index.id [] := by
    refine ⟨by simp, fun key starts stored => ?_⟩
    rw [unused key starts] at stored
    simp at stored
  have has := hasEntries_after (Index.declare_eq_ok declared).1 respect nothing
  obtain ⟨keys, entries, listed, related, rising, complete⟩ := exists_indexKeys has
    fun left leftPresent right rightPresent =>
      comparable_of_written (Index.exists_column_of_declare declared) respect leftPresent
        rightPresent
  refine ⟨keys, entries, listed, related.imp fun _ _ stands => stands.2.readsFrom, rising, ?_,
    complete, ?_⟩
  · intro entry present
    obtain ⟨_, _, member, _⟩ := exists_input_of_mem related entry present
    exact member
  · exact fun group first _ second _ => IndexEntry.compare_eq_eq_iff

end GroupStore

/-! ## An index of the atlas -/

namespace Atlas

open GroupStore

/-- An index of places by latitude. -/
def byLatitude : Index := ⟨42, "by_latitude", ⟨1⟩, [1], [number "lat"], ["geo.places.lat"], none⟩

/-- A place in the south. -/
def southernPlace : Row := Row.ofValues places.rowType [.int 2, .int (-5), .int 10]

/-- Rows and entries, one of them twice. -/
def calls : List StoreCall :=
  [.writeRow group place, .writeIndexRow group byLatitude none place,
    .writeIndexRow group byPoint (some handler) place,
    .writeIndexRow group byLatitude none southernPlace,
    .writeIndexRow group byLatitude none place, .deleteRow group ⟨[⟨⟨1⟩, [.int 1]⟩]⟩]

theorem respects_calls : ∀ call ∈ calls, call.Respects byLatitude places := by
  have own : ∀ row : Row, places.rowType.Takes row.values ->
      (StoreCall.writeIndexRow group byLatitude none row).Respects byLatitude places :=
    fun row takes _ => ⟨rfl, by simp, fun _ _ here => Row.admits_of_takes takes here⟩
  have placeOwn := own place (.cons rfl (.cons rfl (.cons rfl .nil)))
  have southernOwn := own southernPlace (.cons rfl (.cons rfl (.cons rfl .nil)))
  have other : (StoreCall.writeIndexRow group byPoint (some handler) place).Respects byLatitude
      places := fun same => absurd same (by decide)
  simp only [calls, List.forall_mem_cons, List.not_mem_nil, false_implies, implies_true, and_true]
  exact ⟨trivial, placeOwn, other, southernOwn, placeOwn, trivial⟩

/-- The key of the southern place in the index by latitude. -/
def southernKey : Bytes := [0x11, 0x15, 42, 0x13, 250, 0x15, 1, 0x15, 2]

/-- The key of the other place in the index by latitude. -/
def northernKey : Bytes := [0x11, 0x15, 42, 0x15, 80, 0x15, 1, 0x15, 1]

/-- The index has a key for each of the two places, the southern one first, and no third
key for the entry that was written twice. -/
theorem indexKeys_after_calls :
    indexKeys ((ofStore Store.empty).after calls).store byLatitude =
        .ok [southernKey, northernKey] ∧
      ∃ first second : IndexEntry, first.ReadsFrom 42 southernKey ∧
        second.ReadsFrom 42 northernKey ∧ first.compare second = .lt ∧
        first.values = [.int (-5)] ∧ second.values = [.int 80] := by
  have declared : Index.declare 42 "by_latitude" places ["lat"] none = .ok byLatitude := by
    decide +kernel
  have unused : ∀ key, KeyLayout.indexStart byLatitude.id <+: key ->
      (ofStore Store.empty).store.get? key = none := fun key _ => Store.get?_empty key
  have stored : indexKeys ((ofStore Store.empty).after calls).store byLatitude =
      .ok [southernKey, northernKey] := by
    decide +kernel
  have written : ((ofStore Store.empty).written byLatitude.id calls).map IndexEntry.values =
      [[.int 80], [.int (-5)], [.int 80]] := by
    decide +kernel
  obtain ⟨keys, entries, listed, reads, rising, members, complete, _⟩ :=
    indexKeys_after declared unused respects_calls
  obtain rfl := Except.ok.inj (listed.symm.trans stored)
  -- values that compare as equal are the same here, so those of every written entry are listed
  have apart : ∀ left ∈ [[Value.int 80], [.int (-5)], [.int 80]],
      ∀ right ∈ [[Value.int 80], [.int (-5)], [.int 80]],
        List.compareLex Value.compareNatural left right = .eq -> right = left := by
    decide +kernel
  have present : ∀ values ∈ [[Value.int 80], [.int (-5)], [.int 80]],
      ∃ entry ∈ entries, entry.values = values := by
    intro values valuesWritten
    rw [← written] at valuesWritten
    obtain ⟨entry, entryWritten, rfl⟩ := List.mem_map.mp valuesWritten
    obtain ⟨same, sameListed, equal⟩ := complete entry entryWritten
    refine ⟨same, sameListed, apart _ ?_ _ ?_ (Ordering.then_eq_eq.mp equal).1⟩
    · exact written ▸ valuesWritten
    · exact written ▸ List.mem_map_of_mem (members same sameListed)
  obtain _ | ⟨firstReads, _ | ⟨secondReads, _ | _⟩⟩ := reads
  next first second =>
  have less := (List.pairwise_cons.mp rising).1 second List.mem_cons_self
  have notRising : first.values = [.int 80] -> second.values = [.int (-5)] -> False := by
    intro firstValues secondValues
    have greater : List.compareLex Value.compareNatural [.int 80] [.int (-5)] = .gt := by
      decide +kernel
    rw [IndexEntry.compare, firstValues, secondValues, greater] at less
    exact absurd less (by simp)
  have south := present [.int (-5)] (by simp)
  have north := present [.int 80] (by simp)
  simp only [List.mem_cons, List.not_mem_nil, or_false, exists_eq_or_imp,
    exists_eq_left] at south north
  refine ⟨stored, first, second, firstReads, secondReads, less, ?_⟩
  rcases south with firstValues | secondValues
  · rcases north with firstOther | secondValues
    · exact absurd (firstValues.symm.trans firstOther) (by decide)
    · exact ⟨firstValues, secondValues⟩
  · rcases north with firstValues | secondOther
    · exact (notRising firstValues secondValues).elim
    · exact absurd (secondValues.symm.trans secondOther) (by decide)

end Atlas
end Keyspace
