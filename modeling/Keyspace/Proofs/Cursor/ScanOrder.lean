import Keyspace.Proofs.HKey.NaturalOrder
import Keyspace.Proofs.Schema.KeyLayout
import Keyspace.Proofs.Store.RowMap

/-!
# The order of a full scan

A full scan delivers the rows of a group in the natural order of their paths.
A row therefore comes before the rows below it, the rows of a subtree are not
interrupted by others, and the rows below one row come by table and then by
key.
-/

namespace Keyspace

/-! ## Runs of ascending lists -/

theorem filter_prefix_of_closed
    {α : Type}
    {chosen : α -> Bool}
    {items : List α}
    (closed : items.Pairwise fun first second => chosen second = true -> chosen first = true) :
    items.filter chosen <+: items := by
  induction items with
  | nil => exact List.prefix_rfl
  | cons item items inductionHypothesis =>
      obtain ⟨earlier, others⟩ := List.pairwise_cons.mp closed
      by_cases isChosen : chosen item = true
      · rw [List.filter_cons_of_pos isChosen, List.prefix_cons_inj]
        exact inductionHypothesis others
      · have noneBehind : items.filter chosen = [] :=
          List.filter_eq_nil_iff.mpr fun other member wanted =>
            isChosen (earlier other member wanted)
        rw [List.filter_cons_of_neg isChosen, noneBehind]
        exact List.nil_prefix

/-- What lies between two chosen items is chosen, so the chosen items stand
together. -/
theorem filter_infix_of_convex
    {α : Type}
    {relation : α -> α -> Prop}
    {chosen : α -> Bool}
    {items : List α}
    (ordered : items.Pairwise relation)
    (convex : ∀ first ∈ items, ∀ second ∈ items, ∀ third ∈ items,
      relation first second -> relation second third ->
        chosen first = true -> chosen third = true -> chosen second = true) :
    items.filter chosen <:+: items := by
  induction items with
  | nil => exact List.infix_rfl
  | cons item items inductionHypothesis =>
      obtain ⟨least, others⟩ := List.pairwise_cons.mp ordered
      by_cases isChosen : chosen item = true
      · have closed : items.Pairwise fun first second =>
            chosen second = true -> chosen first = true := by
          refine others.imp_of_mem fun {first second} firstMember secondMember related wanted => ?_
          exact convex item (by simp) first (by simp [firstMember]) second (by simp [secondMember])
            (least first firstMember) related isChosen wanted
        rw [List.filter_cons_of_pos isChosen]
        exact ((List.prefix_cons_inj item).mpr (filter_prefix_of_closed closed)).isInfix
      · rw [List.filter_cons_of_neg isChosen]
        refine List.infix_cons (inductionHypothesis others ?_)
        exact fun first firstMember second secondMember third thirdMember =>
          convex first (by simp [firstMember]) second (by simp [secondMember]) third
            (by simp [thirdMember])

/-! ## Paths in order -/

namespace HKey

theorem exists_followsJoins_of_append
    {group : Group}
    {above : Option TableId}
    {segments others : List Segment}
    (follows : FollowsJoins group above (segments ++ others)) :
    ∃ lower, FollowsJoins group lower others := by
  induction segments generalizing above with
  | nil => exact ⟨above, follows⟩
  | cons segment segments inductionHypothesis => exact inductionHypothesis follows.2

variable {group : Group} {first second third anchor : HKey}
variable {firstBytes secondBytes thirdBytes : Bytes}

/-- No path lies below one that comes later. -/
theorem isBelow_eq_false_of_precedes
    (firstEncoded : first.encode = .ok firstBytes)
    (secondEncoded : second.encode = .ok secondBytes)
    (precedes : Bytes.Precedes firstBytes secondBytes) :
    first.isBelow second = false := by
  rw [isBelow, Bool.and_eq_false_iff]
  refine Or.inl (Bool.eq_false_iff.mpr fun goesOn => ?_)
  obtain ⟨rest, _, rfl⟩ := exists_rest_of_startWith firstEncoded secondEncoded goesOn
  have shorter : Bytes.compare (secondBytes ++ rest) (secondBytes ++ []) = .lt := by
    rw [List.append_nil]
    exact precedes
  rw [Bytes.compare_append_self] at shorter
  cases rest <;> simp [Bytes.compare] at shorter

/-- A path between two others goes on from whatever both go on from. -/
theorem startsWith_of_between
    (secondRooted : second.Rooted group)
    (anchorRooted : anchor.Rooted group)
    (firstEncoded : first.encode = .ok firstBytes)
    (secondEncoded : second.encode = .ok secondBytes)
    (thirdEncoded : third.encode = .ok thirdBytes)
    (firstSecond : Bytes.Precedes firstBytes secondBytes)
    (secondThird : Bytes.Precedes secondBytes thirdBytes)
    (firstGoesOn : first.startsWith anchor = true)
    (thirdGoesOn : third.startsWith anchor = true) :
    second.startsWith anchor = true := by
  obtain ⟨anchorBytes, anchorEncoded⟩ := exists_encode anchorRooted
  have firstInside := KeyLayout.contains_subtreeEnd_iff.mpr
    (exists_rest_of_startWith firstEncoded anchorEncoded firstGoesOn)
  have thirdInside := KeyLayout.contains_subtreeEnd_iff.mpr
    (exists_rest_of_startWith thirdEncoded anchorEncoded thirdGoesOn)
  rw [startsWith_iff secondRooted anchorRooted secondEncoded anchorEncoded,
    ← KeyLayout.contains_subtreeEnd_iff]
  rw [KeyRange.contains_halfOpen] at firstInside thirdInside ⊢
  refine ⟨fun below => firstInside.1 ?_, Bytes.Precedes.trans secondThird thirdInside.2⟩
  exact Bytes.Precedes.trans firstSecond below

/-- Paths below one path come by table, and in one table by key. -/
theorem compareNatural_last
    {firstAbove secondAbove : List Segment}
    {firstLast secondLast : Segment}
    (firstRooted : Rooted group ⟨firstAbove ++ [firstLast]⟩)
    (secondRooted : Rooted group ⟨secondAbove ++ [secondLast]⟩)
    (firstEncoded : encode ⟨firstAbove ++ [firstLast]⟩ = .ok firstBytes)
    (secondEncoded : encode ⟨secondAbove ++ [secondLast]⟩ = .ok secondBytes)
    (precedes : Bytes.Precedes firstBytes secondBytes)
    (alike : List.Forall₂ Segment.Alike firstAbove secondAbove) :
    firstLast.compareNatural secondLast = .lt := by
  obtain ⟨start, firstRest, startEncoded, firstRestEncoded, rfl⟩ :=
    encode_append_eq_ok.mp firstEncoded
  obtain ⟨startAgain, secondRest, startAgainEncoded, secondRestEncoded, rfl⟩ :=
    encode_append_eq_ok.mp secondEncoded
  obtain rfl : start = startAgain :=
    Except.ok.inj (startEncoded.symm.trans (encode_of_alike alike startAgainEncoded))
  obtain ⟨_, firstFollows⟩ := exists_followsJoins_of_append firstRooted
  obtain ⟨_, secondFollows⟩ := exists_followsJoins_of_append secondRooted
  rw [Bytes.Precedes, Bytes.compare_append_self,
    compare_encode_of_followsJoins firstFollows secondFollows firstRestEncoded secondRestEncoded,
    List.compareLex_cons_cons, List.compareLex_nil_nil, Ordering.then_eq] at precedes
  exact precedes

end HKey

/-! ## Rows in order -/

namespace Row

/-- Whether the path of one row comes naturally before that of another. -/
def NaturallyPrecedes (first second : Row) : Prop :=
  ∃ firstHKey secondHKey, first.hkey = some firstHKey ∧ second.hkey = some secondHKey ∧
    firstHKey.compareNatural secondHKey = .lt

/-- Whether one row does not stand below another. -/
def NotBelow (first second : Row) : Prop :=
  ∀ hkey, second.hkey = some hkey -> first.isBelow hkey = false

/-- Whether, if both stand below one row or both in the root, one row is of an
earlier table than another, or of the same table with a smaller key. -/
def SiblingPrecedes (first second : Row) : Prop :=
  ∀ firstAbove secondAbove firstLast secondLast,
    first.hkey = some ⟨firstAbove ++ [firstLast]⟩ ->
    second.hkey = some ⟨secondAbove ++ [secondLast]⟩ ->
    List.Forall₂ Segment.Alike firstAbove secondAbove ->
      firstLast.table.ordinal.toNat < secondLast.table.ordinal.toNat ∨
        firstLast.table = secondLast.table ∧
          List.compareLex Value.compareNatural firstLast.values secondLast.values = .lt

variable {first second third : Row}

theorem Precedes.notBelow
    (precedes : first.Precedes second) :
    first.NotBelow second := by
  obtain ⟨firstHKey, secondHKey, firstBytes, secondBytes, firstPlaced, secondPlaced,
    firstEncoded, secondEncoded, less⟩ := precedes
  intro hkey placed
  obtain rfl := Option.some.inj (secondPlaced.symm.trans placed)
  rw [isBelow, firstPlaced, Option.any_some]
  exact HKey.isBelow_eq_false_of_precedes firstEncoded secondEncoded less

variable {group : Group}

theorem Precedes.naturallyPrecedes
    (precedes : first.Precedes second)
    (firstRooted : ∀ hkey, first.hkey = some hkey -> hkey.Rooted group)
    (secondRooted : ∀ hkey, second.hkey = some hkey -> hkey.Rooted group) :
    first.NaturallyPrecedes second := by
  obtain ⟨firstHKey, secondHKey, firstBytes, secondBytes, firstPlaced, secondPlaced,
    firstEncoded, secondEncoded, less⟩ := precedes
  refine ⟨firstHKey, secondHKey, firstPlaced, secondPlaced, ?_⟩
  rw [← HKey.compare_encode (firstRooted _ firstPlaced) (secondRooted _ secondPlaced) firstEncoded
    secondEncoded]
  exact less

theorem Precedes.siblingPrecedes
    (precedes : first.Precedes second)
    (firstRooted : ∀ hkey, first.hkey = some hkey -> hkey.Rooted group)
    (secondRooted : ∀ hkey, second.hkey = some hkey -> hkey.Rooted group) :
    first.SiblingPrecedes second := by
  obtain ⟨firstHKey, secondHKey, firstBytes, secondBytes, firstPlaced, secondPlaced,
    firstEncoded, secondEncoded, less⟩ := precedes
  intro firstAbove secondAbove firstLast secondLast firstShape secondShape alike
  obtain rfl := Option.some.inj (firstPlaced.symm.trans firstShape)
  obtain rfl := Option.some.inj (secondPlaced.symm.trans secondShape)
  have lastLess := HKey.compareNatural_last (firstRooted _ firstPlaced)
    (secondRooted _ secondPlaced) firstEncoded secondEncoded less alike
  rcases Ordering.then_eq_lt.mp lastLess with place | ⟨place, values⟩
  · exact Or.inl (Nat.compare_eq_lt.mp place)
  · exact Or.inr ⟨congrArg TableId.mk (UInt32.toNat_inj.mp (Nat.compare_eq_eq.mp place)), values⟩

theorem isWithin_of_between
    {anchor : HKey}
    (firstSecond : first.Precedes second)
    (secondThird : second.Precedes third)
    (secondRooted : ∀ hkey, second.hkey = some hkey -> hkey.Rooted group)
    (anchorRooted : anchor.Rooted group)
    (firstWithin : first.isWithin anchor = true)
    (thirdWithin : third.isWithin anchor = true) :
    second.isWithin anchor = true := by
  obtain ⟨firstHKey, secondHKey, firstBytes, secondBytes, firstPlaced, secondPlaced,
    firstEncoded, secondEncoded, below⟩ := firstSecond
  obtain ⟨middleHKey, thirdHKey, middleBytes, thirdBytes, middlePlaced, thirdPlaced,
    middleEncoded, thirdEncoded, above⟩ := secondThird
  obtain rfl := Option.some.inj (secondPlaced.symm.trans middlePlaced)
  obtain rfl := Except.ok.inj (secondEncoded.symm.trans middleEncoded)
  rw [isWithin, firstPlaced, Option.any_some] at firstWithin
  rw [isWithin, thirdPlaced, Option.any_some] at thirdWithin
  rw [isWithin, secondPlaced, Option.any_some]
  exact HKey.startsWith_of_between (secondRooted _ secondPlaced) anchorRooted firstEncoded
    secondEncoded thirdEncoded below above firstWithin thirdWithin

end Row

namespace Group

variable {group : Group} {entries : List Entry} {rows : List Row}

theorem rooted_of_holds
    (holds : List.Forall₂ group.Holds entries rows) :
    ∀ row ∈ rows, ∀ hkey, row.hkey = some hkey -> hkey.Rooted group := by
  intro row member hkey placed
  obtain ⟨_, _, _, other, otherPlaced, rooted, _⟩ := exists_input_of_mem holds row member
  obtain rfl := Option.some.inj (otherPlaced.symm.trans placed)
  exact rooted

theorem pairwise_precedes_of_holds
    (holds : List.Forall₂ group.Holds entries rows)
    (ascending : Ascending entries) :
    rows.Pairwise Row.Precedes :=
  pairwise_of_forall₂ (fun first second rises => first.precedes second rises) holds ascending

end Group

namespace GroupCursor

/-- Encoded keys compare bytewise in the natural order of the paths.  So in
every full scan of stored rows the rows come in that order: none comes after a
row below it, the rows of a subtree stand together, and the rows below one row
come by table and then by key. -/
theorem fullScan_natural_order
    (group : Group) :
    (∀ left right : HKey, left.Rooted group -> right.Rooted group ->
      ∃ leftBytes rightBytes, left.encode = .ok leftBytes ∧ right.encode = .ok rightBytes ∧
        Bytes.compare leftBytes rightBytes = left.compareNatural right) ∧
    ∀ store : Store, store.HoldsRowsOf group ->
      ∃ rows,
        (∀ batchSize, fullScan batchSize group store = .ok rows) ∧
        List.Forall₂ group.Holds (store.startingWith (KeyLayout.groupStart group.id)) rows ∧
        rows.Pairwise Row.NaturallyPrecedes ∧
        rows.Pairwise Row.NotBelow ∧
        (∀ anchor : HKey, anchor.Rooted group ->
          (rows.filter fun row => row.isWithin anchor) <:+: rows) ∧
        rows.Pairwise Row.SiblingPrecedes := by
  refine ⟨?_, ?_⟩
  · intro left right leftRooted rightRooted
    obtain ⟨leftBytes, leftEncoded⟩ := HKey.exists_encode leftRooted
    obtain ⟨rightBytes, rightEncoded⟩ := HKey.exists_encode rightRooted
    exact ⟨leftBytes, rightBytes, leftEncoded, rightEncoded,
      HKey.compare_encode leftRooted rightRooted leftEncoded rightEncoded⟩
  · intro store holdsRows
    obtain ⟨rows, holds⟩ := Group.exists_rows holdsRows
    have rooted := Group.rooted_of_holds holds
    have precedes := Group.pairwise_precedes_of_holds holds (store.ascending_entries.filter _)
    refine ⟨rows, ?_, holds, ?_, ?_, ?_, ?_⟩
    · intro batchSize
      rw [fullScan_eq, Group.mapM_rowOfEntry holds]
    · exact precedes.imp_of_mem fun firstMember secondMember earlier =>
        earlier.naturallyPrecedes (rooted _ firstMember) (rooted _ secondMember)
    · exact precedes.imp Row.Precedes.notBelow
    · intro anchor anchorRooted
      refine filter_infix_of_convex precedes fun first _ second secondMember third _ below above => ?_
      exact Row.isWithin_of_between below above (rooted second secondMember) anchorRooted
    · exact precedes.imp_of_mem fun firstMember secondMember earlier =>
        earlier.siblingPrecedes (rooted _ firstMember) (rooted _ secondMember)

/-- The book of the author without a row comes before the author whose name
goes on from that author's. -/
theorem fullScan_natural_order_library :
    (Library.book "a" 7).Rooted Library.group ∧ (Library.author "a\x00").Rooted Library.group ∧
      Library.store.HoldsRowsOf Library.group ∧
      (∃ leftBytes rightBytes, (Library.book "a" 7).encode = .ok leftBytes ∧
        (Library.author "a\x00").encode = .ok rightBytes ∧
        Bytes.compare leftBytes rightBytes = .lt) ∧
      ∃ rows, (∀ batchSize, fullScan batchSize Library.group Library.store = .ok rows) ∧
        (rows.filter fun row => row.isWithin (Library.author "a")) <:+: rows := by
  obtain ⟨encodings, scans⟩ := fullScan_natural_order Library.group
  have bookRooted := Library.book_rooted "a" 7
  have authorRooted := Library.author_rooted "a\x00"
  obtain ⟨rows, scanned, _, _, _, together, _⟩ := scans Library.store Library.holdsRowsOf
  exact ⟨bookRooted, authorRooted, Library.holdsRowsOf, encodings _ _ bookRooted authorRooted,
    rows, scanned, together _ (Library.author_rooted "a")⟩

end GroupCursor
end Keyspace
