import Keyspace.Proofs.HKey.RowKeys

/-!
# Rows and keys that are read back

A row of fitting values is read back from its bytes.  The keys that can be read
for a group are its paths from the root, whatever bytes they come from: each path
has bytes that it is read back from, and each key that was read is one.  Only the
zeros at the end of decimals may differ.
-/

namespace Keyspace

/-- Every row with one fitting value per column has bytes that store it, and is
read back from them by its columns. -/
theorem Row.exists_decode_encode
    {row : Row}
    (takes : row.rowType.Takes row.values) :
    ∃ bytes values, row.encode = .ok bytes ∧
      Row.decode row.rowType bytes = .ok (Row.ofValues row.rowType values) ∧
      List.Forall₂ Value.Alike values row.values := by
  obtain ⟨bytes, encoded⟩ := exists_encode takes
  -- A row is stored without its key, so its bytes are those of its values.
  have rowEncoded : row.encode = .ok bytes := encoded
  obtain ⟨values, read, alike⟩ := exists_decode takes rowEncoded
  exact ⟨bytes, values, rowEncoded, read, alike⟩

/-! ## A log of a well -/

namespace Well

/-- Columns of the types whose values change their class on the way to bytes or
reach the end of its range. -/
def columns : List Column :=
  [⟨"entry", .unsignedBigInt, false, none, false⟩, ⟨"level", .mediumInt, true, none, false⟩,
    ⟨"cost", .decimal 10 2, true, none, false⟩, ⟨"flow", .double, true, none, false⟩,
    ⟨"taken", .dateTime, true, none, false⟩, ⟨"dug", .year, true, none, false⟩,
    ⟨"photo", .blob, true, none, false⟩, ⟨"owner", .guid, true, none, false⟩,
    ⟨"note", .text, true, none, false⟩]

/-- An entry of the log: a cost with more zeros than its column keeps, a flow that
is no number, no owner, and a note with the character that ends texts. -/
def entry : Row :=
  Row.ofValues ⟨⟨1⟩, ⟨"s", "wells"⟩, columns⟩
    [.unsigned 0xFFFFFFFFFFFFFFFF, .int (-0x800000),
      .decimal ⟨15000, 4, by decide, .inl (by decide)⟩, .double ⟨0xFFF8000000000123⟩,
      .timestamp (-1), .year 1066, .blob ⟨List.replicate 16 0xFF, rfl⟩, .null,
      .string "dry\x00"]

theorem takes_entry :
    entry.rowType.Takes entry.values :=
  .cons rfl (.cons rfl (.cons rfl (.cons rfl (.cons rfl (.cons rfl (.cons rfl (.cons rfl
    (.cons rfl .nil))))))))

end Well

/-- The entry of the well is read back, with the bits of its flow. -/
theorem Row.exists_decode_encode_well :
    Well.entry.rowType.Takes Well.entry.values ∧
      ∃ bytes values, Well.entry.encode = .ok bytes ∧
        Row.decode Well.entry.rowType bytes = .ok (Row.ofValues Well.entry.rowType values) ∧
        List.Forall₂ Value.Alike values Well.entry.values :=
  ⟨Well.takes_entry, exists_decode_encode Well.takes_entry⟩

namespace HKey

theorem root?_of_rooted
    {group : Group}
    {hkey : HKey}
    {first : Segment}
    (tree : group.IsTree)
    (rooted : hkey.Rooted group)
    (isFirst : hkey.segments.head? = some first) :
    ∃ root, group.root? = some root ∧ root.id = first.table := by
  obtain ⟨others, segments⟩ := List.head?_eq_some_iff.mp isFirst
  rw [Rooted, segments] at rooted
  obtain ⟨⟨root, found, named, isTop, _⟩, _⟩ := rooted
  exact ⟨root, tree.root?_of_top (Group.mem_of_table? found) isTop, named⟩

/-- In every group that can be built, what is read from any bytes is a path from
the root, and is written so that it is read again.  Every path is written and read
back. -/
theorem decode_spec
    {declaration : GroupDeclaration}
    {group : Group}
    (built : declaration.build = .ok group) :
    (∀ bytes hkey, decode group bytes = .ok hkey ->
        hkey.Rooted group ∧
        (∀ first, hkey.segments.head? = some first ->
          ∃ root, group.root? = some root ∧ root.id = first.table) ∧
        ∃ again back, hkey.encode = .ok again ∧ decode group again = .ok back ∧
          back.Alike hkey ∧ back.encode = .ok again) ∧
      ∀ hkey : HKey, hkey.Rooted group ->
        ∃ bytes back, hkey.encode = .ok bytes ∧ decode group bytes = .ok back ∧
          back.Alike hkey := by
  have tree := GroupDeclaration.isTree_of_build built
  constructor
  · intro bytes hkey read
    have rooted := rooted_of_decode tree.numbered read
    obtain ⟨again, encoded⟩ := exists_encode rooted
    obtain ⟨back, readAgain, alike⟩ := exists_decode rooted encoded
    exact ⟨rooted, fun _ isFirst => root?_of_rooted tree rooted isFirst,
      again, back, encoded, readAgain, alike, alike.encode encoded⟩
  · intro hkey rooted
    obtain ⟨bytes, encoded⟩ := exists_encode rooted
    obtain ⟨back, read, alike⟩ := exists_decode rooted encoded
    exact ⟨bytes, back, encoded, read, alike⟩

end HKey

/-! ## A price list -/

namespace PriceList

/-- Prices, and the wares that have them. -/
def declaration : GroupDeclaration where
  id := 12
  name := "price list"
  root := some ⟨⟨"s", "prices"⟩, [⟨"price", .decimal 5 2, false, none, false⟩], ["price"]⟩
  children :=
    [⟨"prices", ⟨⟨"s", "wares"⟩,
        [Shop.number "ware", ⟨"cost", .decimal 5 2, false, none, false⟩], ["ware"]⟩,
      ⟨["cost"], ["price"]⟩⟩]

/-- The prices. -/
def prices : Table :=
  ⟨⟨1⟩, ⟨"s", "prices"⟩, [⟨"price", .decimal 5 2, false, none, false⟩], [0], none, [⟨2⟩], 0,
    [⟨⟨1⟩, [0]⟩]⟩

/-- The wares of a price. -/
def wares : Table :=
  ⟨⟨2⟩, ⟨"s", "wares"⟩,
    [Shop.number "ware", ⟨"cost", .decimal 5 2, false, none, false⟩], [0],
    some ⟨⟨1⟩, [⟨1, 0⟩]⟩, [], 1, [⟨⟨1⟩, [1]⟩, ⟨⟨2⟩, [0]⟩]⟩

/-- The built price list. -/
def group : Group := ⟨12, "price list", [prices, wares]⟩

theorem build_declaration :
    declaration.build = .ok group := rfl

/-- A ware of the price 1.5000, with more zeros than its column keeps. -/
def padded : HKey :=
  ⟨[⟨⟨1⟩, [.decimal ⟨15000, 4, by decide, .inl (by decide)⟩]⟩, ⟨⟨2⟩, [.bigInt 7]⟩]⟩

end PriceList

/-- The padded price is read from bytes that no key is written as, which have a
wide place and zeros at the end of the digits.  It is a path all the same. -/
theorem HKey.decode_spec_priceList :
    PriceList.declaration.build = .ok PriceList.group ∧
      decode PriceList.group [22, 0, 1, 64, 3, 129, 2, 6, 1, 1, 1, 0, 21, 2, 21, 7] =
        .ok PriceList.padded ∧
      PriceList.padded.Rooted PriceList.group ∧
      PriceList.padded.encode = .ok [21, 1, 64, 3, 129, 2, 6, 0, 21, 2, 21, 7] ∧
      ∃ back, decode PriceList.group [21, 1, 64, 3, 129, 2, 6, 0, 21, 2, 21, 7] = .ok back ∧
        back.Alike PriceList.padded := by
  have read : decode PriceList.group [22, 0, 1, 64, 3, 129, 2, 6, 1, 1, 1, 0, 21, 2, 21, 7] =
      .ok PriceList.padded := rfl
  have encoded : PriceList.padded.encode = .ok [21, 1, 64, 3, 129, 2, 6, 0, 21, 2, 21, 7] := rfl
  obtain ⟨fromBytes, _⟩ := decode_spec PriceList.build_declaration
  obtain ⟨rooted, _, again, back, written, readAgain, alike, _⟩ := fromBytes _ _ read
  obtain rfl := Except.ok.inj (written.symm.trans encoded)
  exact ⟨PriceList.build_declaration, read, rooted, encoded, back, readAgain, alike⟩

end Keyspace
