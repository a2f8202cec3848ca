import Keyspace.Schema.Declaration
import Keyspace.Store.GroupStore

/-!
# A sample group

A shop keeps customers, their orders with the items of each, and their
addresses.  The group shows all that a group can have: three levels, two
children of one parent and a table without a declared key.  Its rows name their
tables by place, so they fit any group whose first four tables have columns of
the same kinds.
-/

namespace Keyspace
namespace Sample

/-- The schema of the shop. -/
def schema : String := "shop"

/-- The customers, the root. -/
def customers : TableDeclaration :=
  ⟨⟨schema, "customers"⟩,
    [⟨"cid", .bigInt, true, none, false⟩, ⟨"name", .varchar 64, true, none, false⟩],
    ["cid"]⟩

/-- The orders of a customer. -/
def orders : ChildDeclaration :=
  ⟨"customers",
    ⟨⟨schema, "orders"⟩,
      [⟨"oid", .bigInt, true, none, false⟩, ⟨"cid", .bigInt, true, none, false⟩,
        ⟨"placed", .date, true, none, false⟩],
      ["oid"]⟩,
    ⟨["cid"], ["cid"]⟩⟩

/-- The items of an order. -/
def items : ChildDeclaration :=
  ⟨"orders",
    ⟨⟨schema, "items"⟩,
      [⟨"iid", .bigInt, true, none, false⟩, ⟨"oid", .bigInt, true, none, false⟩,
        ⟨"cid", .bigInt, true, none, false⟩, ⟨"price", .decimal 10 2, true, none, false⟩],
      ["iid"]⟩,
    ⟨["cid", "oid"], ["cid", "oid"]⟩⟩

/-- The addresses of a customer, which have no key of their own. -/
def addresses : ChildDeclaration :=
  ⟨"customers",
    ⟨⟨schema, "addresses"⟩,
      [⟨"cid", .bigInt, true, none, false⟩, ⟨"city", .varchar 32, true, none, false⟩],
      []⟩,
    ⟨["cid"], ["cid"]⟩⟩

/-- The shop as a group of a given number. -/
def group (id : UInt32) : Except Error Group :=
  GroupDeclaration.build ⟨id, "coi", some customers, [orders, items, addresses]⟩

/-! ## Rows -/

/-- How many rows of each kind there are: customers, orders and addresses per
customer, and items per order. -/
structure Population where
  /-- The customers. -/
  customers : Int
  /-- The orders of each customer. -/
  orders : Int
  /-- The items of each order. -/
  items : Int
  /-- The addresses of each customer. -/
  addresses : Int
  deriving DecidableEq, Repr

namespace Population

/-- A population in use where none is given. -/
def standard : Population := ⟨3, 2, 2, 1⟩

/-- The rows of one customer, its own included, as a 64-bit count, in which a
sum below zero wraps around. -/
def perCustomer (population : Population) : UInt64 :=
  UInt64.ofInt (1 + population.orders * (1 + population.items) + population.addresses)

/-- All rows, as a 64-bit count. -/
def total (population : Population) : UInt64 :=
  UInt64.ofInt population.customers * population.perCustomer

end Population

/-- The numbers from zero up to a bound; none if the bound is not positive. -/
def below (bound : Int) : List Int :=
  (List.range bound.toNat).map Int.ofNat

/-- The number of an order or an item within its owner. -/
def numbered (owner place : Int) : Int :=
  owner * 100 + place

/-- A 64-bit integer as a column value. -/
def whole (number : Int) : Value :=
  .bigInt (Int64.ofInt number)

/-- The price of the item at a place of an order. -/
def price (place : Int) : Value :=
  .decimal ((Decimal.ofParts? (place * 250 + 99) 2).getD Decimal.zero)

/-- The day that the shop opened. -/
def firstDay : Int := 19000

/-- The place of the customers in their group. -/
def customersPlace : TableId := ⟨1⟩

/-- The place of the orders in their group. -/
def ordersPlace : TableId := ⟨2⟩

/-- The place of the items in their group. -/
def itemsPlace : TableId := ⟨3⟩

/-- The place of the addresses in their group. -/
def addressesPlace : TableId := ⟨4⟩

/-- The values of an order with those of its items behind it, each with the
place of its table. -/
def orderRows (population : Population) (customer place : Int) :
    List (TableId × List Value) :=
  let order := numbered customer place
  (ordersPlace, [whole order, whole customer, .date (Int32.ofInt (firstDay + place))])
    :: (below population.items).map fun item =>
      (itemsPlace, [whole (numbered order item), whole order, whole customer, price item])

/-- The values of a customer with those of all that belongs to it, each with
the place of its table.  The keys of addresses are left to the store. -/
def customerRows (population : Population) (customer : Int) :
    List (TableId × List Value) :=
  (customersPlace, [whole customer, .string s!"customer {customer}"])
    :: (below population.orders).flatMap (orderRows population customer)
    ++ (below population.addresses).map fun address =>
      (addressesPlace, [whole customer, .string s!"city {address}", .null])

/-- All values of a population in the order in which they are written. -/
def rows (population : Population) : List (TableId × List Value) :=
  (below population.customers).flatMap fun place => customerRows population (place + 1)

/-- Write one row to the table of a group at a place. -/
def writeAt (session : GroupStore) (group : Group) (place : TableId) (values : List Value) :
    Except Error GroupStore :=
  match group.table? place with
  | none => .error (.internal s!"the group has no table at place {place.ordinal}")
  | some table =>
      let (written, after) := session.writeRow group (Row.ofValues table.rowType values)
      written.map fun _ => after

/-- Write a whole population, up to the first row that is refused. -/
def populate (session : GroupStore) (group : Group) (population : Population) :
    Except Error GroupStore :=
  (rows population).foldlM (fun current row => writeAt current group row.1 row.2) session

end Sample
end Keyspace
