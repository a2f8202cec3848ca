import Keyspace.Toml.Value

/-!
# Paths to tables

A path of names leads from a table to one below it, and the tables that are
missing on its way are made.  Of tables that share a header the last one is
meant.  A header leads through every table that is not a value between braces.
A dotted key neither leads through a table with a header of its own nor adds
to one that no dotted key has made.
-/

namespace Keyspace
namespace Toml

/-- What a path is written as. -/
inductive PathKind where
  /-- A header. -/
  | header
  /-- A dotted key. -/
  | dotted
  deriving DecidableEq, Repr

namespace PathKind

/-- How the tables come to be that are made on the way. -/
def madeOrigin : PathKind -> TableOrigin
  | .header => .path
  | .dotted => .dotted

/-- Whether a path leads through tables of an origin. -/
def passes : PathKind -> TableOrigin -> Bool
  | _, .value => false
  | _, .path => true
  | _, .dotted => true
  | .header, .header => true
  | .dotted, .header => false

end PathKind

namespace Entries

/-- Change the table that a path leads to from a table of a given origin.  The
change is told the origin of the table that it gets. -/
def changeAt?
    (kind : PathKind)
    (change : TableOrigin -> Entries -> Option Entries)
    (origin : TableOrigin) :
    List String -> Entries -> Option Entries
  | [], entries => change origin entries
  | first :: rest, entries =>
      match entries.lookup first with
      | none => do
          let inner ← changeAt? kind change kind.madeOrigin rest []
          return entries ++ [(first, .table kind.madeOrigin inner)]
      | some (.table origin inner) =>
          if kind.passes origin then do
            let changed ← changeAt? kind change origin rest inner
            return entries.replace first (.table origin changed)
          else none
      | some (.tables elements) =>
          match elements.getLast? with
          | none => none
          | some last => do
              let changed ← changeAt? kind change .header rest last
              return entries.replace first (.tables (elements.dropLast ++ [changed]))
      | some _ => none

/-- Add a value to a table that dotted keys have made, or that the key itself
stands in. -/
def addDotted? (name : String) (value : Value) (origin : TableOrigin) (entries : Entries) :
    Option Entries :=
  if origin = .dotted then entries.add? name value else none

/-- Add a value under a dotted key. -/
def addAt? (path : List String) (value : Value) (entries : Entries) : Option Entries :=
  match path.getLast? with
  | none => none
  | some name => changeAt? .dotted (addDotted? name value) .dotted path.dropLast entries

end Entries

end Toml
end Keyspace
