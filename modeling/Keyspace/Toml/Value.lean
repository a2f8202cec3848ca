/-!
# Values of settings files

A settings file holds a table of named values.  Tables remember how they came
to be, because the format lets some of them be extended later and others not.
-/

namespace Keyspace
namespace Toml

/-- How a table came to be. -/
inductive TableOrigin where
  /-- By a header of its own. -/
  | header
  /-- On the way to a table with a header. -/
  | path
  /-- On the way of a dotted key. -/
  | dotted
  /-- As a value between braces. -/
  | value
  deriving DecidableEq, Repr

/-- A value. -/
inductive Value where
  /-- A text. -/
  | string (content : String)
  /-- An integer of 64 bits. -/
  | integer (number : Int)
  /-- A float, as it is written. -/
  | float (written : String)
  /-- A truth value. -/
  | boolean (truth : Bool)
  /-- A date, a time or both, as it is written. -/
  | moment (written : String)
  /-- A list of values. -/
  | array (items : List Value)
  /-- Named values, in the order of their definition. -/
  | table (origin : TableOrigin) (entries : List (String × Value))
  /-- Tables that share a header, in the order of their definition. -/
  | tables (elements : List (List (String × Value)))

/-- Named values; no two have the same name. -/
abbrev Entries := List (String × Value)

namespace Entries

/-- Give a name that is already there another value. -/
def replace (entries : Entries) (key : String) (value : Value) : Entries :=
  entries.map fun entry => if entry.1 == key then (key, value) else entry

/-- Add a name that is not there yet. -/
def add? (entries : Entries) (key : String) (value : Value) : Option Entries :=
  match entries.lookup key with
  | some _ => none
  | none => some (entries ++ [(key, value)])

end Entries

end Toml
end Keyspace
