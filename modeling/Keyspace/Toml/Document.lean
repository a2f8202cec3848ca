import Keyspace.Toml.Scanner

/-!
# Settings documents

A document is read line by line.  A header makes the table that the lines
behind it fill.  No table and no key is defined twice.
-/

namespace Keyspace
namespace Toml

/-- A line of a document. -/
inductive Statement where
  /-- A line without content. -/
  | blank
  /-- A key with its value. -/
  | pair (path : List String) (value : Value)
  /-- The header of a table. -/
  | header (path : List String)
  /-- The header of one more table under a name. -/
  | element (path : List String)

namespace Scanner

/-- A line of a document, from its first character that is not blank. -/
def statement : Scanner Statement := do
  match ← get with
  | '[' :: '[' :: rest =>
      set rest
      let path ← key
      blanks
      expect [']', ']']
      return .element path
  | '[' :: rest =>
      set rest
      let path ← key
      blanks
      expect [']']
      return .header path
  | [] => return .blank
  | first :: _ =>
      if first == '#' || first == '\n' || first == '\r' then return .blank
      else
        let path ← key
        blanks
        expect ['=']
        blanks
        return .pair path (← value)

/-- All lines of a document. -/
def statements : Scanner (List Statement) := do
  let line : Scanner (Option Statement) := do
    if (← get).isEmpty then return none
    else
      blanks
      let found ← statement
      lineEnd
      return some found
  many line

end Scanner

/-- A document that was read up to some line. -/
structure Document where
  /-- What was defined. -/
  root : Entries
  /-- The table that is being filled. -/
  current : List String

namespace Document

/-- Define a table by its header.  Only a table that stands on the way to
another can be there already. -/
def defineTable? (name : String) (entries : Entries) : Option Entries :=
  match entries.lookup name with
  | none => some (entries ++ [(name, .table .header [])])
  | some (.table .path inner) => some (entries.replace name (.table .header inner))
  | some _ => none

/-- Define one more table under a name. -/
def defineElement? (name : String) (entries : Entries) : Option Entries :=
  match entries.lookup name with
  | none => some (entries ++ [(name, .tables [[]])])
  | some (.tables elements) => some (entries.replace name (.tables (elements ++ [[]])))
  | some _ => none

/-- Change a document by a definition at the end of a path. -/
def define?
    (document : Document)
    (definition : String -> Entries -> Option Entries)
    (path : List String) : Option Document :=
  match path.getLast? with
  | none => none
  | some name => do
      let root ←
        Entries.changeAt? .header (fun _ => definition name) .header path.dropLast
          document.root
      return ⟨root, path⟩

/-- Read one line. -/
def read? (document : Document) : Statement -> Option Document
  | .blank => some document
  | .pair path value => do
      let root ←
        Entries.changeAt? .header (fun _ => Entries.addAt? path value) .header
          document.current document.root
      return { document with root := root }
  | .header path => document.define? defineTable? path
  | .element path => document.define? defineElement? path

/-- The character that may stand before a document to tell its encoding. -/
def byteOrderMark : Char := Char.ofNat 0xFEFF

/-- The named values that a text writes. -/
def entries? (text : String) : Option Entries := do
  let characters :=
    match text.toList with
    | first :: rest => if first == byteOrderMark then rest else first :: rest
    | [] => []
  let (statements, _) ← Scanner.statements.run characters
  let document ← statements.foldlM read? ⟨[], []⟩
  return document.root

end Document
end Toml
end Keyspace
