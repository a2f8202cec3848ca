import Keyspace.Error
import Keyspace.Text.Blank

/-!
# Collation modes

A mode says what becomes of a scheme name without a meaning, and whether
schemes are heeded at all.
-/

namespace Keyspace

/-- How scheme names are taken. -/
inductive CollationMode where
  /-- Every scheme is heeded, and an unknown one is an error. -/
  | strict
  /-- Every scheme is heeded, and an unknown one compares bytes. -/
  | loose
  /-- No scheme is heeded: all texts compare by their bytes. -/
  | disabled
  deriving DecidableEq, Repr

namespace CollationMode

/-- The name of a mode. -/
def text : CollationMode -> String
  | strict => "strict"
  | loose => "loose"
  | disabled => "disabled"

/-- The name of a mode in descriptions. -/
def title : CollationMode -> String
  | strict => "Strict"
  | loose => "Loose"
  | disabled => "Disabled"

/-- The mode of a name in small letters. -/
def ofName? : String -> Option CollationMode
  | "strict" => some strict
  | "loose" => some loose
  | "disabled" => some disabled
  | _ => none

/-- The mode that a text names, whatever the case of its ASCII letters. -/
def parse (text : String) : Except Error CollationMode :=
  let name := Blank.lower text
  match ofName? name with
  | some mode => .ok mode
  | none => .error (.invalidConfig s!"unknown collation mode '{name}'")

end CollationMode
end Keyspace
