import Keyspace.Text.Hexadecimal
import Keyspace.Unicode.Shapeless

/-!
# Quoted texts

A quoted text stands between double quotes.  Quotes, backslashes and
characters without a shape are escaped, so that a reader sees each of them.
-/

namespace Keyspace
namespace Quoted

/-- The characters of a number in base sixteen, without leading zeros. -/
def hexDigits (value : Nat) : List Char :=
  (Nat.toDigits 16 value)

/-- The letter that stands for a character behind a backslash. -/
def shortEscape? (character : Char) : Option Char :=
  match character.toNat with
  | 0x00 => some '0'
  | 0x09 => some 't'
  | 0x0A => some 'n'
  | 0x0D => some 'r'
  | 0x22 => some character
  | 0x5C => some character
  | _ => none

/-- The backslash. -/
def backslash : Char := Char.ofNat 0x5C

/-- The characters that show one character. -/
def escape (character : Char) : List Char :=
  match shortEscape? character with
  | some letter => [backslash, letter]
  | none =>
      if isShapeless character then
        [backslash, 'u', '\x7b'] ++ hexDigits character.toNat ++ ['\x7d']
      else [character]

/-- The quoted form of a text. -/
def encode (text : String) : String :=
  let quote := Char.ofNat 0x22
  String.ofList (quote :: text.toList.flatMap escape ++ [quote])

end Quoted
end Keyspace
