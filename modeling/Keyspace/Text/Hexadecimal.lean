/-!
# Hexadecimal text

Bytes are shown as two lower-case digits each, the high half first.
-/

namespace Keyspace
namespace Hexadecimal

/-- The lower-case digit of a number below sixteen. -/
def digit (value : Nat) : Char :=
  Char.ofNat (if value < 10 then 48 + value else 87 + value)

/-- The value of a hexadecimal digit of either case. -/
def digitValue? (character : Char) : Option Nat :=
  let code := character.toNat
  if 48 ≤ code ∧ code ≤ 57 then some (code - 48)
  else if 97 ≤ code ∧ code ≤ 102 then some (code - 87)
  else if 65 ≤ code ∧ code ≤ 70 then some (code - 55)
  else none

/-- The two digits of a byte. -/
def byte (value : UInt8) : List Char :=
  [digit (value.toNat / 16), digit (value.toNat % 16)]

/-- The text of a list of bytes. -/
def encode (bytes : List UInt8) : String :=
  String.ofList (bytes.flatMap byte)

/-- The bytes named by a list of digits, in front of those already `done`
and reversed. -/
def decodeOnto (done : List UInt8) : List Char -> Option (List UInt8)
  | [] => some done.reverse
  | [_] => none
  | high :: low :: rest =>
      match digitValue? high, digitValue? low with
      | some upper, some lower =>
          decodeOnto (UInt8.ofNat (16 * upper + lower) :: done) rest
      | _, _ => none

/-- The bytes named by a text of an even number of digits. -/
def decode? (text : String) : Option (List UInt8) :=
  decodeOnto [] text.toList

end Hexadecimal
end Keyspace
