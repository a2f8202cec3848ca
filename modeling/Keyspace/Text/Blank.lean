/-!
# White space and letter case of names

Names are compared without surrounding white space and without regard to the
case of ASCII letters.  White space is the Unicode property `White_Space`.
-/

namespace Keyspace
namespace Blank

/-- The inclusive code point ranges of the property `White_Space`. -/
def ranges : List (Nat × Nat) :=
  [(0x0009, 0x000D), (0x0020, 0x0020), (0x0085, 0x0085), (0x00A0, 0x00A0),
    (0x1680, 0x1680), (0x2000, 0x200A), (0x2028, 0x2029), (0x202F, 0x202F),
    (0x205F, 0x205F), (0x3000, 0x3000)]

/-- Whether a character is white space. -/
def isBlank (character : Char) : Bool :=
  ranges.any fun range =>
    range.1 ≤ character.toNat && character.toNat ≤ range.2

/-- Characters without the white space at both ends. -/
def trimChars (characters : List Char) : List Char :=
  ((characters.dropWhile isBlank).reverse.dropWhile isBlank).reverse

/-- A text without the white space at both ends. -/
def trim (text : String) : String :=
  String.ofList (trimChars text.toList)

/-- An ASCII capital becomes its small letter; all else stays. -/
def lowerChar (character : Char) : Char :=
  if 65 ≤ character.toNat ∧ character.toNat ≤ 90 then
    Char.ofNat (character.toNat + 32)
  else character

/-- A text with its ASCII capitals made small. -/
def lower (text : String) : String :=
  String.ofList (text.toList.map lowerChar)

end Blank
end Keyspace
