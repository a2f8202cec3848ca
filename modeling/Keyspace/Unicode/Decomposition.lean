import Keyspace.Unicode.CombiningClass
import Keyspace.Unicode.Decomposition.Greek
import Keyspace.Unicode.Decomposition.Ideographs
import Keyspace.Unicode.Decomposition.Latin
import Keyspace.Unicode.Decomposition.Scripts

/-!
# Canonical decomposition

Texts that look the same have the same canonical decomposition: every
character is split into its base and its marks, and runs of marks are sorted
by combining class, equal classes in their own order.
-/

namespace Keyspace
namespace Decomposition

/-- The table for the part of the code space that a code point lies in. -/
def entriesNear (code : Nat) : List (Nat × List Nat) :=
  if code < 0x00C0 then []
  else if code < 0x0250 then latinBasic
  else if code < 0x0400 then greekBasic
  else if code < 0x0600 then cyrillic
  else if code < 0x1E00 then southern
  else if code < 0x1F00 then latinAdditional
  else if code < 0x2000 then greekExtended
  else if code < 0x3000 then symbols
  else if code < 0x3400 then kana
  else if code < 0xFB00 then []
  else if code < 0x10000 then presentation
  else beyond

/-- The unified ideograph of a compatibility ideograph. -/
def unified? (code : Nat) : Option Nat :=
  ideographs.findSome? fun run =>
    if run.1 ≤ code then run.2[code - run.1]? else none

/-- The first precomposed Hangul syllable. -/
def hangulFirst : Nat := 0xAC00

/-- The number of precomposed Hangul syllables. -/
def hangulCount : Nat := 11172

/-- The letters of a Hangul syllable, given by its number: a leading consonant,
a vowel and at most one trailing consonant. -/
def hangulLetters (number : Nat) : List Nat :=
  let lead := 0x1100 + number / 588
  let vowel := 0x1161 + number % 588 / 28
  let trail := number % 28
  if trail = 0 then [lead, vowel] else [lead, vowel, 0x11A7 + trail]

/-- The full decomposition of a code point. -/
def ofCode (code : Nat) : List Nat :=
  if hangulFirst ≤ code ∧ code < hangulFirst + hangulCount then
    hangulLetters (code - hangulFirst)
  else
    match (entriesNear code).find? fun entry => entry.1 == code with
    | some entry => entry.2
    | none =>
        if (0xF900 ≤ code ∧ code < 0xFB00) ∨ (0x2F800 ≤ code ∧ code < 0x2FA20) then
          [(unified? code).getD code]
        else [code]

/-- The full decomposition of a character. -/
def ofChar (character : Char) : List Char :=
  (ofCode character.toNat).map Char.ofNat

/-- A character with its combining class. -/
def classed (character : Char) : Char × Nat :=
  (character, combiningClass character)

/-- The runs of a text: a character of class zero with the marks behind it.
Marks at the start are a run of their own. -/
def runs (characters : List Char) : List (List (Char × Nat)) :=
  (characters.map classed).splitBy fun _ next => next.2 != 0

/-- Sort each run by class, equal classes in their own order.  The character
that a run starts with stays in front. -/
def canonicalOrder (characters : List Char) : List Char :=
  ((runs characters).flatMap fun run =>
    run.mergeSort fun first second => decide (first.2 ≤ second.2)).map Prod.fst

end Decomposition

/-- The canonical decomposition of a text. -/
def decomposeText (text : String) : List Char :=
  Decomposition.canonicalOrder (text.toList.flatMap Decomposition.ofChar)

end Keyspace
