import Keyspace.Bytes
import Keyspace.Collation.Scheme
import Keyspace.Text.Utf8
import Keyspace.Unicode.CaseFolding
import Keyspace.Unicode.Decomposition
import Keyspace.Unicode.Uppercase

/-!
# Sort keys

A recipe turns texts into sort keys whose bytewise order is the order of the
texts under a scheme.  A decomposed text is cut into units, a character with
the marks that follow it.  Each unit gives weights on three levels: its letter
first, then its marks, then its case.  A sort key lists the weights of all
units level by level.
-/

namespace Keyspace

/-! ## Characters -/

/-- What a recipe needs to know about characters. -/
structure CharacterData where
  /-- The canonical decomposition of a text. -/
  decompose : String -> List Char
  /-- The full case folding of a character. -/
  fold : Char -> List Char
  /-- Whether a character is a capital letter. -/
  isUpper : Char -> Bool

/-- The character data of Unicode. -/
def CharacterData.unicode : CharacterData :=
  ⟨decomposeText, foldCase, isUppercase⟩

/-- The inclusive ranges of the characters that attach to the one before. -/
def markRanges : List (Nat × Nat) :=
  [(0x0300, 0x036F), (0x1AB0, 0x1AFF), (0x1DC0, 0x1DFF), (0x20D0, 0x20FF),
    (0xFE20, 0xFE2F)]

/-- Whether a character attaches to the one before. -/
def isMark (character : Char) : Bool :=
  markRanges.any fun range =>
    decide (range.1 ≤ character.toNat ∧ character.toNat ≤ range.2)

/-! ## Weights -/

/-- The primary weight of a character that no alphabet moves.  Three weights
stay free behind each. -/
def primaryWeight (character : Char) : Nat :=
  (character.toNat + 1) * 4

/-- The secondary weight of a mark. -/
def markWeight (mark : Char) : Nat :=
  mark.toNat + 2

/-- The secondary weight that ends the marks of a unit, below every mark. -/
def unitEnd : Nat := 1

/-- The weight between two levels, below every weight. -/
def levelSeparator : Nat := 0

/-- A letter that a language sorts by itself: a folded letter, alone or with
its first mark. -/
structure Tailoring where
  /-- The folded letter. -/
  base : Char
  /-- The mark that makes it a letter of its own. -/
  mark : Option Char
  /-- The primary weight. -/
  weight : Nat
  deriving DecidableEq, Repr

/-- The ring above. -/
def ringAbove : Char := Char.ofNat 0x030A
/-- The diaeresis. -/
def diaeresis : Char := Char.ofNat 0x0308
/-- The tilde. -/
def tilde : Char := Char.ofNat 0x0303
/-- The small ligature of a and e. -/
def letterAe : Char := Char.ofNat 0x00E6
/-- The small o with a stroke. -/
def letterOStroke : Char := Char.ofNat 0x00F8

/-- The letters that a language sorts apart from the letters they look
like. -/
def Language.tailorings (language : Language) : List Tailoring :=
  let afterZ := primaryWeight 'z'
  match language with
  | .swedish => [⟨'a', some ringAbove, afterZ + 1⟩, ⟨'a', some diaeresis, afterZ + 2⟩,
      ⟨'o', some diaeresis, afterZ + 3⟩]
  | .finnish => [⟨'a', some ringAbove, afterZ + 1⟩, ⟨'a', some diaeresis, afterZ + 2⟩,
      ⟨'o', some diaeresis, afterZ + 3⟩]
  | .danish => [⟨letterAe, none, afterZ + 1⟩, ⟨letterOStroke, none, afterZ + 2⟩,
      ⟨'a', some ringAbove, afterZ + 3⟩]
  | .norwegian => [⟨letterAe, none, afterZ + 1⟩, ⟨letterOStroke, none, afterZ + 2⟩,
      ⟨'a', some ringAbove, afterZ + 3⟩]
  | .spanish => [⟨'n', some tilde, primaryWeight 'n' + 1⟩]
  | _ => []

/-- The rules of a scheme. -/
structure Recipe where
  /-- The scheme. -/
  scheme : Scheme
  /-- The strength. -/
  strength : Strength
  /-- The letters sorted by themselves. -/
  tailorings : List Tailoring
  deriving DecidableEq, Repr

/-- Weights on the three levels. -/
structure Weights where
  /-- The letters. -/
  primary : List Nat
  /-- The marks, with an end behind each unit. -/
  secondary : List Nat
  /-- The case of each letter: one for a capital. -/
  tertiary : List Nat
  deriving DecidableEq, Repr

namespace Weights

/-- No weights. -/
def empty : Weights := ⟨[], [], []⟩

/-- The weights of two texts, one behind the other. -/
def append (left right : Weights) : Weights :=
  ⟨left.primary ++ right.primary, left.secondary ++ right.secondary,
    left.tertiary ++ right.tertiary⟩

end Weights

namespace Recipe

/-- The recipe of a scheme. -/
def build : Scheme -> Recipe
  | .binary => ⟨.binary, .tertiary, []⟩
  | .locale language region strength =>
      ⟨.locale language region strength, strength, language.tailorings⟩

/-- The recipe of bytewise comparison. -/
def binary : Recipe := build .binary

/-- Whether the recipe compares bytes. -/
def isBinary (recipe : Recipe) : Bool :=
  recipe.scheme.isBinary

/-! ## Weights of texts -/

/-- The weight of a letter with a given mark, if it is sorted by itself. -/
def tailored? (recipe : Recipe) (base : Char) (mark : Option Char) : Option Nat :=
  (recipe.tailorings.find? fun tailoring =>
    tailoring.base == base && tailoring.mark == mark).map (·.weight)

/-- The weight of a folded letter without marks. -/
def letterWeight (recipe : Recipe) (base : Char) : Nat :=
  (recipe.tailored? base none).getD (primaryWeight base)

/-- The weight of a folded letter with marks, and the marks that it does not
use up. -/
def baseWeight (recipe : Recipe) (base : Char) (marks : List Char) : Nat × List Char :=
  match marks with
  | [] => (recipe.letterWeight base, [])
  | first :: rest =>
      match recipe.tailored? base (some first) with
      | some weight => (weight, rest)
      | none => (recipe.letterWeight base, first :: rest)

/-- The weights of a character with the marks that follow it.  Letters that
folding adds have no marks. -/
def unitWeights
    (recipe : Recipe)
    (data : CharacterData)
    (character : Char)
    (marks : List Char) : Weights :=
  let case := if data.isUpper character then 1 else 0
  let folded := data.fold character
  let (weight, left) := recipe.baseWeight (folded.head?.getD character) marks
  let added := folded.drop 1
  { primary := weight :: added.map recipe.letterWeight
    secondary := left.map markWeight ++ unitEnd :: added.map fun _ => unitEnd
    tertiary := case :: added.map fun _ => case }

/-- The weights of a mark with nothing to attach to, which sorts as a
character. -/
def strayWeights (mark : Char) : Weights :=
  ⟨[primaryWeight mark], [unitEnd], [0]⟩

/-- The weights of characters behind a character whose unit is still open,
with the marks seen so far reversed. -/
def openWeights
    (recipe : Recipe)
    (data : CharacterData) :
    Option (Char × List Char) -> List Char -> Weights
  | none, [] => Weights.empty
  | some (character, marks), [] => recipe.unitWeights data character marks.reverse
  | none, next :: rest =>
      if isMark next then (strayWeights next).append (openWeights recipe data none rest)
      else openWeights recipe data (some (next, [])) rest
  | some (character, marks), next :: rest =>
      if isMark next then openWeights recipe data (some (character, next :: marks)) rest
      else
        (recipe.unitWeights data character marks.reverse).append
          (openWeights recipe data (some (next, [])) rest)

/-- The weights of a text. -/
def weights (recipe : Recipe) (data : CharacterData) (text : String) : Weights :=
  recipe.openWeights data none (data.decompose text)

/-! ## Keys -/

/-- A list of weights of four bytes each. -/
def wideBytes (weights : List Nat) : Bytes :=
  weights.flatMap (Bytes.bigEndian 4)

/-- The bytes of weights, as many levels as the strength heeds. -/
def keyBytes (strength : Strength) (weights : Weights) : Bytes :=
  let separator := wideBytes [levelSeparator]
  let second :=
    if 2 ≤ strength.levels then separator ++ wideBytes weights.secondary else []
  let third :=
    if 3 ≤ strength.levels then separator ++ weights.tertiary.map UInt8.ofNat else []
  wideBytes weights.primary ++ second ++ third

/-- The sort key of a text over given character data. -/
def sortKeyOver (recipe : Recipe) (data : CharacterData) (text : String) : Bytes :=
  if recipe.isBinary then Utf8.encode text
  else keyBytes recipe.strength (recipe.weights data text)

/-- The sort key of a text. -/
def sortKey (recipe : Recipe) (text : String) : Bytes :=
  recipe.sortKeyOver CharacterData.unicode text

/-- The order of two texts. -/
def compare (recipe : Recipe) (left right : String) : Ordering :=
  Bytes.compare (recipe.sortKey left) (recipe.sortKey right)

end Recipe
end Keyspace
