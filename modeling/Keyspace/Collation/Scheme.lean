import Keyspace.Text.Blank
import Keyspace.Text.Parts

/-!
# Collation schemes

A scheme says how texts compare: bytewise, or by the letters of a language
down to a strength.  A scheme's name is its language, optionally a region, and
the strength; some customary names stand for such schemes.
-/

namespace Keyspace

/-- The differences between texts that a scheme heeds. -/
inductive Strength where
  /-- Letters only. -/
  | primary
  /-- Letters and accents. -/
  | secondary
  /-- Letters, accents and case. -/
  | tertiary
  deriving DecidableEq, Repr

namespace Strength

/-- How many levels of differences are heeded. -/
def levels : Strength -> Nat
  | primary => 1
  | secondary => 2
  | tertiary => 3

/-- The ending of a scheme name that asks for the strength. -/
def ending : Strength -> String
  | primary => "ai"
  | secondary => "ci"
  | tertiary => "cs"

/-- The strength of an ending of a scheme name. -/
def ofEnding? : String -> Option Strength
  | "ai" => some primary
  | "ci" => some secondary
  | "cs" => some tertiary
  | _ => none

/-- The name of the strength. -/
def name : Strength -> String
  | primary => "Primary"
  | secondary => "Secondary"
  | tertiary => "Tertiary"

end Strength

/-- The languages whose alphabets are known. -/
inductive Language where
  | english
  | german
  | french
  | swedish
  | finnish
  | danish
  | norwegian
  | spanish
  | italian
  | dutch
  | portuguese
  deriving DecidableEq, Repr

namespace Language

/-- The language of a code; Norwegian has two codes. -/
def ofCode? : String -> Option Language
  | "en" => some english
  | "de" => some german
  | "fr" => some french
  | "sv" => some swedish
  | "fi" => some finnish
  | "da" => some danish
  | "nb" => some norwegian
  | "no" => some norwegian
  | "es" => some spanish
  | "it" => some italian
  | "nl" => some dutch
  | "pt" => some portuguese
  | _ => none

/-- The code of a language. -/
def code : Language -> String
  | english => "en"
  | german => "de"
  | french => "fr"
  | swedish => "sv"
  | finnish => "fi"
  | danish => "da"
  | norwegian => "nb"
  | spanish => "es"
  | italian => "it"
  | dutch => "nl"
  | portuguese => "pt"

/-- The name of a language. -/
def name : Language -> String
  | english => "English"
  | german => "German"
  | french => "French"
  | swedish => "Swedish"
  | finnish => "Finnish"
  | danish => "Danish"
  | norwegian => "Norwegian"
  | spanish => "Spanish"
  | italian => "Italian"
  | dutch => "Dutch"
  | portuguese => "Portuguese"

end Language

/-- How texts compare. -/
inductive Scheme where
  /-- By their bytes. -/
  | binary
  /-- By the letters of a language. -/
  | locale (language : Language) (region : Option String) (strength : Strength)
  deriving DecidableEq, Repr

namespace Scheme

/-- The name of the binary scheme. -/
def binaryName : String := "ucs_binary"

/-- The name under which a scheme is known: without surrounding white space
and with small ASCII letters. -/
def normalize (name : String) : String :=
  String.ofList ((Blank.trimChars name.toList).map Blank.lowerChar)

/-- Whether a normalized name asks for bytewise comparison. -/
def isBinaryName (name : String) : Bool :=
  name == "binary" || name == binaryName
    || (['n', 'i', 'b', '_'] : List Char).isPrefixOf name.toList.reverse

/-- The customary names of schemes. -/
def alias? : String -> Option (Language × Strength)
  | "latin1_swedish_ci" => some (.swedish, .secondary)
  | "latin1_general_ci" => some (.english, .secondary)
  | "utf8_general_ci" => some (.english, .secondary)
  | "utf8_unicode_ci" => some (.english, .secondary)
  | "latin1_general_cs" => some (.english, .tertiary)
  | "latin1_german1_ci" => some (.german, .secondary)
  | "latin1_danish_ci" => some (.danish, .secondary)
  | "latin1_spanish_ci" => some (.spanish, .secondary)
  | _ => none

/-- Whether a character is an ASCII letter. -/
def isAsciiLetter (character : Char) : Bool :=
  let code := character.toNat
  (decide (65 ≤ code) && decide (code ≤ 90)) || (decide (97 ≤ code) && decide (code ≤ 122))

/-- Whether the part of a name is a region: two ASCII letters. -/
def isRegion (part : List Char) : Bool :=
  part.length == 2 && part.all isAsciiLetter

/-- The scheme of a language code, an optional region and an ending. -/
def ofParts? (parts : List (List Char)) : Option Scheme :=
  match parts with
  | [code, ending] => do
      let language ← Language.ofCode? (String.ofList code)
      let strength ← Strength.ofEnding? (String.ofList ending)
      return .locale language none strength
  | [code, region, ending] => do
      let language ← Language.ofCode? (String.ofList code)
      let strength ← Strength.ofEnding? (String.ofList ending)
      if isRegion region then return .locale language (some (String.ofList region)) strength
      else none
  | _ => none

/-- The scheme of a name, if it names one. -/
def parse? (text : String) : Option Scheme :=
  let name := normalize text
  if isBinaryName name then some .binary
  else
    match alias? name with
    | some (language, strength) => some (.locale language none strength)
    | none => ofParts? (Parts.split '_' name.toList)

/-- Whether the scheme compares bytes. -/
def isBinary : Scheme -> Bool
  | binary => true
  | locale _ _ _ => false

/-- The canonical name of a scheme. -/
def text : Scheme -> String
  | binary => binaryName
  | locale language region strength =>
      let middle :=
        match region with
        | some name => "_" ++ name
        | none => ""
      language.code ++ middle ++ "_" ++ strength.ending

end Scheme
end Keyspace
