import Keyspace.Collation.Scheme
import Mathlib.Data.Finset.Prod
import Mathlib.Data.List.DropRight
import Mathlib.Data.List.Nodup
import Mathlib.Tactic.Common

/-!
# Names of schemes

A scheme is found by its normalized name, which is its own normal form.  Only
finitely many normalized names have a scheme that is not binary: the customary
ones, and those made of the code of a language, at most one region and an
ending.
-/

namespace Keyspace

/-! ## Normal forms -/

namespace Blank

theorem toNat_lowerChar_of_capital
    {character : Char}
    (capital : 65 ≤ character.toNat ∧ character.toNat ≤ 90) :
    (lowerChar character).toNat = character.toNat + 32 := by
  rw [lowerChar, if_pos capital, Char.ofNat, dif_pos (.inl (by omega))]
  rfl

theorem lowerChar_of_not_capital
    {character : Char}
    (other : ¬ (65 ≤ character.toNat ∧ character.toNat ≤ 90)) :
    lowerChar character = character :=
  if_neg other

/-- A capital is no white space, and neither is its small letter. -/
theorem isBlank_lowerChar
    (character : Char) :
    isBlank (lowerChar character) = isBlank character := by
  by_cases capital : 65 ≤ character.toNat ∧ character.toNat ≤ 90
  · simp only [isBlank, ranges, List.any_cons, List.any_nil, toNat_lowerChar_of_capital capital]
    grind
  · rw [lowerChar_of_not_capital capital]

theorem lowerChar_lowerChar
    (character : Char) :
    lowerChar (lowerChar character) = lowerChar character := by
  by_cases capital : 65 ≤ character.toNat ∧ character.toNat ≤ 90
  · apply lowerChar_of_not_capital
    rw [toNat_lowerChar_of_capital capital]
    omega
  · rw [lowerChar_of_not_capital capital, lowerChar_of_not_capital capital]

theorem trimChars_map_lowerChar
    (characters : List Char) :
    trimChars (characters.map lowerChar) = (trimChars characters).map lowerChar := by
  have commutes : isBlank ∘ lowerChar = isBlank := funext isBlank_lowerChar
  simp only [trimChars, List.dropWhile_map, commutes, ← List.map_reverse]

/-- Characters dropped in front are not missed when those at the end are dropped. -/
theorem dropWhile_rdropWhile_dropWhile
    {α : Type}
    (drops : α -> Bool)
    (items : List α) :
    ((items.dropWhile drops).rdropWhile drops).dropWhile drops =
      (items.dropWhile drops).rdropWhile drops := by
  cases shape : (items.dropWhile drops).rdropWhile drops with
  | nil => rfl
  | cons first others =>
      obtain ⟨dropped, whole⟩ := List.rdropWhile_prefix drops (items.dropWhile drops)
      rw [shape] at whole
      have kept := List.head_dropWhile_not drops (l := items) (by simp [← whole])
      simp only [← whole, List.cons_append, List.head_cons] at kept
      simp [kept]

theorem trimChars_trimChars
    (characters : List Char) :
    trimChars (trimChars characters) = trimChars characters := by
  show List.rdropWhile isBlank (List.dropWhile isBlank
    (List.rdropWhile isBlank (List.dropWhile isBlank characters))) = _
  rw [dropWhile_rdropWhile_dropWhile, List.rdropWhile_idempotent]
  rfl

end Blank

namespace Scheme

theorem toList_normalize
    (name : String) :
    (normalize name).toList = (Blank.trimChars name.toList).map Blank.lowerChar :=
  String.toList_ofList

/-- A normalized name is its own normal form. -/
theorem normalize_normalize
    (name : String) :
    normalize (normalize name) = normalize name := by
  have twice : Blank.lowerChar ∘ Blank.lowerChar = Blank.lowerChar :=
    funext Blank.lowerChar_lowerChar
  rw [normalize, toList_normalize, Blank.trimChars_map_lowerChar, Blank.trimChars_trimChars,
    List.map_map, twice, normalize]

theorem parse?_normalize
    (name : String) :
    parse? (normalize name) = parse? name := by
  rw [parse?, normalize_normalize, parse?]

/-! ## Names with a locale -/

theorem split_eq_splitOn
    (separator : Char)
    (characters : List Char) :
    Parts.split separator characters = characters.splitOn separator := by
  induction characters with
  | nil => rfl
  | cons character rest inductionHypothesis =>
      rw [Parts.split, inductionHypothesis, List.splitOn_cons_eq_if_modifyHead]
      by_cases same : character = separator
      · rw [if_pos same, if_pos (beq_iff_eq.mpr same)]
      · rw [if_neg same, if_neg (mt beq_iff_eq.mp same)]
        cases shape : rest.splitOn separator with
        | nil => exact absurd shape (List.splitOn_ne_nil separator rest)
        | cons first others => rfl

/-- The three ways in which a normalized name stands for a scheme. -/
inductive StandsFor (name : String) : Scheme -> Prop
  /-- A name of the binary scheme. -/
  | binary :
      isBinaryName name = true ->
      StandsFor name .binary
  /-- A customary name. -/
  | customary {language : Language} {strength : Strength} :
      alias? name = some (language, strength) ->
      StandsFor name (.locale language none strength)
  /-- The code of a language, perhaps a region, and an ending. -/
  | parts
      {code ending : List Char} {language : Language} {strength : Strength}
      (region : Option (List Char)) :
      ['_'].intercalate (code :: (region.toList ++ [ending])) = name.toList ->
      Language.ofCode? (String.ofList code) = some language ->
      Strength.ofEnding? (String.ofList ending) = some strength ->
      (∀ part ∈ region, isRegion part = true) ->
      StandsFor name (.locale language (region.map String.ofList) strength)

theorem standsFor_of_ofParts?
    {name : String}
    {scheme : Scheme}
    (found : ofParts? (Parts.split '_' name.toList) = some scheme) :
    StandsFor name scheme := by
  have whole : ['_'].intercalate (Parts.split '_' name.toList) = name.toList := by
    rw [split_eq_splitOn, List.intercalate_splitOn]
  unfold ofParts? at found
  split at found
  · next code ending parts =>
      obtain ⟨language, isCode, found⟩ := Option.bind_eq_some_iff.mp found
      obtain ⟨strength, isEnding, found⟩ := Option.bind_eq_some_iff.mp found
      obtain rfl := Option.some.inj found
      rw [parts] at whole
      exact .parts none whole isCode isEnding (by simp)
  · next code region ending parts =>
      obtain ⟨language, isCode, found⟩ := Option.bind_eq_some_iff.mp found
      obtain ⟨strength, isEnding, found⟩ := Option.bind_eq_some_iff.mp found
      split at found
      · next hasRegion =>
          obtain rfl := Option.some.inj found
          rw [parts] at whole
          exact .parts (some region) whole isCode isEnding (by simpa using hasRegion)
      · cases found
  · cases found

theorem standsFor_of_parse?
    {name : String}
    {scheme : Scheme}
    (parsed : parse? name = some scheme) :
    StandsFor (normalize name) scheme := by
  simp only [parse?] at parsed
  split at parsed
  · next isBinaryName =>
      obtain rfl := Option.some.inj parsed
      exact .binary isBinaryName
  · split at parsed
    · next known =>
        obtain rfl := Option.some.inj parsed
        exact .customary known
    · exact standsFor_of_ofParts? parsed

/-- The codes of languages. -/
def codes : List String :=
  ["en", "de", "fr", "sv", "fi", "da", "nb", "no", "es", "it", "nl", "pt"]

/-- The endings of scheme names. -/
def endings : List String := ["ai", "ci", "cs"]

/-- The customary names. -/
def aliases : List String :=
  ["latin1_swedish_ci", "latin1_general_ci", "utf8_general_ci", "utf8_unicode_ci",
    "latin1_general_cs", "latin1_german1_ci", "latin1_danish_ci", "latin1_spanish_ci"]

/-- The characters up to the last ASCII letter. -/
def letters : List Char := (List.range 123).map Char.ofNat

/-- The middle parts of scheme names, none or a region, and more. -/
def middles : List (List Char) :=
  [] :: (letters ×ˢ letters).map fun pair => ['_', pair.1, pair.2]

/-- All names that have a locale, and more. -/
def localeNames : List String :=
  aliases ++ (codes ×ˢ middles ×ˢ endings).map fun parts =>
    String.ofList (parts.1.toList ++ parts.2.1 ++ '_' :: parts.2.2.toList)

theorem mem_codes
    {code : String}
    {language : Language}
    (found : Language.ofCode? code = some language) :
    code ∈ codes := by
  unfold Language.ofCode? at found
  split at found <;> simp_all [codes]

theorem mem_endings
    {ending : String}
    {strength : Strength}
    (found : Strength.ofEnding? ending = some strength) :
    ending ∈ endings := by
  unfold Strength.ofEnding? at found
  split at found <;> simp_all [endings]

theorem mem_aliases
    {name : String}
    {meaning : Language × Strength}
    (found : alias? name = some meaning) :
    name ∈ aliases := by
  unfold alias? at found
  split at found <;> simp_all [aliases]

theorem mem_letters
    {character : Char}
    (letter : isAsciiLetter character = true) :
    character ∈ letters := by
  simp only [isAsciiLetter, Bool.or_eq_true, Bool.and_eq_true, decide_eq_true_eq] at letter
  rw [letters, List.mem_map]
  exact ⟨character.toNat, List.mem_range.mpr (by omega), Char.ofNat_toNat character⟩

theorem mem_middles
    {region : List Char}
    (isRegion : isRegion region = true) :
    '_' :: region ∈ middles := by
  obtain ⟨two, letter⟩ := Bool.and_eq_true_iff.mp isRegion
  obtain ⟨first, second, rfl⟩ := List.length_eq_two.mp (beq_iff_eq.mp two)
  simp only [List.all_cons, List.all_nil, Bool.and_true, Bool.and_eq_true] at letter
  rw [middles, List.mem_cons, List.mem_map]
  exact .inr ⟨(first, second),
    List.mem_product.mpr ⟨mem_letters letter.1, mem_letters letter.2⟩, rfl⟩

theorem mem_localeNames_of_parts
    {code ending : String}
    {middle : List Char}
    (isCode : code ∈ codes)
    (isMiddle : middle ∈ middles)
    (isEnding : ending ∈ endings) :
    String.ofList (code.toList ++ middle ++ '_' :: ending.toList) ∈ localeNames := by
  rw [localeNames, List.mem_append, List.mem_map]
  exact .inr ⟨(code, middle, ending),
    List.mem_product.mpr ⟨isCode, List.mem_product.mpr ⟨isMiddle, isEnding⟩⟩, rfl⟩

/-- A normalized name with a scheme that is not binary is one of finitely many. -/
theorem mem_localeNames
    {name : String}
    {scheme : Scheme}
    (normal : normalize name = name)
    (parsed : parse? name = some scheme)
    (notBinary : scheme.isBinary = false) :
    name ∈ localeNames := by
  have stands := standsFor_of_parse? parsed
  rw [normal] at stands
  cases stands with
  | binary _ => cases notBinary
  | customary known => exact List.mem_append_left _ (mem_aliases known)
  | parts region whole isCode isEnding isRegion =>
      have isMiddle : (region.elim [] ('_' :: ·)) ∈ middles := by
        cases region with
        | none => exact List.mem_cons_self
        | some part => exact mem_middles (isRegion part rfl)
      have listed := mem_localeNames_of_parts (mem_codes isCode) isMiddle (mem_endings isEnding)
      rw [← String.ofList_toList (s := name), ← whole]
      cases region <;> simpa [List.intercalate] using listed

/-- There are far fewer names with a locale than numbers of 32 bits. -/
theorem length_localeNames_lt :
    localeNames.length < 2 ^ 32 - 1 := by
  have fewLetters : letters.length = 123 := by
    rw [letters, List.length_map, List.length_range]
  have fewMiddles : middles.length = 123 * 123 + 1 := by
    rw [middles, List.length_cons, List.length_map, List.length_product, fewLetters]
  calc localeNames.length
    _ = aliases.length + codes.length * (middles.length * endings.length) := by
      rw [localeNames, List.length_append, List.length_map, List.length_product,
        List.length_product]
    _ = 8 + 12 * ((123 * 123 + 1) * 3) := by
      rw [fewMiddles]
      rfl
    _ < 2 ^ 32 - 1 := by decide

end Scheme

end Keyspace
