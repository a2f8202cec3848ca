import Keyspace.Proofs.Collation.SchemeNames

/-!
# Canonical names of schemes

All spellings of a name, whatever the case of its ASCII letters and whatever
white space stands around it, name the same scheme.  A scheme has a name
exactly if its region, where it has one, is two small letters, and then its
canonical name is one of its names.  The canonical name of a locale is made of
pairs of small letters with an underscore between each two, and the underscore
in the third place, from either end, tells it apart from the names of the
binary scheme and from the customary names.
-/

namespace Keyspace

/-! ## Spellings of a name -/

namespace Blank

theorem lowerChar_eq_toLower
    (character : Char) :
    lowerChar character = character.toLower := by
  delta Char.toLower
  split
  · next capital =>
      have small : character.val.toNat ≤ 90 := capital.2
      have fits : character.val.toNat + (32 : UInt32).toNat < 2 ^ 32 := by
        change character.val.toNat + 32 < 2 ^ 32
        omega
      apply Char.toNat_inj.mp
      rw [toNat_lowerChar_of_capital capital]
      change character.val.toNat + 32 = (character.val + 32).toNat
      rw [UInt32.toNat_add, Nat.mod_eq_of_lt fits]
      rfl
  · next other => exact lowerChar_of_not_capital other

/-- White space around a text is not seen. -/
theorem trimChars_append_append
    {before after : List Char}
    (blankBefore : ∀ character ∈ before, isBlank character = true)
    (blankAfter : ∀ character ∈ after, isBlank character = true)
    (characters : List Char) :
    trimChars (before ++ characters ++ after) = trimChars characters := by
  have nothingAfter : after.dropWhile isBlank = [] :=
    List.dropWhile_eq_nil_iff.mpr blankAfter
  have blankBackwards : ∀ character ∈ after.reverse, isBlank character = true :=
    fun character member => blankAfter character (List.mem_reverse.mp member)
  rw [trimChars, trimChars, List.append_assoc, List.dropWhile_append_of_pos blankBefore,
    List.dropWhile_append]
  split
  · next nothing => rw [nothingAfter, List.isEmpty_iff.mp nothing]
  · rw [List.reverse_append, List.dropWhile_append_of_pos blankBackwards]

theorem trimChars_of_not_blank
    {characters : List Char}
    (shown : ∀ character ∈ characters, isBlank character = false) :
    trimChars characters = characters := by
  have forwards : characters.dropWhile isBlank = characters :=
    List.dropWhile_eq_self_iff.mpr fun _ => by simp [shown]
  have backwards : characters.reverse.dropWhile isBlank = characters.reverse :=
    List.dropWhile_eq_self_iff.mpr fun _ => by simp [shown]
  rw [trimChars, forwards, backwards, List.reverse_reverse]

end Blank

namespace Scheme

/-- The spellings of a name: its ASCII letters in either case, and any white
space around it. -/
def IsSpelling (name spelling : String) : Prop :=
  ∃ before recased after : List Char,
    spelling.toList = before ++ recased ++ after ∧
      (∀ character ∈ before, Blank.isBlank character = true) ∧
      (∀ character ∈ after, Blank.isBlank character = true) ∧
      recased.map Char.toLower = name.toList.map Char.toLower

theorem normalize_of_isSpelling
    {name spelling : String}
    (spells : IsSpelling name spelling) :
    normalize spelling = normalize name := by
  obtain ⟨before, recased, after, whole, blankBefore, blankAfter, sameLetters⟩ := spells
  have lowers : Blank.lowerChar = Char.toLower := funext Blank.lowerChar_eq_toLower
  rw [normalize, normalize, whole, Blank.trimChars_append_append blankBefore blankAfter,
    ← Blank.trimChars_map_lowerChar, ← Blank.trimChars_map_lowerChar, lowers, sameLetters]

/-- All spellings of a name have the same scheme, or all have none. -/
theorem parse?_of_isSpelling
    {name spelling : String}
    (spells : IsSpelling name spelling) :
    parse? spelling = parse? name := by
  rw [← parse?_normalize spelling, normalize_of_isSpelling spells, parse?_normalize]

/-! ## Small letters -/

theorem isLower_iff
    (character : Char) :
    character.isLower = true ↔ 97 ≤ character.toNat ∧ character.toNat ≤ 122 := by
  delta Char.isLower
  rw [Bool.and_eq_true, decide_eq_true_eq, decide_eq_true_eq]
  rfl

/-- Two small letters. -/
def IsLetterPair (part : List Char) : Prop :=
  part.length = 2 ∧ part.all Char.isLower = true

instance (part : List Char) : Decidable (IsLetterPair part) :=
  inferInstanceAs (Decidable (_ ∧ _))

theorem IsLetterPair.isLower_of_mem
    {part : List Char}
    (pair : IsLetterPair part)
    {character : Char}
    (member : character ∈ part) :
    character.isLower = true :=
  List.all_eq_true.mp pair.2 character member

theorem IsLetterPair.underscore_not_mem
    {part : List Char}
    (pair : IsLetterPair part) :
    '_' ∉ part :=
  fun member => absurd (pair.isLower_of_mem member) (by decide)

theorem IsLetterPair.isRegion
    {part : List Char}
    (pair : IsLetterPair part) :
    isRegion part = true := by
  rw [Scheme.isRegion, Bool.and_eq_true, beq_iff_eq, List.all_eq_true]
  refine ⟨pair.1, fun character member => ?_⟩
  have small := (isLower_iff character).mp (pair.isLower_of_mem member)
  simp [isAsciiLetter, small]

/-- A region in which no letter is a capital is a pair of small letters. -/
theorem isLetterPair_of_isRegion
    {part : List Char}
    (region : isRegion part = true)
    (lowered : ∀ character ∈ part, Blank.lowerChar character = character) :
    IsLetterPair part := by
  rw [isRegion, Bool.and_eq_true, beq_iff_eq, List.all_eq_true] at region
  refine ⟨region.1, List.all_eq_true.mpr fun character member => (isLower_iff character).mpr ?_⟩
  have letter := region.2 character member
  simp only [isAsciiLetter, Bool.or_eq_true, Bool.and_eq_true, decide_eq_true_eq] at letter
  refine letter.resolve_left fun capital => ?_
  have raised := Blank.toNat_lowerChar_of_capital capital
  rw [lowered character member] at raised
  omega

/-- A text of small letters and underscores is its own normal form. -/
theorem normalize_eq_self
    {name : String}
    (plain : ∀ character ∈ name.toList, character = '_' ∨ character.isLower = true) :
    normalize name = name := by
  have code (character : Char) (member : character ∈ name.toList) :
      95 ≤ character.toNat ∧ character.toNat ≤ 122 := by
    obtain rfl | small := plain character member
    · decide
    · have := (isLower_iff character).mp small
      omega
  have shown : ∀ character ∈ name.toList, Blank.isBlank character = false := by
    intro character member
    have := code character member
    simp only [Blank.isBlank, Blank.ranges, List.any_cons, List.any_nil]
    grind
  have lowered : ∀ character ∈ name.toList, Blank.lowerChar character = character := by
    intro character member
    have := code character member
    exact Blank.lowerChar_of_not_capital (by omega)
  rw [normalize, Blank.trimChars_of_not_blank shown, List.map_congr_left lowered, List.map_id',
    String.ofList_toList]

/-! ## The parts of a canonical name -/

theorem eq_or_exists_of_mem_intercalate
    {separator character : Char}
    {parts : List (List Char)}
    (member : character ∈ [separator].intercalate parts) :
    character = separator ∨ ∃ part ∈ parts, character ∈ part := by
  induction parts with
  | nil => cases member
  | cons first others inductionHypothesis =>
      cases others with
      | nil => exact .inr ⟨first, List.mem_cons_self, by simpa using member⟩
      | cons second rest =>
          rw [List.intercalate_cons_cons, List.mem_append, List.mem_append,
            List.mem_singleton] at member
          obtain (inFirst | same) | later := member
          · exact .inr ⟨first, List.mem_cons_self, inFirst⟩
          · exact .inl same
          · exact (inductionHypothesis later).imp_right fun ⟨part, inOthers, inPart⟩ =>
              ⟨part, List.mem_cons_of_mem _ inOthers, inPart⟩

theorem isLetterPair_code
    (language : Language) :
    IsLetterPair language.code.toList := by
  cases language <;> decide

theorem isLetterPair_ending
    (strength : Strength) :
    IsLetterPair strength.ending.toList := by
  cases strength <;> decide

theorem ofCode?_code
    (language : Language) :
    Language.ofCode? language.code = some language := by
  cases language <;> rfl

theorem ofEnding?_ending
    (strength : Strength) :
    Strength.ofEnding? strength.ending = some strength := by
  cases strength <;> rfl

/-- The parts of the canonical name of a locale. -/
def nameParts (language : Language) (region : Option String) (strength : Strength) :
    List (List Char) :=
  language.code.toList :: (region.toList.map String.toList ++ [strength.ending.toList])

section Locale

variable (language : Language) (region : Option String) (strength : Strength)

theorem toList_text_locale :
    (locale language region strength).text.toList =
      ['_'].intercalate (nameParts language region strength) := by
  cases region <;> simp [text, nameParts, List.intercalate]

/-- In front of the first underscore stands the code of the language. -/
theorem exists_text_code :
    ∃ rest, (locale language region strength).text.toList =
      language.code.toList ++ '_' :: rest := by
  cases region with
  | none => exact ⟨strength.ending.toList, by simp [text]⟩
  | some name => exact ⟨name.toList ++ '_' :: strength.ending.toList, by simp [text]⟩

/-- Behind the last underscore stands the ending. -/
theorem exists_text_ending :
    ∃ rest, (locale language region strength).text.toList =
      rest ++ '_' :: strength.ending.toList := by
  cases region with
  | none => exact ⟨language.code.toList, by simp [text]⟩
  | some name => exact ⟨language.code.toList ++ '_' :: name.toList, by simp [text]⟩

theorem getElem?_text :
    (locale language region strength).text.toList[2]? = some '_' := by
  obtain ⟨rest, whole⟩ := exists_text_code language region strength
  rw [whole, List.getElem?_append_right (isLetterPair_code language).1.le,
    (isLetterPair_code language).1]
  rfl

theorem getElem?_reverse_text :
    (locale language region strength).text.toList.reverse[2]? = some '_' := by
  obtain ⟨rest, whole⟩ := exists_text_ending language region strength
  have two : strength.ending.toList.reverse.length = 2 := by
    rw [List.length_reverse, (isLetterPair_ending strength).1]
  rw [whole, List.reverse_append, List.reverse_cons, List.append_assoc,
    List.getElem?_append_right two.le, two]
  rfl

end Locale

/-- A canonical name asks for bytewise comparison only if its scheme is binary. -/
theorem isBinaryName_text
    (scheme : Scheme) :
    isBinaryName scheme.text = scheme.isBinary := by
  cases scheme with
  | binary => decide
  | locale language region strength =>
      have differs : ∀ name ∈ ["binary", binaryName], name.toList[2]? ≠ some '_' := by decide
      have whole : (locale language region strength).text ∉ ["binary", binaryName] :=
        fun listed => differs _ listed (getElem?_text language region strength)
      have ending : (['n', 'i', 'b', '_'] : List Char).isPrefixOf
          (locale language region strength).text.toList.reverse = false := by
        -- Read backwards, that ending has a letter where a canonical name has an underscore.
        rw [Bool.eq_false_iff, Ne, List.isPrefixOf_iff_prefix]
        rintro ⟨rest, starts⟩
        have thirdLast := getElem?_reverse_text language region strength
        rw [← starts] at thirdLast
        cases thirdLast
      rw [List.mem_cons, List.mem_singleton, not_or] at whole
      simp [isBinaryName, isBinary, whole, ending]

/-- No canonical name is a customary name. -/
theorem alias?_text
    (scheme : Scheme) :
    alias? scheme.text = none := by
  cases scheme with
  | binary => rfl
  | locale language region strength =>
      have differs : ∀ name ∈ aliases, name.toList[2]? ≠ some '_' := by decide
      rw [Option.eq_none_iff_forall_ne_some]
      intro meaning known
      exact differs _ (mem_aliases known) (getElem?_text language region strength)

/-! ## Schemes with names -/

/-- Whether a scheme can be named: its region, if it has one, is two small
letters. -/
def IsNameable : Scheme -> Prop
  | binary => True
  | locale _ region _ => ∀ name ∈ region, IsLetterPair name.toList

section Nameable

variable {language : Language} {region : Option String} {strength : Strength}

theorem isLetterPair_of_mem_nameParts
    (nameable : (locale language region strength).IsNameable)
    {part : List Char}
    (member : part ∈ nameParts language region strength) :
    IsLetterPair part := by
  simp only [nameParts, List.mem_cons, List.mem_append, List.mem_map, Option.mem_toList,
    List.not_mem_nil, or_false] at member
  obtain rfl | ⟨name, isRegion, rfl⟩ | rfl := member
  · exact isLetterPair_code language
  · exact nameable name isRegion
  · exact isLetterPair_ending strength

theorem split_text
    (nameable : (locale language region strength).IsNameable) :
    Parts.split '_' (locale language region strength).text.toList =
      nameParts language region strength := by
  rw [split_eq_splitOn, toList_text_locale]
  exact List.splitOn_intercalate '_'
    (fun _ member => (isLetterPair_of_mem_nameParts nameable member).underscore_not_mem)
    (List.cons_ne_nil _ _)

theorem ofParts?_nameParts
    (nameable : (locale language region strength).IsNameable) :
    ofParts? (nameParts language region strength) = some (locale language region strength) := by
  cases region with
  | none => simp [nameParts, ofParts?, ofCode?_code, ofEnding?_ending]
  | some name =>
      have isRegion := (nameable name rfl).isRegion
      simp [nameParts, ofParts?, ofCode?_code, ofEnding?_ending, isRegion]

end Nameable

theorem IsNameable.normalize_text
    {scheme : Scheme}
    (nameable : scheme.IsNameable) :
    normalize scheme.text = scheme.text := by
  cases scheme with
  | binary => decide
  | locale language region strength =>
      apply normalize_eq_self
      intro character member
      rw [toList_text_locale] at member
      exact (eq_or_exists_of_mem_intercalate member).imp_right fun ⟨_, isPart, inPart⟩ =>
        (isLetterPair_of_mem_nameParts nameable isPart).isLower_of_mem inPart

/-- A scheme that can be named is named by its canonical name. -/
theorem IsNameable.parse?_text
    {scheme : Scheme}
    (nameable : scheme.IsNameable) :
    parse? scheme.text = some scheme := by
  simp only [parse?, nameable.normalize_text, isBinaryName_text, alias?_text]
  cases scheme with
  | binary => rfl
  | locale language region strength =>
      rw [split_text nameable, ofParts?_nameParts nameable]
      rfl

theorem lowerChar_of_mem_normalize
    {name : String}
    {character : Char}
    (member : character ∈ (normalize name).toList) :
    Blank.lowerChar character = character := by
  rw [toList_normalize, List.mem_map] at member
  obtain ⟨original, _, rfl⟩ := member
  exact Blank.lowerChar_lowerChar original

theorem isNameable_of_parse?
    {name : String}
    {scheme : Scheme}
    (parsed : parse? name = some scheme) :
    scheme.IsNameable := by
  cases standsFor_of_parse? parsed with
  | binary _ => trivial
  | customary _ => simp [IsNameable]
  | parts region whole _ _ isRegion =>
      cases region with
      | none => simp [IsNameable]
      | some part =>
          have within : ∀ character ∈ part, character ∈ (normalize name).toList := by
            intro character member
            simp [← whole, List.intercalate, member]
          have pair := isLetterPair_of_isRegion (isRegion part rfl) fun character member =>
            lowerChar_of_mem_normalize (within character member)
          simpa [IsNameable] using pair

/-- The schemes that some text names are those that can be named. -/
theorem exists_parse?_iff
    (scheme : Scheme) :
    (∃ name, parse? name = some scheme) ↔ scheme.IsNameable := by
  constructor
  · rintro ⟨name, parsed⟩
    exact isNameable_of_parse? parsed
  · intro nameable
    exact ⟨scheme.text, nameable.parse?_text⟩

/-- All spellings of a name have the same scheme, if any, and the canonical
name of that scheme names it again.  It is its own normal form, asks for
bytewise comparison only if the scheme is binary, and is no customary name. -/
theorem parse?_spellings_canonical
    (name : String) :
    (∀ spelling, IsSpelling name spelling -> parse? spelling = parse? name) ∧
      ∀ scheme, parse? name = some scheme ->
        parse? scheme.text = some scheme ∧
          normalize scheme.text = scheme.text ∧
          isBinaryName scheme.text = scheme.isBinary ∧
          alias? scheme.text = none := by
  refine ⟨fun spelling spells => parse?_of_isSpelling spells, fun scheme parsed => ?_⟩
  have nameable := (exists_parse?_iff scheme).mp ⟨name, parsed⟩
  exact ⟨nameable.parse?_text, nameable.normalize_text, isBinaryName_text scheme,
    alias?_text scheme⟩

/-- Norwegian in Norway, under the other code of the language, in mixed case
and between an ideographic space and a line break. -/
theorem parse?_spellings_canonical_norwegian :
    IsSpelling "no_NO_cs" "\u3000NO_no_Cs\n" ∧
      parse? "\u3000NO_no_Cs\n" = parse? "no_NO_cs" ∧
      parse? "no_NO_cs" = some (locale .norwegian (some "no") .tertiary) ∧
      parse? "nb_no_cs" = some (locale .norwegian (some "no") .tertiary) := by
  obtain ⟨spellings, canonical⟩ := parse?_spellings_canonical "no_NO_cs"
  have parsed : parse? "no_NO_cs" = some (locale .norwegian (some "no") .tertiary) := by
    decide +kernel
  have spells : IsSpelling "no_NO_cs" "\u3000NO_no_Cs\n" :=
    ⟨['\u3000'], "NO_no_Cs".toList, ['\n'], by decide, List.forall_mem_singleton.mpr (by decide),
      List.forall_mem_singleton.mpr (by decide), by decide⟩
  exact ⟨spells, spellings _ spells, parsed, (canonical _ parsed).1⟩

end Scheme

end Keyspace
