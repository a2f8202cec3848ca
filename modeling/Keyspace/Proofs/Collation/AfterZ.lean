import Keyspace.Proofs.Collation.LevelOrder
import Keyspace.Proofs.Unicode.CanonicalOrder
import Keyspace.Proofs.Unicode.Folding

/-!
# The letters behind z

Swedish, Finnish, Danish and Norwegian close their alphabets with letters of their
own.  A letter with an accent is found by the first mark behind its base, and
canonical order decides which mark that is: a mark of a lesser class that the text
goes on with takes the place of the accent, and the letter is then sorted as its base.
Otherwise the letter lies between z and everything that folds to a character above z.
-/

namespace Keyspace

open Decomposition (Overtakes canonicalOrder canonicalOrder_cons_of_class
  canonicalOrder_singleton closingClass)

/-- The spellings of the letter a with a ring, which is also the sign of a unit. -/
def ringLetters : List String :=
  ["å", "Å", "\u212B", "a\u030A", "A\u030A"]

/-- The spellings of the letters that a language puts behind z. -/
def Language.lettersAfterZ : Language -> List String
  | swedish | finnish =>
      ringLetters ++ ["ä", "Ä", "a\u0308", "A\u0308", "ö", "Ö", "o\u0308", "O\u0308"]
  | danish | norwegian => ["æ", "Æ", "ø", "Ø"] ++ ringLetters
  | _ => []

namespace Tailoring

/-- Whether a text decomposes to a letter that folds to the base, with the mark behind
it. -/
def spells (tailoring : Tailoring) (text : String) : Bool :=
  match text.toList.flatMap Decomposition.ofChar with
  | [] => false
  | letter :: marks =>
      marks == tailoring.mark.toList && combiningClass letter == 0 && !isMark letter &&
        foldCase letter == [tailoring.base]

/-- A text that goes on behind a spelling decomposes to the letter, with the mark among
what follows, and the spelling closes with the class of the mark. -/
theorem decomposeText_append
    {tailoring : Tailoring}
    {start : String}
    (spelled : tailoring.spells start = true) :
    ∃ letter, isMark letter = false ∧ foldCase letter = [tailoring.base] ∧
      closingClass (decomposeText start) = (tailoring.mark.map combiningClass).getD 0 ∧
      ∀ text, decomposeText (start ++ text) = letter :: canonicalOrder
        (tailoring.mark.toList ++ text.toList.flatMap Decomposition.ofChar) := by
  unfold spells at spelled
  split at spelled
  next => cases spelled
  next letter marks characters =>
    simp only [Bool.and_eq_true, beq_iff_eq, Bool.not_eq_true'] at spelled
    obtain ⟨⟨⟨rfl, starter⟩, notMark⟩, folds⟩ := spelled
    refine ⟨letter, notMark, folds, ?_, fun text => ?_⟩
    · rw [decomposeText, characters, canonicalOrder_cons_of_class starter]
      cases tailoring.mark with
      | none => exact starter
      | some mark => rw [Option.toList_some, canonicalOrder_singleton]; rfl
    · rw [decomposeText, String.toList_append, List.flatMap_append, characters, List.cons_append,
        canonicalOrder_cons_of_class starter]

/-- Whether a letter lies behind z, by its mark if its base lies before z, and without
a mark otherwise. -/
structure IsAfterZ (tailoring : Tailoring) : Prop where
  /-- The letter comes after z. -/
  above : primaryWeight 'z' < tailoring.weight
  /-- The letter comes before the character behind z. -/
  below : tailoring.weight < primaryWeight 'z' + 4
  /-- All marks are marks above, and belong to bases before z. -/
  marked : ∀ mark ∈ tailoring.mark,
    isMark mark = true ∧ combiningClass mark = 230 ∧ tailoring.base < 'z'
  /-- A letter without a mark is a character behind z. -/
  unmarked : tailoring.mark = none -> 'z' < tailoring.base

theorem IsAfterZ.of_mark
    {base mark : Char}
    (above : isMark mark = true ∧ combiningClass mark = 230)
    (low : base < 'z')
    {place : Nat}
    (near : 0 < place ∧ place < 4) :
    IsAfterZ ⟨base, some mark, primaryWeight 'z' + place⟩ where
  above := Nat.lt_add_of_pos_right near.1
  below := Nat.add_lt_add_left near.2 _
  marked := by
    rintro _ ⟨⟩
    exact ⟨above.1, above.2, low⟩
  unmarked := nofun

theorem IsAfterZ.of_base
    {base : Char}
    (high : 'z' < base)
    {place : Nat}
    (near : 0 < place ∧ place < 4) :
    IsAfterZ ⟨base, none, primaryWeight 'z' + place⟩ where
  above := Nat.lt_add_of_pos_right near.1
  below := Nat.add_lt_add_left near.2 _
  marked := nofun
  unmarked := fun _ => high

end Tailoring

-- The table of decompositions is long, and the letters that it lacks are sought to its end.
set_option maxRecDepth 4000 in
/-- Every spelling of a letter behind z is a base that its language moves, with the
mark that makes the letter. -/
theorem exists_spells
    (language : Language) :
    ∀ text ∈ language.lettersAfterZ,
      ∃ tailoring ∈ language.tailorings, tailoring.spells text = true := by
  have checked : (language.lettersAfterZ.all fun text =>
      language.tailorings.any fun tailoring => tailoring.spells text) = true := by
    cases language <;> cbv
  simpa only [List.all_eq_true, List.any_eq_true] using checked

/-- All letters that a language with letters behind z moves lie behind z. -/
theorem isAfterZ_of_mem
    {language : Language}
    (nonempty : language.lettersAfterZ ≠ []) :
    ∀ tailoring ∈ language.tailorings, tailoring.IsAfterZ := by
  have ring : isMark ringAbove = true ∧ combiningClass ringAbove = 230 := ⟨rfl, rfl⟩
  have dots : isMark diaeresis = true ∧ combiningClass diaeresis = 230 := ⟨rfl, rfl⟩
  have marked : ∀ tailoring ∈ Language.swedish.tailorings, tailoring.IsAfterZ := by
    simp only [Language.tailorings, List.forall_mem_cons]
    exact ⟨.of_mark ring (by decide) (by decide), .of_mark dots (by decide) (by decide),
      .of_mark dots (by decide) (by decide), List.forall_mem_nil _⟩
  have mixed : ∀ tailoring ∈ Language.danish.tailorings, tailoring.IsAfterZ := by
    simp only [Language.tailorings, List.forall_mem_cons]
    exact ⟨.of_base (by decide) (by decide), .of_base (by decide) (by decide),
      .of_mark ring (by decide) (by decide), List.forall_mem_nil _⟩
  cases language with
  | swedish | finnish => exact marked
  | danish | norwegian => exact mixed
  | _ => exact absurd rfl nonempty

/-! ## Capitals of a letter -/

open CaseFolding in
/-- The shifts to the ligature of a and e and to the o with a stroke start from their
capitals. -/
theorem capital_of_shift
    {letter : Char}
    (isLetter : letter = letterAe ∨ letter = letterOStroke) :
    ∀ shift ∈ shifts,
      let code := ((letter.toNat : Int) - shift.distance).toNat
      shift.applies code = true -> code = letter.toNat - 32 := by
  rcases isLetter with rfl | rfl <;> decide +kernel

/-- The letters that a language puts behind z without a mark are the ligature of a and e
and the o with a stroke, and their capitals are among its letters too. -/
theorem unmarked_letters
    {language : Language}
    {tailoring : Tailoring}
    (present : tailoring ∈ language.tailorings)
    (unmarked : tailoring.mark = none) :
    (tailoring.base = letterAe ∨ tailoring.base = letterOStroke) ∧
      String.singleton tailoring.base ∈ language.lettersAfterZ ∧
      String.singleton (Char.ofNat (tailoring.base.toNat - 32)) ∈ language.lettersAfterZ := by
  have ligature : String.singleton letterAe = "æ" ∧
      String.singleton (Char.ofNat (letterAe.toNat - 32)) = "Æ" := ⟨by cbv, by cbv⟩
  have stroke : String.singleton letterOStroke = "ø" ∧
      String.singleton (Char.ofNat (letterOStroke.toNat - 32)) = "Ø" := ⟨by cbv, by cbv⟩
  cases language <;>
    simp only [Language.tailorings, List.mem_cons, List.not_mem_nil, or_false] at present <;>
    rcases present with rfl | rfl | rfl <;>
    cases unmarked <;>
    simp [Language.lettersAfterZ, ligature, stroke]

/-- What folds to a letter that a language puts behind z without a mark is such a letter
itself. -/
theorem mem_lettersAfterZ_of_foldCase
    {language : Language}
    {tailoring : Tailoring}
    (present : tailoring ∈ language.tailorings)
    (unmarked : tailoring.mark = none)
    {character : Char}
    (folds : foldCase character = [tailoring.base]) :
    String.singleton character ∈ language.lettersAfterZ := by
  obtain ⟨known, small, capital⟩ := unmarked_letters present unmarked
  have positive : 0 < tailoring.base.toNat := by
    rcases known with same | same <;> rw [same] <;> decide
  rcases CaseFolding.eq_or_shift_of_foldCode positive (foldCode_of_foldCase positive folds) with
    same | ⟨shift, listed, applies, shifted⟩
  · rwa [Char.toNat_inj.mp same]
  · rw [shifted] at applies
    rw [← Char.ofNat_toNat character, shifted,
      capital_of_shift known shift listed applies]
    exact capital

/-! ## Leading weights -/

namespace Recipe

variable {recipe : Recipe} {language : Language} {region : Option String} {strength : Strength}

/-- The weight that a text leads with is that of its first character with the marks
behind it. -/
theorem head?_primary
    (recipe : Recipe)
    {text : String}
    {first : Char}
    {rest : List Char}
    (decomposed : decomposeText text = first :: rest)
    (notMark : isMark first = false) :
    (recipe.weights .unicode text).primary.head? =
      some (recipe.baseWeight ((foldCase first).head?.getD first) (rest.takeWhile isMark)).1 := by
  have characters : CharacterData.unicode.decompose text = first :: rest := decomposed
  have unit : units (first :: rest) =
      (first, rest.takeWhile isMark) :: units (rest.dropWhile isMark) := by
    rw [units, if_neg (by simp [notMark])]
  rw [weights_eq, letters, characters, unit, List.flatMap_cons, Weights.ofLetters, List.map_append,
    unitLetters, if_neg (by simp [notMark])]
  rfl

/-- The marks behind a base lead with its own mark, unless what follows overtakes it. -/
theorem head?_takeWhile_isMark
    {mark : Char}
    (attaches : isMark mark = true)
    (rest : List Char) :
    if Overtakes (canonicalOrder rest) (combiningClass mark) then
      ∀ first ∈ ((canonicalOrder (mark :: rest)).takeWhile isMark).head?,
        combiningClass first < combiningClass mark
    else ((canonicalOrder (mark :: rest)).takeWhile isMark).head? = some mark := by
  have front := Decomposition.head?_canonicalOrder_cons mark rest
  rw [List.head?_takeWhile]
  split_ifs at front ⊢ with overtaken
  · intro first leads
    rw [front, Option.mem_def, Option.filter_eq_some_iff] at leads
    have less := overtaken.2
    rwa [Decomposition.leadingClass, leads.1] at less
  · rw [front, Option.filter_some, attaches]
    rfl

/-- Texts that lead with different weights compare by these. -/
theorem compare_of_head?
    (built : recipe = build (.locale language region strength))
    {left right : String}
    {lesser greater : Nat}
    (leftLeads : (recipe.weights .unicode left).primary.head? = some lesser)
    (rightLeads : (recipe.weights .unicode right).primary.head? = some greater)
    (less : lesser < greater) :
    recipe.compare left right = .lt ∧ recipe.compare right left = .gt := by
  subst built
  set recipe := build (.locale language region strength)
  have fits : ∀ text, (recipe.weights .unicode text).Fits := by
    intro text
    rw [weights_eq]
    exact Weights.fits_ofLetters (fits_letters (fitsWeight_tailoring language) .unicode text)
  have byLevels : ∀ first second, recipe.compare first second =
      strength.compareBy (recipe.weights .unicode first) (recipe.weights .unicode second) :=
    fun first second => compare_keyBytes (fits first) (fits second) strength
  obtain ⟨leftRest, leftWeights⟩ := List.head?_eq_some_iff.mp leftLeads
  obtain ⟨rightRest, rightWeights⟩ := List.head?_eq_some_iff.mp rightLeads
  rw [byLevels, byLevels, Strength.compareBy, Strength.compareBy, leftWeights, rightWeights,
    compareWeights, List.compareLex_cons_cons, List.compareLex_cons_cons,
    Nat.compare_eq_lt.mpr less, Nat.compare_eq_gt.mpr less]
  exact ⟨rfl, rfl⟩

theorem mem_of_tailored?
    {base : Char}
    {mark : Option Char}
    {weight : Nat}
    (tailored : recipe.tailored? base mark = some weight) :
    ∃ tailoring ∈ recipe.tailorings,
      tailoring.base = base ∧ tailoring.mark = mark ∧ tailoring.weight = weight := by
  obtain ⟨tailoring, found, rfl⟩ := Option.map_eq_some_iff.mp tailored
  have agrees := List.find?_some found
  simp only [Bool.and_eq_true, beq_iff_eq] at agrees
  exact ⟨tailoring, List.mem_of_find?_eq_some found, agrees.1, agrees.2, rfl⟩

theorem tailored?_of_mem
    {tailoring : Tailoring}
    (present : tailoring ∈ recipe.tailorings) :
    (recipe.tailored? tailoring.base tailoring.mark).isSome = true := by
  rw [tailored?, Option.isSome_map, List.find?_isSome]
  exact ⟨tailoring, present, by simp⟩

/-! ## Letters among weights -/

theorem primaryWeight_add_four_le
    {first second : Char}
    (less : first < second) :
    primaryWeight first + 4 ≤ primaryWeight second := by
  have codes : first.toNat < second.toNat := less
  unfold primaryWeight
  omega

theorem baseWeight_of_tailored?_eq_none
    {base : Char}
    {marks : List Char}
    (alone : recipe.tailored? base none = none)
    (marked : ∀ mark ∈ marks.head?, recipe.tailored? base (some mark) = none) :
    (recipe.baseWeight base marks).1 = primaryWeight base := by
  have weight : recipe.letterWeight base = primaryWeight base := by rw [letterWeight, alone]; rfl
  cases marks with
  | nil => exact weight
  | cons first rest =>
      rw [baseWeight, marked first rfl]
      exact weight

section

variable (afterZ : ∀ tailoring ∈ recipe.tailorings, tailoring.IsAfterZ)

include afterZ

theorem weight_of_tailored?
    {base : Char}
    {mark : Option Char}
    {weight : Nat}
    (tailored : recipe.tailored? base mark = some weight) :
    primaryWeight 'z' < weight ∧ weight < primaryWeight 'z' + 4 := by
  obtain ⟨tailoring, present, -, -, rfl⟩ := mem_of_tailored? tailored
  exact ⟨(afterZ tailoring present).above, (afterZ tailoring present).below⟩

/-- No letter that lies before z or is z itself is moved without a mark. -/
theorem tailored?_none_of_le
    {base : Char}
    (low : base ≤ 'z') :
    recipe.tailored? base none = none := by
  refine Option.eq_none_iff_forall_ne_some.mpr fun weight tailored => ?_
  obtain ⟨tailoring, present, rfl, unmarked, -⟩ := mem_of_tailored? tailored
  exact absurd ((afterZ tailoring present).unmarked unmarked) (not_lt.mpr low)

/-- A mark moves letters before z only, and is a mark above. -/
theorem tailored?_some
    {base mark : Char}
    (moves : recipe.tailored? base (some mark) ≠ none) :
    isMark mark = true ∧ combiningClass mark = 230 ∧ base < 'z' := by
  obtain ⟨weight, tailored⟩ := Option.ne_none_iff_exists'.mp moves
  obtain ⟨tailoring, present, rfl, marked, -⟩ := mem_of_tailored? tailored
  exact (afterZ tailoring present).marked mark marked

/-- No mark moves z or a character behind it. -/
theorem tailored?_some_of_le
    {base : Char}
    (high : 'z' ≤ base)
    (mark : Char) :
    recipe.tailored? base (some mark) = none := by
  by_contra moves
  exact absurd (tailored?_some afterZ moves).2.2 (not_lt.mpr high)

/-- A letter with its mark in front of all others lies behind z. -/
theorem baseWeight_of_leading
    {tailoring : Tailoring}
    (present : tailoring ∈ recipe.tailorings)
    {marks : List Char}
    (leads : ∀ mark ∈ tailoring.mark, marks.head? = some mark) :
    primaryWeight 'z' < (recipe.baseWeight tailoring.base marks).1 ∧
      (recipe.baseWeight tailoring.base marks).1 < primaryWeight 'z' + 4 := by
  obtain ⟨weight, tailored⟩ := Option.isSome_iff_exists.mp (tailored?_of_mem present)
  suffices same : (recipe.baseWeight tailoring.base marks).1 = weight by
    rw [same]
    exact weight_of_tailored? afterZ tailored
  cases mark? : tailoring.mark with
  | some mark =>
      obtain ⟨rest, rfl⟩ := List.head?_eq_some_iff.mp (leads mark mark?)
      rw [mark?] at tailored
      rw [baseWeight, tailored]
  | none =>
      rw [mark?] at tailored
      have letter : recipe.letterWeight tailoring.base = weight := by
        rw [letterWeight, tailored]
        rfl
      have high := (afterZ tailoring present).unmarked mark?
      cases marks with
      | nil => exact letter
      | cons first rest =>
          rw [baseWeight, tailored?_some_of_le afterZ high.le first]
          exact letter

/-- A letter with a mark of a lesser class in front of its own is sorted as its base. -/
theorem baseWeight_of_overtaken
    {tailoring : Tailoring}
    (present : tailoring ∈ recipe.tailorings)
    {mark : Char}
    (marked : tailoring.mark = some mark)
    {marks : List Char}
    (lesser : ∀ first ∈ marks.head?, combiningClass first < combiningClass mark) :
    (recipe.baseWeight tailoring.base marks).1 = primaryWeight tailoring.base := by
  obtain ⟨-, above, low⟩ := (afterZ tailoring present).marked mark marked
  refine baseWeight_of_tailored?_eq_none (tailored?_none_of_le afterZ low.le)
    fun first leads => ?_
  by_contra moves
  exact absurd (lesser first leads) (by rw [above, (tailored?_some afterZ moves).2.1]; decide)

/-- What starts with z leads with its weight, whatever marks follow. -/
theorem head?_primary_z
    (text : String) :
    (recipe.weights .unicode ("z" ++ text)).primary.head? = some (primaryWeight 'z') := by
  have decomposed : decomposeText ("z" ++ text) =
      'z' :: canonicalOrder (text.toList.flatMap Decomposition.ofChar) := by
    rw [decomposeText, String.toList_append, List.flatMap_append]
    exact canonicalOrder_cons_of_class rfl _
  rw [recipe.head?_primary decomposed rfl]
  exact congrArg some (baseWeight_of_tailored?_eq_none (tailored?_none_of_le afterZ le_rfl)
    fun mark _ => tailored?_some_of_le afterZ le_rfl mark)

/-- Where a text leads that starts with a letter behind z: behind z, or before it if the
text goes on with a mark that overtakes the letter's. -/
theorem head?_primary_letterAfterZ
    {tailoring : Tailoring}
    (present : tailoring ∈ recipe.tailorings)
    {start : String}
    (spelled : tailoring.spells start = true)
    (text : String) :
    ∃ weight, (recipe.weights .unicode (start ++ text)).primary.head? = some weight ∧
      weight < primaryWeight 'z' + 4 ∧
      if Overtakes (decomposeText text) (closingClass (decomposeText start)) then
        weight < primaryWeight 'z'
      else primaryWeight 'z' < weight := by
  obtain ⟨letter, notMark, folds, closing, decomposed⟩ := Tailoring.decomposeText_append spelled
  have leads := recipe.head?_primary (decomposed text) notMark
  rw [folds, List.head?_cons, Option.getD_some] at leads
  refine ⟨_, leads, ?_⟩
  rw [closing]
  cases marked : tailoring.mark with
  | none =>
      -- A letter without a mark closes with class zero, which nothing overtakes.
      have stays : ¬Overtakes (decomposeText text) 0 :=
        fun overtakes => Nat.not_lt_zero _ overtakes.2
      obtain ⟨above, below⟩ := baseWeight_of_leading afterZ present (by simp [marked])
      exact ⟨below, (if_neg stays).mpr above⟩
  | some mark =>
      obtain ⟨attaches, -, low⟩ := (afterZ tailoring present).marked mark marked
      have front := head?_takeWhile_isMark attaches (text.toList.flatMap Decomposition.ofChar)
      rw [← decomposeText] at front
      rw [Option.map_some, Option.getD_some, Option.toList_some, List.singleton_append]
      split_ifs at front ⊢ with overtaken
      · have weight := baseWeight_of_overtaken afterZ present marked front
        have behind := primaryWeight_add_four_le low
        exact ⟨by omega, by omega⟩
      · obtain ⟨above, below⟩ := baseWeight_of_leading afterZ present (by
            rw [marked]
            rintro _ ⟨⟩
            exact front)
        exact ⟨below, above⟩

end

/-- A letter that a language puts behind z comes after z, whatever follows either, unless
a mark of a lesser class goes on with it: then it is sorted as its base, before z.  It
always comes before texts that lead with another character above z. -/
theorem compare_letterAfterZ
    {start : String}
    (isLetter : start ∈ language.lettersAfterZ)
    (region : Option String)
    (strength : Strength)
    (text following : String) :
    let recipe := build (.locale language region strength)
    recipe.compare ("z" ++ text) (start ++ following) =
        (if Overtakes (decomposeText following) (closingClass (decomposeText start)) then .gt
        else .lt) ∧
      ∀ other first rest folded, decomposeText other = first :: rest -> isMark first = false ->
        foldCase first = [folded] -> 'z' < folded ->
        String.singleton first ∉ language.lettersAfterZ ->
        recipe.compare (start ++ following) other = .lt := by
  intro recipe
  have afterZ : ∀ tailoring ∈ recipe.tailorings, tailoring.IsAfterZ :=
    isAfterZ_of_mem (List.ne_nil_of_mem isLetter)
  obtain ⟨tailoring, present, spelled⟩ := exists_spells language start isLetter
  obtain ⟨weight, leads, below, side⟩ :=
    head?_primary_letterAfterZ afterZ (show tailoring ∈ recipe.tailorings from present) spelled
      following
  refine ⟨?_, ?_⟩
  · have zLeads := head?_primary_z afterZ text
    split_ifs at side ⊢ with overtaken
    · exact (compare_of_head? rfl leads zLeads side).2
    · exact (compare_of_head? rfl zLeads leads side).1
  · intro other first rest folded decomposed notMark folds high strange
    have otherLeads := recipe.head?_primary decomposed notMark
    rw [folds, List.head?_cons, Option.getD_some, baseWeight_of_tailored?_eq_none] at otherLeads
    · have above := primaryWeight_add_four_le high
      exact (compare_of_head? rfl leads otherLeads (by omega)).1
    · refine Option.eq_none_iff_forall_ne_some.mpr fun moved tailored => strange ?_
      obtain ⟨own, listed, rfl, unmarked, -⟩ := mem_of_tailored? tailored
      exact mem_lettersAfterZ_of_foldCase listed unmarked folds
    · exact fun mark _ => tailored?_some_of_le afterZ high.le mark

/-- Swedish puts a ring with an acute behind it after z and before the Greek letters. -/
theorem compare_letterAfterZ_acute :
    "å" ∈ Language.lettersAfterZ .swedish ∧
      (build (.locale .swedish none .tertiary)).compare ("z" ++ "y") ("å" ++ "\u0301") = .lt ∧
      (build (.locale .swedish none .tertiary)).compare ("å" ++ "\u0301") "αβ" = .lt := by
  have isLetter : "å" ∈ Language.lettersAfterZ .swedish := List.mem_cons_self
  obtain ⟨behind, before⟩ := compare_letterAfterZ isLetter none .tertiary "y" "\u0301"
  have stays : ¬Overtakes (decomposeText "\u0301") (closingClass (decomposeText "å")) := by
    cbv
  have strange : String.singleton 'α' ∉ Language.lettersAfterZ .swedish := by decide
  rw [if_neg stays] at behind
  exact ⟨isLetter, behind, before "αβ" 'α' ['β'] 'α' (by cbv) rfl rfl (by decide) strange⟩

/-- A dot below goes in front of the ring, and the letter is sorted as an a. -/
theorem compare_ring_dotBelow :
    "å" ∈ Language.lettersAfterZ .swedish ∧
      (build (.locale .swedish none .secondary)).compare ("z" ++ "") ("å" ++ "\u0323") = .gt :=
  ⟨List.mem_cons_self, by cbv⟩

end Recipe
end Keyspace
