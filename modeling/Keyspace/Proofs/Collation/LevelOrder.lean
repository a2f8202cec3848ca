import Keyspace.Proofs.Bytes.Order
import Keyspace.Proofs.Collation.Letters
import Mathlib

/-!
# Sort keys compare level by level

A sort key is one byte string, and its bytewise order is the order of the weights:
letters first, then accents letter by letter, then case, as far as the strength
goes.  Weights of four bytes keep their order, and a separator below all of them
ends a level that is an initial part of another.  So a greater strength only splits
what a smaller one holds equal.
-/

namespace Keyspace

open Bytes (Below)

/-! ## Comparing weights -/

/-- Weights compare one by one, a proper initial part first. -/
def compareWeights : List Nat -> List Nat -> Ordering :=
  List.compareLex Ord.compare

/-- The order of two texts by the levels that a strength heeds, each level only if
those before it are equal. -/
def Strength.compareBy (strength : Strength) (left right : Weights) : Ordering :=
  (compareWeights left.primary right.primary).then
    ((if 2 ≤ strength.levels then compareWeights left.secondary right.secondary else .eq).then
      (if 3 ≤ strength.levels then compareWeights left.tertiary right.tertiary else .eq))

/-- Accents compare letter by letter. -/
def compareAccents (left right : List Letter) : Ordering :=
  List.compareLex compareWeights (left.map (·.accents)) (right.map (·.accents))

/-- Whether a weight fits four bytes and lies above the separator. -/
def FitsWeight (weight : Nat) : Prop :=
  levelSeparator < weight ∧ weight < 256 ^ 4

/-- Whether the weights of a letter fit their bytes, and its accents lie above their
end. -/
structure Letter.Fits (letter : Letter) : Prop where
  /-- The letter fits. -/
  primary : FitsWeight letter.primary
  /-- The accents fit and lie above their end. -/
  accents : ∀ accent ∈ letter.accents, unitEnd < accent ∧ accent < 256 ^ 4
  /-- The case is a byte. -/
  case : letter.case < 256

/-- Whether the weights of a text fit their bytes. -/
structure Weights.Fits (weights : Weights) : Prop where
  /-- The letters fit. -/
  primary : ∀ weight ∈ weights.primary, FitsWeight weight
  /-- The accents and their ends fit. -/
  secondary : ∀ weight ∈ weights.secondary, FitsWeight weight
  /-- The cases are bytes. -/
  tertiary : ∀ weight ∈ weights.tertiary, weight < 256

theorem Weights.fits_ofLetters
    {letters : List Letter}
    (fits : ∀ letter ∈ letters, letter.Fits) :
    (Weights.ofLetters letters).Fits := by
  refine ⟨?_, ?_, ?_⟩
  · intro weight present
    obtain ⟨letter, among, rfl⟩ := List.mem_map.mp present
    exact (fits letter among).primary
  · intro weight present
    obtain ⟨letter, among, present⟩ := List.mem_flatMap.mp present
    rcases List.mem_append.mp present with accent | ending
    · obtain ⟨above, below⟩ := (fits letter among).accents weight accent
      exact ⟨Nat.zero_lt_of_lt above, below⟩
    · rw [List.mem_singleton.mp ending]
      exact ⟨by decide, by decide⟩
  · intro weight present
    obtain ⟨letter, among, rfl⟩ := List.mem_map.mp present
    exact (fits letter among).case

namespace Recipe

/-! ## Weights fit -/

theorem toNat_lt
    (character : Char) :
    character.toNat < 0x110000 := by
  rcases character.valid with low | high
  · exact lt_trans low (by decide)
  · exact high.2

theorem fitsWeight_primaryWeight
    (character : Char) :
    FitsWeight (primaryWeight character) := by
  have bound := toNat_lt character
  unfold FitsWeight primaryWeight levelSeparator
  omega

theorem fits_markWeight
    (mark : Char) :
    unitEnd < markWeight mark ∧ markWeight mark < 256 ^ 4 := by
  have bound := toNat_lt mark
  unfold unitEnd markWeight
  omega

theorem fitsWeight_tailoring
    (language : Language) :
    ∀ tailoring ∈ language.tailorings, FitsWeight tailoring.weight := by
  cases language <;> simp [Language.tailorings, FitsWeight] <;> decide

variable {recipe : Recipe}

theorem fitsWeight_tailored?
    {base : Char}
    {mark : Option Char}
    {weight : Nat}
    (fits : ∀ tailoring ∈ recipe.tailorings, FitsWeight tailoring.weight)
    (tailored : recipe.tailored? base mark = some weight) :
    FitsWeight weight := by
  obtain ⟨tailoring, found, rfl⟩ := Option.map_eq_some_iff.mp tailored
  exact fits tailoring (List.mem_of_find?_eq_some found)

theorem fitsWeight_letterWeight
    (fits : ∀ tailoring ∈ recipe.tailorings, FitsWeight tailoring.weight)
    (base : Char) :
    FitsWeight (recipe.letterWeight base) := by
  unfold letterWeight
  cases tailored : recipe.tailored? base none with
  | none => exact fitsWeight_primaryWeight base
  | some weight => exact fitsWeight_tailored? fits tailored

theorem fitsWeight_baseWeight
    (fits : ∀ tailoring ∈ recipe.tailorings, FitsWeight tailoring.weight)
    (base : Char)
    (marks : List Char) :
    FitsWeight (recipe.baseWeight base marks).1 := by
  cases marks with
  | nil => exact fitsWeight_letterWeight fits base
  | cons first rest =>
      cases tailored : recipe.tailored? base (some first) with
      | none =>
          rw [baseWeight, tailored]
          exact fitsWeight_letterWeight fits base
      | some weight =>
          rw [baseWeight, tailored]
          exact fitsWeight_tailored? fits tailored

theorem fits_unitLetters
    (fits : ∀ tailoring ∈ recipe.tailorings, FitsWeight tailoring.weight)
    (data : CharacterData)
    (unit : Char × List Char) :
    ∀ letter ∈ recipe.unitLetters data unit, letter.Fits := by
  have caseFits : (if data.isUpper unit.1 then 1 else 0) < 256 := by split <;> decide
  unfold unitLetters
  split
  · exact List.forall_mem_singleton.mpr
      ⟨fitsWeight_primaryWeight unit.1, nofun, Nat.zero_lt_succ 255⟩
  · refine List.forall_mem_cons.mpr ⟨⟨fitsWeight_baseWeight fits _ _, ?_, caseFits⟩, ?_⟩
    · intro accent present
      obtain ⟨mark, _, rfl⟩ := List.mem_map.mp present
      exact fits_markWeight mark
    · intro letter present
      obtain ⟨added, _, rfl⟩ := List.mem_map.mp present
      exact ⟨fitsWeight_letterWeight fits added, nofun, caseFits⟩

theorem fits_letters
    (fits : ∀ tailoring ∈ recipe.tailorings, FitsWeight tailoring.weight)
    (data : CharacterData)
    (text : String) :
    ∀ letter ∈ recipe.letters data text, letter.Fits := by
  intro letter present
  obtain ⟨unit, _, present⟩ := List.mem_flatMap.mp present
  exact fits_unitLetters fits data unit letter present

end Recipe

/-! ## Accents letter by letter -/

/-- An end below all weights decides where one list is an initial part of the
other. -/
theorem compareWeights_append_end
    {left right : List Nat}
    (leftAbove : ∀ weight ∈ left, unitEnd < weight)
    (rightAbove : ∀ weight ∈ right, unitEnd < weight)
    (leftRest rightRest : List Nat) :
    compareWeights (left ++ unitEnd :: leftRest) (right ++ unitEnd :: rightRest) =
      (compareWeights left right).then (compareWeights leftRest rightRest) := by
  unfold compareWeights
  -- Where one list stops, the other has its end or a weight above it.
  induction left generalizing right with
  | nil =>
      cases right with
      | nil => simp [List.compareLex_cons_cons, List.compareLex_nil_nil]
      | cons second right =>
          have above := Nat.compare_eq_lt.mpr (List.forall_mem_cons.mp rightAbove).1
          simp [List.compareLex_cons_cons, List.compareLex_nil_cons, above]
  | cons first left inductionHypothesis =>
      obtain ⟨firstAbove, leftAbove⟩ := List.forall_mem_cons.mp leftAbove
      cases right with
      | nil =>
          have above := Nat.compare_eq_gt.mpr firstAbove
          simp [List.compareLex_cons_cons, List.compareLex_cons_nil, above]
      | cons second right =>
          have others := inductionHypothesis leftAbove (List.forall_mem_cons.mp rightAbove).2
          simp only [List.cons_append, List.compareLex_cons_cons, others, Ordering.then_assoc]

/-- Weights of accents with their ends compare as the accents do letter by
letter. -/
theorem compareWeights_secondary
    {left right : List Letter}
    (leftFits : ∀ letter ∈ left, letter.Fits)
    (rightFits : ∀ letter ∈ right, letter.Fits) :
    compareWeights (Weights.ofLetters left).secondary (Weights.ofLetters right).secondary =
      compareAccents left right := by
  have secondary : ∀ (letter : Letter) (letters : List Letter),
      (Weights.ofLetters (letter :: letters)).secondary =
        letter.accents ++ unitEnd :: (Weights.ofLetters letters).secondary := by
    intro letter letters
    simp [Weights.ofLetters]
  induction left generalizing right with
  | nil =>
      cases right with
      | nil => rfl
      | cons second right =>
          rw [secondary]
          cases second.accents <;> rfl
  | cons first left inductionHypothesis =>
      obtain ⟨firstFits, leftFits⟩ := List.forall_mem_cons.mp leftFits
      cases right with
      | nil =>
          rw [secondary]
          cases first.accents <;> rfl
      | cons second right =>
          obtain ⟨secondFits, rightFits⟩ := List.forall_mem_cons.mp rightFits
          rw [secondary, secondary, compareWeights_append_end
            (fun weight present => (firstFits.accents weight present).1)
            (fun weight present => (secondFits.accents weight present).1),
            inductionHypothesis leftFits rightFits]
          simp only [compareAccents, List.map_cons, List.compareLex_cons_cons]

/-! ## Bytes -/

/-- What may follow the weights of a level: nothing, or a separator. -/
def Closes (rest : Bytes) : Prop :=
  rest = [] ∨ ∃ further, rest = Recipe.wideBytes [levelSeparator] ++ further

theorem wideBytes_cons
    (weight : Nat)
    (weights : List Nat) :
    Recipe.wideBytes (weight :: weights) = Bytes.bigEndian 4 weight ++ Recipe.wideBytes weights :=
  rfl

/-- What closes a level lies below a further weight. -/
theorem compare_closes
    {rest : Bytes}
    {weight : Nat}
    (closes : Closes rest)
    (fits : FitsWeight weight)
    (further : Bytes) :
    Bytes.compare rest (Bytes.bigEndian 4 weight ++ further) = .lt := by
  rcases closes with rfl | ⟨others, rfl⟩
  · rfl
  · have below : Below (Bytes.bigEndian 4 levelSeparator) (Bytes.bigEndian 4 weight) :=
      Bytes.below_bigEndian fits.1 fits.2
    exact (below.append others further).compare_eq

/-- Weights of four bytes compare as numbers, and what follows them decides only
if they are equal. -/
theorem compare_wideBytes_append
    {left right : List Nat}
    (leftFits : ∀ weight ∈ left, FitsWeight weight)
    (rightFits : ∀ weight ∈ right, FitsWeight weight)
    {leftRest rightRest : Bytes}
    (leftCloses : Closes leftRest)
    (rightCloses : Closes rightRest) :
    Bytes.compare (Recipe.wideBytes left ++ leftRest) (Recipe.wideBytes right ++ rightRest) =
      (compareWeights left right).then (Bytes.compare leftRest rightRest) := by
  unfold compareWeights
  induction left generalizing right with
  | nil =>
      cases right with
      | nil => rfl
      | cons second right =>
          rw [wideBytes_cons, List.append_assoc]
          exact compare_closes leftCloses (List.forall_mem_cons.mp rightFits).1 _
  | cons first left inductionHypothesis =>
      obtain ⟨firstFits, leftFits⟩ := List.forall_mem_cons.mp leftFits
      cases right with
      | nil =>
          rw [wideBytes_cons, List.append_assoc]
          exact Std.OrientedCmp.gt_of_lt (compare_closes rightCloses firstFits _)
      | cons second right =>
          obtain ⟨secondFits, othersFit⟩ := List.forall_mem_cons.mp rightFits
          rw [wideBytes_cons, wideBytes_cons, List.append_assoc, List.append_assoc,
            List.compareLex_cons_cons]
          rcases Nat.lt_trichotomy first second with smaller | same | greater
          · rw [Nat.compare_eq_lt.mpr smaller]
            exact ((Bytes.below_bigEndian smaller secondFits.2).append _ _).compare_eq
          · rw [← same, Bytes.compare_append_self, inductionHypothesis leftFits othersFit,
              Nat.compare_eq_eq.mpr rfl]
            rfl
          · rw [Nat.compare_eq_gt.mpr greater]
            exact ((Bytes.below_bigEndian greater firstFits.2).append _ _).compare_swap

theorem compare_ofNat
    {left right : Nat}
    (leftFits : left < 256)
    (rightFits : right < 256) :
    Ord.compare (UInt8.ofNat left) (UInt8.ofNat right) = Ord.compare left right := by
  have leftNumber : (UInt8.ofNat left).toNat = left := UInt8.toNat_ofNat_of_lt' leftFits
  have rightNumber : (UInt8.ofNat right).toNat = right := UInt8.toNat_ofNat_of_lt' rightFits
  rcases Nat.lt_trichotomy left right with smaller | same | greater
  · rw [Nat.compare_eq_lt.mpr smaller, Std.compare_eq_lt, UInt8.lt_iff_toNat_lt, leftNumber,
      rightNumber]
    exact smaller
  · rw [same, Std.compare_self, Std.compare_self]
  · rw [Nat.compare_eq_gt.mpr greater, Std.compare_eq_gt, UInt8.lt_iff_toNat_lt, leftNumber,
      rightNumber]
    exact greater

/-- Weights of one byte compare as numbers. -/
theorem compare_map_ofNat
    {left right : List Nat}
    (leftFits : ∀ weight ∈ left, weight < 256)
    (rightFits : ∀ weight ∈ right, weight < 256) :
    Bytes.compare (left.map UInt8.ofNat) (right.map UInt8.ofNat) = compareWeights left right := by
  rw [Bytes.compare_eq_compareLex, compareWeights]
  induction left generalizing right with
  | nil => cases right <;> rfl
  | cons first left inductionHypothesis =>
      cases right with
      | nil => rfl
      | cons second right =>
          obtain ⟨firstFits, leftOthers⟩ := List.forall_mem_cons.mp leftFits
          obtain ⟨secondFits, rightOthers⟩ := List.forall_mem_cons.mp rightFits
          rw [List.map_cons, List.map_cons, List.compareLex_cons_cons, List.compareLex_cons_cons,
            compare_ofNat firstFits secondFits, inductionHypothesis leftOthers rightOthers]

/-- Sort keys compare level by level. -/
theorem compare_keyBytes
    {left right : Weights}
    (leftFits : left.Fits)
    (rightFits : right.Fits)
    (strength : Strength) :
    Bytes.compare (Recipe.keyBytes strength left) (Recipe.keyBytes strength right) =
      strength.compareBy left right := by
  have separated : ∀ further, Closes (Recipe.wideBytes [levelSeparator] ++ further) :=
    fun further => .inr ⟨further, rfl⟩
  have ended : Closes [] := .inl rfl
  cases strength with
  | primary =>
      have layout : ∀ weights : Weights, Recipe.keyBytes .primary weights =
          Recipe.wideBytes weights.primary ++ [] := by
        simp [Recipe.keyBytes, Strength.levels]
      rw [layout, layout, compare_wideBytes_append leftFits.primary rightFits.primary ended ended]
      rfl
  | secondary =>
      have layout : ∀ weights : Weights, Recipe.keyBytes .secondary weights =
          Recipe.wideBytes weights.primary ++ (Recipe.wideBytes [levelSeparator] ++
            (Recipe.wideBytes weights.secondary ++ [])) := by
        simp [Recipe.keyBytes, Strength.levels]
      rw [layout, layout,
        compare_wideBytes_append leftFits.primary rightFits.primary (separated _) (separated _),
        Bytes.compare_append_self,
        compare_wideBytes_append leftFits.secondary rightFits.secondary ended ended]
      rfl
  | tertiary =>
      have layout : ∀ weights : Weights, Recipe.keyBytes .tertiary weights =
          Recipe.wideBytes weights.primary ++ (Recipe.wideBytes [levelSeparator] ++
            (Recipe.wideBytes weights.secondary ++ (Recipe.wideBytes [levelSeparator] ++
              weights.tertiary.map UInt8.ofNat))) := by
        simp [Recipe.keyBytes, Strength.levels]
      rw [layout, layout,
        compare_wideBytes_append leftFits.primary rightFits.primary (separated _) (separated _),
        Bytes.compare_append_self,
        compare_wideBytes_append leftFits.secondary rightFits.secondary (separated _) (separated _),
        Bytes.compare_append_self, compare_map_ofNat leftFits.tertiary rightFits.tertiary]
      rfl

/-! ## Strengths -/

/-- A greater strength decides as a smaller one does, and only splits what that one
holds equal. -/
theorem Strength.compareBy_of_levels_le
    {weaker stronger : Strength}
    (less : weaker.levels ≤ stronger.levels)
    (left right : Weights) :
    ∃ further, stronger.compareBy left right = (weaker.compareBy left right).then further := by
  let second := compareWeights left.secondary right.secondary
  let third := compareWeights left.tertiary right.tertiary
  have same : ∀ order : Ordering, order = order.then .eq := fun order => by cases order <;> rfl
  match weaker, stronger with
  | .primary, .primary => exact ⟨.eq, same _⟩
  | .primary, .secondary => exact ⟨second, by simp [compareBy, levels, second]⟩
  | .primary, .tertiary => exact ⟨second.then third, by simp [compareBy, levels, second, third]⟩
  | .secondary, .secondary => exact ⟨.eq, same _⟩
  | .secondary, .tertiary =>
      exact ⟨third, by simp [compareBy, levels, third, Ordering.then_assoc]⟩
  | .tertiary, .tertiary => exact ⟨.eq, same _⟩

namespace Recipe

/-- Weights depend on the language of a recipe only. -/
theorem weights_build_locale
    (language : Language)
    (region other : Option String)
    (strength another : Strength)
    (data : CharacterData)
    (text : String) :
    (build (.locale language region strength)).weights data text =
      (build (.locale language other another)).weights data text := by
  rw [weights_eq, weights_eq]
  rfl

/-- The bytewise order of sort keys is the order of the weights level by level, and
the weights of accents compare letter by letter.  For one language a greater strength
keeps every difference that a smaller one sees. -/
theorem compare_sortKeyOver_locale
    (language : Language)
    (data : CharacterData)
    (left right : String) :
    let recipe := fun region strength => build (.locale language region strength)
    let order := fun region strength =>
      Bytes.compare ((recipe region strength).sortKeyOver data left)
        ((recipe region strength).sortKeyOver data right)
    (∀ region strength,
      order region strength = strength.compareBy ((recipe region strength).weights data left)
        ((recipe region strength).weights data right) ∧
      compareWeights ((recipe region strength).weights data left).secondary
          ((recipe region strength).weights data right).secondary =
        compareAccents ((recipe region strength).letters data left)
          ((recipe region strength).letters data right)) ∧
      ∀ region other weaker stronger, weaker.levels ≤ stronger.levels ->
        (order region weaker ≠ .eq -> order other stronger = order region weaker) ∧
          (order other stronger = .eq -> order region weaker = .eq) := by
  intro recipe order
  have fits : ∀ region strength text,
      ∀ letter ∈ (recipe region strength).letters data text, letter.Fits :=
    fun region strength => fits_letters (fitsWeight_tailoring language) data
  have weightsFit : ∀ region strength text, ((recipe region strength).weights data text).Fits := by
    intro region strength text
    rw [weights_eq]
    exact Weights.fits_ofLetters (fits region strength text)
  have byLevels : ∀ region strength, order region strength =
      strength.compareBy ((recipe region strength).weights data left)
        ((recipe region strength).weights data right) :=
    fun region strength =>
      compare_keyBytes (weightsFit region strength left) (weightsFit region strength right) strength
  refine ⟨fun region strength => ⟨byLevels region strength, ?_⟩, ?_⟩
  · rw [weights_eq, weights_eq]
    exact compareWeights_secondary (fits region strength left) (fits region strength right)
  · intro region other weaker stronger less
    obtain ⟨further, splits⟩ := Strength.compareBy_of_levels_le less
      ((recipe region weaker).weights data left) ((recipe region weaker).weights data right)
    have finer : order other stronger = (order region weaker).then further := by
      rw [byLevels, byLevels, ← splits,
        weights_build_locale language other region stronger weaker data left,
        weights_build_locale language other region stronger weaker data right]
    rw [finer]
    cases order region weaker <;> simp

/-- What Swedish sorts behind z by its letters alone it sorts there by accents and case
too, and a letter is the same at all strengths however its accent is written. -/
theorem compare_sortKeyOver_locale_swedish :
    Strength.primary.levels ≤ Strength.tertiary.levels ∧
      (build (.locale .swedish none .primary)).compare "Z" "å" = .lt ∧
      (build (.locale .swedish (some "fi") .tertiary)).compare "Z" "å" = .lt ∧
      (build (.locale .swedish none .tertiary)).compare "Ä" "A\u0308" = .eq ∧
      (build (.locale .swedish none .primary)).compare "Ä" "A\u0308" = .eq := by
  have less : Strength.primary.levels ≤ Strength.tertiary.levels := by decide
  have weak : (build (.locale .swedish none .primary)).compare "Z" "å" = .lt := by cbv
  have equal : (build (.locale .swedish none .tertiary)).compare "Ä" "A\u0308" = .eq := by cbv
  have differ : (build (.locale .swedish none .primary)).compare "Z" "å" ≠ .eq := by
    rw [weak]
    decide
  have strict := ((compare_sortKeyOver_locale .swedish .unicode "Z" "å").2 none (some "fi")
    .primary .tertiary less).1 differ
  have coarse := ((compare_sortKeyOver_locale .swedish .unicode "Ä" "A\u0308").2 none none
    .primary .tertiary less).2 equal
  exact ⟨less, weak, strict.trans weak, equal, coarse⟩

end Recipe
end Keyspace
