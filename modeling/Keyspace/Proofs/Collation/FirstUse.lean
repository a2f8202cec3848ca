import Keyspace.Proofs.Collation.Transparency

/-!
# Numbers in the order of first use

A comparator cache numbers the schemes that are not binary from one on, in the
order in which they are first used.  A request for a number uses its scheme in
every mode, a request for a collator only in a mode that heeds schemes.  Nothing
else enters the table of numbers, and nothing leaves it, whatever happens to the
recipes.
-/

namespace Keyspace

/-! ## Uses of schemes -/

namespace Scheme

/-- The normalized name of a scheme that is not binary, if a name stands for one. -/
def localeName? (name : String) : Option String :=
  match parse? name with
  | some scheme => if scheme.isBinary then none else some (normalize name)
  | none => none

end Scheme

namespace SchemeCall

/-- The normalized name of the scheme that a call uses under a mode. -/
def used? (mode : CollationMode) : SchemeCall -> Option String
  | get name _ => if mode = .disabled then none else Scheme.localeName? name
  | idFor name => Scheme.localeName? name
  | _ => none

/-- The names of the schemes that calls use, one after the other, where a reset
goes back to a first mode. -/
def usedNames (initial : CollationMode) : CollationMode -> List SchemeCall -> List String
  | _, [] => []
  | mode, call :: calls =>
      (call.used? mode).toList ++ usedNames initial (call.modeAfter initial mode) calls

end SchemeCall

/-- The numbers count up from one. -/
theorem Numbering.map_toNat
    {ids : List (String × UInt32)}
    (numbering : Numbering ids) :
    (ids.map fun assigned => assigned.2.toNat) = List.range' 1 ids.length := by
  have small : ∀ index ∈ List.range ids.length,
      (UInt32.ofNat (index + 1)).toNat = 1 + index := by
    intro index inside
    rw [numbering.toNat_ofNat_index inside, Nat.add_comm]
  calc (ids.map fun assigned => assigned.2.toNat)
    _ = (ids.map (·.2)).map UInt32.toNat := by rw [List.map_map]; rfl
    _ = (List.range ids.length).map fun index => (UInt32.ofNat (index + 1)).toNat := by
      rw [numbering.counted, List.map_map]
      rfl
    _ = (List.range ids.length).map fun index => 1 + index := List.map_congr_left small
    _ = List.range' 1 ids.length := (List.range'_eq_map_range ..).symm

namespace ComparatorCache

variable {cache : ComparatorCache} {name : String} {scheme : Scheme} {mode : CollationMode}

theorem localeName?_of_resolve_some
    (resolved : resolve mode name = .ok (some scheme)) :
    Scheme.localeName? name = some (Scheme.normalize name) := by
  obtain ⟨parsed, notBinary⟩ := resolve_eq_some.mp resolved
  simp [Scheme.localeName?, parsed, notBinary]

theorem localeName?_of_resolve_none
    (resolved : resolve mode name = .ok none) :
    Scheme.localeName? name = none := by
  rcases resolve_eq_none resolved with ⟨scheme, parsed, binary⟩ | ⟨unknown, _⟩
  · simp [Scheme.localeName?, parsed, binary]
  · simp [Scheme.localeName?, unknown]

theorem localeName?_of_resolve_error
    {error : Error}
    (resolved : resolve mode name = .error error) :
    Scheme.localeName? name = none := by
  simp [Scheme.localeName?, (resolve_eq_error resolved).1]

/-! ## Entering names -/

/-- The names that have numbers, in the order of their numbers. -/
def names (cache : ComparatorCache) : List String :=
  cache.ids.map (·.1)

/-- Names after one of them is used: a new one comes last. -/
def enter (names : List String) : Option String -> List String
  | none => names
  | some name => if name ∈ names then names else names ++ [name]

theorem enter_of_mem
    {names : List String}
    {next : Option String}
    (known : ∀ name ∈ next, name ∈ names) :
    enter names next = names := by
  cases next with
  | none => rfl
  | some name => exact if_pos (known name rfl)

/-- Entering names one by one leaves each of them once, where it came first. -/
theorem eraseDups_append_toList
    (used : List String)
    (next : Option String) :
    (used ++ next.toList).eraseDups = enter used.eraseDups next := by
  cases next with
  | none => simp [enter]
  | some name =>
      rw [List.eraseDups_append, enter]
      by_cases known : name ∈ used <;>
        simp [known, List.cons_removeAll, List.eraseDups_cons]

theorem lookup_eq_none_iff_names
    (cache : ComparatorCache)
    (key : String) :
    cache.idOf? key = none ↔ key ∉ cache.names := by
  simp only [idOf?, names, List.lookup_eq_none_iff, List.mem_map, not_exists, not_and]
  exact ⟨fun absent assigned present same => by simpa [same] using absent assigned present,
    fun absent assigned present => by simpa using fun same => absent assigned present same.symm⟩

theorem names_assignId
    (cache : ComparatorCache)
    (key : String) :
    (cache.assignId key).2.names = enter cache.names (some key) := by
  unfold assignId
  cases found : cache.idOf? key with
  | some id =>
      have known : key ∈ cache.names := by
        by_contra absent
        simp [(cache.lookup_eq_none_iff_names key).mpr absent] at found
      rw [enter, if_pos known]
  | none =>
      rw [enter, if_neg ((cache.lookup_eq_none_iff_names key).mp found)]
      simp [names]

/-! ## What calls enter -/

/-- A request for a collator enters the name if the mode heeds schemes. -/
theorem Sound.names_get
    (sound : cache.Sound)
    (name : String)
    (now : Nat) :
    (cache.get name now).2.names =
      enter cache.names ((SchemeCall.get name now).used? cache.mode) := by
  unfold ComparatorCache.get SchemeCall.used?
  split
  · rfl
  · dsimp only
    split
    · next shared byName read =>
        obtain ⟨_, id, assigned⟩ :=
          sound.byName _ shared (SoftCache.holds_of_get (congrArg Prod.fst read))
        refine (enter_of_mem fun used isUsed => ?_).symm
        have same : used = Scheme.normalize name := by
          unfold Scheme.localeName? at isUsed
          split at isUsed
          · split at isUsed
            · simp at isUsed
            · exact (Option.some.inj isUsed).symm
          · simp at isUsed
        exact List.mem_map.mpr ⟨_, assigned, same.symm⟩
    · next byName read =>
        split
        · next error resolved => rw [localeName?_of_resolve_error resolved]; rfl
        · next resolved => rw [localeName?_of_resolve_none resolved]; rfl
        · next scheme resolved =>
            rw [localeName?_of_resolve_some resolved, names, ids_recipeOf]
            exact names_assignId { cache with byName := byName } (Scheme.normalize name)

theorem ids_getById
    (cache : ComparatorCache)
    (id : UInt32)
    (now : Nat) :
    (cache.getById id now).2.ids = cache.ids := by
  unfold getById
  dsimp only
  split
  · rfl
  · split
    · unfold getNumbered
      split
      · rfl
      · dsimp only
        split
        · rfl
        · rfl
        · exact ids_recipeOf ..
    · split <;> rfl

/-- A request for a number enters the name. -/
theorem names_idFor
    (cache : ComparatorCache)
    (name : String) :
    (cache.idFor name).2.names = enter cache.names (Scheme.localeName? name) := by
  unfold idFor
  split
  · next error resolved => rw [localeName?_of_resolve_error resolved]; rfl
  · next resolved => rw [localeName?_of_resolve_none resolved]; rfl
  · next scheme resolved =>
      rw [localeName?_of_resolve_some resolved]
      exact names_assignId cache (Scheme.normalize name)

/-- A call enters the name that it uses, and no other. -/
theorem Sound.names_perform
    (sound : cache.Sound)
    (call : SchemeCall) :
    (cache.perform call).names = enter cache.names (call.used? cache.mode) := by
  cases call with
  | get name now => exact sound.names_get name now
  | getById id now => exact congrArg (List.map (·.1)) (cache.ids_getById id now)
  | idFor name => exact cache.names_idFor name
  | setMode mode => rfl
  | reset => rfl
  | lose keepsName keepsId => rfl

/-- Calls enter the names that they use, each where it is first used. -/
theorem Sound.names_after
    (sound : cache.Sound)
    (earlier : List String)
    (entered : cache.names = earlier.eraseDups)
    (calls : List SchemeCall) :
    (cache.after calls).names =
      (earlier ++ SchemeCall.usedNames cache.initialMode cache.mode calls).eraseDups := by
  induction calls generalizing cache earlier with
  | nil => simpa [SchemeCall.usedNames, ComparatorCache.after] using entered
  | cons call calls inductionHypothesis =>
      obtain ⟨soundNext, _, initialNext, modeNext⟩ := sound.perform call
      have enteredNext :
          (cache.perform call).names = (earlier ++ (call.used? cache.mode).toList).eraseDups := by
        rw [sound.names_perform, entered, eraseDups_append_toList]
      have run := inductionHypothesis soundNext _ enteredNext
      rw [initialNext, modeNext, List.append_assoc] at run
      exact run

/-! ## Answers -/

/-- A request for a number is answered by the number that the name has then. -/
theorem Sound.idFor_of_locale
    {key : String}
    (sound : cache.Sound)
    (isLocale : Scheme.localeName? name = some key) :
    ∃ id, (cache.idFor name).1 = .ok id ∧ (cache.idFor name).2.idOf? key = some id := by
  unfold ComparatorCache.idFor
  split
  · next error resolved => simp [localeName?_of_resolve_error resolved] at isLocale
  · next resolved => simp [localeName?_of_resolve_none resolved] at isLocale
  · next scheme resolved =>
      obtain ⟨parsed, notBinary⟩ := resolve_eq_some.mp resolved
      rw [localeName?_of_resolve_some resolved] at isLocale
      obtain rfl := Option.some.inj isLocale
      rw [← Scheme.parse?_normalize] at parsed
      obtain ⟨numbered, _, assigned⟩ := sound.assignId (Scheme.normalize_normalize name) parsed
        notBinary
      exact ⟨_, rfl, numbered.numbering.lookup_eq_some.mpr assigned⟩

/-- A request for a collator is answered by one with the number that the name has
then, in a mode that heeds schemes. -/
theorem Sound.get_of_locale
    {key : String}
    (sound : cache.Sound)
    (heeded : cache.mode ≠ .disabled)
    (isLocale : Scheme.localeName? name = some key)
    (now : Nat) :
    ∃ collator, (cache.get name now).1 = .ok collator ∧
      (cache.get name now).2.idOf? key = some collator.id := by
  unfold Scheme.localeName? at isLocale
  split at isLocale
  · next scheme parsed =>
      split at isLocale
      · simp at isLocale
      · next notBinary =>
          obtain rfl := Option.some.inj isLocale
          obtain ⟨collator, answer, _, _, number⟩ :=
            (sound.get name now).2.2.locale scheme heeded parsed (by simpa using notBinary)
          exact ⟨collator, answer, number⟩
  · simp at isLocale

/-- After any calls the schemes used so far have the numbers from one on in the order of
their first use, each of them for good.  Names and numbers stand for each other, and a
scheme that is used next is answered by its number; in disabled mode a request for a
collator uses none. -/
theorem ids_after
    (first : CollationMode)
    (limits : CacheLimits)
    (calls : List SchemeCall) :
    let cache := (empty first limits).after calls
    let mode := calls.foldl (SchemeCall.modeAfter first) first
    let names := (SchemeCall.usedNames first first calls).eraseDups
    cache.ids.map (·.1) = names ∧
      (cache.ids.map fun assigned => assigned.2.toNat) = List.range' 1 names.length ∧
      (∀ name id, cache.idOf? name = some id ↔ cache.nameOf? id = some name) ∧
      (∀ earlier name id, earlier <+: calls ->
        ((empty first limits).after earlier).idOf? name = some id ->
          cache.idOf? name = some id) ∧
      ∀ name key, Scheme.localeName? name = some key ->
        (∃ id, (cache.idFor name).1 = .ok id ∧ (cache.idFor name).2.idOf? key = some id) ∧
        (mode ≠ .disabled -> ∀ now, ∃ collator, (cache.get name now).1 = .ok collator ∧
          (cache.get name now).2.idOf? key = some collator.id) ∧
        (mode = .disabled -> ∀ now, cache.get name now = (.ok (Collator.binary name), cache)) := by
  intro cache mode names
  have fresh := sound_empty first limits
  obtain ⟨sound, _, inForce⟩ := fresh.after calls
  have entered : cache.ids.map (·.1) = names := fresh.names_after [] rfl calls
  refine ⟨entered, ?_, fun name id => ?_, ?_, fun name key isLocale => ⟨?_, ?_, ?_⟩⟩
  · rw [← entered, List.length_map]
    exact sound.numbering.map_toNat
  · exact sound.numbering.lookup_eq_some.trans sound.numbering.find_eq_some.symm
  · rintro earlier name id ⟨later, rfl⟩ given
    have soundEarlier := (fresh.after earlier).1
    have kept := (soundEarlier.after later).2.1
    rw [← after_append] at kept
    exact sound.numbering.lookup_eq_some.mpr
      (kept.subset (soundEarlier.numbering.lookup_eq_some.mp given))
  · exact sound.idFor_of_locale isLocale
  · exact fun heeded now => sound.get_of_locale (inForce ▸ heeded) isLocale now
  · exact fun off now => if_pos (inForce.trans off)

/-- A request in disabled mode is no use, and two spellings of a name are one. -/
theorem ids_after_disabled :
    let calls : List SchemeCall := [.setMode .disabled, .get "de_ci" 0, .idFor " EN_us_ci",
      .getById 1 0, .reset, .get "utf8_bin" 1, .get "klingon_ci" 2, .get "de_ci" 3,
      .lose (fun _ => false) (fun _ => false), .get "EN_US_CI " 40]
    let cache := (empty .loose ⟨1, some 5⟩).after calls
    cache.ids.map (·.1) = ["en_us_ci", "de_ci"] ∧ cache.nameOf? 2 = some "de_ci" ∧
      (cache.idFor "De_Ci").1 = .ok 2 := by
  intro calls cache
  obtain ⟨names, _, inverse, forGood, answers⟩ := ids_after .loose ⟨1, some 5⟩ calls
  have used : (SchemeCall.usedNames .loose .loose calls).eraseDups = ["en_us_ci", "de_ci"] := by
    decide +kernel
  have second : cache.idOf? "de_ci" = some 2 :=
    forGood (calls.take 8) "de_ci" 2 (List.take_prefix ..) (by decide +kernel)
  obtain ⟨⟨id, answer, number⟩, _⟩ := answers "De_Ci" "de_ci" (by decide +kernel)
  have same : (cache.idFor "De_Ci").2.idOf? "de_ci" = some 2 := by decide +kernel
  rw [number] at same
  exact ⟨names.trans used, (inverse _ _).mp second, Option.some.inj same ▸ answer⟩

/-- A scheme that is first used by a request for its collator in disabled mode gets no
number by that, and is answered without one. -/
theorem get_disabled_without_number :
    let cache := empty .disabled ⟨4, none⟩
    let used := cache.perform (.get "en_ci" 0)
    Scheme.localeName? "en_ci" = some "en_ci" ∧
      (cache.get "en_ci" 0).1 = .ok ⟨"en_ci", 0, SharedRecipe.binary⟩ ∧
      used.idOf? "en_ci" = none ∧
      ((used.setMode .strict).get "en_ci" 1).1 =
        .ok ⟨"en_ci", 1, ⟨1, Recipe.build (.locale .english none .secondary)⟩⟩ := by
  decide +kernel

end ComparatorCache
end Keyspace
