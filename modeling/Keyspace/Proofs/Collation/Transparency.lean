import Keyspace.Collation.ComparatorCache
import Keyspace.Proofs.Cache.Contents
import Keyspace.Proofs.Collation.SchemeNames

/-!
# Collators with and without a cache

What a comparator cache answers depends on the mode and on the numbers given so
far, and not on the recipes that it happens to hold.  The invariant is that
every recipe in its tables is the one that would be built anew, and that the
numbers tell the names apart.
-/

namespace Keyspace

/-- What may happen to a comparator cache.  Requests that read the clock carry
its reading. -/
inductive SchemeCall where
  /-- The collator of a name is asked for. -/
  | get (name : String) (now : Nat)
  /-- The collator of a number is asked for. -/
  | getById (id : UInt32) (now : Nat)
  /-- The number of a name is asked for. -/
  | idFor (name : String)
  /-- The cache goes over to a mode. -/
  | setMode (mode : CollationMode)
  /-- The cache goes back to its first mode. -/
  | reset
  /-- Recipes go, for whatever reason, but for chosen ones. -/
  | lose (keepsName : String -> Bool) (keepsId : UInt32 -> Bool)

namespace SharedRecipe

/-- Whether a recipe is the one of a name with a locale. -/
def IsFor (shared : SharedRecipe) (name : String) : Prop :=
  ∃ scheme, Scheme.parse? name = some scheme ∧ scheme.isBinary = false ∧
    shared.recipe = Recipe.build scheme

end SharedRecipe

/-! ## Numbers of schemes -/

/-- Whether normalized names with a locale have the numbers from one on. -/
structure Numbering (ids : List (String × UInt32)) : Prop where
  /-- The numbers count up. -/
  counted : ids.map (·.2) = (List.range ids.length).map fun index => UInt32.ofNat (index + 1)
  /-- No name has two numbers. -/
  distinct : (ids.map (·.1)).Nodup
  /-- Every name is normalized and has a locale. -/
  named : ∀ name id, (name, id) ∈ ids -> Scheme.normalize name = name ∧
    ∃ scheme, Scheme.parse? name = some scheme ∧ scheme.isBinary = false

namespace Numbering

variable {ids : List (String × UInt32)} {name : String} {id : UInt32}

/-- The numbers of 32 bits are enough. -/
theorem length_lt
    (numbering : Numbering ids) :
    ids.length < 2 ^ 32 - 1 := by
  have listed : ids.map (·.1) ⊆ Scheme.localeNames := by
    intro name present
    obtain ⟨⟨_, id⟩, member, rfl⟩ := List.mem_map.mp present
    obtain ⟨normal, scheme, parsed, notBinary⟩ := numbering.named _ id member
    exact Scheme.mem_localeNames normal parsed notBinary
  have few := (List.subperm_of_subset numbering.distinct listed).length_le
  rw [List.length_map] at few
  exact few.trans_lt Scheme.length_localeNames_lt

theorem toNat_ofNat_index
    {index : Nat}
    (numbering : Numbering ids)
    (inside : index ∈ List.range ids.length) :
    (UInt32.ofNat (index + 1)).toNat = index + 1 := by
  have bound := numbering.length_lt
  have indexBound := List.mem_range.mp inside
  rw [UInt32.toNat_ofNat']
  exact Nat.mod_eq_of_lt (by omega)

theorem nodup_numbers
    (numbering : Numbering ids) :
    (ids.map (·.2)).Nodup := by
  rw [numbering.counted]
  refine List.Nodup.map_on ?_ List.nodup_range
  intro left leftInside right rightInside same
  have numbers := congrArg UInt32.toNat same
  rw [numbering.toNat_ofNat_index leftInside, numbering.toNat_ofNat_index rightInside] at numbers
  omega

/-- Zero is left to bytewise comparison. -/
theorem ne_zero
    (numbering : Numbering ids)
    (present : (name, id) ∈ ids) :
    id ≠ 0 := by
  have number : id ∈ ids.map (·.2) := List.mem_map_of_mem present
  rw [numbering.counted] at number
  obtain ⟨index, inside, rfl⟩ := List.mem_map.mp number
  intro zero
  have numbers := numbering.toNat_ofNat_index inside
  rw [zero] at numbers
  exact absurd numbers (by simp)

theorem nil : Numbering [] :=
  ⟨rfl, List.nodup_nil, by simp⟩

/-- A new name takes the next number. -/
theorem concat
    {scheme : Scheme}
    (numbering : Numbering ids)
    (new : name ∉ ids.map (·.1))
    (normal : Scheme.normalize name = name)
    (parsed : Scheme.parse? name = some scheme)
    (notBinary : scheme.isBinary = false) :
    Numbering (ids ++ [(name, UInt32.ofNat (ids.length + 1))]) := by
  refine ⟨?_, ?_, ?_⟩
  · rw [List.map_append, numbering.counted, List.length_append, List.length_singleton,
      List.range_succ, List.map_append]
    rfl
  · rw [List.map_append]
    refine numbering.distinct.append (List.nodup_singleton name) ?_
    exact List.disjoint_singleton.mpr new
  · intro other number present
    rcases List.mem_append.mp present with earlier | last
    · exact numbering.named other number earlier
    · obtain ⟨rfl, _⟩ := Prod.mk.inj (List.mem_singleton.mp last)
      exact ⟨normal, scheme, parsed, notBinary⟩

/-- Entries of one name are the same. -/
theorem id_unique
    {other : UInt32}
    (numbering : Numbering ids)
    (left : (name, id) ∈ ids)
    (right : (name, other) ∈ ids) :
    id = other :=
  (Prod.mk.inj (List.inj_on_of_nodup_map numbering.distinct left right rfl)).2

/-- Entries of one number are the same. -/
theorem name_unique
    {other : String}
    (numbering : Numbering ids)
    (left : (name, id) ∈ ids)
    (right : (other, id) ∈ ids) :
    name = other :=
  (Prod.mk.inj (List.inj_on_of_nodup_map numbering.nodup_numbers left right rfl)).1

theorem lookup_eq_some
    (numbering : Numbering ids) :
    ids.lookup name = some id ↔ (name, id) ∈ ids := by
  refine ⟨fun found => ?_, fun present => ?_⟩
  · obtain ⟨before, after, rfl, _⟩ := List.lookup_eq_some_iff.mp found
    simp
  · cases found : ids.lookup name with
    | none =>
        have absent := List.lookup_eq_none_iff.mp found _ present
        simp at absent
    | some other =>
        obtain ⟨before, after, rfl, _⟩ := List.lookup_eq_some_iff.mp found
        have same : other = id := numbering.id_unique (by simp) present
        rw [same]

theorem find_eq_some
    (numbering : Numbering ids) :
    (ids.find? fun assigned => assigned.2 == id).map (·.1) = some name ↔ (name, id) ∈ ids := by
  refine ⟨fun found => ?_, fun present => ?_⟩
  · obtain ⟨⟨_, number⟩, here, rfl⟩ := Option.map_eq_some_iff.mp found
    obtain rfl : number = id := by simpa using List.find?_some here
    exact List.mem_of_find?_eq_some here
  · cases found : ids.find? fun assigned => assigned.2 == id with
    | none =>
        have absent := List.find?_eq_none.mp found _ present
        simp at absent
    | some assigned =>
        obtain ⟨other, number⟩ := assigned
        obtain rfl : number = id := by simpa using List.find?_some found
        rw [Option.map_some, numbering.name_unique (List.mem_of_find?_eq_some found) present]

end Numbering

/-! ## Sound caches -/

/-- The mode in force after a call, where a reset goes back to a first mode. -/
def SchemeCall.modeAfter (initial current : CollationMode) : SchemeCall -> CollationMode
  | setMode mode => mode
  | reset => initial
  | _ => current

namespace ComparatorCache

variable {cache : ComparatorCache} {name key : String} {id : UInt32} {scheme : Scheme}

/-- The cache without some of its recipes. -/
def lose
    (cache : ComparatorCache)
    (keepsName : String -> Bool)
    (keepsId : UInt32 -> Bool) : ComparatorCache :=
  { cache with
    byName := { cache.byName with slots := cache.byName.slots.filter (keepsName ·.key) }
    byId := { cache.byId with slots := cache.byId.slots.filter (keepsId ·.key) } }

/-- The cache after a call. -/
def perform (cache : ComparatorCache) : SchemeCall -> ComparatorCache
  | .get name now => (cache.get name now).2
  | .getById id now => (cache.getById id now).2
  | .idFor name => (cache.idFor name).2
  | .setMode mode => cache.setMode mode
  | .reset => cache.reset
  | .lose keepsName keepsId => cache.lose keepsName keepsId

/-- The cache after calls. -/
def after (cache : ComparatorCache) (calls : List SchemeCall) : ComparatorCache :=
  calls.foldl perform cache

/-- Whether the recipes of a cache are those that would be built anew. -/
structure Sound (cache : ComparatorCache) : Prop where
  /-- The numbers tell the names apart. -/
  numbering : Numbering cache.ids
  /-- A recipe under a name is the one of the name, which has a number. -/
  byName : ∀ name shared, cache.byName.Holds name shared ->
    shared.IsFor name ∧ ∃ id, (name, id) ∈ cache.ids
  /-- A recipe under a number is the one of the name of the number. -/
  byId : ∀ id shared, cache.byId.Holds id shared ->
    ∃ name, (name, id) ∈ cache.ids ∧ shared.IsFor name

/-- Whether a cache keeps all numbers and both modes of another. -/
structure Keeps (earlier later : ComparatorCache) : Prop where
  /-- Numbers are only added. -/
  ids : earlier.ids <+: later.ids
  /-- The mode in force is the same. -/
  mode : later.mode = earlier.mode
  /-- The first mode is the same. -/
  initialMode : later.initialMode = earlier.initialMode

theorem Keeps.refl (cache : ComparatorCache) : cache.Keeps cache :=
  ⟨List.prefix_refl _, rfl, rfl⟩

theorem Keeps.trans
    {first second third : ComparatorCache}
    (left : first.Keeps second)
    (right : second.Keeps third) :
    first.Keeps third :=
  ⟨left.ids.trans right.ids, right.mode.trans left.mode,
    right.initialMode.trans left.initialMode⟩

theorem sound_empty
    (mode : CollationMode)
    (limits : CacheLimits) :
    (empty mode limits).Sound := by
  refine ⟨Numbering.nil, ?_, ?_⟩
  · rintro name shared ⟨_, present, _⟩
    exact absurd present List.not_mem_nil
  · rintro id shared ⟨_, present, _⟩
    exact absurd present List.not_mem_nil

/-! ## What operations preserve -/

theorem Sound.get_byName
    (sound : cache.Sound)
    (key : String)
    (now : Nat) :
    ({ cache with byName := (cache.byName.get key now).2 } : ComparatorCache).Sound :=
  ⟨sound.numbering, fun name shared holds => sound.byName name shared holds.of_get, sound.byId⟩

theorem Sound.get_byId
    (sound : cache.Sound)
    (id : UInt32)
    (now : Nat) :
    ({ cache with byId := (cache.byId.get id now).2 } : ComparatorCache).Sound :=
  ⟨sound.numbering, sound.byName, fun id shared holds => sound.byId id shared holds.of_get⟩

theorem Sound.insert_byId
    {shared : SharedRecipe}
    (sound : cache.Sound)
    (now : Nat)
    (assigned : (key, id) ∈ cache.ids)
    (isFor : shared.IsFor key) :
    ({ cache with byId := (cache.byId.insert id shared now).2 } : ComparatorCache).Sound := by
  refine ⟨sound.numbering, sound.byName, ?_⟩
  intro other recipe holds
  rcases holds.of_insert with ⟨rfl, rfl⟩ | before
  · exact ⟨key, assigned, isFor⟩
  · exact sound.byId other recipe before

theorem Sound.insert_byName
    {shared : SharedRecipe}
    (sound : cache.Sound)
    (now : Nat)
    (assigned : (key, id) ∈ cache.ids)
    (isFor : shared.IsFor key) :
    ({ cache with byName := (cache.byName.insert key shared now).2 } : ComparatorCache).Sound := by
  refine ⟨sound.numbering, ?_, sound.byId⟩
  intro other recipe holds
  rcases holds.of_insert with ⟨rfl, rfl⟩ | before
  · exact ⟨isFor, id, assigned⟩
  · exact sound.byName other recipe before

/-- A name with a locale has a number after it is given one. -/
theorem Sound.assignId
    (sound : cache.Sound)
    (normal : Scheme.normalize key = key)
    (parsed : Scheme.parse? key = some scheme)
    (notBinary : scheme.isBinary = false) :
    (cache.assignId key).2.Sound ∧ cache.Keeps (cache.assignId key).2 ∧
      (key, (cache.assignId key).1) ∈ (cache.assignId key).2.ids := by
  unfold ComparatorCache.assignId idOf?
  cases found : cache.ids.lookup key with
  | some id =>
      exact ⟨sound, Keeps.refl cache, sound.numbering.lookup_eq_some.mp found⟩
  | none =>
      have new : key ∉ cache.ids.map (·.1) := by
        intro present
        obtain ⟨⟨_, id⟩, member, rfl⟩ := List.mem_map.mp present
        have absent := List.lookup_eq_none_iff.mp found _ member
        simp at absent
      have grown : cache.ids ⊆ cache.ids ++ [(key, UInt32.ofNat (cache.ids.length + 1))] :=
        List.subset_append_left ..
      refine ⟨⟨sound.numbering.concat new normal parsed notBinary, ?_, ?_⟩,
        ⟨List.prefix_append .., rfl, rfl⟩, ?_⟩
      · intro name shared holds
        obtain ⟨isFor, id, present⟩ := sound.byName name shared holds
        exact ⟨isFor, id, grown present⟩
      · intro id shared holds
        obtain ⟨name, present, isFor⟩ := sound.byId id shared holds
        exact ⟨name, grown present, isFor⟩
      · simp

theorem ids_recipeOf
    (cache : ComparatorCache)
    (key : String)
    (id : UInt32)
    (scheme : Scheme)
    (now : Nat) :
    (cache.recipeOf key id scheme now).2.ids = cache.ids := by
  unfold ComparatorCache.recipeOf
  split <;> rfl

/-- A recipe is the one of the name, wherever it comes from. -/
theorem Sound.recipeOf
    (sound : cache.Sound)
    (now : Nat)
    (assigned : (key, id) ∈ cache.ids)
    (parsed : Scheme.parse? key = some scheme)
    (notBinary : scheme.isBinary = false) :
    (cache.recipeOf key id scheme now).2.Sound ∧
      cache.Keeps (cache.recipeOf key id scheme now).2 ∧
      (cache.recipeOf key id scheme now).1.IsFor key := by
  have looked := sound.get_byName key now
  unfold ComparatorCache.recipeOf
  split
  · next shared byName read =>
      have found : (cache.byName.get key now).1 = some shared := by rw [read]
      have isFor := (sound.byName key shared (SoftCache.holds_of_get found)).1
      rw [read] at looked
      exact ⟨looked.insert_byId now assigned isFor, ⟨List.prefix_refl _, rfl, rfl⟩, isFor⟩
  · next byName read =>
      have isFor : SharedRecipe.IsFor ⟨cache.builds + 1, Recipe.build scheme⟩ key :=
        ⟨scheme, parsed, notBinary, rfl⟩
      rw [read] at looked
      have entered := (looked.insert_byName now assigned isFor).insert_byId now assigned isFor
      exact ⟨⟨entered.numbering, entered.byName, entered.byId⟩, ⟨List.prefix_refl _, rfl, rfl⟩,
        isFor⟩

/-! ## Answers -/

theorem resolve_eq_error
    {mode : CollationMode}
    {error : Error}
    (resolved : resolve mode name = .error error) :
    Scheme.parse? name = none ∧ mode = .strict ∧ error = .unknownCollation name := by
  unfold resolve at resolved
  split at resolved
  · simp at resolved
  · next unknown =>
      split at resolved
      · next strict => exact ⟨unknown, strict, (Except.error.inj resolved).symm⟩
      · simp at resolved

theorem resolve_eq_none
    {mode : CollationMode}
    (resolved : resolve mode name = .ok none) :
    (∃ scheme, Scheme.parse? name = some scheme ∧ scheme.isBinary = true) ∨
      (Scheme.parse? name = none ∧ mode ≠ .strict) := by
  unfold resolve at resolved
  split at resolved
  · next scheme parsed =>
      refine .inl ⟨scheme, parsed, ?_⟩
      by_contra notBinary
      simp [notBinary] at resolved
  · next unknown =>
      refine .inr ⟨unknown, fun strict => ?_⟩
      simp [strict] at resolved

theorem resolve_eq_some
    {mode : CollationMode} :
    resolve mode name = .ok (some scheme) ↔
      Scheme.parse? name = some scheme ∧ scheme.isBinary = false := by
  unfold resolve
  cases parsed : Scheme.parse? name with
  | none => by_cases strict : mode = .strict <;> simp [strict]
  | some other =>
      cases binary : other.isBinary with
      | true =>
          simp only [binary, if_true, Except.ok.injEq, reduceCtorEq, Option.some.injEq, false_iff,
            not_and]
          rintro rfl
          simp [binary]
      | false =>
          simp only [binary, Bool.false_eq_true, if_false, Except.ok.injEq, Option.some.injEq]
          exact ⟨fun same => ⟨same, same ▸ binary⟩, fun both => both.1⟩

/-- What a request for a name is answered under a mode, where names have given
numbers afterwards. -/
structure Answers
    (mode : CollationMode)
    (name : String)
    (answer : Except Error Collator)
    (ids : List (String × UInt32)) : Prop where
  /-- No scheme is heeded in disabled mode. -/
  disabled : mode = .disabled -> answer = .ok (Collator.binary name)
  /-- A binary scheme compares bytes. -/
  binary : ∀ scheme, Scheme.parse? name = some scheme -> scheme.isBinary = true ->
    answer = .ok (Collator.binary name)
  /-- A scheme with a locale has its own rules, and the number of its normalized name. -/
  locale : ∀ scheme, mode ≠ .disabled -> Scheme.parse? name = some scheme ->
    scheme.isBinary = false -> ∃ collator, answer = .ok collator ∧ collator.name = name ∧
      collator.shared.recipe = Recipe.build scheme ∧
      ids.lookup (Scheme.normalize name) = some collator.id
  /-- An unknown name is an error in strict mode. -/
  unknownStrict : mode = .strict -> Scheme.parse? name = none ->
    answer = .error (.unknownCollation name)
  /-- An unknown name compares bytes in loose mode. -/
  unknownLoose : mode = .loose -> Scheme.parse? name = none ->
    answer = .ok (Collator.binary name)

namespace Answers

variable {mode : CollationMode} {ids : List (String × UInt32)}

theorem of_disabled : Answers .disabled name (.ok (Collator.binary name)) ids :=
  ⟨fun _ => rfl, fun _ _ _ => rfl, fun _ heeded => absurd rfl heeded, nofun, nofun⟩

theorem of_resolve_error
    {error : Error}
    (resolved : resolve mode name = .error error) :
    Answers mode name (.error error) ids := by
  obtain ⟨unknown, rfl, rfl⟩ := resolve_eq_error resolved
  exact ⟨nofun, by simp [unknown], by simp [unknown], fun _ _ => rfl, nofun⟩

theorem of_resolve_none
    (resolved : resolve mode name = .ok none) :
    Answers mode name (.ok (Collator.binary name)) ids := by
  refine ⟨fun _ => rfl, fun _ _ _ => rfl, ?_, ?_, fun _ _ => rfl⟩
  · intro scheme _ parsed notBinary
    rw [resolve_eq_some.mpr ⟨parsed, notBinary⟩] at resolved
    simp at resolved
  · rintro rfl unknown
    simp [resolve, unknown] at resolved

theorem of_locale
    {shared : SharedRecipe}
    (heeded : mode ≠ .disabled)
    (assigned : ids.lookup (Scheme.normalize name) = some id)
    (isFor : shared.IsFor (Scheme.normalize name)) :
    Answers mode name (.ok ⟨name, id, shared⟩) ids := by
  obtain ⟨scheme, parsed, notBinary, built⟩ := isFor
  rw [Scheme.parse?_normalize] at parsed
  refine ⟨fun off => absurd off heeded, by simp [parsed, notBinary], ?_, by simp [parsed],
    by simp [parsed]⟩
  intro other _ parsedOther _
  obtain rfl := Option.some.inj (parsed.symm.trans parsedOther)
  exact ⟨_, rfl, rfl, built, assigned⟩

end Answers

/-- A request for a name is answered as if nothing were cached. -/
theorem Sound.get
    (sound : cache.Sound)
    (name : String)
    (now : Nat) :
    (cache.get name now).2.Sound ∧ cache.Keeps (cache.get name now).2 ∧
      Answers cache.mode name (cache.get name now).1 (cache.get name now).2.ids := by
  have looked := sound.get_byName (Scheme.normalize name) now
  unfold ComparatorCache.get
  split
  · next off => exact ⟨sound, Keeps.refl cache, off ▸ Answers.of_disabled⟩
  · next heeded =>
      dsimp only
      split
      · next shared byName read =>
          have found : (cache.byName.get (Scheme.normalize name) now).1 = some shared := by
            rw [read]
          obtain ⟨isFor, id, assigned⟩ := sound.byName _ shared (SoftCache.holds_of_get found)
          have number : cache.idOf? (Scheme.normalize name) = some id :=
            sound.numbering.lookup_eq_some.mpr assigned
          rw [read] at looked
          rw [number]
          exact ⟨looked, ⟨List.prefix_refl _, rfl, rfl⟩,
            Answers.of_locale heeded number isFor⟩
      · next byName read =>
          rw [read] at looked
          have kept : cache.Keeps { cache with byName := byName } :=
            ⟨List.prefix_refl _, rfl, rfl⟩
          split
          · next error resolved => exact ⟨looked, kept, Answers.of_resolve_error resolved⟩
          · next resolved => exact ⟨looked, kept, Answers.of_resolve_none resolved⟩
          · next scheme resolved =>
              obtain ⟨parsed, notBinary⟩ := resolve_eq_some.mp resolved
              rw [← Scheme.parse?_normalize] at parsed
              obtain ⟨numbered, keptNumbers, assigned⟩ := looked.assignId
                (Scheme.normalize_normalize name) parsed notBinary
              obtain ⟨ready, keptAll, isFor⟩ := numbered.recipeOf now assigned parsed notBinary
              have number := ready.numbering.lookup_eq_some.mpr (keptAll.ids.subset assigned)
              exact ⟨ready, kept.trans (keptNumbers.trans keptAll),
                Answers.of_locale heeded number isFor⟩

/-- A request for an assigned number is answered by the rules of its name. -/
theorem Sound.getNumbered
    {name : String}
    {id : UInt32}
    (sound : cache.Sound)
    (assigned : (name, id) ∈ cache.ids)
    (now : Nat) :
    (cache.getNumbered name id now).2.Sound ∧ cache.Keeps (cache.getNumbered name id now).2 ∧
      ∃ shared, (cache.getNumbered name id now).1 = .ok ⟨name, id, shared⟩ ∧
        SharedRecipe.IsFor shared name := by
  have looked := sound.get_byId id now
  obtain ⟨_, scheme, parsed, notBinary⟩ := sound.numbering.named name id assigned
  unfold ComparatorCache.getNumbered
  split
  · next shared byId read =>
      have found : (cache.byId.get id now).1 = some shared := by rw [read]
      obtain ⟨owner, assignedOwner, isFor⟩ :=
        sound.byId id shared (SoftCache.holds_of_get found)
      rw [read] at looked
      rw [sound.numbering.name_unique assignedOwner assigned] at isFor
      exact ⟨looked, ⟨List.prefix_refl _, rfl, rfl⟩, shared, rfl, isFor⟩
  · next byId read =>
      rw [read] at looked
      have kept : cache.Keeps { cache with byId := byId } :=
        ⟨List.prefix_refl _, rfl, rfl⟩
      obtain ⟨ready, keptAll, isFor⟩ := looked.recipeOf now assigned parsed notBinary
      dsimp only
      rw [resolve_eq_some.mpr ⟨parsed, notBinary⟩]
      exact ⟨ready, kept.trans keptAll, _, rfl, isFor⟩

/-- A request for a number is answered by the rules of the name that has it. -/
theorem Sound.getById
    (sound : cache.Sound)
    (id : UInt32)
    (now : Nat) :
    (cache.getById id now).2.Sound ∧ cache.Keeps (cache.getById id now).2 ∧
      ∀ name, (name, id) ∈ cache.ids -> cache.mode ≠ .disabled ->
        ∃ shared, (cache.getById id now).1 = .ok ⟨name, id, shared⟩ ∧
          SharedRecipe.IsFor shared name := by
  unfold ComparatorCache.getById
  dsimp only
  split
  · next direct =>
      refine ⟨sound, Keeps.refl cache, fun name assigned heeded => ?_⟩
      rcases direct with zero | off
      · exact absurd zero (sound.numbering.ne_zero assigned)
      · exact absurd off heeded
  · split
    · next name named =>
        have assigned : (name, id) ∈ cache.ids := sound.numbering.find_eq_some.mp named
        obtain ⟨soundAfter, kept, answer⟩ := sound.getNumbered assigned now
        refine ⟨soundAfter, kept, fun other assignedOther _ => ?_⟩
        rwa [← sound.numbering.name_unique assigned assignedOther]
    · next unnamed =>
        have unassigned : ∀ name, (name, id) ∉ cache.ids := by
          intro name assigned
          have named : cache.nameOf? id = some name :=
            sound.numbering.find_eq_some.mpr assigned
          simp [unnamed] at named
        split <;> exact ⟨sound, Keeps.refl cache, fun name assigned => absurd assigned
          (unassigned name)⟩

theorem Sound.idFor
    (sound : cache.Sound)
    (name : String) :
    (cache.idFor name).2.Sound ∧ cache.Keeps (cache.idFor name).2 := by
  unfold ComparatorCache.idFor
  split
  · exact ⟨sound, Keeps.refl cache⟩
  · exact ⟨sound, Keeps.refl cache⟩
  · next scheme resolved =>
      obtain ⟨parsed, notBinary⟩ := resolve_eq_some.mp resolved
      rw [← Scheme.parse?_normalize] at parsed
      obtain ⟨numbered, kept, _⟩ := sound.assignId (Scheme.normalize_normalize name) parsed
        notBinary
      exact ⟨numbered, kept⟩

theorem Sound.setMode
    (sound : cache.Sound)
    (mode : CollationMode) :
    (cache.setMode mode).Sound :=
  ⟨sound.numbering, fun _ _ holds => (SoftCache.not_holds_clear _ _ _ holds).elim,
    fun _ _ holds => (SoftCache.not_holds_clear _ _ _ holds).elim⟩

theorem Sound.lose
    (sound : cache.Sound)
    (keepsName : String -> Bool)
    (keepsId : UInt32 -> Bool) :
    (cache.lose keepsName keepsId).Sound :=
  ⟨sound.numbering,
    fun name shared holds => sound.byName name shared (holds.mono List.filter_sublist.subset),
    fun id shared holds => sound.byId id shared (holds.mono List.filter_sublist.subset)⟩

/-! ## Runs -/

/-- A call keeps a cache sound and takes no number away. -/
theorem Sound.perform
    (sound : cache.Sound)
    (call : SchemeCall) :
    (cache.perform call).Sound ∧ cache.ids <+: (cache.perform call).ids ∧
      (cache.perform call).initialMode = cache.initialMode ∧
      (cache.perform call).mode = call.modeAfter cache.initialMode cache.mode := by
  cases call <;> simp only [ComparatorCache.perform, SchemeCall.modeAfter]
  case get name now =>
    obtain ⟨soundAfter, kept, _⟩ := sound.get name now
    exact ⟨soundAfter, kept.ids, kept.initialMode, kept.mode⟩
  case getById id now =>
    obtain ⟨soundAfter, kept, _⟩ := sound.getById id now
    exact ⟨soundAfter, kept.ids, kept.initialMode, kept.mode⟩
  case idFor name =>
    obtain ⟨soundAfter, kept⟩ := sound.idFor name
    exact ⟨soundAfter, kept.ids, kept.initialMode, kept.mode⟩
  case setMode mode => exact ⟨sound.setMode mode, List.prefix_refl _, rfl, rfl⟩
  case reset => exact ⟨sound.setMode cache.initialMode, List.prefix_refl _, rfl, rfl⟩
  case lose keepsName keepsId =>
    exact ⟨sound.lose keepsName keepsId, List.prefix_refl _, rfl, rfl⟩

theorem after_append
    (cache : ComparatorCache)
    (earlier later : List SchemeCall) :
    cache.after (earlier ++ later) = (cache.after earlier).after later :=
  List.foldl_append ..

/-- Calls keep a cache sound and take no number away. -/
theorem Sound.after
    (sound : cache.Sound)
    (calls : List SchemeCall) :
    (cache.after calls).Sound ∧ cache.ids <+: (cache.after calls).ids ∧
      (cache.after calls).mode =
        calls.foldl (SchemeCall.modeAfter cache.initialMode) cache.mode := by
  induction calls generalizing cache with
  | nil => exact ⟨sound, List.prefix_refl _, rfl⟩
  | cons call calls inductionHypothesis =>
      obtain ⟨soundNext, keptNext, initialNext, modeNext⟩ := sound.perform call
      obtain ⟨soundAfter, kept, mode⟩ := inductionHypothesis soundNext
      rw [initialNext, modeNext] at mode
      exact ⟨soundAfter, keptNext.trans kept, mode⟩

/-- No answer depends on what is cached, and a number that a name was ever given
stays with it. -/
theorem answers_after
    (first : CollationMode)
    (limits : CacheLimits)
    (calls : List SchemeCall) :
    let cache := (empty first limits).after calls
    let mode := calls.foldl (SchemeCall.modeAfter first) first
    (∀ name now, Answers mode name (cache.get name now).1 (cache.get name now).2.ids) ∧
      ∀ earlier key id now, earlier <+: calls ->
        ((empty first limits).after earlier).idOf? key = some id ->
          cache.idOf? key = some id ∧ (mode ≠ .disabled ->
            ∃ shared, (cache.getById id now).1 = .ok ⟨key, id, shared⟩ ∧
              SharedRecipe.IsFor shared key) := by
  obtain ⟨sound, _, mode⟩ := (sound_empty first limits).after calls
  refine ⟨fun name now => ?_, ?_⟩
  · have answers := (sound.get name now).2.2
    rw [mode] at answers
    exact answers
  · rintro earlier key id now ⟨later, rfl⟩ given
    have soundEarlier := ((sound_empty first limits).after earlier).1
    have kept := (soundEarlier.after later).2.1
    rw [← after_append] at kept
    have assigned := kept.subset (soundEarlier.numbering.lookup_eq_some.mp given)
    refine ⟨sound.numbering.lookup_eq_some.mpr assigned, fun heeded => ?_⟩
    exact (sound.getById id now).2.2 key assigned (mode ▸ heeded)

/-- The rules of a name outlive the recipe, which was evicted before the mode changed. -/
theorem answers_after_eviction :
    ∃ shared,
      (((empty .loose ⟨1, some 5⟩).after
        [.idFor " EN_us_ci", .getById 1 0, .get "de_ci" 3, .setMode .disabled, .reset]).getById
          1 40).1 = .ok ⟨"en_us_ci", 1, shared⟩ ∧ SharedRecipe.IsFor shared "en_us_ci" :=
  ((answers_after .loose ⟨1, some 5⟩
    [.idFor " EN_us_ci", .getById 1 0, .get "de_ci" 3, .setMode .disabled, .reset]).2
    [.idFor " EN_us_ci"] "en_us_ci" 1 40 (by simp) (by decide +kernel)).2 (by decide)

end ComparatorCache
end Keyspace
