import Keyspace.Proofs.Cache.LatestKeys
import Keyspace.Proofs.Collation.Transparency

/-!
# Recipes that stay

A comparator cache without a time to live keeps the recipes of the schemes asked
for last.  Its two tables make room apart from each other, and a request only
counts in the tables that it looks into: one by number that is found there leaves
the table of names as it was.  So a scheme in use by number is not built again for
a request by number, but it may be for one by name.
-/

namespace Keyspace

/-- Whether a call asks for a collator or a number, and changes neither the mode nor
what is cached but by that. -/
def SchemeCall.IsRequest : SchemeCall -> Prop
  | get _ _ => True
  | getById _ _ => True
  | idFor _ => True
  | _ => False

namespace ComparatorCache

open SoftCache (latest Within)

/-- The normalized name of the scheme whose collator a call asks for, if there is
one that does not compare bytes. -/
def requested? (cache : ComparatorCache) : SchemeCall -> Option String
  | .get name _ =>
      match resolve cache.mode name with
      | .ok (some _) => some (Scheme.normalize name)
      | _ => none
  | .getById id _ => cache.nameOf? id
  | _ => none

/-- The schemes whose collators calls ask for, in their order. -/
def requestedIn (cache : ComparatorCache) : List SchemeCall -> List String
  | [] => []
  | call :: calls =>
      (cache.requested? call).toList ++ (cache.perform call).requestedIn calls

/-- Whether a call looks into the table of names, which it does unless the table of
numbers has the answer. -/
def AsksNames (cache : ComparatorCache) : SchemeCall -> Prop
  | .get _ _ => True
  | .getById id _ => id ∉ cache.byId.keys
  | _ => False

/-- Whether both tables of a cache keep what they hold until others need the room. -/
structure Ageless (room : Nat) (cache : ComparatorCache) : Prop where
  /-- The table of names. -/
  names : cache.byName.Ageless room
  /-- The table of numbers. -/
  numbers : cache.byId.Ageless room

/-- What a request does to the tables of a cache. -/
inductive Served (room : Nat) (cache next : ComparatorCache) : SchemeCall -> Prop where
  /-- No collator with rules is asked for. -/
  | idle
      {call : SchemeCall}
      (unasked : cache.requested? call = none ∨ cache.mode = .disabled)
      (names : next.byName.keys = cache.byName.keys)
      (numbers : next.byId.keys = cache.byId.keys)
      (builds : next.builds = cache.builds) :
      Served room cache next call
  /-- The table of numbers has the recipe, and the table of names is not asked. -/
  | fromNumbers
      {id : UInt32}
      {now : Nat}
      {key : String}
      (requested : cache.requested? (.getById id now) = some key)
      (assigned : (key, id) ∈ next.ids)
      (held : id ∈ cache.byId.keys)
      (names : next.byName.keys = cache.byName.keys)
      (numbers : next.byId.keys = latest room id cache.byId.keys)
      (builds : next.builds = cache.builds) :
      Served room cache next (.getById id now)
  /-- The table of names has the recipe for a name, and the table of numbers is not
  asked. -/
  | fromNames
      {name : String}
      {now : Nat}
      {key : String}
      (requested : cache.requested? (.get name now) = some key)
      (names : next.byName.keys = latest room key cache.byName.keys)
      (numbers : next.byId.keys = cache.byId.keys)
      (builds : next.builds = cache.builds) :
      Served room cache next (.get name now)
  /-- The table of names has the recipe or else it is built, and both tables get it. -/
  | throughNames
      {call : SchemeCall}
      {key : String}
      {id : UInt32}
      (requested : cache.requested? call = some key)
      (assigned : (key, id) ∈ next.ids)
      (asks : cache.AsksNames call)
      (names : next.byName.keys = latest room key cache.byName.keys)
      (numbers : next.byId.keys = latest room id cache.byId.keys)
      (builds : key ∈ cache.byName.keys -> next.builds = cache.builds) :
      Served room cache next call

variable {room : Nat} {cache next : ComparatorCache} {call : SchemeCall}

theorem ageless_empty
    (mode : CollationMode)
    (capacity : Nat) :
    (empty mode ⟨capacity, none⟩).Ageless (max capacity 1) :=
  ⟨SoftCache.ageless_empty capacity, SoftCache.ageless_empty capacity⟩

/-! ## What requests do -/

section Requests

variable {key name : String} {id : UInt32} {scheme : Scheme}

/-- A recipe that is handed out comes to the front of both tables, and is not built
if the table of names has it. -/
theorem Ageless.recipeOf
    (ageless : cache.Ageless room)
    (key : String)
    (id : UInt32)
    (scheme : Scheme)
    (now : Nat) :
    (cache.recipeOf key id scheme now).2.Ageless room ∧
      (cache.recipeOf key id scheme now).2.byName.keys = latest room key cache.byName.keys ∧
      (cache.recipeOf key id scheme now).2.byId.keys = latest room id cache.byId.keys ∧
      (key ∈ cache.byName.keys ->
        (cache.recipeOf key id scheme now).2.builds = cache.builds) := by
  unfold ComparatorCache.recipeOf
  split
  · next shared byName got =>
      obtain ⟨_, read, names⟩ := ageless.names.get_some got
      obtain ⟨entered, numbers⟩ := ageless.numbers.insert id shared now
      exact ⟨⟨read, entered⟩, names, numbers, fun _ => rfl⟩
  · next byName got =>
      obtain ⟨absent, read, same⟩ := ageless.names.get_none got
      let shared : SharedRecipe := ⟨cache.builds + 1, Recipe.build scheme⟩
      obtain ⟨named, names⟩ := read.insert key shared now
      obtain ⟨entered, numbers⟩ := ageless.numbers.insert id shared now
      exact ⟨⟨named, entered⟩, names.trans (congrArg _ same), numbers,
        fun present => absurd present absent⟩

theorem requested?_get
    (cache : ComparatorCache)
    (now : Nat)
    (parsed : Scheme.parse? name = some scheme)
    (notBinary : scheme.isBinary = false) :
    cache.requested? (.get name now) = some (Scheme.normalize name) := by
  simp [requested?, resolve_eq_some.mpr ⟨parsed, notBinary⟩]

@[simp] theorem byName_assignId
    (cache : ComparatorCache)
    (key : String) :
    (cache.assignId key).2.byName = cache.byName := by
  unfold assignId
  split <;> rfl

@[simp] theorem byId_assignId
    (cache : ComparatorCache)
    (key : String) :
    (cache.assignId key).2.byId = cache.byId := by
  unfold assignId
  split <;> rfl

@[simp] theorem builds_assignId
    (cache : ComparatorCache)
    (key : String) :
    (cache.assignId key).2.builds = cache.builds := by
  unfold assignId
  split <;> rfl

/-- A request for a name looks into the table of names. -/
theorem Ageless.get
    (ageless : cache.Ageless room)
    (sound : cache.Sound)
    (name : String)
    (now : Nat) :
    (cache.get name now).2.Ageless room ∧
      Served room cache (cache.get name now).2 (.get name now) := by
  unfold ComparatorCache.get
  split
  · next off => exact ⟨ageless, .idle (.inr off) rfl rfl rfl⟩
  · dsimp only
    split
    · next shared byName got =>
        have holds : cache.byName.Holds (Scheme.normalize name) shared :=
          SoftCache.holds_of_get (by rw [got])
        obtain ⟨⟨scheme, parsed, notBinary, _⟩, _⟩ := sound.byName _ shared holds
        rw [Scheme.parse?_normalize] at parsed
        obtain ⟨_, read, names⟩ := ageless.names.get_some got
        exact ⟨⟨read, ageless.numbers⟩,
          .fromNames (requested?_get cache now parsed notBinary) names rfl rfl⟩
    · next byName got =>
        obtain ⟨absent, read, same⟩ := ageless.names.get_none got
        split
        · next error resolved =>
            exact ⟨⟨read, ageless.numbers⟩,
              .idle (.inl (by simp [requested?, resolved])) same rfl rfl⟩
        · next resolved =>
            exact ⟨⟨read, ageless.numbers⟩,
              .idle (.inl (by simp [requested?, resolved])) same rfl rfl⟩
        · next scheme resolved =>
            obtain ⟨parsed, notBinary⟩ := resolve_eq_some.mp resolved
            have requested := requested?_get cache now parsed notBinary
            rw [← Scheme.parse?_normalize] at parsed
            have looked := sound.get_byName (Scheme.normalize name) now
            rw [got] at looked
            obtain ⟨_, _, assigned⟩ := looked.assignId (Scheme.normalize_normalize name) parsed
              notBinary
            have ready : (assignId { cache with byName := byName }
                (Scheme.normalize name)).2.Ageless room :=
              ⟨by simpa using read, by simpa using ageless.numbers⟩
            obtain ⟨agelessAfter, names, numbers, _⟩ := ready.recipeOf (Scheme.normalize name)
              (assignId { cache with byName := byName } (Scheme.normalize name)).1 scheme now
            rw [byName_assignId, same] at names
            rw [byId_assignId] at numbers
            refine ⟨agelessAfter, .throughNames requested ?_ trivial names numbers
              fun present => absurd present absent⟩
            rwa [ids_recipeOf]

/-- A request for an assigned number looks into the table of names only if the table of
numbers does not have it. -/
theorem Ageless.getNumbered
    (ageless : cache.Ageless room)
    (sound : cache.Sound)
    (assigned : (name, id) ∈ cache.ids)
    (now : Nat) :
    (cache.getNumbered name id now).2.Ageless room ∧
      Served room cache (cache.getNumbered name id now).2 (.getById id now) := by
  have requested : cache.requested? (.getById id now) = some name :=
    sound.numbering.find_eq_some.mpr assigned
  obtain ⟨_, scheme, parsed, notBinary⟩ := sound.numbering.named name id assigned
  unfold ComparatorCache.getNumbered
  split
  · next shared byId got =>
      obtain ⟨present, read, numbers⟩ := ageless.numbers.get_some got
      exact ⟨⟨ageless.names, read⟩, .fromNumbers requested assigned present rfl numbers rfl⟩
  · next byId got =>
      obtain ⟨absent, read, same⟩ := ageless.numbers.get_none got
      have missed : Ageless room { cache with byId := byId } := ⟨ageless.names, read⟩
      obtain ⟨agelessAfter, names, numbers, builds⟩ := missed.recipeOf name id scheme now
      dsimp only
      rw [resolve_eq_some.mpr ⟨parsed, notBinary⟩]
      refine ⟨agelessAfter, .throughNames requested ?_ absent names
        (numbers.trans (congrArg _ same)) builds⟩
      rwa [ids_recipeOf]

/-- A request for a number looks into the tables only if a name has it. -/
theorem Ageless.getById
    (ageless : cache.Ageless room)
    (sound : cache.Sound)
    (number : UInt32)
    (now : Nat) :
    (cache.getById number now).2.Ageless room ∧
      Served room cache (cache.getById number now).2 (.getById number now) := by
  unfold ComparatorCache.getById
  dsimp only
  split
  · next direct =>
      refine ⟨ageless, .idle (direct.imp (fun zero => ?_) id) rfl rfl rfl⟩
      cases named : cache.nameOf? number with
      | none => exact named
      | some name =>
          exact absurd zero (sound.numbering.ne_zero (sound.numbering.find_eq_some.mp named))
  · split
    · next name named =>
        exact ageless.getNumbered sound (sound.numbering.find_eq_some.mp named) now
    · next unnamed =>
        split <;> exact ⟨ageless, .idle (.inl unnamed) rfl rfl rfl⟩

/-- A request for the number of a name leaves the tables alone. -/
theorem Ageless.idFor
    (ageless : cache.Ageless room)
    (name : String) :
    (cache.idFor name).2.Ageless room ∧
      Served room cache (cache.idFor name).2 (.idFor name) := by
  unfold ComparatorCache.idFor
  split
  · exact ⟨ageless, .idle (.inl rfl) rfl rfl rfl⟩
  · exact ⟨ageless, .idle (.inl rfl) rfl rfl rfl⟩
  · dsimp only
    exact ⟨⟨by simpa using ageless.names, by simpa using ageless.numbers⟩,
      .idle (.inl rfl) (by simp) (by simp) (by simp)⟩

/-- Every request does one of these things to the tables and leaves them in their
room. -/
theorem Ageless.perform
    (ageless : cache.Ageless room)
    (sound : cache.Sound)
    (request : call.IsRequest) :
    (cache.perform call).Ageless room ∧ Served room cache (cache.perform call) call := by
  cases call with
  | get name now => exact ageless.get sound name now
  | getById id now => exact ageless.getById sound id now
  | idFor name => exact ageless.idFor name
  | setMode mode => exact request.elim
  | reset => exact request.elim
  | lose keepsName keepsId => exact request.elim

end Requests

/-! ## What stays -/

section Stay

variable {key : String} {others : Finset String} {number : String -> UInt32} {asked : Prop}

/-- Whether the recipe of a scheme stays in a cache, with none but some other schemes
before it. -/
structure Retains
    (others : Finset String)
    (number : String -> UInt32)
    (key : String)
    (asked : Prop)
    (cache : ComparatorCache) : Prop where
  /-- The table of names has it if it was asked for it. -/
  names : asked -> Within others key cache.byName.keys
  /-- One of the tables has it in any case. -/
  either : Within others key cache.byName.keys ∨
    Within (others.image number) (number key) cache.byId.keys

theorem Retains.of_names
    (within : Within others key cache.byName.keys) :
    cache.Retains others number key asked :=
  ⟨fun _ => within, .inl within⟩

/-- No recipe is built for a scheme that the table of names has, or if that table is
not asked. -/
theorem Served.builds_eq
    (served : Served room cache next call)
    (requested : cache.requested? call = some key)
    (held : cache.AsksNames call -> key ∈ cache.byName.keys) :
    next.builds = cache.builds := by
  cases served with
  | idle _ _ _ builds => exact builds
  | fromNumbers _ _ _ _ _ builds => exact builds
  | fromNames _ _ _ builds => exact builds
  | throughNames found _ asks _ _ builds =>
      obtain rfl := Option.some.inj (requested.symm.trans found)
      exact builds (held asks)

/-- The recipe of the scheme asked for comes to the front. -/
theorem Served.retains
    (served : Served room cache next call)
    (heeded : cache.mode ≠ .disabled)
    (requested : cache.requested? call = some key)
    (room_pos : 0 < room)
    (numbered : ∀ name id, (name, id) ∈ next.ids -> number name = id) :
    next.Retains others number key (cache.AsksNames call) := by
  cases served with
  | idle unasked _ _ _ =>
      rcases unasked with nothing | off
      · simp [nothing] at requested
      · exact absurd off heeded
  | fromNumbers found assigned held _ numbers _ =>
      obtain rfl := Option.some.inj (requested.symm.trans found)
      refine ⟨fun asks => absurd held asks, .inr ?_⟩
      rw [numbers, numbered _ _ assigned]
      exact SoftCache.within_latest room_pos _ _ _
  | fromNames found names _ _ =>
      obtain rfl := Option.some.inj (requested.symm.trans found)
      refine Retains.of_names ?_
      rw [names]
      exact SoftCache.within_latest room_pos _ _ _
  | throughNames found _ _ names _ _ =>
      obtain rfl := Option.some.inj (requested.symm.trans found)
      refine Retains.of_names ?_
      rw [names]
      exact SoftCache.within_latest room_pos _ _ _

/-- A request for one of the other schemes, or for the same, drops no recipe that stays
in the table of names. -/
theorem Served.within_names
    (served : Served room cache next call)
    (oneEach : cache.byName.keys.Nodup)
    (few : others.card < room)
    (used : ∀ other ∈ cache.requested? call, other = key ∨ other ∈ others)
    (within : Within others key cache.byName.keys) :
    Within others key next.byName.keys := by
  cases served with
  | idle _ names _ _ => exact names ▸ within
  | fromNumbers _ _ _ names _ _ => exact names ▸ within
  | fromNames requested names _ _ => exact names ▸ within.latest oneEach few (used _ requested)
  | throughNames requested _ _ names _ _ =>
      exact names ▸ within.latest oneEach few (used _ requested)

/-- The same for the table of numbers. -/
theorem Served.within_numbers
    (served : Served room cache next call)
    (oneEach : cache.byId.keys.Nodup)
    (few : others.card < room)
    (used : ∀ other ∈ cache.requested? call, other = key ∨ other ∈ others)
    (numbered : ∀ name id, (name, id) ∈ next.ids -> number name = id)
    (within : Within (others.image number) (number key) cache.byId.keys) :
    Within (others.image number) (number key) next.byId.keys := by
  have fewNumbers : (others.image number).card < room := Finset.card_image_le.trans_lt few
  have usedNumber : ∀ other id, cache.requested? call = some other -> (other, id) ∈ next.ids ->
      id = number key ∨ id ∈ others.image number := by
    intro other id requested assigned
    obtain rfl := numbered other id assigned
    exact (used other requested).imp (congrArg number) (Finset.mem_image_of_mem number)
  cases served with
  | idle _ _ numbers _ => exact numbers ▸ within
  | fromNumbers requested assigned _ _ numbers _ =>
      exact numbers ▸ within.latest oneEach fewNumbers (usedNumber _ _ requested assigned)
  | fromNames _ _ numbers _ => exact numbers ▸ within
  | throughNames requested assigned _ _ numbers _ =>
      exact numbers ▸ within.latest oneEach fewNumbers (usedNumber _ _ requested assigned)

theorem modeAfter_of_isRequest
    (request : call.IsRequest)
    (initial current : CollationMode) :
    call.modeAfter initial current = current := by
  cases call with
  | setMode mode => exact request.elim
  | reset => exact request.elim
  | _ => rfl

/-- Requests leave the mode as it is and the tables in their room. -/
theorem Ageless.after
    {calls : List SchemeCall}
    (ageless : cache.Ageless room)
    (sound : cache.Sound)
    (requests : ∀ call ∈ calls, call.IsRequest) :
    (cache.after calls).Ageless room ∧ (cache.after calls).mode = cache.mode := by
  induction calls generalizing cache with
  | nil => exact ⟨ageless, rfl⟩
  | cons call calls inductionHypothesis =>
      obtain ⟨request, further⟩ := List.forall_mem_cons.mp requests
      obtain ⟨soundNext, _, _, modeNext⟩ := sound.perform call
      rw [modeAfter_of_isRequest request] at modeNext
      obtain ⟨agelessAfter, mode⟩ :=
        inductionHypothesis (ageless.perform sound request).1 soundNext further
      exact ⟨agelessAfter, mode.trans modeNext⟩

/-- Requests for fewer other schemes than there is room for drop no recipe that stays. -/
theorem Retains.after
    {calls : List SchemeCall}
    (retains : cache.Retains others number key asked)
    (ageless : cache.Ageless room)
    (sound : cache.Sound)
    (requests : ∀ call ∈ calls, call.IsRequest)
    (few : others.card < room)
    (used : ∀ other ∈ cache.requestedIn calls, other = key ∨ other ∈ others)
    (numbered : ∀ name id, (name, id) ∈ (cache.after calls).ids -> number name = id) :
    (cache.after calls).Retains others number key asked := by
  induction calls generalizing cache with
  | nil => exact retains
  | cons call calls inductionHypothesis =>
      obtain ⟨request, further⟩ := List.forall_mem_cons.mp requests
      obtain ⟨agelessNext, served⟩ := ageless.perform sound request
      have soundNext := (sound.perform call).1
      have kept := (soundNext.after calls).2.1
      have usedNow : ∀ other ∈ cache.requested? call, other = key ∨ other ∈ others :=
        fun other requested => used other (List.mem_append_left _ (Option.mem_toList.mpr requested))
      have usedLater : ∀ other ∈ (cache.perform call).requestedIn calls,
          other = key ∨ other ∈ others :=
        fun other requested => used other (List.mem_append_right _ requested)
      have inNames := served.within_names ageless.names.nodup_keys few usedNow
      have inNumbers := served.within_numbers ageless.numbers.nodup_keys few usedNow
        fun name id assigned => numbered name id (kept.subset assigned)
      exact inductionHypothesis ⟨inNames ∘ retains.names, retains.either.imp inNames inNumbers⟩
        agelessNext soundNext further usedLater numbered

/-- The recipe of a scheme stays while fewer others than there is room for are asked
for. -/
theorem Ageless.retains_of_recent
    {first : SchemeCall}
    {later : List SchemeCall}
    (ageless : cache.Ageless room)
    (sound : cache.Sound)
    (heeded : cache.mode ≠ .disabled)
    (requests : ∀ call ∈ first :: later, call.IsRequest)
    (requested : cache.requested? first = some key)
    (few : others.card < room)
    (used : ∀ other ∈ (cache.perform first).requestedIn later, other = key ∨ other ∈ others)
    (numbered : ∀ name id, (name, id) ∈ (cache.after (first :: later)).ids -> number name = id) :
    (cache.after (first :: later)).Retains others number key (cache.AsksNames first) := by
  obtain ⟨request, further⟩ := List.forall_mem_cons.mp requests
  obtain ⟨agelessNext, served⟩ := ageless.perform sound request
  have soundNext := (sound.perform first).1
  have kept := (soundNext.after later).2.1
  have front : (cache.perform first).Retains others number key (cache.AsksNames first) :=
    served.retains heeded requested (Nat.zero_lt_of_lt few)
      fun name id assigned => numbered name id (kept.subset assigned)
  exact front.after agelessNext soundNext further few used numbered

end Stay

/-- While fewer other schemes than there is room for are asked for, the recipe of a
scheme is not built again for a request by number; nor for one by name, if the table
of names was asked when the scheme was asked for. -/
theorem builds_of_recent
    (mode : CollationMode)
    (capacity : Nat)
    (earlier later : List SchemeCall)
    (first : SchemeCall)
    (key : String)
    (requests : ∀ call ∈ earlier ++ first :: later, call.IsRequest)
    (requested : ((empty mode ⟨capacity, none⟩).after earlier).requested? first = some key)
    (few : ((((empty mode ⟨capacity, none⟩).after (earlier ++ [first])).requestedIn
      later).toFinset.erase key).card < max capacity 1) :
    let before := (empty mode ⟨capacity, none⟩).after earlier
    let cache := (empty mode ⟨capacity, none⟩).after (earlier ++ first :: later)
    (∀ id now, cache.requested? (.getById id now) = some key ->
        (cache.getById id now).2.builds = cache.builds) ∧
      (before.AsksNames first -> ∀ name now, cache.requested? (.get name now) = some key ->
        (cache.get name now).2.builds = cache.builds) := by
  intro before cache
  obtain ⟨requestsEarlier, requestsRest⟩ := List.forall_mem_append.mp requests
  have fresh := ageless_empty mode capacity
  have soundBefore := ((sound_empty mode ⟨capacity, none⟩).after earlier).1
  have sound := ((sound_empty mode ⟨capacity, none⟩).after (earlier ++ first :: later)).1
  obtain ⟨agelessBefore, modeBefore⟩ := fresh.after (sound_empty mode _) requestsEarlier
  obtain ⟨ageless, modeAfter⟩ := fresh.after (sound_empty mode _) requests
  by_cases off : cache.mode = .disabled
  · exact ⟨fun id now _ => by simp [getById, off], fun _ name now _ => by simp [get, off]⟩
  · have heeded : before.mode ≠ .disabled := fun disabled =>
      off (modeAfter.trans (modeBefore.symm.trans disabled))
    have run : cache = before.after (first :: later) := after_append ..
    have step : (empty mode ⟨capacity, none⟩).after (earlier ++ [first]) = before.perform first :=
      after_append ..
    rw [step] at few
    let others := ((before.perform first).requestedIn later).toFinset.erase key
    have used : ∀ other ∈ (before.perform first).requestedIn later,
        other = key ∨ other ∈ others := by
      intro other asked
      rcases eq_or_ne other key with same | differs
      · exact .inl same
      · exact .inr (Finset.mem_erase.mpr ⟨differs, List.mem_toFinset.mpr asked⟩)
    -- Numbers are never taken back, so those of the last cache are those of all before.
    let number := fun name => (cache.idOf? name).getD Collator.binaryId
    have numbered : ∀ name id, (name, id) ∈ cache.ids -> number name = id := by
      intro name id assigned
      have given : cache.idOf? name = some id := sound.numbering.lookup_eq_some.mpr assigned
      simp [number, given]
    have retains := agelessBefore.retains_of_recent soundBefore heeded requestsRest requested
      few used (run ▸ numbered)
    rw [← run] at retains
    refine ⟨fun id now again => ?_, fun asks name now again => ?_⟩
    · refine (ageless.getById sound id now).2.builds_eq again fun absent => ?_
      have assigned := numbered key id (sound.numbering.find_eq_some.mp again)
      exact retains.either.elim (·.mem) fun within => absurd (assigned ▸ within.mem) absent
    · exact (ageless.get sound name now).2.builds_eq again fun _ => (retains.names asks).mem

/-- A recipe that was dropped is built again by number, and then stays for its name
while one other scheme is in use. -/
theorem builds_of_recent_rebuilt :
    let earlier : List SchemeCall := [.get "en_ci" 0, .get "de_ci" 7, .get "fr_ci" 3]
    let later : List SchemeCall := [.getById 3 9, .idFor "es_ci", .get "FR_ci " 2]
    let cache := (empty .loose ⟨2, none⟩).after (earlier ++ .getById 1 5 :: later)
    cache.builds = 4 ∧ (cache.getById 1 8).2.builds = 4 ∧ (cache.get " EN_ci" 1).2.builds = 4 := by
  intro earlier later cache
  have built : cache.builds = 4 := by decide +kernel
  have requests : ∀ call ∈ earlier ++ .getById 1 5 :: later, call.IsRequest := by
    simp [earlier, later, SchemeCall.IsRequest]
  obtain ⟨byNumber, byName⟩ := builds_of_recent .loose 2 earlier later (.getById 1 5) "en_ci"
    requests (by decide +kernel) (by decide +kernel)
  have asks : ((empty .loose ⟨2, none⟩).after earlier).AsksNames (.getById 1 5) := by
    unfold AsksNames
    decide +kernel
  exact ⟨built, (byNumber 1 8 (by decide +kernel)).trans built,
    (byName asks " EN_ci" 1 (by decide +kernel)).trans built⟩

/-- A scheme in use by number alone is built again for its name, though one other scheme
was asked for and there is room for two. -/
theorem builds_again_by_name :
    let before := (empty .strict ⟨2, none⟩).after [.get "en_ci" 0, .get "de_ci" 1]
    let next := before.perform (.getById 1 2)
    let cache := next.after [.get "fr_ci" 3]
    before.requested? (.getById 1 2) = some "en_ci" ∧
      ((next.requestedIn [.get "fr_ci" 3]).toFinset.erase "en_ci").card = 1 ∧
      cache.requested? (.get "en_ci" 4) = some "en_ci" ∧
      cache.builds = 3 ∧ (cache.get "en_ci" 4).2.builds = 4 := by
  decide +kernel

end ComparatorCache
end Keyspace
