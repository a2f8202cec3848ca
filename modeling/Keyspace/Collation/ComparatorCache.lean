import Keyspace.Cache.SoftCache
import Keyspace.Collation.Mode
import Keyspace.Collation.Recipe

/-!
# Comparator caches

A comparator cache hands out collators by scheme name or by number.  Every
scheme that is not binary gets a number when it is first asked for and keeps
it.  Recipes are shared: a recipe is built when neither table of the cache
holds it, and lives until it is evicted or expires.
-/

namespace Keyspace

/-- A recipe that collators share. -/
structure SharedRecipe where
  /-- The number of the build that made it; the binary one is never built. -/
  serial : Nat
  /-- The recipe. -/
  recipe : Recipe
  deriving DecidableEq, Repr

namespace SharedRecipe

/-- The recipe of bytewise comparison. -/
def binary : SharedRecipe := ⟨0, Recipe.binary⟩

end SharedRecipe

/-- What compares the texts of a column. -/
structure Collator where
  /-- The scheme name it was asked for by. -/
  name : String
  /-- The number of the scheme; zero for bytewise comparison. -/
  id : UInt32
  /-- The rules. -/
  shared : SharedRecipe
  deriving DecidableEq, Repr

namespace Collator

/-- The number of bytewise comparison. -/
def binaryId : UInt32 := 0

/-- A collator that compares bytes, whatever it is called. -/
def binary (name : String) : Collator :=
  ⟨name, binaryId, SharedRecipe.binary⟩

/-- Whether texts compare by their bytes. -/
def isBinary (collator : Collator) : Bool :=
  collator.shared.recipe.isBinary

/-- The sort key of a text. -/
def sortKey (collator : Collator) (text : String) : Bytes :=
  collator.shared.recipe.sortKey text

/-- The order of two texts. -/
def compare (collator : Collator) (left right : String) : Ordering :=
  collator.shared.recipe.compare left right

end Collator

/-- A cache of recipes with the numbers of all schemes asked for. -/
structure ComparatorCache where
  /-- The mode that a reset goes back to. -/
  initialMode : CollationMode
  /-- The mode in force. -/
  mode : CollationMode
  /-- The normalized scheme names with their numbers, in the order in which
  they were given. -/
  ids : List (String × UInt32)
  /-- The recipes by normalized name. -/
  byName : SoftCache String SharedRecipe
  /-- The recipes by number. -/
  byId : SoftCache UInt32 SharedRecipe
  /-- How many recipes were built. -/
  builds : Nat
  deriving DecidableEq, Repr

namespace ComparatorCache

/-- An empty cache in a mode. -/
def empty (mode : CollationMode) (limits : CacheLimits) : ComparatorCache :=
  ⟨mode, mode, [], SoftCache.empty limits, SoftCache.empty limits, 0⟩

/-- How many recipes the cache holds. -/
def cachedRecipes (cache : ComparatorCache) : Nat :=
  cache.byName.size

/-- Go over to a mode.  Recipes are dropped, numbers are kept. -/
def setMode (cache : ComparatorCache) (mode : CollationMode) : ComparatorCache :=
  { cache with mode := mode, byName := cache.byName.clear, byId := cache.byId.clear }

/-- Go back to the first mode. -/
def reset (cache : ComparatorCache) : ComparatorCache :=
  cache.setMode cache.initialMode

/-! ## Numbers -/

/-- The number of a normalized name, if it has one. -/
def idOf? (cache : ComparatorCache) (key : String) : Option UInt32 :=
  cache.ids.lookup key

/-- The normalized name that has a number. -/
def nameOf? (cache : ComparatorCache) (id : UInt32) : Option String :=
  (cache.ids.find? fun assigned => assigned.2 == id).map (·.1)

/-- The number of a normalized name, the next free one if it has none. -/
def assignId (cache : ComparatorCache) (key : String) : UInt32 × ComparatorCache :=
  match cache.idOf? key with
  | some id => (id, cache)
  | none =>
      let id := UInt32.ofNat (cache.ids.length + 1)
      (id, { cache with ids := cache.ids ++ [(key, id)] })

/-! ## Recipes -/

/-- The scheme of a name under a mode; none compares bytes. -/
def resolve (mode : CollationMode) (name : String) : Except Error (Option Scheme) :=
  match Scheme.parse? name with
  | some scheme => .ok (if scheme.isBinary then none else some scheme)
  | none => if mode = .strict then .error (.unknownCollation name) else .ok none

/-- The recipe of a scheme, from the table of names or else built. -/
def recipeOf
    (cache : ComparatorCache)
    (key : String)
    (id : UInt32)
    (scheme : Scheme)
    (now : Nat) : SharedRecipe × ComparatorCache :=
  match cache.byName.get key now with
  | (some shared, byName) =>
      (shared, { cache with byName := byName, byId := (cache.byId.insert id shared now).2 })
  | (none, byName) =>
      let shared : SharedRecipe := ⟨cache.builds + 1, Recipe.build scheme⟩
      (shared,
        { cache with
          byName := (byName.insert key shared now).2
          byId := (cache.byId.insert id shared now).2
          builds := cache.builds + 1 })

/-- The collator of a scheme name. -/
def get (cache : ComparatorCache) (name : String) (now : Nat) :
    Except Error Collator × ComparatorCache :=
  if cache.mode = .disabled then (.ok (Collator.binary name), cache)
  else
    let key := Scheme.normalize name
    match cache.byName.get key now with
    | (some shared, byName) =>
        let id := (cache.idOf? key).getD Collator.binaryId
        (.ok ⟨name, id, shared⟩, { cache with byName := byName })
    | (none, byName) =>
        let missed := { cache with byName := byName }
        match resolve cache.mode name with
        | .error error => (.error error, missed)
        | .ok none => (.ok (Collator.binary name), missed)
        | .ok (some scheme) =>
            let (id, numbered) := missed.assignId key
            let (shared, ready) := numbered.recipeOf key id scheme now
            (.ok ⟨name, id, shared⟩, ready)

/-- The collator of a name that has a number. -/
def getNumbered (cache : ComparatorCache) (name : String) (id : UInt32) (now : Nat) :
    Except Error Collator × ComparatorCache :=
  match cache.byId.get id now with
  | (some shared, byId) => (.ok ⟨name, id, shared⟩, { cache with byId := byId })
  | (none, byId) =>
      let missed := { cache with byId := byId }
      match resolve cache.mode name with
      | .error error => (.error error, missed)
      | .ok none => (.ok (Collator.binary name), missed)
      | .ok (some scheme) =>
          let (shared, ready) := missed.recipeOf name id scheme now
          (.ok ⟨name, id, shared⟩, ready)

/-- The collator of a number. -/
def getById (cache : ComparatorCache) (id : UInt32) (now : Nat) :
    Except Error Collator × ComparatorCache :=
  let name? := cache.nameOf? id
  if id = Collator.binaryId ∨ cache.mode = .disabled then
    (.ok (Collator.binary (name?.getD Scheme.binaryName)), cache)
  else
    match name? with
    | some name => cache.getNumbered name id now
    | none =>
        if cache.mode = .strict then
          (.error (.unknownCollation s!"#{id.toNat}"), cache)
        else (.ok (Collator.binary Scheme.binaryName), cache)

/-- The number of a scheme name; binary ones share a number. -/
def idFor (cache : ComparatorCache) (name : String) : Except Error UInt32 × ComparatorCache :=
  match resolve cache.mode name with
  | .error error => (.error error, cache)
  | .ok none => (.ok Collator.binaryId, cache)
  | .ok (some _) =>
      let (id, numbered) := cache.assignId (Scheme.normalize name)
      (.ok id, numbered)

/-- A short description of the cache, for people. -/
def describe (cache : ComparatorCache) : String :=
  s!"ComparatorCache \x7b mode: {cache.mode.title}, schemes: {cache.ids.length}, "
    ++ s!"cached: {cache.cachedRecipes} \x7d"

end ComparatorCache
end Keyspace
