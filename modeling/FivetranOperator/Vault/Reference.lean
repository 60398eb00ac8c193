import FivetranOperator.Vault.Resolve

/-!
# Resolution computes the reference semantics

The pure meaning of a document against a fixed store: maps and arrays resolve element-wise, a
`vault:` string becomes the value at its key of the data stored at its path, everything else
stays. `resolveSecrets` succeeds exactly when this meaning is defined, then replaces `Raw` by
it, and otherwise leaves `Raw` untouched. The walk's cache never changes an answer because it
only ever holds maps the store itself returned (`CacheSound`), which is the invariant carried
through the mutual recursion.
-/

namespace FivetranOperator

/-- The data map a store holds at a path, `none` for every other answer. -/
def storedData (store : SecretStore) (path : String) : Option (GoMap JsonValue) :=
  match store path with
  | .data values => some values
  | _ => none

/-- The meaning of one string: itself, or the value its reference names. -/
def resolveReference (store : SecretStore) (s : String) : Option JsonValue :=
  if hasPrefix s "vault:" then
    match parseVaultReference s with
    | .ok (path, key) => (storedData store path).bind (·.get? key)
    | .error _ => none
  else some (.string s)

mutual
/-- The meaning of a document against a store, `none` when some reference fails. -/
def referenceResolution (store : SecretStore) : JsonValue → Option JsonValue
  | .object entries => .object <$> referenceResolutionMap store entries
  | .array items => .array <$> referenceResolutionList store items
  | .string s => resolveReference store s
  | v => some v
/-- Element-wise meaning of an object's entries, keys unchanged. -/
def referenceResolutionMap (store : SecretStore) :
    List (String × JsonValue) → Option (List (String × JsonValue))
  | [] => some []
  | (key, value) :: rest => do
    let resolved ← referenceResolution store value
    let others ← referenceResolutionMap store rest
    pure ((key, resolved) :: others)
/-- Element-wise meaning of an array. -/
def referenceResolutionList (store : SecretStore) : List JsonValue → Option (List JsonValue)
  | [] => some []
  | item :: rest => do
    let resolved ← referenceResolution store item
    let others ← referenceResolutionList store rest
    pure (resolved :: others)
end

/-- Every cached map is what the store holds at its path. -/
def CacheSound (store : SecretStore) (st : ResolverState) : Prop :=
  ∀ path values, st.cache.get? path = some values → store path = .data values

/-- A resolver result is the expected value when there is one and an error otherwise, with a
sound cache either way. -/
def ResultAgrees {α : Type} (store : SecretStore) (expected : Option α) :
    EStateM.Result GoError ResolverState α → Prop
  | .ok a st' => expected = some a ∧ CacheSound store st'
  | .error _ st' => expected = none ∧ CacheSound store st'

/-- A resolver step agrees with the expected value from every sound cache. -/
def Agrees {α : Type} (store : SecretStore) (x : ResolveM α) (expected : Option α) : Prop :=
  ∀ st, CacheSound store st → ResultAgrees store expected (x st)

section Agrees

variable {α β : Type} {store : SecretStore}

/-- A returned value agrees with itself. -/
theorem Agrees.pure (a : α) : Agrees store (Pure.pure a : ResolveM α) (some a) :=
  fun _ hst => ⟨rfl, hst⟩

/-- An error agrees with no value. -/
theorem Agrees.throw (e : GoError) : Agrees store (MonadExcept.throw e : ResolveM α) none :=
  fun _ hst => ⟨rfl, hst⟩

/-- Sequencing keeps the agreement. -/
theorem Agrees.bind {x : ResolveM α} {f : α → ResolveM β} {ex : Option α} {g : α → Option β}
    (hx : Agrees store x ex) (hf : ∀ a, Agrees store (f a) (g a)) :
    Agrees store (x >>= f) (ex >>= g) := by
  intro st hst
  have h := hx st hst
  show ResultAgrees store _ (EStateM.bind x f st)
  unfold EStateM.bind
  cases hxs : x st with
  | ok a s => rw [hxs] at h; obtain ⟨rfl, h'⟩ := h; exact hf a s h'
  | error e s => rw [hxs] at h; obtain ⟨rfl, h'⟩ := h; exact ⟨rfl, h'⟩

/-- Mapping keeps the agreement. -/
theorem Agrees.map {x : ResolveM α} {ex : Option α} (f : α → β) (hx : Agrees store x ex) :
    Agrees store (f <$> x) (f <$> ex) := by
  intro st hst
  have h := hx st hst
  show ResultAgrees store _ (EStateM.map f x st)
  unfold EStateM.map
  cases hxs : x st with
  | ok a s => rw [hxs] at h; obtain ⟨rfl, h'⟩ := h; exact ⟨rfl, h'⟩
  | error e s => rw [hxs] at h; obtain ⟨rfl, h'⟩ := h; exact ⟨rfl, h'⟩

end Agrees

/-- A sound cache stays sound when the store's own map is added. -/
theorem CacheSound.insert {store : SecretStore} {st : ResolverState} (hst : CacheSound store st)
    {path : String} {values : GoMap JsonValue} (hpath : store path = .data values) (gets : List String) :
    CacheSound store ⟨st.cache.insert path values, gets⟩ := by
  intro p v hp
  by_cases h : p = path
  · subst h
    simp only [GoMap.get?_insert_self, Option.some.injEq] at hp
    exact hp ▸ hpath
  · exact hst p v (by simpa [h] using hp)

/-- `getPathData` returns what the store holds, fetched or cached. -/
theorem getPathData_agrees (store : SecretStore) (path keyPath vaultRef : String) :
    Agrees store (getPathData store path keyPath vaultRef) (storedData store path) := by
  intro st hst
  unfold getPathData storedData
  cases hc : st.cache.get? path with
  | some values => rw [hst path values hc]; exact ⟨rfl, hst⟩
  | none =>
    cases hs : store path with
    | apiError err => exact ⟨rfl, hst⟩
    | noData => exact ⟨rfl, hst⟩
    | notKV => exact ⟨rfl, hst⟩
    | data values => exact ⟨rfl, hst.insert hs _⟩

/-- One string resolves as its reference semantics says. -/
theorem resolveString_agrees (store : SecretStore) (s keyPath : String) :
    Agrees store (resolveString store s keyPath) (resolveReference store s) := by
  unfold resolveString resolveReference
  cases hasPrefix s "vault:" with
  | false => exact Agrees.pure _
  | true =>
    cases parseVaultReference s with
    | error err => exact Agrees.throw _
    | ok pk =>
      refine (getPathData_agrees store pk.1 keyPath s).bind fun values => ?_
      cases values.get? pk.2 with
      | some v => exact Agrees.pure v
      | none => exact Agrees.throw _

mutual
/-- The walk agrees with the reference semantics on every document. -/
theorem resolveValue_agrees (store : SecretStore) :
    ∀ (v : JsonValue) (keyPath : String),
      Agrees store (resolveValue store v keyPath) (referenceResolution store v)
  | .null, _ => Agrees.pure _
  | .bool _, _ => Agrees.pure _
  | .number _, _ => Agrees.pure _
  | .string s, keyPath => resolveString_agrees store s keyPath
  | .array items, keyPath => (resolveSlice_agrees store items keyPath 0).map _
  | .object entries, keyPath => (resolveMap_agrees store entries keyPath).map _
/-- The walk over an object's entries agrees with their element-wise meaning. -/
theorem resolveMap_agrees (store : SecretStore) :
    ∀ (entries : List (String × JsonValue)) (keyPath : String),
      Agrees store (resolveMap store entries keyPath) (referenceResolutionMap store entries)
  | [], _ => Agrees.pure _
  | (key, value) :: rest, keyPath =>
    (resolveValue_agrees store value (buildKeyPath keyPath key)).bind fun _ =>
      (resolveMap_agrees store rest keyPath).bind fun _ => Agrees.pure _
/-- The walk over an array agrees with its element-wise meaning. -/
theorem resolveSlice_agrees (store : SecretStore) :
    ∀ (items : List JsonValue) (keyPath : String) (i : Nat),
      Agrees store (resolveSlice store items keyPath i) (referenceResolutionList store items)
  | [], _, _ => Agrees.pure _
  | item :: rest, keyPath, i =>
    (resolveValue_agrees store item _).bind fun _ =>
      (resolveSlice_agrees store rest keyPath (i + 1)).bind fun _ => Agrees.pure _
end

/-- `ResolveSecrets` is the reference resolution, whatever the enumeration order of the maps:
it succeeds exactly when the resolution is defined, then `Raw` holds the resolved document,
and on failure `Raw` is the document it was given. -/
theorem resolveSecrets_eq_referenceResolution (store : SecretStore) (doc : JsonValue) :
    (resolveSecrets store (some ⟨some doc⟩)).err.isNone = (referenceResolution store doc).isSome ∧
      (resolveSecrets store (some ⟨some doc⟩)).rawConfig =
        some ⟨some ((referenceResolution store doc).getD doc)⟩ := by
  have h : ResultAgrees store (referenceResolution store doc)
      ((resolveValue store doc "").run ResolverState.empty) :=
    resolveValue_agrees store doc "" ResolverState.empty fun _ _ h => by
      simp [ResolverState.empty] at h
  simp only [resolveSecrets]
  cases hres : (resolveValue store doc "").run ResolverState.empty with
  | ok v st => rw [hres] at h; simp [h.1]
  | error e st => rw [hres] at h; simp [h.1]

end FivetranOperator
