import FivetranOperator.Vault.Resolve

/-!
# What the resolver lets out of the secret values

Two secret stores that give the same answer at every path except for the values under the
keys: the same failures, and data maps with the same keys in the same enumeration order. Run
on one document, the resolver behaves alike against both: it issues the same `Get` calls, fails
with the same error at the same point, or succeeds on both. Only the resolved values differ,
and the top-level kind of the resolved document is the kind of the document unless the document
is itself a reference.

The relation on the walk's state is carried through the mutual recursion as `Agrees` carries
`CacheSound`: the caches hold maps with the same keys at the same paths.
-/

namespace FivetranOperator

/-- Two answers of a `Get` that differ at most in the values: the same failure, or maps with the
same keys, in the order the key-not-found message lists them. -/
def SecretFetch.LowEquiv : SecretFetch → SecretFetch → Prop
  | .apiError e, .apiError e' => e = e'
  | .noData, .noData => True
  | .notKV, .notKV => True
  | .data d, .data d' => d.keys = d'.keys
  | _, _ => False

/-- Two stores with the same paths, outcomes and keys: they differ in secret values only. -/
def SecretStore.LowEquiv (store₁ store₂ : SecretStore) : Prop :=
  ∀ path, (store₁ path).LowEquiv (store₂ path)

/-- Two resolver states with the same `Get` log and caches that hold maps with the same keys at
the same paths. -/
def ResolverState.LowEquiv (st₁ st₂ : ResolverState) : Prop :=
  st₁.gets = st₂.gets ∧
    ∀ path, Option.Rel (fun d₁ d₂ => GoMap.keys d₁ = GoMap.keys d₂) (st₁.cache.get? path)
      (st₂.cache.get? path)

/-- Two resolver results alike up to `rel` on the values: both succeed, or both fail with the
same error, and the states stay low-equivalent. -/
def ResultLow {α : Type} (rel : α → α → Prop) :
    EStateM.Result GoError ResolverState α → EStateM.Result GoError ResolverState α → Prop
  | .ok a₁ st₁, .ok a₂ st₂ => rel a₁ a₂ ∧ st₁.LowEquiv st₂
  | .error e₁ st₁, .error e₂ st₂ => e₁ = e₂ ∧ st₁.LowEquiv st₂
  | _, _ => False

/-- Two resolver steps alike from every pair of low-equivalent states. -/
def Low {α : Type} (rel : α → α → Prop) (x₁ x₂ : ResolveM α) : Prop :=
  ∀ st₁ st₂, st₁.LowEquiv st₂ → ResultLow rel (x₁ st₁) (x₂ st₂)

section Low

variable {α β : Type} {rel : α → α → Prop}

/-- Two related values returned. -/
theorem Low.pure {a₁ a₂ : α} (h : rel a₁ a₂) : Low rel (Pure.pure a₁) (Pure.pure a₂) :=
  fun _ _ hst => ⟨h, hst⟩

/-- One error on both sides. -/
theorem Low.throw (e : GoError) : Low rel (MonadExcept.throw e) (MonadExcept.throw e) :=
  fun _ _ hst => ⟨rfl, hst⟩

/-- Sequencing keeps the two runs in step. -/
theorem Low.bind {x₁ x₂ : ResolveM α} {f₁ f₂ : α → ResolveM β} {rel' : β → β → Prop}
    (hx : Low rel x₁ x₂) (hf : ∀ a₁ a₂, rel a₁ a₂ → Low rel' (f₁ a₁) (f₂ a₂)) :
    Low rel' (x₁ >>= f₁) (x₂ >>= f₂) := by
  intro st₁ st₂ hst
  have h := hx st₁ st₂ hst
  show ResultLow rel' (EStateM.bind x₁ f₁ st₁) (EStateM.bind x₂ f₂ st₂)
  unfold EStateM.bind
  rcases hx₁ : x₁ st₁ with ⟨a₁, s₁⟩ | ⟨e₁, s₁⟩ <;> rcases hx₂ : x₂ st₂ with ⟨a₂, s₂⟩ | ⟨e₂, s₂⟩ <;>
    rw [hx₁, hx₂] at h
  · exact hf a₁ a₂ h.1 s₁ s₂ h.2
  · exact h.elim
  · exact h.elim
  · exact h

/-- Mapping related results keeps them related. -/
theorem Low.map {x₁ x₂ : ResolveM α} {rel' : β → β → Prop} (f : α → β) (hx : Low rel x₁ x₂)
    (hf : ∀ a₁ a₂, rel a₁ a₂ → rel' (f a₁) (f a₂)) : Low rel' (f <$> x₁) (f <$> x₂) := by
  intro st₁ st₂ hst
  have h := hx st₁ st₂ hst
  show ResultLow rel' (EStateM.map f x₁ st₁) (EStateM.map f x₂ st₂)
  unfold EStateM.map
  rcases hx₁ : x₁ st₁ with ⟨a₁, s₁⟩ | ⟨e₁, s₁⟩ <;> rcases hx₂ : x₂ st₂ with ⟨a₂, s₂⟩ | ⟨e₂, s₂⟩ <;>
    rw [hx₁, hx₂] at h
  · exact ⟨hf a₁ a₂ h.1, h.2⟩
  · exact h.elim
  · exact h.elim
  · exact h

end Low

/-- Entry lists with the same keys have a value under the same keys. -/
theorem GoMap.lookupEntry_isSome_of_keys {α : Type} (k : String) :
    ∀ (entries₁ entries₂ : List (String × α)), entries₁.map Prod.fst = entries₂.map Prod.fst →
      (GoMap.lookupEntry k entries₁).isSome = (GoMap.lookupEntry k entries₂).isSome
  | [], [], _ => rfl
  | e₁ :: rest₁, e₂ :: rest₂, h => by
    simp only [List.map_cons, List.cons.injEq] at h
    simp only [GoMap.lookupEntry, h.1]
    split
    · rfl
    · exact GoMap.lookupEntry_isSome_of_keys k rest₁ rest₂ h.2

/-- Caching the two maps a `Get` returned keeps the states low-equivalent. -/
theorem ResolverState.LowEquiv.insert {st₁ st₂ : ResolverState} (hst : st₁.LowEquiv st₂)
    (path : String) {d₁ d₂ : GoMap JsonValue} (hd : d₁.keys = d₂.keys) :
    ResolverState.LowEquiv { st₁ with cache := st₁.cache.insert path d₁ }
      { st₂ with cache := st₂.cache.insert path d₂ } := by
  refine ⟨hst.1, fun p => ?_⟩
  by_cases hp : p = path
  · subst hp
    simp only [GoMap.get?_insert_self]
    exact .some hd
  · simp only [GoMap.get?_insert_ne _ _ hp]
    exact hst.2 p

section Walk

variable {store₁ store₂ : SecretStore}

/-- `getPathData` hits the cache on both sides or fetches on both, with maps of the same keys. -/
theorem getPathData_low (hstore : store₁.LowEquiv store₂) (path keyPath vaultRef : String) :
    Low (fun d₁ d₂ => GoMap.keys d₁ = GoMap.keys d₂)
      (getPathData store₁ path keyPath vaultRef) (getPathData store₂ path keyPath vaultRef) := by
  intro st₁ st₂ hst
  unfold getPathData
  have hcache := hst.2 path
  rcases hc₁ : st₁.cache.get? path with _ | d₁ <;> rcases hc₂ : st₂.cache.get? path with _ | d₂ <;>
    rw [hc₁, hc₂] at hcache
  · have hst' : ResolverState.LowEquiv { st₁ with gets := st₁.gets ++ [path] }
        { st₂ with gets := st₂.gets ++ [path] } := ⟨by rw [hst.1], hst.2⟩
    have hfetch := hstore path
    rcases hs₁ : store₁ path <;> rcases hs₂ : store₂ path <;> rw [hs₁, hs₂] at hfetch <;>
      first | exact hfetch.elim | skip
    · exact ⟨by rw [hfetch], hst'⟩
    · exact ⟨rfl, hst'⟩
    · exact ⟨rfl, hst'⟩
    · exact ⟨hfetch, hst'.insert path hfetch⟩
  · cases hcache
  · cases hcache
  · cases hcache with
    | some hd => exact ⟨hd, hst⟩

/-- One string resolves on both sides or fails on both with the same error. -/
theorem resolveString_low (hstore : store₁.LowEquiv store₂) (s keyPath : String) :
    Low (fun _ _ => True) (resolveString store₁ s keyPath) (resolveString store₂ s keyPath) := by
  unfold resolveString
  cases hasPrefix s "vault:" with
  | false => exact Low.pure trivial
  | true =>
    cases parseVaultReference s with
    | error err => exact Low.throw _
    | ok pk =>
      refine (getPathData_low hstore pk.1 keyPath s).bind fun d₁ d₂ hd => ?_
      have hsome := GoMap.lookupEntry_isSome_of_keys pk.2 d₁.entries d₂.entries hd
      rcases h₁ : d₁.get? pk.2 with _ | v₁ <;> rcases h₂ : d₂.get? pk.2 with _ | v₂ <;>
        simp only [GoMap.get?] at h₁ h₂ <;> rw [h₁, h₂] at hsome <;> cases hsome
      · rw [show d₁.keys = d₂.keys from hd]
        exact Low.throw _
      · exact Low.pure trivial

mutual
/-- The walk on any document behaves alike against both stores. -/
theorem resolveValue_low (hstore : store₁.LowEquiv store₂) :
    ∀ (v : JsonValue) (keyPath : String),
      Low (fun _ _ => True) (resolveValue store₁ v keyPath) (resolveValue store₂ v keyPath)
  | .null, _ => Low.pure trivial
  | .bool _, _ => Low.pure trivial
  | .number _, _ => Low.pure trivial
  | .string s, keyPath => resolveString_low hstore s keyPath
  | .array items, keyPath => (resolveSlice_low hstore items keyPath 0).map _ fun _ _ _ => trivial
  | .object entries, keyPath => (resolveMap_low hstore entries keyPath).map _ fun _ _ _ => trivial
/-- The walk over an object's entries behaves alike against both stores. -/
theorem resolveMap_low (hstore : store₁.LowEquiv store₂) :
    ∀ (entries : List (String × JsonValue)) (keyPath : String),
      Low (fun _ _ => True) (resolveMap store₁ entries keyPath) (resolveMap store₂ entries keyPath)
  | [], _ => Low.pure trivial
  | (key, value) :: rest, keyPath =>
    (resolveValue_low hstore value (buildKeyPath keyPath key)).bind fun _ _ _ =>
      (resolveMap_low hstore rest keyPath).bind fun _ _ _ => Low.pure trivial
/-- The walk over an array behaves alike against both stores. -/
theorem resolveSlice_low (hstore : store₁.LowEquiv store₂) :
    ∀ (items : List JsonValue) (keyPath : String) (i : Nat),
      Low (fun _ _ => True) (resolveSlice store₁ items keyPath i) (resolveSlice store₂ items keyPath i)
  | [], _, _ => Low.pure trivial
  | item :: rest, keyPath, i =>
    (resolveValue_low hstore item _).bind fun _ _ _ =>
      (resolveSlice_low hstore rest keyPath (i + 1)).bind fun _ _ _ => Low.pure trivial
end

end Walk

end FivetranOperator
