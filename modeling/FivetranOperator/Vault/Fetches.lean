import FivetranOperator.Vault.Resolve

/-!
# One fetch per path

The cache of one `ResolveSecrets` call holds exactly the paths already fetched (`FetchLog`):
a path enters the log with its fetch and the cache with the fetch's success, and the first
failure ends the walk. So a path is fetched at most once, only when a well-formed reference in
the document names it, and a walk that succeeds has fetched every path its references name,
however many references name it.

`Fetches paths x` is the contract of one step of the walk: the paths it may add to the log, all
of which it has fetched or found cached when it succeeds. Contracts compose through bind, and
the walk's contract follows the document.
-/

namespace FivetranOperator

/-- The path a string names, when it is a well-formed reference. -/
def referencedPath (s : String) : Option String :=
  if hasPrefix s "vault:" then
    match parseVaultReference s with
    | .ok (path, _) => some path
    | .error _ => none
  else none

mutual
/-- The paths a document's references name, in walk order, with repeats. -/
def referencedPaths : JsonValue → List String
  | .object entries => referencedPathsMap entries
  | .array items => referencedPathsList items
  | .string s => (referencedPath s).toList
  | _ => []
/-- The paths the references in an object's values name. -/
def referencedPathsMap : List (String × JsonValue) → List String
  | [] => []
  | (_, value) :: rest => referencedPaths value ++ referencedPathsMap rest
/-- The paths the references in an array's items name. -/
def referencedPathsList : List JsonValue → List String
  | [] => []
  | item :: rest => referencedPaths item ++ referencedPathsList rest
end

/-- The paths the document of a `RawExtension` names. -/
def rawReferencedPaths : Option RawExtension → List String
  | some ⟨some doc⟩ => referencedPaths doc
  | _ => []

/-- The log holds each path once, and exactly the cached ones. -/
def FetchLog (st : ResolverState) : Prop :=
  st.gets.Nodup ∧ ∀ path, path ∈ st.gets ↔ (st.cache.get? path).isSome

/-- The log grew by paths among `paths`. -/
def LogGrows (paths : List String) (st st' : ResolverState) : Prop :=
  ∃ fresh, st'.gets = st.gets ++ fresh ∧ fresh ⊆ paths

/-- What a step leaves of the log: a consistent log that covers `paths` on success, a log
without repeats on failure, grown by paths among `paths` either way. -/
def FetchResult {α : Type} (paths : List String) (st : ResolverState) :
    EStateM.Result GoError ResolverState α → Prop
  | .ok _ st' => FetchLog st' ∧ LogGrows paths st st' ∧ paths ⊆ st'.gets
  | .error _ st' => st'.gets.Nodup ∧ LogGrows paths st st'

/-- A step that fetches only among `paths`, and has every one of them in the log on success. -/
def Fetches {α : Type} (paths : List String) (x : ResolveM α) : Prop :=
  ∀ st, FetchLog st → FetchResult paths st (x st)

/-- The empty state logs no fetch. -/
theorem FetchLog.empty : FetchLog ResolverState.empty :=
  ⟨List.nodup_nil, fun _ => by simp [ResolverState.empty]⟩

/-- A state grows into itself by no fetch. -/
theorem LogGrows.refl (paths : List String) (st : ResolverState) : LogGrows paths st st :=
  ⟨[], by simp, List.nil_subset _⟩

/-- Growth by two lists of fetches composes. -/
theorem LogGrows.trans {P Q : List String} {st₁ st₂ st₃ : ResolverState}
    (h₁ : LogGrows P st₁ st₂) (h₂ : LogGrows Q st₂ st₃) : LogGrows (P ++ Q) st₁ st₃ := by
  obtain ⟨fresh₁, hgets₁, hsub₁⟩ := h₁
  obtain ⟨fresh₂, hgets₂, hsub₂⟩ := h₂
  refine ⟨fresh₁ ++ fresh₂, by rw [hgets₂, hgets₁, List.append_assoc], ?_⟩
  exact List.append_subset.mpr ⟨hsub₁.trans (List.subset_append_left _ _),
    hsub₂.trans (List.subset_append_right _ _)⟩

/-- Paths in the log stay in it. -/
theorem LogGrows.subset {P : List String} {st st' : ResolverState} (h : LogGrows P st st') :
    st.gets ⊆ st'.gets := by
  obtain ⟨fresh, hgets, -⟩ := h
  rw [hgets]
  exact List.subset_append_left _ _

section Contract

variable {α β : Type} {P Q : List String}

/-- A returned value fetches nothing. -/
theorem Fetches.pure (a : α) : Fetches [] (Pure.pure a : ResolveM α) :=
  fun st hst => ⟨hst, .refl _ st, List.nil_subset _⟩

/-- An error fetches nothing. -/
theorem Fetches.throw (e : GoError) : Fetches [] (MonadExcept.throw e : ResolveM α) :=
  fun st hst => ⟨hst.1, .refl _ st⟩

/-- Only membership in `paths` matters. -/
theorem Fetches.congr {x : ResolveM α} (hx : Fetches P x) (h : ∀ p, p ∈ P ↔ p ∈ Q) :
    Fetches Q x := by
  have hPQ : P ⊆ Q := fun p hp => (h p).mp hp
  have hQP : Q ⊆ P := fun p hp => (h p).mpr hp
  intro st hst
  have hr := hx st hst
  revert hr
  cases x st with
  | ok a st' =>
    rintro ⟨hlog, ⟨fresh, hgets, hsub⟩, hcover⟩
    exact ⟨hlog, ⟨fresh, hgets, hsub.trans hPQ⟩, hQP.trans hcover⟩
  | error e st' =>
    rintro ⟨hnodup, ⟨fresh, hgets, hsub⟩⟩
    exact ⟨hnodup, ⟨fresh, hgets, hsub.trans hPQ⟩⟩

/-- Sequencing fetches the first action's paths, then the continuation's. -/
theorem Fetches.bind {x : ResolveM α} {f : α → ResolveM β} (hx : Fetches P x)
    (hf : ∀ a, Fetches Q (f a)) : Fetches (P ++ Q) (x >>= f) := by
  intro st hst
  have h := hx st hst
  show FetchResult _ st (EStateM.bind x f st)
  unfold EStateM.bind
  cases hxs : x st with
  | error e s => rw [hxs] at h; exact ⟨h.1, h.2.trans (.refl Q s)⟩
  | ok a s =>
    rw [hxs] at h
    obtain ⟨hlog, hgrow, hcover⟩ := h
    have h' := hf a s hlog
    show FetchResult (P ++ Q) st (f a s)
    revert h'
    cases f a s with
    | ok b s' =>
      rintro ⟨hlog', hgrow', hcover'⟩
      exact ⟨hlog', hgrow.trans hgrow',
        List.append_subset.mpr ⟨hcover.trans hgrow'.subset, hcover'⟩⟩
    | error e s' =>
      rintro ⟨hnodup, hgrow'⟩
      exact ⟨hnodup, hgrow.trans hgrow'⟩

/-- Mapping the result fetches what the action fetches. -/
theorem Fetches.map {x : ResolveM α} (f : α → β) (hx : Fetches P x) : Fetches P (f <$> x) := by
  intro st hst
  have h := hx st hst
  show FetchResult _ st (EStateM.map f x st)
  unfold EStateM.map
  cases hxs : x st with
  | ok a s => rw [hxs] at h; exact h
  | error e s => rw [hxs] at h; exact h

end Contract

/-- `getPathData` fetches its path unless it is cached, and caches it when the fetch succeeds. -/
theorem getPathData_fetches (store : SecretStore) (path keyPath vaultRef : String) :
    Fetches [path] (getPathData store path keyPath vaultRef) := by
  rintro st ⟨hnodup, hcached⟩
  unfold getPathData
  cases hc : st.cache.get? path with
  | some values =>
    exact ⟨⟨hnodup, hcached⟩, .refl _ st, List.cons_subset.mpr ⟨(hcached path).mpr (by simp [hc]), List.nil_subset _⟩⟩
  | none =>
    have hfresh : path ∉ st.gets := fun h => by simpa [hc] using (hcached path).mp h
    have hnodup' : (st.gets ++ [path]).Nodup :=
      List.nodup_append.mpr ⟨hnodup, List.nodup_singleton _, by simpa using hfresh⟩
    have hgrow : LogGrows [path] st { st with gets := st.gets ++ [path] } :=
      ⟨[path], rfl, List.Subset.refl _⟩
    cases store path with
    | apiError err => exact ⟨hnodup', hgrow⟩
    | noData => exact ⟨hnodup', hgrow⟩
    | notKV => exact ⟨hnodup', hgrow⟩
    | data values =>
      refine ⟨⟨hnodup', fun p => ?_⟩, hgrow, by simp⟩
      by_cases hp : p = path
      · subst hp; simp
      · simp [hp, hcached p]

/-- One string fetches the path it names, if it is a well-formed reference. -/
theorem resolveString_fetches (store : SecretStore) (s keyPath : String) :
    Fetches (referencedPath s).toList (resolveString store s keyPath) := by
  unfold resolveString referencedPath
  cases hasPrefix s "vault:" with
  | false => exact Fetches.pure _
  | true =>
    cases parseVaultReference s with
    | error err => exact Fetches.throw _
    | ok pk =>
      obtain ⟨path, key⟩ := pk
      refine Fetches.congr ((getPathData_fetches store path keyPath s).bind fun values =>
        (?_ : Fetches [] _)) ?_
      · cases values.get? key with
        | some v => exact Fetches.pure v
        | none => exact Fetches.throw _
      · simp

mutual
/-- The walk on any document fetches only the paths its references name. -/
theorem resolveValue_fetches (store : SecretStore) :
    ∀ (v : JsonValue) (keyPath : String), Fetches (referencedPaths v) (resolveValue store v keyPath)
  | .null, _ => Fetches.pure _
  | .bool _, _ => Fetches.pure _
  | .number _, _ => Fetches.pure _
  | .string s, keyPath => resolveString_fetches store s keyPath
  | .array items, keyPath => (resolveSlice_fetches store items keyPath 0).map _
  | .object entries, keyPath => (resolveMap_fetches store entries keyPath).map _
/-- The walk over an object's entries fetches only the paths their references name. -/
theorem resolveMap_fetches (store : SecretStore) :
    ∀ (entries : List (String × JsonValue)) (keyPath : String),
      Fetches (referencedPathsMap entries) (resolveMap store entries keyPath)
  | [], _ => Fetches.pure _
  | (key, value) :: rest, keyPath =>
    ((resolveValue_fetches store value (buildKeyPath keyPath key)).bind fun _ =>
      (resolveMap_fetches store rest keyPath).bind fun _ => Fetches.pure _).congr
        (by simp [referencedPathsMap])
/-- The walk over an array fetches only the paths its items' references name. -/
theorem resolveSlice_fetches (store : SecretStore) :
    ∀ (items : List JsonValue) (keyPath : String) (i : Nat),
      Fetches (referencedPathsList items) (resolveSlice store items keyPath i)
  | [], _, _ => Fetches.pure _
  | item :: rest, keyPath, i =>
    ((resolveValue_fetches store item _).bind fun _ =>
      (resolveSlice_fetches store rest keyPath (i + 1)).bind fun _ => Fetches.pure _).congr
        (by simp [referencedPathsList])
end

/-- One `ResolveSecrets` call on any document, in any enumeration order of its maps, issues the
KV v2 `Get` at most once per path and only for paths that well-formed references name; when it
succeeds it has issued exactly one `Get` for each of those paths. -/
theorem resolveSecrets_fetches_each_path_once (store : SecretStore) (rawConfig : Option RawExtension) :
    (∀ path, (resolveSecrets store rawConfig).gets.count path ≤ 1) ∧
      (∀ path ∈ (resolveSecrets store rawConfig).gets, path ∈ rawReferencedPaths rawConfig) ∧
      ((resolveSecrets store rawConfig).err = none →
        ∀ path ∈ rawReferencedPaths rawConfig, (resolveSecrets store rawConfig).gets.count path = 1) := by
  rcases rawConfig with _ | ⟨_ | doc⟩
  · simp [resolveSecrets, rawReferencedPaths]
  · simp [resolveSecrets, rawReferencedPaths]
  · have h : FetchResult (referencedPaths doc) ResolverState.empty
        ((resolveValue store doc "").run ResolverState.empty) :=
      resolveValue_fetches store doc "" ResolverState.empty FetchLog.empty
    simp only [resolveSecrets, rawReferencedPaths]
    cases hres : (resolveValue store doc "").run ResolverState.empty with
    | ok v st =>
      rw [hres] at h
      obtain ⟨⟨hnodup, -⟩, ⟨fresh, hgets, hsub⟩, hcover⟩ := h
      have hgets' : st.gets = fresh := by simpa [ResolverState.empty] using hgets
      refine ⟨fun p => List.nodup_iff_count_le_one.mp hnodup p, fun p hp => hsub (hgets' ▸ hp),
        fun _ p hp => List.count_eq_one_of_mem hnodup (hcover hp)⟩
    | error e st =>
      rw [hres] at h
      obtain ⟨hnodup, ⟨fresh, hgets, hsub⟩⟩ := h
      have hgets' : st.gets = fresh := by simpa [ResolverState.empty] using hgets
      exact ⟨fun p => List.nodup_iff_count_le_one.mp hnodup p, fun p hp => hsub (hgets' ▸ hp),
        fun h => nomatch h⟩

end FivetranOperator
