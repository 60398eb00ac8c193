import FivetranOperator.Controller.Identity
import FivetranOperator.Vault.Noninterference
import FivetranOperator.Vault.Reference

/-!
# Secrets never reach the resource

Two runs on one resource whose secret stores differ in secret values only, with the same
answers from the API server and the provider, are the same run: every `Update` and
`Status().Update` carries the same object, every provider call is recorded alike, and the object
left behind is the same. Resolution works on copies of the two documents, whose resolved forms go
into the provider requests alone, and the trace records those requests without the documents.
What a request body could still show is whether each document decodes as a map, which depends on
its top-level kind; the walk keeps that kind unless the document is itself a reference, which the
CRD's `type: object` for `config` and `auth` rules out. Decoding also fails on a number beyond
`float64` range, and its message names the number: the result holds for stores whose values are
in range, and `numericSecret_reaches_resource` shows a value out of range reaching the
`ConnectorReady` condition.

The proof follows the data: the resolver's relational lemma, then `toFivetranConnector`, then the
functions that take the resolved documents, then `reconcileWork`; above it the vault is not read,
and the copy's spec, from which the documents are taken, is the stored spec at every step.
-/

namespace FivetranOperator

open FivetranConnector

section Documents

/-- A document that is not itself a reference: not a string at its top level. -/
def JsonValue.isString : JsonValue → Bool
  | .string _ => true
  | _ => false

/-- The extension holds no bare string. -/
def rawNotString : Option RawExtension → Bool
  | some ⟨some v⟩ => !v.isString
  | _ => true

/-- Neither document of the spec is a bare string, as the CRD's `type: object` ensures. -/
def documentsNotReferences (c : FivetranConnector) : Bool :=
  rawNotString c.spec.connector.config && rawNotString c.spec.connector.auth

/-- What decoding can tell of a document: whether it is there, and the kind of its value. -/
def docShape : Option RawExtension → Option (Option String)
  | some ⟨some v⟩ => some (some v.kind)
  | some ⟨none⟩ => some none
  | none => none

/-- The walk keeps the kind of a document that is not a string. -/
theorem resolveValue_kind (store : SecretStore) {v : JsonValue} (hv : v.isString = false)
    (keyPath : String) {st st' : ResolverState} {r : JsonValue}
    (h : resolveValue store v keyPath st = .ok r st') : r.kind = v.kind := by
  cases v with
  | string => cases hv
  | null | bool | number => cases h; rfl
  | array items =>
    simp only [resolveValue] at h
    change EStateM.map _ _ st = _ at h
    unfold EStateM.map at h
    split at h <;> cases h
    rfl
  | object entries =>
    simp only [resolveValue] at h
    change EStateM.map _ _ st = _ at h
    unfold EStateM.map at h
    split at h <;> cases h
    rfl

/-- The empty resolver states of the two runs are low-equivalent. -/
theorem ResolverState.lowEquiv_empty : ResolverState.empty.LowEquiv ResolverState.empty :=
  ⟨rfl, fun _ => .none⟩

/-- A document absent, empty, or with every number in `float64` range. -/
def rawInRange : Option RawExtension → Prop
  | some ⟨some v⟩ => v.InRange
  | _ => True

instance (doc : Option RawExtension) : Decidable (rawInRange doc) :=
  match doc with
  | some ⟨some v⟩ => inferInstanceAs (Decidable v.InRange)
  | some ⟨none⟩ => isTrue trivial
  | none => isTrue trivial

/-- Both documents of the spec have their numbers in range, as in every object the API server
stores. -/
def documentsInRange (c : FivetranConnector) : Prop :=
  rawInRange c.spec.connector.config ∧ rawInRange c.spec.connector.auth

instance (c : FivetranConnector) : Decidable (documentsInRange c) :=
  inferInstanceAs (Decidable (_ ∧ _))

/-- Every secret value the store holds has its numbers in `float64` range. -/
def SecretStore.InRange (store : SecretStore) : Prop :=
  ∀ path values, store path = .data values → ∀ key v, values.get? key = some v → v.InRange

section Range

variable {store : SecretStore}

/-- A reference resolves to a value the store holds, any other string to itself. -/
theorem inRange_resolveReference (hstore : store.InRange) {s : String} {r : JsonValue}
    (h : resolveReference store s = some r) : r.InRange := by
  unfold resolveReference at h
  split at h
  · split at h
    · obtain ⟨values, hvalues, hr⟩ := Option.bind_eq_some.mp h
      unfold storedData at hvalues
      split at hvalues <;> cases hvalues
      exact hstore _ _ ‹_› _ _ hr
    · cases h
  · cases h
    exact fun t ht => absurd ht (List.not_mem_nil t)

mutual
/-- Resolution against a store in range keeps a document in range. -/
theorem inRange_referenceResolution (hstore : store.InRange) :
    ∀ (v : JsonValue) {r : JsonValue}, referenceResolution store v = some r → v.InRange → r.InRange
  | .object entries, r, h, hv => by
    rw [referenceResolution] at h
    obtain ⟨rs, hrs, rfl⟩ := Option.map_eq_some'.mp h
    exact inRange_referenceResolutionMap hstore entries hrs hv
  | .array items, r, h, hv => by
    rw [referenceResolution] at h
    obtain ⟨rs, hrs, rfl⟩ := Option.map_eq_some'.mp h
    exact inRange_referenceResolutionList hstore items hrs hv
  | .string _, _, h, _ => inRange_resolveReference hstore h
  | .null, _, h, hv | .bool _, _, h, hv | .number _, _, h, hv => by
    cases h
    exact hv
/-- Resolution keeps the numbers of an object's values in range. -/
theorem inRange_referenceResolutionMap (hstore : store.InRange) :
    ∀ (entries : List (String × JsonValue)) {rs : List (String × JsonValue)},
      referenceResolutionMap store entries = some rs →
      (∀ t ∈ memberNumbers entries, parseFloatOverflows t = false) →
      ∀ t ∈ memberNumbers rs, parseFloatOverflows t = false
  | [], _, h, _ => by
    cases h
    exact fun t ht => absurd ht (List.not_mem_nil t)
  | (key, value) :: rest, _, h, hv => by
    simp only [referenceResolutionMap, Option.bind_eq_bind, Option.bind_eq_some, Option.pure_def,
      Option.some.injEq] at h
    obtain ⟨resolved, hvalue, others, hrest, rfl⟩ := h
    simp only [memberNumbers, List.mem_append] at hv ⊢
    rintro t (ht | ht)
    · exact inRange_referenceResolution hstore value hvalue (fun t ht => hv t (.inl ht)) t ht
    · exact inRange_referenceResolutionMap hstore rest hrest (fun t ht => hv t (.inr ht)) t ht
/-- Resolution keeps the numbers of an array's items in range. -/
theorem inRange_referenceResolutionList (hstore : store.InRange) :
    ∀ (items : List JsonValue) {rs : List JsonValue}, referenceResolutionList store items = some rs →
      (∀ t ∈ itemNumbers items, parseFloatOverflows t = false) →
      ∀ t ∈ itemNumbers rs, parseFloatOverflows t = false
  | [], _, h, _ => by
    cases h
    exact fun t ht => absurd ht (List.not_mem_nil t)
  | item :: rest, _, h, hv => by
    simp only [referenceResolutionList, Option.bind_eq_bind, Option.bind_eq_some, Option.pure_def,
      Option.some.injEq] at h
    obtain ⟨resolved, hitem, others, hrest, rfl⟩ := h
    simp only [itemNumbers, List.mem_append] at hv ⊢
    rintro t (ht | ht)
    · exact inRange_referenceResolution hstore item hitem (fun t ht => hv t (.inl ht)) t ht
    · exact inRange_referenceResolutionList hstore rest hrest (fun t ht => hv t (.inr ht)) t ht
end

/-- A document in range resolves, against a store in range, to a document in range. -/
theorem resolveDocument_inRange (hstore : store.InRange) (what : String) {doc : Option RawExtension}
    (hdoc : rawInRange doc) : rawInRange (resolveDocument store what doc).1 := by
  rcases doc with _ | ⟨_ | data⟩
  · trivial
  · trivial
  · have h : ResultAgrees store (referenceResolution store data)
        ((resolveValue store data "").run ResolverState.empty) :=
      resolveValue_agrees store data "" ResolverState.empty fun _ _ h => by
        simp [ResolverState.empty] at h
    simp only [resolveDocument, resolveSecrets]
    cases hres : (resolveValue store data "").run ResolverState.empty with
    | ok r st =>
      rw [hres] at h
      exact inRange_referenceResolution hstore data h.1 hdoc
    | error e st => trivial

/-- Both resolved documents of a spec in range are in range. -/
theorem resolveConnectorSecrets_inRange (hstore : store.InRange) {c : FivetranConnector}
    (hdocs : documentsInRange c) {config auth : Option RawExtension}
    (h : resolveConnectorSecrets store c = .ok (config, auth)) : rawInRange config ∧ rawInRange auth := by
  have hconfig := resolveDocument_inRange hstore "config" hdocs.1
  have hauth := resolveDocument_inRange hstore "auth" hdocs.2
  unfold resolveConnectorSecrets at h
  generalize resolveDocument store "config" c.spec.connector.config = p at hconfig h
  generalize resolveDocument store "auth" c.spec.connector.auth = q at hauth h
  obtain ⟨_, _⟩ := p
  obtain ⟨_, _⟩ := q
  dsimp only at h
  split at h
  · cases h
    exact ⟨hconfig, hauth⟩
  · cases h

end Range

variable {store₁ store₂ : SecretStore}

/-- One document resolves alike against both stores: the same error, and resolved documents of
the same shape. -/
theorem resolveDocument_low (hstore : store₁.LowEquiv store₂) (what : String)
    {doc : Option RawExtension} (hdoc : rawNotString doc = true) :
    docShape (resolveDocument store₁ what doc).1 = docShape (resolveDocument store₂ what doc).1 ∧
      (resolveDocument store₁ what doc).2 = (resolveDocument store₂ what doc).2 := by
  rcases doc with _ | ⟨_ | data⟩
  · exact ⟨rfl, rfl⟩
  · exact ⟨rfl, rfl⟩
  · have hdata : data.isString = false := by simpa [rawNotString] using hdoc
    have h : ResultLow (fun _ _ => True) ((resolveValue store₁ data "").run ResolverState.empty)
        ((resolveValue store₂ data "").run ResolverState.empty) :=
      resolveValue_low hstore data "" _ _ ResolverState.lowEquiv_empty
    simp only [resolveDocument, resolveSecrets]
    rcases h₁ : (resolveValue store₁ data "").run ResolverState.empty with ⟨r₁, s₁⟩ | ⟨e₁, s₁⟩ <;>
      rcases h₂ : (resolveValue store₂ data "").run ResolverState.empty with ⟨r₂, s₂⟩ | ⟨e₂, s₂⟩ <;>
      rw [h₁, h₂] at h
    · simp only [docShape, resolveValue_kind store₁ hdata "" h₁, resolveValue_kind store₂ hdata "" h₂,
        and_self]
    · exact h.elim
    · exact h.elim
    · rw [h.1]
      exact ⟨rfl, rfl⟩

/-- Resolved documents alike: the same error, or documents of the same shapes. -/
def ResolvedLow : Except GoError (Option RawExtension × Option RawExtension) →
    Except GoError (Option RawExtension × Option RawExtension) → Prop
  | .ok (config₁, auth₁), .ok (config₂, auth₂) =>
    docShape config₁ = docShape config₂ ∧ docShape auth₁ = docShape auth₂
  | .error e₁, .error e₂ => e₁ = e₂
  | _, _ => False

/-- Both documents of a spec resolve alike against both stores. -/
theorem resolveConnectorSecrets_low (hstore : store₁.LowEquiv store₂) (c : FivetranConnector)
    (hdocs : documentsNotReferences c = true) :
    ResolvedLow (resolveConnectorSecrets store₁ c) (resolveConnectorSecrets store₂ c) := by
  simp only [documentsNotReferences, Bool.and_eq_true] at hdocs
  obtain ⟨hconfig, hconfigErr⟩ := resolveDocument_low hstore "config" hdocs.1
  obtain ⟨hauth, hauthErr⟩ := resolveDocument_low hstore "auth" hdocs.2
  unfold resolveConnectorSecrets
  generalize resolveDocument store₁ "config" c.spec.connector.config = p₁ at hconfig hconfigErr ⊢
  generalize resolveDocument store₂ "config" c.spec.connector.config = p₂ at hconfig hconfigErr ⊢
  generalize resolveDocument store₁ "auth" c.spec.connector.auth = q₁ at hauth hauthErr ⊢
  generalize resolveDocument store₂ "auth" c.spec.connector.auth = q₂ at hauth hauthErr ⊢
  obtain ⟨config₁, configErr⟩ := p₁
  obtain ⟨auth₁, authErr⟩ := q₁
  dsimp only at hconfigErr hauthErr ⊢
  subst hconfigErr hauthErr
  cases p₂.2 <;> cases q₂.2
  · exact ⟨hconfig, hauth⟩
  all_goals rfl

end Documents

section Requests

/-- `json.Unmarshal` into a map fails or not, on documents in range, by the value's kind alone. -/
theorem unmarshalObject_kind {v₁ v₂ : JsonValue} (h : v₁.kind = v₂.kind) (h₁ : v₁.InRange)
    (h₂ : v₂.InRange) :
    (unmarshalObject (some v₁)).map (fun _ => ()) = (unmarshalObject (some v₂)).map (fun _ => ()) := by
  have e₁ := outOfRangeNumber_eq_none h₁
  have e₂ := outOfRangeNumber_eq_none h₂
  cases v₁ <;> cases v₂ <;> simp_all [JsonValue.kind, unmarshalObject, Except.map]

/-- Decoding a resolved document in range fails or not by its shape alone. -/
theorem unmarshalResolved_shape (what : String) {doc₁ doc₂ : Option RawExtension}
    (h : docShape doc₁ = docShape doc₂) (h₁ : rawInRange doc₁) (h₂ : rawInRange doc₂) :
    (unmarshalResolved what doc₁).map (fun _ => ()) = (unmarshalResolved what doc₂).map (fun _ => ()) := by
  rcases doc₁ with _ | ⟨_ | v₁⟩ <;> rcases doc₂ with _ | ⟨_ | v₂⟩ <;> simp [docShape] at h
  · rfl
  · rfl
  · have hv := unmarshalObject_kind h h₁ h₂
    simp only [unmarshalResolved]
    revert hv
    generalize unmarshalObject (some v₁) = r₁
    generalize unmarshalObject (some v₂) = r₂
    intro hv
    cases r₁ <;> cases r₂ <;> cases hv <;> rfl

/-- The redacted request depends on the documents only through whether they decode. -/
theorem toFivetranConnector_redacted (connector : FivetranConnector)
    (resolvedConfig resolvedAuth : Option RawExtension) :
    (toFivetranConnector connector resolvedConfig resolvedAuth).map ConnectionRequest.redacted =
      ((unmarshalResolved "config" resolvedConfig).map (fun _ => ()) >>= fun _ =>
        (unmarshalResolved "auth" resolvedAuth).map (fun _ => ()) >>= fun _ =>
          (toFivetranConnector connector none none).map ConnectionRequest.redacted) := by
  unfold toFivetranConnector
  cases unmarshalResolved "config" resolvedConfig <;> cases unmarshalResolved "auth" resolvedAuth <;> rfl

/-- Two pairs of resolved documents that give the same redacted request for every connector. -/
def RequestsAgree (config₁ auth₁ config₂ auth₂ : Option RawExtension) : Prop :=
  ∀ c, (toFivetranConnector c config₁ auth₁).map ConnectionRequest.redacted =
    (toFivetranConnector c config₂ auth₂).map ConnectionRequest.redacted

/-- Resolved documents in range of the same shapes give the same redacted requests. -/
theorem requestsAgree_of_shape {config₁ auth₁ config₂ auth₂ : Option RawExtension}
    (hconfig : docShape config₁ = docShape config₂) (hauth : docShape auth₁ = docShape auth₂)
    (h₁ : rawInRange config₁ ∧ rawInRange auth₁) (h₂ : rawInRange config₂ ∧ rawInRange auth₂) :
    RequestsAgree config₁ auth₁ config₂ auth₂ := fun c => by
  rw [toFivetranConnector_redacted c config₁ auth₁, toFivetranConnector_redacted c config₂ auth₂,
    unmarshalResolved_shape "config" hconfig h₁.1 h₂.1, unmarshalResolved_shape "auth" hauth h₁.2 h₂.2]

/-- A create depends on its request as recorded. -/
theorem createConnection_redacted {req₁ req₂ : ConnectionRequest} (h : req₁.redacted = req₂.redacted) :
    createConnection req₁ = createConnection req₂ := by
  unfold createConnection
  rw [h]

/-- An update depends on its request as recorded. -/
theorem updateConnection_redacted (connectorID : String) {req₁ req₂ : ConnectionRequest}
    (h : req₁.redacted = req₂.redacted) :
    updateConnection connectorID req₁ = updateConnection connectorID req₂ := by
  unfold updateConnection
  rw [h]

variable {config₁ auth₁ config₂ auth₂ : Option RawExtension}

/-- A request step is the same step when the two redacted requests agree. -/
theorem liftExcept_request_congr {β : Type} {r₁ r₂ : Except GoError ConnectionRequest}
    (h : r₁.map ConnectionRequest.redacted = r₂.map ConnectionRequest.redacted)
    {k : ConnectionRequest → ReconcileM β}
    (hk : ∀ q₁ q₂, q₁.redacted = q₂.redacted → k q₁ = k q₂) (w : World) :
    andThen (liftExcept r₁ w) k = andThen (liftExcept r₂ w) k := by
  cases r₁ <;> cases r₂ <;> simp only [Except.map, Except.error.injEq, Except.ok.injEq,
    reduceCtorEq] at h
  · rw [h]
  · rw [liftExcept_ok, liftExcept_ok, andThen_ok, andThen_ok, hk _ _ h]

/-- A create is the same step for two document pairs the requests agree on. -/
theorem createConnector_low (h : RequestsAgree config₁ auth₁ config₂ auth₂) :
    createConnector config₁ auth₁ = createConnector config₂ auth₂ := by
  funext w
  simp only [createConnector, bind_apply, current_apply, andThen_ok]
  exact liftExcept_request_congr (h w.connector) (fun _ _ hq =>
    createConnection_redacted (congrArg ({ · with paused := some true }) hq)) w

/-- An update is the same step for two document pairs the requests agree on. -/
theorem updateConnector_low (h : RequestsAgree config₁ auth₁ config₂ auth₂) (connectorID : String) :
    updateConnector connectorID config₁ auth₁ = updateConnector connectorID config₂ auth₂ := by
  funext w
  simp only [updateConnector, bind_apply, current_apply, andThen_ok]
  exact liftExcept_request_congr (h w.connector) (fun _ _ hq => updateConnection_redacted connectorID hq) w

/-- The connector step is the same for two document pairs the requests agree on. -/
theorem reconcileConnector_low (h : RequestsAgree config₁ auth₁ config₂ auth₂) :
    reconcileConnector config₁ auth₁ = reconcileConnector config₂ auth₂ := by
  simp only [reconcileConnector, reconcileConnectorID, createConnector_low h, updateConnector_low h]

end Requests

section Invocation

variable {store₁ store₂ : SecretStore}

/-- The work step is the same against both stores while the copy's documents are not
references. -/
theorem reconcileWork_low (hstore : store₁.LowEquiv store₂) (hrange₁ : store₁.InRange)
    (hrange₂ : store₂.InRange) (reconcileConnectorNeeded reconcileSchemaNeeded : Bool) (w : World)
    (hdocs : documentsNotReferences w.connector = true) (hdocsRange : documentsInRange w.connector) :
    reconcileWork store₁ reconcileConnectorNeeded reconcileSchemaNeeded w =
      reconcileWork store₂ reconcileConnectorNeeded reconcileSchemaNeeded w := by
  have hres := resolveConnectorSecrets_low hstore w.connector hdocs
  simp only [reconcileWork, bind_apply, current_apply, andThen_ok, failAs, mapAbort_apply]
  rcases h₁ : resolveConnectorSecrets store₁ w.connector with e₁ | ⟨config₁, auth₁⟩ <;>
    rcases h₂ : resolveConnectorSecrets store₂ w.connector with e₂ | ⟨config₂, auth₂⟩ <;>
    rw [h₁, h₂] at hres
  · rw [show e₁ = e₂ from hres]
  · exact hres.elim
  · exact hres.elim
  · have hagree := requestsAgree_of_shape hres.1 hres.2
      (resolveConnectorSecrets_inRange hrange₁ hdocsRange h₁)
      (resolveConnectorSecrets_inRange hrange₂ hdocsRange h₂)
    simp only [liftExcept_ok, retag_ok, andThen_ok, reconcileConnector_low hagree,
      updateConnector_low hagree]

/-- A step that leaves two continuations agreeing on every world it can return in. -/
theorem bind_congr_of_safe {α β : Type} {E : FivetranConnector → FivetranConnector → Prop}
    {pre : World → Prop} {x : ReconcileM α} {post : α → World → Prop} (hx : Safe E pre x post) {w : World} (hw : pre w)
    {k₁ k₂ : α → ReconcileM β} (hk : ∀ a w', Reach w w' → post a w' → k₁ a w' = k₂ a w') :
    (x >>= k₁) w = (x >>= k₂) w := by
  rw [bind_apply, bind_apply]
  have hreach := hx.reach w hw
  cases hxw : x w with
  | ok a w' =>
    rw [hxw] at hreach
    exact hk a w' hreach (hx.ok w hw a w' hxw)
  | error e w' => rfl

/-- The live path is the same against both stores. -/
theorem reconcileLive_low (hstore : store₁.LowEquiv store₂) (hrange₁ : store₁.InRange)
    (hrange₂ : store₂.InRange) (w : World) (hsync : InSync w)
    (hdocs : documentsNotReferences w.connector = true) (hdocsRange : documentsInRange w.connector) :
    reconcileLive store₁ w = reconcileLive store₂ w := by
  unfold reconcileLive
  refine bind_congr_of_safe (.mapAbort ensureFinalizer_safe) hsync fun _ w₁ hreach₁ hsync₁ => ?_
  simp only [bind_apply, current_apply, andThen_ok]
  rw [← bind_apply, ← bind_apply]
  refine bind_congr_of_safe (.mapAbort handleExistingConnectorAdoptionIfNeeded_safe) hsync₁
    fun needRequeue w₂ hreach₂ _ => ?_
  split
  · rfl
  · simp only [bind_apply, current_apply, andThen_ok]
    split
    · rfl
    · have hspec := (hreach₁.trans hreach₂).spec hsync
      refine reconcileWork_low hstore hrange₁ hrange₂ _ _ w₂ ?_ ?_
      · rw [documentsNotReferences, hspec]
        exact hdocs
      · rw [documentsInRange, hspec]
        exact hdocsRange

/-- One `Reconcile` is the same against both stores. -/
theorem reconcile_low (hstore : store₁.LowEquiv store₂) (hrange₁ : store₁.InRange)
    (hrange₂ : store₂.InRange) (w : World) (hsync : InSync w)
    (hdocs : documentsNotReferences w.connector = true) (hdocsRange : documentsInRange w.connector) :
    reconcile store₁ w = reconcile store₂ w := by
  show finishReconcile (reconcileSteps store₁ w) = finishReconcile (reconcileSteps store₂ w)
  refine congrArg finishReconcile ?_
  simp only [reconcileSteps, bind_apply, responses_apply, current_apply, andThen_ok]
  split
  · rfl
  · cases w.env.vaultClient with
    | some msg => rfl
    | none =>
      simp only [bind_apply, current_apply, andThen_ok]
      split
      · rfl
      · exact reconcileLive_low hstore hrange₁ hrange₂ w hsync hdocs hdocsRange

end Invocation

section Run

/-- Two moves alike but for the secret store of an invocation, the two differing in values only,
each with its numbers in range. -/
inductive Move.LowEquiv : Move → Move → Prop
  | reconcile {vault₁ vault₂ : SecretStore} (env : Responses) :
    vault₁.LowEquiv vault₂ → vault₁.InRange → vault₂.InRange →
      Move.LowEquiv (.reconcile vault₁ env) (.reconcile vault₂ env)
  | clearStatus : Move.LowEquiv .clearStatus .clearStatus
  | requestDeletion (t : Nat) : Move.LowEquiv (.requestDeletion t) (.requestDeletion t)

/-- Two alike moves have the same effect on a resource. -/
theorem applyMove_low (stored : FivetranConnector) (hdocs : documentsNotReferences stored = true)
    (hdocsRange : documentsInRange stored) {m₁ m₂ : Move} (hm : Move.LowEquiv m₁ m₂) :
    applyMove stored m₁ = applyMove stored m₂ := by
  cases hm with
  | reconcile env hstore hrange₁ hrange₂ =>
    simp only [applyMove, invoke,
      reconcile_low hstore hrange₁ hrange₂ (World.initial env stored) rfl hdocs hdocsRange]
  | clearStatus | requestDeletion => rfl

/-- A store that holds one password at `db`. -/
def passwordStore (password : String) : SecretStore := fun path =>
  if path = "db" then .data (GoMap.empty.insert "password" (.string password)) else .noData

/-- A resource whose config takes its password from the store, with a forced reconcile. -/
def referencingResource : FivetranConnector :=
  ⟨⟨forceLabel, GoMap.empty, [], none⟩,
    ⟨{ exampleConnector with
        config := some ⟨some (.object [("password", .string "vault:db#password")])⟩ }, none⟩,
    .empty⟩

/-- The password store holds strings only. -/
theorem passwordStore_inRange (password : String) : (passwordStore password).InRange := by
  intro path values h key v hv
  unfold passwordStore at h
  split at h
  · cases h
    by_cases hkey : key = "password"
    · subst hkey
      rw [GoMap.get?_insert_self] at hv
      cases hv
      exact fun t ht => absurd ht (List.not_mem_nil t)
    · rw [GoMap.get?_insert_ne _ _ hkey, GoMap.get?_empty] at hv
      cases hv
  · cases h

/-- A store that holds one password at `db`, a number as Vault returns it (`json.Number`). -/
def numberStore (secret : String) : SecretStore := fun path =>
  if path = "db" then .data (GoMap.empty.insert "password" (.number secret)) else .noData

set_option exponentiation.threshold 512 in
/-- A numeric secret beyond `float64` range reaches the resource. The stores that hold `1e400`
and `2e400` as the password differ in that value only, yet each run leaves its own number in the
`ConnectorReady` message: resolution marshals the `json.Number` verbatim, the decoder in
`toFivetranConnector` fails on it, and `handleError` writes the failure into the condition. -/
theorem numericSecret_reaches_resource :
    (numberStore "1e400").LowEquiv (numberStore "2e400") ∧
      (conditionOf conditionTypeConnectorReady (runMoves referencingResource
          [.reconcile (numberStore "1e400") acceptingResponses]).1.status.conditions).map
          Condition.message = some
        "toFivetranConnector: failed to unmarshal config: json: cannot unmarshal number 1e400 into Go value of type float64" ∧
      (conditionOf conditionTypeConnectorReady (runMoves referencingResource
          [.reconcile (numberStore "2e400") acceptingResponses]).1.status.conditions).map
          Condition.message = some
        "toFivetranConnector: failed to unmarshal config: json: cannot unmarshal number 2e400 into Go value of type float64" := by
  refine ⟨fun path => ?_, by decide, by decide⟩
  unfold numberStore
  split
  · rfl
  · trivial

end Run

end FivetranOperator
