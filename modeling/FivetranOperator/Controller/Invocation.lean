import FivetranOperator.Controller.Invariants
import FivetranOperator.Fivetran.WrapError

/-!
# Paths through one invocation

Where an invocation can stop short of the work the fingerprints stand for. The no-op exit
(`invoke_noop`) makes no call at all once the finalizer is in place, nothing is to be adopted and
`determineReconciliationNeeds` answers `(false, false)`; that answer compares the connector
fingerprint only, never `status.connectorId`. The recovery path flattens every cause into
`ErrConnectorValidationFailed`, and the adoption path writes no metadata, so the marker is never
set by it.

Each of these is followed by a run of the model that shows what it allows. The runs start from a
resource as a user creates it and are replayed by the kernel; none of their decisions compares
fingerprint values, and where a proof needs the stored fingerprint to match the spec it takes
that from `runMoves_fingerprintCurrent`, so MD5 is never evaluated.
-/

namespace FivetranOperator

open FivetranConnector

/-- `ensureFinalizer` with the finalizer already present makes no call. -/
theorem ensureFinalizer_present (w : World)
    (hfinalizer : containsFinalizer w.connector fivetranFinalizer = true) :
    ensureFinalizer w = .ok () w := by
  simp [ensureFinalizer, hfinalizer]

/-- Adoption is skipped with an ID in status or no adoption annotation. -/
theorem handleExistingConnectorAdoptionIfNeeded_skip (w : World)
    (hskip : w.connector.status.connectorID ≠ "" ∨
      getAnnotationValue w.connector annotationAdoptExistingConnectorID = "") :
    handleExistingConnectorAdoptionIfNeeded w = .ok false w := by
  unfold handleExistingConnectorAdoptionIfNeeded
  rcases hskip with h | h <;> simp [h]

/-- The no-op exit: nothing to adopt and a `(false, false)` decision end the invocation with
the empty result, no call made and the object untouched. -/
theorem invoke_noop (vault : SecretStore) (env : Responses) (stored : FivetranConnector)
    (hclient : env.fivetranClient = true) (hvault : env.vaultClient = none)
    (hlive : stored.metadata.deletionTimestamp = none)
    (hfinalizer : containsFinalizer stored fivetranFinalizer = true)
    (hskip : stored.status.connectorID ≠ "" ∨
      getAnnotationValue stored annotationAdoptExistingConnectorID = "")
    (hneeds : determineReconciliationNeeds stored (hasLabel stored annotationForceReconcile) =
      (false, false)) :
    invoke vault env stored = .ok ⟨.done, none⟩ (World.initial env stored) := by
  have hfin := ensureFinalizer_present (World.initial env stored) hfinalizer
  have hadopt := handleExistingConnectorAdoptionIfNeeded_skip (World.initial env stored) hskip
  simp [invoke, reconcile, reconcileSteps, reconcileLive, finishReconcile, failAs, hclient, hvault, hlive, hfin,
    hadopt, hneeds]

/-- A connector spec with setup tests off and neither config nor auth. -/
def exampleConnector : Connector :=
  { groupID := "warehouse", service := "postgres", auth := none, config := none,
    dailySyncTime := "", syncFrequency := 0, scheduleType := "manual", paused := some false,
    runSetupTests := some false, pauseAfterTrial := none, trustCertificates := none,
    trustFingerprints := none, dataDelaySensitivity := "", dataDelayThreshold := 0,
    networkingMethod := "", proxyAgentID := "", privateLinkID := "", hybridDeploymentAgentID := "" }

/-- A resource as a user creates it: no status, not being deleted. -/
def exampleResource (labels annotations : GoMap String) (finalizers : List String) :
    FivetranConnector :=
  ⟨⟨labels, annotations, finalizers, none⟩, ⟨exampleConnector, none⟩, .empty⟩

/-- The force-reconcile label. -/
def forceLabel : GoMap String := GoMap.empty.insert annotationForceReconcile "true"

/-- Answers under which every call succeeds; the provider creates `c1`, and the connector it
returns matches `exampleConnector`. -/
def acceptingResponses : Responses :=
  { fivetranClient := true, vaultClient := none, kubeWrite := fun _ => none,
    createConnection := fun _ => .ok "c1", getConnection := fun _ => .ok ⟨"postgres", "warehouse", ""⟩,
    updateConnection := fun _ => .ok (), deleteConnection := fun _ => .ok (),
    runSetupTests := fun _ => .ok [], getSchemaDetails := fun _ => (⟨"", "", GoMap.empty⟩, none),
    reloadSchema := fun _ => .ok (), updateSchema := fun _ => .ok (), clock := id }

/-- A store the example specs never read: they hold no documents. -/
def emptyStore : SecretStore := fun _ => .noData

/-- A transient provider failure: 503. -/
def serviceUnavailable : APIError :=
  ⟨503, "ServiceUnavailable", "try again later", "status code: 503; expected: 200"⟩

/-- The resource after one forced reconcile in which every call is accepted: `c1` is created and
recorded in status and in the marker, and the force label is consumed. -/
def createdResource : FivetranConnector :=
  (applyMove (exampleResource forceLabel GoMap.empty []) (.reconcile emptyStore acceptingResponses)).1

/-- `createdResource` after the loss of its status. -/
def lostStatusResource : FivetranConnector := (applyMove createdResource .clearStatus).1

/-- The status is lost after a complete forced reconcile: `status.connectorId` is empty while
the connector-hash annotation still matches the spec, and the next invocation takes the no-op
exit without recovering the ID from the marker. -/
theorem lostStatus_takes_noop_exit :
    lostStatusResource.metadata.deletionTimestamp = none ∧ lostStatusResource.status.connectorID = "" ∧
      invoke emptyStore acceptingResponses lostStatusResource =
        .ok ⟨.done, none⟩ (World.initial acceptingResponses lostStatusResource) := by
  have hlabel : hasLabel lostStatusResource annotationForceReconcile = false := by decide
  have hhash : FingerprintCurrent lostStatusResource :=
    runMoves_fingerprintCurrent (exampleResource forceLabel GoMap.empty [])
      [.reconcile emptyStore acceptingResponses, .clearStatus] (.inl rfl)
  refine ⟨rfl, rfl, invoke_noop _ _ _ rfl rfl rfl (by decide) (.inr (by decide)) ?_⟩
  rw [hlabel]
  exact determineReconciliationNeeds_noop _ (by decide) (hhash.resolve_left (by decide)) (by decide)

/-- Answers with the Fivetran client missing. -/
def noClientResponses : Responses := { acceptingResponses with fivetranClient := false }

/-- A create whose final `updateConnector` meets a 503 and whose failure condition cannot be
written: call 8 is that update and call 9 the status write `handleError` makes. -/
def finalUpdateLostResponses : Responses :=
  { acceptingResponses with
    kubeWrite := fun n => if n = 9 then some "connection refused" else none
    updateConnection := fun _ => .error serviceUnavailable }

/-- A fresh resource through an invocation with no Fivetran client, then one whose final update
and its failure condition are lost. -/
def createOnlyRun : FivetranConnector × List (List Event) :=
  runMoves (exampleResource GoMap.empty GoMap.empty [])
    [.reconcile emptyStore noClientResponses, .reconcile emptyStore finalUpdateLostResponses]

/-- The fingerprint is written before the final update: after a failed first invocation and a
second whose final update and failure condition are both lost, the next invocation takes the
no-op exit, and the last connection write the provider accepted is the create, sent paused. -/
theorem connectorHash_certifies_create_only :
    determineReconciliationNeeds createOnlyRun.1 (hasLabel createOnlyRun.1 annotationForceReconcile) =
        (false, false) ∧
      invoke emptyStore acceptingResponses createOnlyRun.1 =
        .ok ⟨.done, none⟩ (World.initial acceptingResponses createOnlyRun.1) ∧
      ((createOnlyRun.2.flatten.filterMap Event.acceptedConnectionWrite).getLast?.map
        fun write => (write.1, write.2.paused)) = some (true, some true) := by
  have hlabel : hasLabel createOnlyRun.1 annotationForceReconcile = false := by decide
  have hhash : FingerprintCurrent createOnlyRun.1 := runMoves_fingerprintCurrent _ _ (.inl rfl)
  have hneeds : determineReconciliationNeeds createOnlyRun.1
      (hasLabel createOnlyRun.1 annotationForceReconcile) = (false, false) := by
    rw [hlabel]
    exact determineReconciliationNeeds_noop _ (by decide) (hhash.resolve_left (by decide)) (by decide)
  exact ⟨hneeds, invoke_noop _ _ _ rfl rfl rfl (by decide) (.inl (by decide)) hneeds, by decide⟩

/-- A resource whose status was lost while its marker survives, with the finalizer in place and
a forced reconcile requested. -/
def recoveringResource : FivetranConnector :=
  exampleResource forceLabel (GoMap.empty.insert annotationConnectorID "quiet_lantern") [fivetranFinalizer]

/-- Answers under which the recovery's `GetConnection` meets a 503, every other call accepted. -/
def recoveryUnavailableResponses : Responses :=
  { acceptingResponses with getConnection := fun _ => .error serviceUnavailable }

/-- A transient 503 on the recovery's `GetConnection`, the only failing call, ends the
invocation as terminal: no requeue, no error, and `ConnectorReady` False. -/
theorem recovery_unavailable_is_terminal :
    serviceUnavailable.isRetryable = true ∧
      (∃ w, invoke emptyStore recoveryUnavailableResponses recoveringResource = .ok ⟨.done, none⟩ w) ∧
      ((conditionOf conditionTypeConnectorReady (finalWorld (invoke emptyStore
        recoveryUnavailableResponses recoveringResource)).stored.status.conditions).map
        (·.status)) = some .conditionFalse :=
  ⟨rfl, ⟨_, rfl⟩, by decide⟩

/-- A provider call that fails with the SDK's error for an unexpected status, passed up through
any wrapping that adds no sentinel and no `*VaultError`, ends `handleError` with a requeue after
five minutes exactly when the status is 429 or outside 4xx, and with no requeue otherwise. -/
theorem handleError_sdkStatusError (conditionType reason : String) (err : GoError)
    (response : Option CommonResponse) (status expected : Int)
    (hs : -9223372036854775808 ≤ status ∧ status < 9223372036854775808) (he : -9223372036854775808 ≤ expected ∧ expected < 9223372036854775808)
    (hsentinel : (err.is .schemaMismatchAfterRetry || err.is .setupTestsFailed ||
      err.is .connectorValidationFailed) = false)
    (hvault : err.asVault = none)
    (hapi : err.asAPI = wrapFivetranError response (some (sdkStatusError status expected)))
    (w : World) :
    ∃ o w', handleError conditionType reason err w = .ok o w' ∧
      o.result = if status = 429 ∨ status < 400 ∨ 500 ≤ status then .requeueLater else .done := by
  obtain ⟨o, w', hrun, hres⟩ := handleError_result conditionType reason err w
  refine ⟨o, w', hrun, ?_⟩
  have hcode := scanStatusCode_sdkStatusError status expected hs he "" rfl
  rw [String.append_empty] at hcode
  simp only [hres, errorResult, hsentinel, hvault, hapi, wrapFivetranError, hcode,
    Bool.false_eq_true, if_false, APIError.isRetryable_iff]

/-- A rate-limited update: `ConnectorReady` False with the failure, and a requeue after five
minutes. -/
theorem handleError_sdkStatusError_tooManyRequests :
    ∃ o w', handleError conditionTypeConnectorReady connectorReasonReconciliationFailed
        (.wrap "failed to update connector: " (.api ⟨429, "", "", sdkStatusError 429 200⟩) "")
        (World.initial acceptingResponses (exampleResource GoMap.empty GoMap.empty [])) =
        .ok o w' ∧ o.result = .requeueLater := by
  obtain ⟨o, w', hrun, hres⟩ := handleError_sdkStatusError conditionTypeConnectorReady
    connectorReasonReconciliationFailed
    (.wrap "failed to update connector: " (.api ⟨429, "", "", sdkStatusError 429 200⟩) "")
    none 429 200 (by decide) (by decide) rfl rfl rfl _
  exact ⟨o, w', hrun, hres⟩

/-- A resource that asks to adopt the provider's connector `amber_meadow`. -/
def adoptingResource : FivetranConnector :=
  exampleResource GoMap.empty (GoMap.empty.insert annotationAdoptExistingConnectorID "amber_meadow") []

/-- Adoption from the adoption annotation completes the invocation without error, with the ID in
status and the recovery marker never written. -/
theorem adoption_completes_without_marker :
    (∃ w, invoke emptyStore acceptingResponses adoptingResource = .ok ⟨⟨true, 0⟩, none⟩ w) ∧
      (finalWorld (invoke emptyStore acceptingResponses adoptingResource)).stored.status.connectorID =
        "amber_meadow" ∧
      getAnnotationValue (finalWorld (invoke emptyStore acceptingResponses adoptingResource)).stored
        annotationConnectorID = "" :=
  ⟨⟨_, rfl⟩, by decide, by decide⟩

/-- The schema-name inference panics when the schema is named and `table_group_name` holds
anything but a string, `null` included: the value is compared with "" as an `any`, then asserted
to be a string. -/
theorem expectedSchemaName_panics {config : List (String × JsonValue)} {schema : String}
    {v : JsonValue} (hprefixUnset : ∀ pre, configString (some config) "schema_prefix" = some pre → pre = "")
    (hschema : configString (some config) "schema" = some schema) (hne : schema ≠ "")
    (hvalue : configValue (some config) "table_group_name" = some v) (hv : ∀ s, v ≠ .string s) :
    expectedSchemaName (some config) =
      .error ("interface conversion: interface \x7b\x7d is " ++ v.goType ++ ", not string") := by
  have hsuffix : schemaWithSuffix (some config) schema =
      .error ("interface conversion: interface \x7b\x7d is " ++ v.goType ++ ", not string") := by
    unfold schemaWithSuffix
    rw [hvalue]
    cases v <;> first | exact absurd rfl (hv _) | rfl
  unfold expectedSchemaName
  cases hp : configString (some config) "schema_prefix" with
  | none => simp [hschema, hne, hsuffix]
  | some pre => simp [hprefixUnset pre hp, hschema, hne, hsuffix]

/-- Adoption and recovery from the marker abort with a runtime panic on a connector that matches
in service and group whenever the config names a schema and gives `table_group_name` a value
that is not a string. The config is one the API server stores, so its numbers are in `float64`
range and it decodes. -/
theorem validateExistingConnector_schema_panics (fn connectorID : String) (w : World)
    (existing : ConnectionDetails) (config : List (String × JsonValue)) (schema : String)
    (v : JsonValue) (hconfig : w.connector.spec.connector.config = some ⟨some (.object config)⟩)
    (hrange : (JsonValue.object config).InRange)
    (hfound : w.env.getConnection w.calls = .ok existing)
    (hservice : w.connector.spec.connector.service = existing.service)
    (hgroup : w.connector.spec.connector.groupID = existing.groupID)
    (hprefixUnset : ∀ pre, configString (some config) "schema_prefix" = some pre → pre = "")
    (hschema : configString (some config) "schema" = some schema) (hne : schema ≠ "")
    (hvalue : configValue (some config) "table_group_name" = some v) (hv : ∀ s, v ≠ .string s) :
    ∃ w', validateExistingConnector fn connectorID w =
      .error (.panic ("interface conversion: interface \x7b\x7d is " ++ v.goType ++ ", not string")) w' := by
  have hpanic := expectedSchemaName_panics hprefixUnset hschema hne hvalue hv
  simp [validateExistingConnector, wrapErr, mapErr, getConnection, providerCall, hfound, hservice,
    hgroup, hconfig, unmarshalObject, outOfRangeNumber_eq_none hrange, hpanic, liftPanic]

/-- A config that names its schema and leaves `table_group_name` as JSON `null`. -/
def nullGroupConnector : Connector :=
  { exampleConnector with
    config := some ⟨some (.object [("schema", .string "analytics"), ("table_group_name", .null)])⟩ }

/-- A resource that asks to adopt `amber_meadow` with that config. -/
def nullGroupResource : FivetranConnector :=
  { adoptingResource with spec := ⟨nullGroupConnector, none⟩ }

/-- Adoption of a connector whose config names a null table group panics. -/
theorem validateExistingConnector_schema_panics_null :
    ∃ w', validateExistingConnector "handleExistingConnectorAdoption" "amber_meadow"
        (World.initial acceptingResponses nullGroupResource) =
      .error (.panic "interface conversion: interface \x7b\x7d is nil, not string") w' :=
  validateExistingConnector_schema_panics _ _ _ ⟨"postgres", "warehouse", ""⟩ _ "analytics" .null rfl
    (by decide) rfl rfl rfl (fun _ h => nomatch h) rfl (by decide) rfl fun _ h => nomatch h

end FivetranOperator
