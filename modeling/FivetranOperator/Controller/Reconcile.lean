import FivetranOperator.Controller.Connector
import FivetranOperator.Controller.Schema
import FivetranOperator.Vault.Resolve

/-!
# Reconcile

`Reconcile` (`controller.go`) with `handleDeletion`, and `ensureFinalizer`,
`cleanupAnnotationsAndLabels` and `resolveSecrets` (`utils.go`). Every step's error is handed to
`handleError` with the condition type and reason the code names at that call.

An invocation starts from the object the `Get` loaded; a failed `Get` returns before any effect
and is not modelled. A run is a sequence of moves on the stored object: invocations, each with
its own secret store and answers, and the two environment steps the properties speak of, a
status loss that keeps metadata and a deletion request.
-/

namespace FivetranOperator

open FivetranConnector

/-- `ensureFinalizer`. -/
def ensureFinalizer : ReconcileM Unit := do
  let c ← current
  if !containsFinalizer c fivetranFinalizer then
    modifyConnector (addFinalizer · fivetranFinalizer)
    update
  else pure ()

/-- `handleDeletion`: the connector in `status.connectorId` is deleted, then the finalizer is
removed. -/
def handleDeletion : ReconcileM Unit := do
  let c ← current
  if containsFinalizer c fivetranFinalizer then
    (if c.status.connectorID ≠ "" then deleteConnection c.status.connectorID else pure ())
    modifyConnector (removeFinalizer · fivetranFinalizer)
    update
  else pure ()

/-- `cleanupAnnotationsAndLabels`: the force label and the adoption annotation, once consumed. -/
def cleanupAnnotationsAndLabels : ReconcileM Unit := do
  let c ← current
  (if hasLabel c annotationForceReconcile then do
    modifyConnector (removeLabel · annotationForceReconcile)
    update
  else pure ())
  let c ← current
  if hasAnnotationKey c annotationAdoptExistingConnectorID then
    modifyConnector (removeAnnotationKey · annotationAdoptExistingConnectorID)
    update
  else pure ()

/-- One document of the spec through `vault.ResolveSecrets` on a copy: the resolved copy, or
the error wrapped with the document's name. -/
def resolveDocument (vault : SecretStore) (what : String) (doc : Option RawExtension) :
    Option RawExtension × Option GoError :=
  match doc with
  | none => (none, none)
  | some ext =>
    let out := resolveSecrets vault (some ext)
    match out.err with
    | some e => (none, some (.wrap ("resolveSecrets: " ++ what ++ " secrets: ") e ""))
    | none => (out.rawConfig, none)

/-- `(*FivetranConnectorReconciler).resolveSecrets`: both documents are resolved and their
errors joined. -/
def resolveConnectorSecrets (vault : SecretStore) (connector : FivetranConnector) :
    Except GoError (Option RawExtension × Option RawExtension) :=
  let (resolvedConfig, configErr) := resolveDocument vault "config" connector.spec.connector.config
  let (resolvedAuth, authErr) := resolveDocument vault "auth" connector.spec.connector.auth
  match configErr.toList ++ authErr.toList with
  | [] => .ok (resolvedConfig, resolvedAuth)
  | allErrors => .error (.join "\n" allErrors)

/-- `Reconcile` once work is needed: secrets, the connector and its setup tests, the schema,
the final update that sets the schedule type and pause state, and the cleanup. -/
def reconcileWork (vault : SecretStore) (reconcileConnectorNeeded reconcileSchemaNeeded : Bool) :
    ReconcileM ReconcileResult := do
  let c ← current
  let (resolvedConfig, resolvedAuth) ←
    failAs conditionTypeConnectorReady connectorReasonVaultSecretsResolutionFailed
      (liftExcept (resolveConnectorSecrets vault c))
  let connectorID ←
    (if reconcileConnectorNeeded then do
      let connectorID ← failAs conditionTypeConnectorReady connectorReasonReconciliationFailed
        (reconcileConnector resolvedConfig resolvedAuth)
      let _ ← failAs conditionTypeSetupTestReady setupTestsReasonReconciliationFailed
        (reconcileSetupTests connectorID)
      pure connectorID
    else pure c.status.connectorID)
  let c ← current
  (if reconcileSchemaNeeded && hasSchemaConfig c then
    failAs conditionTypeSchemaReady schemaReasonReconciliationFailed (reconcileSchema connectorID)
  else
    failAs conditionTypeSchemaReady schemaReasonSkipped
      (setCondition conditionTypeSchemaReady .conditionTrue schemaReasonSkipped msgSchemaSkipped))
  (if reconcileConnectorNeeded then
    failAs conditionTypeConnectorReady connectorReasonReconciliationFailed
      (updateConnector connectorID resolvedConfig resolvedAuth)
  else pure ())
  failAs conditionTypeConnectorReady connectorReasonReconciliationFailed cleanupAnnotationsAndLabels
  pure .done

/-- `Reconcile` for a resource that is not being deleted, from the finalizer on. -/
def reconcileLive (vault : SecretStore) : ReconcileM ReconcileResult := do
  failAs conditionTypeConnectorReady connectorReasonFinalizerUpdateFailed ensureFinalizer
  let c ← current
  let forceReconcile := hasLabel c annotationForceReconcile
  let needRequeue ← failAs conditionTypeConnectorReady connectorReasonExistingConnectorAdoptionFailed
    handleExistingConnectorAdoptionIfNeeded
  if needRequeue then pure ⟨true, 0⟩
  else
    let c ← current
    let (reconcileConnectorNeeded, reconcileSchemaNeeded) :=
      determineReconciliationNeeds c forceReconcile
    if !reconcileConnectorNeeded && !reconcileSchemaNeeded then pure .done
    else reconcileWork vault reconcileConnectorNeeded reconcileSchemaNeeded

/-- The body of `Reconcile` after the `Get`; an error aborts it tagged for `handleError`. -/
def reconcileSteps (vault : SecretStore) : ReconcileM ReconcileResult := do
  let env ← responses
  if !env.fivetranClient then
    throw (.failed conditionTypeConnectorReady connectorReasonFivetranClientNotInitialized
      (.sentinel .fivetranClientNotInitialized))
  else
    match env.vaultClient with
    | some msg =>
      throw (.failed conditionTypeConnectorReady connectorReasonVaultClientInitializationFailed
        (.join ": " [.sentinel .vaultClientInitializationFailed, .text msg]))
    | none => do
      let c ← current
      if c.metadata.deletionTimestamp.isSome then do
        failAs conditionTypeConnectorReady connectorReasonDeletionFailed handleDeletion
        pure .done
      else reconcileLive vault

/-- What `Reconcile` returns once its steps end: a tagged failure goes through `handleError`,
a panic propagates. -/
def finishReconcile : EStateM.Result Abort World ReconcileResult → EStateM.Result Abort World Outcome
  | .ok result w => .ok ⟨result, none⟩ w
  | .error (.failed conditionType reason e) w => handleError conditionType reason e w
  | .error (.err e) w => .ok ⟨.done, some e⟩ w
  | .error (.panic msg) w => .error (.panic msg) w

/-- `Reconcile`. -/
def reconcile (vault : SecretStore) : ReconcileM Outcome := fun w =>
  finishReconcile (reconcileSteps vault w)

/-- The world an invocation starts from: the loaded object, no call made. -/
def World.initial (env : Responses) (stored : FivetranConnector) : World :=
  ⟨env, stored, stored, 0, []⟩

/-- An invocation starts with its answers. -/
@[simp] theorem World.initial_env (env : Responses) (stored : FivetranConnector) :
    (World.initial env stored).env = env := rfl

/-- An invocation starts from the loaded object as stored. -/
@[simp] theorem World.initial_stored (env : Responses) (stored : FivetranConnector) :
    (World.initial env stored).stored = stored := rfl

/-- An invocation starts with the loaded object as its copy. -/
@[simp] theorem World.initial_connector (env : Responses) (stored : FivetranConnector) :
    (World.initial env stored).connector = stored := rfl

/-- One invocation of `Reconcile` on the stored object. -/
def invoke (vault : SecretStore) (env : Responses) (stored : FivetranConnector) :
    EStateM.Result Abort World Outcome :=
  reconcile vault (World.initial env stored)

/-- A step of a run. -/
inductive Move where
  /-- `Reconcile` with this invocation's secret store and answers. -/
  | reconcile (vault : SecretStore) (env : Responses)
  /-- The status subresource is lost; metadata and spec survive. -/
  | clearStatus
  /-- A delete request: the deletion timestamp is set once. -/
  | requestDeletion (t : Nat)

/-- The status of an object nobody has reconciled. -/
def FivetranConnectorStatus.empty : FivetranConnectorStatus := ⟨"", "", []⟩

/-- The stored object after a move, and the calls the move made. -/
def applyMove (stored : FivetranConnector) : Move → FivetranConnector × List Event
  | .reconcile vault env =>
    let w := finalWorld (invoke vault env stored)
    (w.stored, w.trace)
  | .clearStatus => ({ stored with status := .empty }, [])
  | .requestDeletion t =>
    ({ stored with metadata := { stored.metadata with
        deletionTimestamp := some (stored.metadata.deletionTimestamp.getD t) } }, [])

/-- A run: the stored object after the moves, and the calls of each move in order. -/
def runMoves : FivetranConnector → List Move → FivetranConnector × List (List Event)
  | stored, [] => (stored, [])
  | stored, m :: rest =>
    let (next, calls) := applyMove stored m
    let (final, later) := runMoves next rest
    (final, calls :: later)

end FivetranOperator
