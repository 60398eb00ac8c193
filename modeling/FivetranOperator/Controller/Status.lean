import FivetranOperator.Controller.Effects
import FivetranOperator.Controller.Conditions
import FivetranOperator.Controller.Constants

/-!
# Status management

`setCondition`, `handleError` and `updateSetupTestsCondition` (`status_mgmt.go`).
`setCondition` upserts one condition in the in-memory copy, stamped with the clock, and writes
the status. `handleError` is the error taxonomy: it looks for a sentinel with `errors.Is`, then
for a `*VaultError` and an `*APIError` with `errors.As`, and picks the result and the condition
to persist from what it finds.
-/

namespace FivetranOperator

/-- The condition `setCondition` writes. -/
def mkCondition (conditionType : String) (status : ConditionStatus) (reason message : String)
    (now : Nat) : Condition :=
  ⟨conditionType, status, reason, message, now⟩

/-- The in-memory copy with one condition upserted. -/
def FivetranConnector.withCondition (c : FivetranConnector) (condition : Condition) :
    FivetranConnector :=
  { c with status := { c.status with conditions := upsertCondition c.status.conditions condition } }

/-- `setCondition`. -/
def setCondition (conditionType : String) (status : ConditionStatus) (reason message : String) :
    ReconcileM Unit := do
  let t ← now
  modifyConnector (·.withCondition (mkCondition conditionType status reason message t))
  statusUpdate

/-- `handleError`: the result, and the error returned with it. -/
def handleError (conditionType reason : String) (err : GoError) : ReconcileM Outcome :=
  if err.is .schemaMismatchAfterRetry then do
    let e ← errOf (setCondition conditionType .conditionFalse reason err.error)
    pure ⟨.done, e⟩
  else if err.is .setupTestsFailed then do
    match ← errOf (setCondition conditionTypeConnectorReady .conditionTrue connectorReasonSuccess
        msgConnectorReady) with
    | some e => pure ⟨.done, some e⟩
    | none =>
      let e ← errOf (setCondition conditionType .conditionFalse reason err.error)
      pure ⟨.done, e⟩
  else if err.is .connectorValidationFailed then do
    let e ← errOf (setCondition conditionType .conditionFalse reason err.error)
    pure ⟨.done, e⟩
  else
    match err.asVault with
    | some retryable => do
      let e ← errOf (setCondition conditionType .conditionFalse reason err.error)
      pure ⟨if retryable then .requeueLater else .done, e⟩
    | none =>
      match err.asAPI with
      | some apiErr => do
        let e ← errOf (setCondition conditionType .conditionFalse reason apiErr.error)
        pure ⟨if apiErr.isRetryable then .requeueLater else .done, e⟩
      | none => do
        match ← errOf (setCondition conditionType .conditionFalse reason err.error) with
        | some e => pure ⟨.done, some e⟩
        | none => pure ⟨.done, some err⟩

/-- The result `handleError` returns for an error: no requeue for the three sentinels, for a
non-retryable `*VaultError` and for a non-retryable `*APIError`; a requeue after five minutes
for the retryable ones; none otherwise, where the error itself is returned. -/
def errorResult (err : GoError) : ReconcileResult :=
  if err.is .schemaMismatchAfterRetry || err.is .setupTestsFailed ||
      err.is .connectorValidationFailed then .done
  else
    match err.asVault with
    | some retryable => if retryable then .requeueLater else .done
    | none =>
      match err.asAPI with
      | some apiErr => if apiErr.isRetryable then .requeueLater else .done
      | none => .done

/-- A status write's only abort is its own error. -/
@[simp] theorem catchErr_statusUpdate (w : World) :
    catchErr (statusUpdate w) = .ok ((w.env.kubeWrite w.calls).map .text) (finalWorld (statusUpdate w)) := by
  unfold statusUpdate
  cases w.env.kubeWrite w.calls <;> rfl

/-- The error a `setCondition` returns, and the world after it. -/
theorem errOf_setCondition (conditionType : String) (status : ConditionStatus) (reason message : String) :
    errOf (setCondition conditionType status reason message) = fun w =>
      .ok ((w.env.kubeWrite w.calls).map .text) (finalWorld (statusUpdate { w with
        connector := w.connector.withCondition
          (mkCondition conditionType status reason message (w.env.clock w.calls)) })) := by
  funext w
  simp [setCondition]

/-- `handleError` always returns, with the result its error class gives. -/
theorem handleError_result (conditionType reason : String) (err : GoError) (w : World) :
    ∃ o w', handleError conditionType reason err w = .ok o w' ∧ o.result = errorResult err := by
  unfold handleError errorResult
  cases hs : err.is .schemaMismatchAfterRetry with
  | true => simp only [hs, errOf_setCondition, bind_apply, andThen_ok, pure_apply, ↓reduceIte,
      Bool.true_or]; exact ⟨_, _, rfl, rfl⟩
  | false =>
  cases hu : err.is .setupTestsFailed with
  | true =>
    simp only [hs, hu, errOf_setCondition, bind_apply, andThen_ok, pure_apply, ↓reduceIte,
      Bool.false_eq_true, Bool.false_or, Bool.true_or]
    cases w.env.kubeWrite w.calls <;> exact ⟨_, _, rfl, rfl⟩
  | false =>
  cases hv : err.is .connectorValidationFailed with
  | true => simp only [hs, hu, hv, errOf_setCondition, bind_apply, andThen_ok, pure_apply, ↓reduceIte,
      Bool.false_eq_true, Bool.or_true]; exact ⟨_, _, rfl, rfl⟩
  | false =>
  simp only [hs, hu, hv, errOf_setCondition, bind_apply, andThen_ok, pure_apply, ↓reduceIte,
    Bool.false_eq_true, Bool.or_false]
  cases err.asVault with
  | some retryable => exact ⟨_, _, rfl, rfl⟩
  | none =>
  cases err.asAPI with
  | some apiErr => exact ⟨_, _, rfl, rfl⟩
  | none =>
    simp only [bind_apply, andThen_ok]
    cases w.env.kubeWrite w.calls <;> exact ⟨_, _, rfl, rfl⟩

/-- `updateSetupTestsCondition`. -/
def updateSetupTestsCondition (setupTestWarnings : List String) : ReconcileM Unit := do
  let c ← current
  if !c.spec.connector.runSetupTests.getD true then
    setCondition conditionTypeSetupTestReady .conditionTrue setupTestsReasonSkipped msgSetupTestsSkipped
  else if setupTestWarnings.isEmpty then
    setCondition conditionTypeSetupTestReady .conditionTrue setupTestsReasonReconciliationSuccess
      msgSetupTestsCompletedSuccessfully
  else
    setCondition conditionTypeSetupTestReady .conditionTrue
      setupTestsReasonReconciliationSuccessWithWarnings
      (msgSetupTestsWarnings (String.intercalate "; " setupTestWarnings))

end FivetranOperator
