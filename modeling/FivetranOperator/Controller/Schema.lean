import FivetranOperator.Controller.Status
import FivetranOperator.Controller.ConvertSchema
import FivetranOperator.Controller.Fingerprint

/-!
# The schema drift reconciler

`reconcileSchema`, `reloadSchema`, `applySchema` and `updateSchemaHash` (`unnamed/part_002`).
The declared tree is applied, the live schema is fetched and compared; on a mismatch one
reload-apply-fetch-compare cycle follows, and a second mismatch is
`ErrSchemaMismatchAfterRetry`. A connector without schema metadata (`NotFound_SchemaConfig`) is
reloaded first. The schema fingerprint is written after every successful apply, before the
verification.
-/

namespace FivetranOperator

open FivetranConnector

/-- `reloadSchema`: `EXCLUDE` under the `BLOCK_ALL` policy, `PRESERVE` otherwise. -/
def reloadSchema (connectorID : String) : ReconcileM Unit := do
  let c ← current
  let cfg ← liftPanic (deref c.spec.connectorSchemas)
  let excludeMode := if cfg.schemaChangeHandling = "BLOCK_ALL" then "EXCLUDE" else "PRESERVE"
  wrapErr "reloadSchema: " (reloadSchemaCall connectorID excludeMode)

/-- `updateSchemaHash`. -/
def updateSchemaHash : ReconcileM Unit := do
  let c ← current
  modifyConnector (setAnnotationValue · annotationSchemaHash (calculateSchemaHash c))
  update

/-- `applySchema`: `UpdateSchema` builds the request from the builder, then sends it. -/
def applySchema (connectorID : String) : ReconcileM Unit := do
  let c ← current
  let builder ← liftPanic (deref (convertSchema c.spec.connectorSchemas))
  wrapErr "applySchema: " do
    let req ← liftExcept (schemaUpdateRequest builder)
    updateSchemaCall connectorID req
  updateSchemaHash

/-- A `GetSchemaDetails` whose failure ends the step, wrapped with the step's text. -/
def fetchSchemaDetails (pre connectorID : String) : ReconcileM SchemaDetails := do
  let (details, err) ← getSchemaDetails connectorID
  match err with
  | some e => throw (.err (.wrap pre (.api e) ""))
  | none => pure details

/-- `reconcileSchema`. -/
def reconcileSchema (connectorID : String) : ReconcileM Unit := do
  let (details, err) ← getSchemaDetails connectorID
  (match err with
  | some e =>
    if details.code ≠ schemaNotFoundError then
      throw (.err (.wrap "reconcileSchema: failed to get schema details: " (.api e) ""))
    else wrapErr "reconcileSchema: " (reloadSchema connectorID)
  | none => pure ())
  wrapErr "reconcileSchema: " (applySchema connectorID)
  let details ← fetchSchemaDetails "reconcileSchema: failed to get schema details after apply: "
    connectorID
  let c ← current
  let (matched, _) ← liftPanic (compareSchemaWithCR details c.spec.connectorSchemas)
  (if !matched then do
    wrapErr "reconcileSchema reloadSchema retry: " (reloadSchema connectorID)
    wrapErr "reconcileSchema applySchema retry: " (applySchema connectorID)
    let details ← fetchSchemaDetails "reconcileSchema getSchemaDetails retry: " connectorID
    let c ← current
    let (retryMatches, retryMismatchDetails) ←
      liftPanic (compareSchemaWithCR details c.spec.connectorSchemas)
    if !retryMatches then
      throw (.err (.wrap ("reconcileSchema compareSchemaWithCR retry: mismatches: " ++
        retryMismatchDetails.string ++ " - ") (.sentinel .schemaMismatchAfterRetry) ""))
    else pure ()
  else pure ())
  setCondition conditionTypeSchemaReady .conditionTrue schemaReasonReconciliationSuccess msgSchemaReady

end FivetranOperator
