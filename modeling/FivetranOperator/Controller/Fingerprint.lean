import FivetranOperator.Api.Marshal
import FivetranOperator.Hash.Md5
import FivetranOperator.Kube.Metadata
import FivetranOperator.Controller.Constants

/-!
# Fingerprints and the decision to reconcile

`calculateConnectorHash`, `calculateSchemaHash`, the two change tests against the stored
annotations, and `determineReconciliationNeeds` (`utils.go`). Hashing is MD5 of the spec's JSON
encoding; `json.Marshal` cannot fail on a decoded document, so neither can the hashes.

The connector test compares only fingerprints. The schema test also forces work while
`status.connectorId` is empty; the connector test has no such guard.
-/

namespace FivetranOperator

open FivetranConnector

/-- `calculateConnectorHash`. -/
def calculateConnectorHash (connector : FivetranConnector) : String :=
  md5Hex (marshalConnector connector.spec.connector)

/-- `calculateSchemaHash`: "" when no schema configuration is declared. -/
def calculateSchemaHash (connector : FivetranConnector) : String :=
  match connector.spec.connectorSchemas with
  | none => ""
  | some cfg => md5Hex (marshalSchemaConfig cfg)

/-- `hasSchemaConfig`: schemas are declared or a change-handling policy is set. -/
def hasSchemaConfig (connector : FivetranConnector) : Bool :=
  match connector.spec.connectorSchemas with
  | none => false
  | some cfg => !cfg.schemas.entries.isEmpty || cfg.schemaChangeHandling != ""

/-- `hasFailedConditions`: some condition has status False. -/
def hasFailedConditions (connector : FivetranConnector) : Bool :=
  connector.status.conditions.any (·.status == .conditionFalse)

/-- `hasConnectorHashChanged`. -/
def hasConnectorHashChanged (connector : FivetranConnector) : Bool :=
  calculateConnectorHash connector != getAnnotationValue connector annotationConnectorHash

/-- `hasSchemaHashChanged`: no configuration never changes; an unknown connector always does. -/
def hasSchemaHashChanged (connector : FivetranConnector) : Bool :=
  if !hasSchemaConfig connector then false
  else if connector.status.connectorID = "" then true
  else calculateSchemaHash connector != getAnnotationValue connector annotationSchemaHash

/-- `determineReconciliationNeeds`: whether to reconcile the connector and the schema. -/
def determineReconciliationNeeds (connector : FivetranConnector) (forceReconcile : Bool) :
    Bool × Bool :=
  if forceReconcile || hasFailedConditions connector then (true, hasSchemaConfig connector)
  else (hasConnectorHashChanged connector, hasSchemaHashChanged connector)

/-- Without force or a failed condition, a matching connector fingerprint and no schema work
give the no-op decision, whatever `status.connectorId` holds. -/
theorem determineReconciliationNeeds_noop (connector : FivetranConnector)
    (hfailed : hasFailedConditions connector = false)
    (hhash : getAnnotationValue connector annotationConnectorHash = calculateConnectorHash connector)
    (hschema : hasSchemaHashChanged connector = false) :
    determineReconciliationNeeds connector false = (false, false) := by
  simp [determineReconciliationNeeds, hfailed, hasConnectorHashChanged, hhash, hschema]

end FivetranOperator
