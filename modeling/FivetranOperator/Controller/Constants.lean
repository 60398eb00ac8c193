import FivetranOperator.Errors

/-!
# Controller constants

The `const` block of the controller package: the finalizer, annotation and label keys,
condition types, reasons and messages. `annotationConnectorID`, the recovery marker's key, is
read and written by the recovery-marker version of `reconcileConnector` but declared outside
the sources.
-/

namespace FivetranOperator

/-- `fivetranFinalizer`. -/
def fivetranFinalizer : String := "fivetran.dataverse.redhat.com/finalizer"

/-- `fivetranConnectorURL`, with the connector ID in place of `%s`. -/
def fivetranConnectorURL (connectorID : String) : String :=
  "https://fivetran.com/dashboard/connectors/" ++ connectorID

/-- `annotationForceReconcile`, used as a label key. -/
def annotationForceReconcile : String := "operator.dataverse.redhat.com/force-reconcile"

/-- `annotationConnectorHash`. -/
def annotationConnectorHash : String := "operator.dataverse.redhat.com/connector-hash"

/-- `annotationSchemaHash`. -/
def annotationSchemaHash : String := "operator.dataverse.redhat.com/schema-hash"

/-- `annotationAdoptExistingConnectorID`. -/
def annotationAdoptExistingConnectorID : String :=
  "operator.dataverse.redhat.com/adopt-existing-connector-id"

/-- `annotationConnectorID`, the recovery marker.

Modelled from the spec: the key is declared outside the sources; the spec names it the backup
copy of the SaaS identity among the persisted markers. -/
def annotationConnectorID : String := "operator.dataverse.redhat.com/connector-id"

/-- `conditionTypeConnectorReady`. -/
def conditionTypeConnectorReady : String := "ConnectorReady"

/-- `conditionTypeSetupTestReady`. -/
def conditionTypeSetupTestReady : String := "SetupTestReady"

/-- `conditionTypeSchemaReady`. -/
def conditionTypeSchemaReady : String := "SchemaReady"

/-- `ConnectorReasonDeletionFailed`. -/
def connectorReasonDeletionFailed : String := "DeletionFailed"

/-- `ConnectorReasonFinalizerUpdateFailed`. -/
def connectorReasonFinalizerUpdateFailed : String := "FinalizerUpdateFailed"

/-- `ConnectorReasonReconciliationFailed`. -/
def connectorReasonReconciliationFailed : String := "ReconciliationFailed"

/-- `ConnectorReasonSuccess`. -/
def connectorReasonSuccess : String := "ReconciledSuccessfully"

/-- `ConnectorReasonVaultClientInitializationFailed`. -/
def connectorReasonVaultClientInitializationFailed : String := "VaultClientInitializationFailed"

/-- `ConnectorReasonVaultSecretsResolutionFailed`. -/
def connectorReasonVaultSecretsResolutionFailed : String := "VaultSecretsResolutionFailed"

/-- `ConnectorReasonFivetranClientNotInitialized`. -/
def connectorReasonFivetranClientNotInitialized : String := "FivetranClientNotInitialized"

/-- `ConnectorReasonExistingConnectorAdoptionFailed`. -/
def connectorReasonExistingConnectorAdoptionFailed : String := "ExistingConnectorAdoptionFailed"

/-- `SetupTestsReasonReconciliationFailed`. -/
def setupTestsReasonReconciliationFailed : String := "ReconciliationFailed"

/-- `SetupTestsReasonReconciliationSuccess`. -/
def setupTestsReasonReconciliationSuccess : String := "ReconciledSuccessfully"

/-- `SetupTestsReasonReconciliationSuccessWithWarnings`. -/
def setupTestsReasonReconciliationSuccessWithWarnings : String :=
  "ReconciledSuccessfullyWithWarnings"

/-- `SetupTestsReasonSkipped`. -/
def setupTestsReasonSkipped : String := "Skipped"

/-- `SchemaReasonReconciliationFailed`. -/
def schemaReasonReconciliationFailed : String := "ReconciliationFailed"

/-- `SchemaReasonReconciliationSuccess`. -/
def schemaReasonReconciliationSuccess : String := "ReconciledSuccessfully"

/-- `SchemaReasonSkipped`. -/
def schemaReasonSkipped : String := "Skipped"

/-- `SchemaNotFoundError`, the response code of a connector without schema metadata. -/
def schemaNotFoundError : String := "NotFound_SchemaConfig"

/-- `setupTestStatusPassed`. -/
def setupTestStatusPassed : String := "PASSED"

/-- `setupTestStatusSkipped`. -/
def setupTestStatusSkipped : String := "SKIPPED"

/-- `setupTestStatusWarning`. -/
def setupTestStatusWarning : String := "WARNING"

/-- `msgConnectorReady`. -/
def msgConnectorReady : String := "Connector is ready"

/-- `msgSetupTestsCompletedSuccessfully`. -/
def msgSetupTestsCompletedSuccessfully : String := "Setup tests completed successfully"

/-- `msgSetupTestsSkipped`. -/
def msgSetupTestsSkipped : String := "Setup tests skipped"

/-- `msgSchemaReady`. -/
def msgSchemaReady : String := "Schema configuration is ready"

/-- `msgSchemaSkipped`. -/
def msgSchemaSkipped : String := "No schema configuration specified"

/-- `msgSetupTestsWarningsFormat` applied to the joined warnings. -/
def msgSetupTestsWarnings (warnings : String) : String :=
  "Setup tests completed with warnings: " ++ warnings

/-- The annotation keys the reconciler reads and writes are pairwise distinct. -/
theorem annotation_keys_distinct :
    [annotationConnectorHash, annotationSchemaHash, annotationAdoptExistingConnectorID,
      annotationConnectorID].Nodup := by
  decide

end FivetranOperator
