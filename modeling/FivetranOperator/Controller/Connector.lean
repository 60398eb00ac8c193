import FivetranOperator.Api.Decode
import FivetranOperator.Controller.Status
import FivetranOperator.Controller.Fingerprint

/-!
# The connector lifecycle

`reconcileConnector` in its recovery-marker version and its helpers (`unnamed/part_003`), the
adoption path `handleExistingConnectorAdoption` and `updateConnectorIDStatus`
(`unnamed/part_002`), `toFivetranConnector` (`utils.go`) and `reconcileSetupTests`
(`setup_tests.go`).

A known ID is updated; an unknown one is recovered from the marker annotation, or created.
`setConnectorID` persists a new ID twice, in status first and in the marker second, each by its
own write. Adoption validates the connector the same way recovery does but records its ID with
the status write alone.
-/

namespace FivetranOperator

open FivetranConnector

/-- The kind `encoding/json` names in a type error. -/
def JsonValue.kind : JsonValue → String
  | .null => "null"
  | .bool _ => "bool"
  | .number _ => "number"
  | .string _ => "string"
  | .array _ => "array"
  | .object _ => "object"

/-- The dynamic type of a decoded `any`, as a failed type assertion reports it. -/
def JsonValue.goType : JsonValue → String
  | .null => "nil"
  | .bool _ => "bool"
  | .number _ => "float64"
  | .string _ => "string"
  | .array _ => "[]interface \x7b\x7d"
  | .object _ => "map[string]interface \x7b\x7d"

/-- `json.Unmarshal(raw, &m)` into a `map[string]any`; `none` in the result is the nil map that
`null` leaves. An object decodes unless a number in it is out of `float64` range, a value of
another kind fails at once. -/
def unmarshalObject (raw : Option JsonValue) : Except GoError (Option (List (String × JsonValue))) :=
  match raw with
  | none => .error (.text "unexpected end of JSON input")
  | some .null => .ok none
  | some (.object entries) =>
    match (JsonValue.object entries).outOfRangeNumber with
    | some text => .error (.text ("json: cannot unmarshal number " ++ text ++ " into Go value of type float64"))
    | none => .ok (some entries)
  | some v =>
    .error (.text ("json: cannot unmarshal " ++ v.kind ++
      " into Go value of type map[string]interface \x7b\x7d"))

/-- `m[key]` on a decoded map: the value of the key's last entry. -/
def configValue (config : Option (List (String × JsonValue))) (key : String) : Option JsonValue :=
  config.bind fun entries => GoMap.lookupEntry key entries.reverse

/-- `m[key].(string)` with its `ok`. -/
def configString (config : Option (List (String × JsonValue))) (key : String) : Option String :=
  match configValue config key with
  | some (.string s) => some s
  | _ => none

/-- The base schema name with its single-table suffix, then its table-group suffix; the
assertion `tablegroupname.(string)` panics on any other type. -/
def schemaWithSuffix (config : Option (List (String × JsonValue))) (schema : String) :
    Except String String :=
  let withTable :=
    match configString config "table" with
    | some table => if table ≠ "" then schema ++ "." ++ table else schema
    | none => schema
  match configValue config "table_group_name" with
  | none => .ok withTable
  | some (.string group) => .ok (if group ≠ "" then schema ++ "." ++ group else withTable)
  | some v => .error ("interface conversion: interface \x7b\x7d is " ++ v.goType ++ ", not string")

/-- The schema name a connector's config implies: `schema_prefix`, else `schema` with its
suffixes, else "" when it names none. -/
def expectedSchemaName (config : Option (List (String × JsonValue))) : Except String String :=
  let fromSchema :=
    match configString config "schema" with
    | some schema => if schema ≠ "" then schemaWithSuffix config schema else .ok ""
    | none => .ok ""
  match configString config "schema_prefix" with
  | some pre => if pre ≠ "" then .ok pre else fromSchema
  | none => fromSchema

/-- The checks adoption and annotation recovery make on an existing connector before taking its
ID; `fn` is the calling function's name, which prefixes every error. -/
def validateExistingConnector (fn connectorID : String) : ReconcileM Unit := do
  let existing ← wrapErr (fn ++ ": failed to get existing connector " ++ connectorID ++ ": ")
    (getConnection connectorID)
  let c ← current
  let spec := c.spec.connector
  if spec.service ≠ existing.service then
    throw (.err (.text (fn ++ ": service mismatch: spec has '" ++ spec.service ++
      "', existing connector has '" ++ existing.service ++ "'")))
  else if spec.groupID ≠ existing.groupID then
    throw (.err (.text (fn ++ ": group_id mismatch: spec has '" ++ spec.groupID ++
      "', existing connector has '" ++ existing.groupID ++ "'")))
  else
    match spec.config with
    | none => pure ()
    | some ext =>
      match unmarshalObject ext.raw with
      | .error e => throw (.err (.wrap (fn ++ ": failed to unmarshal config: ") e ""))
      | .ok config => do
        let expectedSchema ← liftPanic (expectedSchemaName config)
        if expectedSchema ≠ "" ∧ expectedSchema ≠ existing.schema then
          throw (.err (.text (fn ++ ": schema mismatch: expected '" ++ expectedSchema ++
            "', got '" ++ existing.schema ++ "'")))
        else pure ()

/-- The in-memory copy with a connector ID and its dashboard URL in status. -/
def FivetranConnector.withConnectorID (c : FivetranConnector) (connectorID : String) :
    FivetranConnector :=
  { c with status := { c.status with
      connectorID := connectorID
      connectorURL := fivetranConnectorURL connectorID } }

/-- `setConnectorID`: status first, then the marker annotation, each with its own write. -/
def setConnectorID (connectorID : String) : ReconcileM Unit := do
  modifyConnector (·.withConnectorID connectorID)
  statusUpdate
  modifyConnector (setAnnotationValue · annotationConnectorID connectorID)
  update

/-- `updateConnectorIDStatus`: the status write alone. -/
def updateConnectorIDStatus (connectorID : String) : ReconcileM Unit := do
  modifyConnector (·.withConnectorID connectorID)
  statusUpdate

/-- `handleConnectorFromAnnotation`: recovery or adoption from the marker. -/
def handleConnectorFromAnnotation (annotationConnectorID : String) : ReconcileM Unit := do
  validateExistingConnector "handleConnectorFromAnnotation" annotationConnectorID
  setConnectorID annotationConnectorID

/-- `handleExistingConnectorAdoption`: adoption from the adoption annotation. -/
def handleExistingConnectorAdoption (adoptConnectorID : String) : ReconcileM Unit := do
  validateExistingConnector "handleExistingConnectorAdoption" adoptConnectorID
  updateConnectorIDStatus adoptConnectorID

/-- `handleExistingConnectorAdoptionIfNeeded`: whether adoption ran and the request requeues. -/
def handleExistingConnectorAdoptionIfNeeded : ReconcileM Bool := do
  let c ← current
  if c.status.connectorID = "" then
    let adoptConnectorID := getAnnotationValue c annotationAdoptExistingConnectorID
    if adoptConnectorID ≠ "" then do
      handleExistingConnectorAdoption adoptConnectorID
      pure true
    else pure false
  else pure false

/-- The decoded map of a resolved document; an absent or empty document is skipped. -/
def unmarshalResolved (what : String) (resolved : Option RawExtension) :
    Except GoError (Option (List (String × JsonValue))) :=
  match resolved with
  | some ⟨some doc⟩ =>
    match unmarshalObject (some doc) with
    | .ok m => .ok m
    | .error e => .error (.wrap ("toFivetranConnector: failed to unmarshal " ++ what ++ ": ") e "")
  | _ => .ok none

/-- `toFivetranConnector`: the request body from the spec and the resolved documents. -/
def toFivetranConnector (connector : FivetranConnector) (resolvedConfig resolvedAuth : Option RawExtension) :
    Except GoError ConnectionRequest := do
  let config ← unmarshalResolved "config" resolvedConfig
  let auth ← unmarshalResolved "auth" resolvedAuth
  let c := connector.spec.connector
  pure
    { service := c.service, config := config, auth := auth, paused := c.paused,
      groupID := c.groupID, syncFrequency := c.syncFrequency, dailySyncTime := c.dailySyncTime,
      runSetupTests := c.runSetupTests, scheduleType := c.scheduleType,
      pauseAfterTrial := c.pauseAfterTrial, trustCertificates := c.trustCertificates,
      trustFingerprints := c.trustFingerprints, dataDelaySensitivity := c.dataDelaySensitivity,
      dataDelayThreshold := c.dataDelayThreshold, networkingMethod := c.networkingMethod,
      proxyAgentID := c.proxyAgentID, privateLinkID := c.privateLinkID,
      hybridDeploymentAgentID := c.hybridDeploymentAgentID }

/-- `createConnector`: always created paused. -/
def createConnector (resolvedConfig resolvedAuth : Option RawExtension) : ReconcileM String := do
  let c ← current
  let req ← liftExcept (toFivetranConnector c resolvedConfig resolvedAuth)
  createConnection { req with paused := some true }

/-- `updateConnector`. -/
def updateConnector (connectorID : String) (resolvedConfig resolvedAuth : Option RawExtension) :
    ReconcileM Unit := do
  let c ← current
  let req ← liftExcept (toFivetranConnector c resolvedConfig resolvedAuth)
  updateConnection connectorID req

/-- `updateConnectorHash`. -/
def updateConnectorHash : ReconcileM Unit := do
  let c ← current
  modifyConnector (setAnnotationValue · annotationConnectorHash (calculateConnectorHash c))
  update

/-- The error recovery returns: `fmt.Errorf("%w: ID %s, details: %v", ...)`, so the cause is
text and no longer part of the error tree. -/
def connectorValidationError (connectorID : String) (err : GoError) : GoError :=
  .wrap "" (.sentinel .connectorValidationFailed) (": ID " ++ connectorID ++ ", details: " ++ err.error)

/-- The connector ID `reconcileConnector` goes on with, as its `if` binds it: the ID in status,
whose connector is updated; the marker's, validated, recorded and updated; or a new connector's,
created and recorded. -/
def reconcileConnectorID (c : FivetranConnector) (resolvedConfig resolvedAuth : Option RawExtension) :
    ReconcileM String :=
  if c.status.connectorID ≠ "" then do
    updateConnector c.status.connectorID resolvedConfig resolvedAuth
    pure c.status.connectorID
  else
    let connectorIDFromAnnotation := getAnnotationValue c annotationConnectorID
    if connectorIDFromAnnotation ≠ "" then do
      mapErr (connectorValidationError connectorIDFromAnnotation)
        ( handleConnectorFromAnnotation connectorIDFromAnnotation)
      updateConnector connectorIDFromAnnotation resolvedConfig resolvedAuth
      pure connectorIDFromAnnotation
    else do
      let connectorID ← createConnector resolvedConfig resolvedAuth
      setConnectorID connectorID
      pure connectorID

/-- `reconcileConnector`: update a known ID, recover one from the marker, or create. -/
def reconcileConnector (resolvedConfig resolvedAuth : Option RawExtension) : ReconcileM String := do
  let c ← current
  let connectorID ← reconcileConnectorID c resolvedConfig resolvedAuth
  updateConnectorHash
  setCondition conditionTypeConnectorReady .conditionTrue connectorReasonSuccess msgConnectorReady
  pure connectorID

/-- The warning a setup test reports, if it is one. -/
def setupTestWarning (test : SetupTest) : Option String :=
  if test.status = setupTestStatusWarning then some (test.title ++ ": " ++ test.message) else none

/-- The failure a setup test reports: any status but passed, skipped and warning. -/
def setupTestFailure (test : SetupTest) : Option String :=
  if test.status = setupTestStatusWarning then none
  else if test.status ≠ setupTestStatusPassed ∧ test.status ≠ setupTestStatusSkipped then
    some ("reconcileSetupTests failed: " ++ test.title ++ " (status: " ++ test.status ++ ") - " ++
      test.message)
  else none

/-- `reconcileSetupTests`: the warnings, or `ErrSetupTestsFailed` with every failure. -/
def reconcileSetupTests (connectorID : String) : ReconcileM (List String) := do
  let c ← current
  if !c.spec.connector.runSetupTests.getD true then do
    updateSetupTestsCondition []
    pure []
  else do
    let tests ← wrapErr "reconcileSetupTests: " (runSetupTests connectorID
      c.spec.connector.trustCertificates c.spec.connector.trustFingerprints)
    let warningMessages := tests.filterMap setupTestWarning
    let setupTestErrors := tests.filterMap setupTestFailure
    if !setupTestErrors.isEmpty then
      throw (.err (.wrap "" (.sentinel .setupTestsFailed)
        (": " ++ String.intercalate "\n" setupTestErrors)))
    else do
      updateSetupTestsCondition warningMessages
      pure warningMessages

end FivetranOperator
