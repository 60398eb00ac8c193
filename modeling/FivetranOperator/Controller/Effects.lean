import FivetranOperator.Fivetran.SchemaBuilder
import FivetranOperator.Fivetran.Compare

/-!
# The reconciler's external calls

One invocation of `Reconcile` runs against the API server, which holds the stored
`FivetranConnector`, and against the provider. The reconciler edits an in-memory copy;
`Update` writes its metadata and spec, `Status().Update` its status, and a successful write
refreshes the copy from the server's response. Every external call draws its answer from
`Responses` by the number of calls made before it, so a statement over every `Responses` covers
every sequence of answers, failures included. A worker stopped between two steps is the same
as every later write failing: after the first failure only status writes follow.

The trace records each call with its outcome. Provider requests are recorded without their
config and auth documents, the only parts that carry resolved secrets.
-/

namespace FivetranOperator

/-- The fields of a provider connection that adoption checks. -/
structure ConnectionDetails where
  service : String
  groupID : String
  schema : String

/-- `fivetran.Connector`, the request body of a create or an update. -/
structure ConnectionRequest where
  service : String
  /-- The decoded config map; `none` is a nil map. -/
  config : Option (List (String × JsonValue))
  auth : Option (List (String × JsonValue))
  paused : Option Bool
  groupID : String
  syncFrequency : Int
  dailySyncTime : String
  runSetupTests : Option Bool
  scheduleType : String
  pauseAfterTrial : Option Bool
  trustCertificates : Option Bool
  trustFingerprints : Option Bool
  dataDelaySensitivity : String
  dataDelayThreshold : Int
  networkingMethod : String
  proxyAgentID : String
  privateLinkID : String
  hybridDeploymentAgentID : String

/-- A request as the trace records it: without the config and auth documents. -/
def ConnectionRequest.redacted (req : ConnectionRequest) : ConnectionRequest :=
  { req with config := none, auth := none }

/-- One setup test result. -/
structure SetupTest where
  title : String
  status : String
  message : String

/-- What the world answers, by call number. -/
structure Responses where
  /-- `r.FivetranClient != nil`. -/
  fivetranClient : Bool
  /-- The vault client is valid or initialises (`none`), or initialisation fails. -/
  vaultClient : Option String
  /-- `Update` or `Status().Update`: `none` when the server accepts the write. -/
  kubeWrite : Nat → Option String
  createConnection : Nat → Except APIError String
  getConnection : Nat → Except APIError ConnectionDetails
  updateConnection : Nat → Except APIError Unit
  deleteConnection : Nat → Except APIError Unit
  runSetupTests : Nat → Except APIError (List SetupTest)
  /-- The response body, with its code, and the error when the call failed. -/
  getSchemaDetails : Nat → SchemaDetails × Option APIError
  reloadSchema : Nat → Except APIError Unit
  updateSchema : Nat → Except APIError Unit
  /-- `metav1.Now()` at call number `n`. -/
  clock : Nat → Nat

/-- One external call and its outcome. -/
inductive Event where
  | update (obj : FivetranConnector) (accepted : Bool)
  | statusUpdate (obj : FivetranConnector) (accepted : Bool)
  | createConnection (req : ConnectionRequest) (id : Option String)
  | getConnection (id : String) (ok : Bool)
  | updateConnection (id : String) (req : ConnectionRequest) (ok : Bool)
  | deleteConnection (id : String) (ok : Bool)
  | runSetupTests (id : String) (trustCertificates trustFingerprints : Option Bool) (ok : Bool)
  | getSchemaDetails (id : String) (ok : Bool)
  | reloadSchema (id excludeMode : String) (ok : Bool)
  | updateSchema (id : String) (req : SchemaUpdateRequest) (ok : Bool)

/-- A connection write the provider accepted: its request, and `true` for a create. -/
def Event.acceptedConnectionWrite : Event → Option (Bool × ConnectionRequest)
  | .createConnection req (some _) => some (true, req)
  | .updateConnection _ req true => some (false, req)
  | _ => none

/-- The state of one invocation. -/
structure World where
  env : Responses
  stored : FivetranConnector
  connector : FivetranConnector
  calls : Nat
  trace : List Event

/-- `ctrl.Result`: `requeueAfter` in seconds, 0 when unset. -/
structure ReconcileResult where
  requeue : Bool
  requeueAfter : Nat
  deriving DecidableEq, Repr

/-- The empty `ctrl.Result{}`. -/
def ReconcileResult.done : ReconcileResult := ⟨false, 0⟩

/-- `ctrl.Result{RequeueAfter: 5 * time.Minute}`. -/
def ReconcileResult.requeueLater : ReconcileResult := ⟨false, 300⟩

/-- What `Reconcile` returns. -/
structure Outcome where
  result : ReconcileResult
  err : Option GoError

/-- How a step of `Reconcile` stops early. -/
inductive Abort where
  /-- A Go function returned an error. -/
  | err (e : GoError)
  /-- `Reconcile` hands the error to `handleError` with this condition and reason. -/
  | failed (conditionType reason : String) (e : GoError)
  /-- A runtime panic, with the runtime's message. -/
  | panic (msg : String)

/-- The reconciler's effects: the world survives an abort. -/
abbrev ReconcileM := EStateM Abort World

/-- The world a step ends in, by return or abort. -/
def finalWorld {ε α : Type} : EStateM.Result ε World α → World
  | .ok _ w => w
  | .error _ w => w

/-- A Go error from a pure computation. -/
def liftExcept {α : Type} (r : Except GoError α) : ReconcileM α := fun w =>
  match r with
  | .ok a => .ok a w
  | .error e => .error (.err e) w

/-- A panic from a pure computation. -/
def liftPanic {α : Type} (r : Except String α) : ReconcileM α := fun w =>
  match r with
  | .ok a => .ok a w
  | .error msg => .error (.panic msg) w

/-- A result with its abort rewritten. -/
def retag {α : Type} (g : Abort → Abort) : EStateM.Result Abort World α → EStateM.Result Abort World α
  | .ok a w => .ok a w
  | .error e w => .error (g e) w

/-- A step with its abort rewritten. -/
def mapAbort {α : Type} (g : Abort → Abort) (x : ReconcileM α) : ReconcileM α := fun w =>
  retag g (x w)

/-- A Go error rewritten; handed-over failures and panics pass through. -/
def Abort.mapErr (f : GoError → GoError) : Abort → Abort
  | .err e => .err (f e)
  | a => a

/-- A Go error tagged for `handleError`. -/
def Abort.tag (conditionType reason : String) : Abort → Abort
  | .err e => .failed conditionType reason e
  | a => a

/-- Rewrite the Go error a step returns. -/
def mapErr {α : Type} (f : GoError → GoError) (x : ReconcileM α) : ReconcileM α :=
  mapAbort (Abort.mapErr f) x

/-- `fmt.Errorf(pre + "%w", err)` around the Go error a step returns. -/
def wrapErr {α : Type} (pre : String) (x : ReconcileM α) : ReconcileM α :=
  mapErr (.wrap pre · "") x

/-- The step's Go error goes to `handleError` with this condition type and reason. -/
def failAs {α : Type} (conditionType reason : String) (x : ReconcileM α) : ReconcileM α :=
  mapAbort (Abort.tag conditionType reason) x

/-- A result's Go error as a value. -/
def catchErr : EStateM.Result Abort World Unit → EStateM.Result Abort World (Option GoError)
  | .ok _ w => .ok none w
  | .error (.err e) w => .ok (some e) w
  | .error a w => .error a w

/-- The Go error of a step as a value, as `return ..., r.setCondition(...)` returns it. -/
def errOf (x : ReconcileM Unit) : ReconcileM (Option GoError) := fun w => catchErr (x w)

/-- The rest of a computation after a result: the next step on return, the abort otherwise. -/
def andThen {α β : Type} (r : EStateM.Result Abort World α) (f : α → ReconcileM β) :
    EStateM.Result Abort World β :=
  match r with
  | .ok a w => f a w
  | .error e w => .error e w

/-- The world's answers. -/
def responses : ReconcileM Responses := fun w => .ok w.env w

/-- The in-memory object. -/
def current : ReconcileM FivetranConnector := fun w => .ok w.connector w

/-- Edit the in-memory object. -/
def modifyConnector (f : FivetranConnector → FivetranConnector) : ReconcileM Unit :=
  fun w => .ok () { w with connector := f w.connector }

/-- The clock at this point of the invocation. -/
def now : ReconcileM Nat := fun w => .ok (w.env.clock w.calls) w

/-- Count a call and record it. -/
def World.record (w : World) (e : Event) : World :=
  { w with calls := w.calls + 1, trace := w.trace ++ [e] }

/-- The world after the server accepts an `Update`: metadata and spec are stored, and the copy
is refreshed from the server's answer. -/
def World.afterUpdate (w : World) : World :=
  let stored := { w.stored with metadata := w.connector.metadata, spec := w.connector.spec }
  { w.record (.update w.connector true) with stored := stored, connector := stored }

/-- The world after the server accepts a `Status().Update`. -/
def World.afterStatusUpdate (w : World) : World :=
  let stored := { w.stored with status := w.connector.status }
  { w.record (.statusUpdate w.connector true) with stored := stored, connector := stored }

/-- `r.Update(ctx, connector)`. -/
def update : ReconcileM Unit := fun w =>
  match w.env.kubeWrite w.calls with
  | none => .ok () w.afterUpdate
  | some msg => .error (.err (.text msg)) (w.record (.update w.connector false))

/-- `r.Status().Update(ctx, connector)`. -/
def statusUpdate : ReconcileM Unit := fun w =>
  match w.env.kubeWrite w.calls with
  | none => .ok () w.afterStatusUpdate
  | some msg => .error (.err (.text msg)) (w.record (.statusUpdate w.connector false))

/-- A provider call: the answer at this call number, recorded with its outcome. -/
def providerCall {α : Type} (answer : Responses → Nat → Except APIError α)
    (event : Bool → Event) : ReconcileM α := fun w =>
  match answer w.env w.calls with
  | .ok a => .ok a (w.record (event true))
  | .error e => .error (.err (.api e)) (w.record (event false))

/-- `Connections.CreateConnection`: the answer is the new connector's ID. -/
def createConnection (req : ConnectionRequest) : ReconcileM String := fun w =>
  match w.env.createConnection w.calls with
  | .ok id => .ok id (w.record (.createConnection req.redacted (some id)))
  | .error e => .error (.err (.api e)) (w.record (.createConnection req.redacted none))

/-- `Connections.GetConnection`. -/
def getConnection (id : String) : ReconcileM ConnectionDetails :=
  providerCall (·.getConnection) (.getConnection id)

/-- `Connections.UpdateConnection`. -/
def updateConnection (id : String) (req : ConnectionRequest) : ReconcileM Unit :=
  providerCall (·.updateConnection) (.updateConnection id req.redacted)

/-- `Connections.DeleteConnection`. -/
def deleteConnection (id : String) : ReconcileM Unit :=
  providerCall (·.deleteConnection) (.deleteConnection id)

/-- `Connections.RunSetupTests`, with the spec's two trust flags. -/
def runSetupTests (id : String) (trustCertificates trustFingerprints : Option Bool) :
    ReconcileM (List SetupTest) :=
  providerCall (·.runSetupTests) (.runSetupTests id trustCertificates trustFingerprints)

/-- `Schemas.ReloadSchema`. -/
def reloadSchemaCall (id excludeMode : String) : ReconcileM Unit :=
  providerCall (·.reloadSchema) (.reloadSchema id excludeMode)

/-- `Schemas.UpdateSchema` once the request is built. -/
def updateSchemaCall (id : String) (req : SchemaUpdateRequest) : ReconcileM Unit :=
  providerCall (·.updateSchema) (.updateSchema id req)

/-- `Schemas.GetSchemaDetails`: the body comes back with the error. -/
def getSchemaDetails (id : String) : ReconcileM (SchemaDetails × Option APIError) := fun w =>
  let answer := w.env.getSchemaDetails w.calls
  .ok answer (w.record (.getSchemaDetails id answer.2.isNone))

section Apply

variable {α β : Type}

/-- A bind runs its first action, then the continuation on its result. -/
@[simp] theorem bind_apply (x : ReconcileM α) (f : α → ReconcileM β) (w : World) :
    (x >>= f) w = andThen (x w) f := by
  show EStateM.bind x f w = _
  unfold EStateM.bind andThen
  cases x w <;> rfl

/-- A returned value goes on. -/
@[simp] theorem andThen_ok (a : α) (w : World) (f : α → ReconcileM β) :
    andThen (.ok a w) f = f a w := rfl

/-- An abort stops. -/
@[simp] theorem andThen_error (e : Abort) (w : World) (f : α → ReconcileM β) :
    andThen (.error e w) f = .error e w := rfl

/-- `pure` returns in the same world. -/
@[simp] theorem pure_apply (a : α) (w : World) : (pure a : ReconcileM α) w = .ok a w := rfl

/-- `throw` aborts in the same world. -/
@[simp] theorem throw_apply (e : Abort) (w : World) :
    (throw e : ReconcileM α) w = .error e w := rfl

/-- `responses` reads the answers. -/
@[simp] theorem responses_apply (w : World) : responses w = .ok w.env w := rfl

/-- `current` reads the copy. -/
@[simp] theorem current_apply (w : World) : current w = .ok w.connector w := rfl

/-- `now` reads the clock at this call number. -/
@[simp] theorem now_apply (w : World) : now w = .ok (w.env.clock w.calls) w := rfl

/-- `modifyConnector` edits the copy. -/
@[simp] theorem modifyConnector_apply (f : FivetranConnector → FivetranConnector) (w : World) :
    modifyConnector f w = .ok () { w with connector := f w.connector } := rfl

/-- A lifted value returns. -/
@[simp] theorem liftExcept_ok (a : α) (w : World) : liftExcept (.ok a) w = .ok a w := rfl

/-- A lifted error aborts with it. -/
@[simp] theorem liftExcept_error (e : GoError) (w : World) :
    (liftExcept (.error e) : ReconcileM α) w = .error (.err e) w := rfl

/-- `mapAbort` retags the abort of its action. -/
@[simp] theorem mapAbort_apply (g : Abort → Abort) (x : ReconcileM α) (w : World) :
    mapAbort g x w = retag g (x w) := rfl

/-- Retagging leaves a return alone. -/
@[simp] theorem retag_ok (g : Abort → Abort) (a : α) (w : World) :
    retag g (.ok a w) = .ok a w := rfl

/-- Retagging an abort. -/
@[simp] theorem retag_error (g : Abort → Abort) (e : Abort) (w : World) :
    (retag g (.error e w) : EStateM.Result Abort World α) = .error (g e) w := rfl

/-- `errOf` catches the error of its action. -/
@[simp] theorem errOf_apply (x : ReconcileM Unit) (w : World) : errOf x w = catchErr (x w) := rfl

/-- No error caught on a return. -/
@[simp] theorem catchErr_ok (w : World) : catchErr (.ok () w) = .ok none w := rfl

/-- An error caught. -/
@[simp] theorem catchErr_err (e : GoError) (w : World) : catchErr (.error (.err e) w) = .ok (some e) w :=
  rfl

/-- An accepted `Update`. -/
theorem update_accepted {w : World} (h : w.env.kubeWrite w.calls = none) :
    update w = .ok () w.afterUpdate := by
  simp [update, h]

/-- A rejected `Update`, recorded. -/
theorem update_rejected {w : World} {msg : String} (h : w.env.kubeWrite w.calls = some msg) :
    update w = .error (.err (.text msg)) (w.record (.update w.connector false)) := by
  simp [update, h]

/-- An accepted `Status().Update`. -/
theorem statusUpdate_accepted {w : World} (h : w.env.kubeWrite w.calls = none) :
    statusUpdate w = .ok () w.afterStatusUpdate := by
  simp [statusUpdate, h]

/-- A rejected `Status().Update`, recorded. -/
theorem statusUpdate_rejected {w : World} {msg : String} (h : w.env.kubeWrite w.calls = some msg) :
    statusUpdate w = .error (.err (.text msg)) (w.record (.statusUpdate w.connector false)) := by
  simp [statusUpdate, h]

end Apply

end FivetranOperator
