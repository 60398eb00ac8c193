import FivetranOperator.Controller.Reconcile
import Mathlib.Logic.Relation

/-!
# What one invocation may change

Every step of an invocation is one of four kinds: an edit of the in-memory copy, an `Update`, a
`Status().Update`, or a call recorded in the trace. `Step edit call` is that relation, its edits
those the guard `edit` admits and its calls those the guard `call` admits. The development reads
an invocation through two instances of it.

* `Allowed` keeps the guards of the code: a connector ID in status or in the marker annotation is
  never overwritten once set, the finalizer is dropped only after the connector in status is
  deleted, and `CreateConnection` is called only while neither status nor the marker holds an
  ID. Two more facts hold of every edit: the spec is never edited, and the connector fingerprint
  annotation is only ever written from the spec.
* `Walk E` sorts the steps by what they do to the resource: edits drawn from `E`, and calls that
  are not writes, whose connection request, if they send one, is the request
  `toFivetranConnector` builds from the copy's spec. `LiveEdit` holds the edits made on the way
  to a successful end; `ControllerEdit` adds the finalizer's removal and the conditions
  `handleError` writes.

`Safe E pre x post` says both at once of a function of the controller: from a world satisfying
`pre`, `x` takes steps within both guards, its edits drawn from `E`, and returns in a world
satisfying `post`. Module `Safety` proves one `Safe` lemma per function, from the lemmas of the
functions it calls; its path of `Allowed` steps (`Safe.reach`) and of `Walk` steps
(`Safe.walks`) are read off that one lemma.

A write always leaves the copy equal to the stored object (`InSync`), which is what the guards of
`setConnectorID` rely on.
-/

namespace FivetranOperator

open FivetranConnector

section Steps

/-- One step of an invocation, by kind: an edit of the copy that `edit` admits, an `Update`, a
`Status().Update`, or a call that `call` admits, recorded in the trace. -/
inductive Step (edit : World → FivetranConnector → Prop) (call : World → Event → Prop) :
    World → World → Prop
  | edit {w : World} {c : FivetranConnector} : edit w c → Step edit call w { w with connector := c }
  | update (w : World) : Step edit call w (finalWorld (update w))
  | statusUpdate (w : World) : Step edit call w (finalWorld (statusUpdate w))
  | call {w : World} {e : Event} : call w e → Step edit call w (w.record e)

/-- A step within two guards is a step within any weaker ones. -/
theorem Step.mono {edit edit' : World → FivetranConnector → Prop} {call call' : World → Event → Prop}
    (hedit : ∀ w c, edit w c → edit' w c) (hcall : ∀ w e, call w e → call' w e) {w w' : World}
    (h : Step edit call w w') : Step edit' call' w w' := by
  cases h with
  | edit he => exact .edit (hedit _ _ he)
  | update => exact .update _
  | statusUpdate => exact .statusUpdate _
  | call hc => exact .call (hcall _ _ hc)

/-- The world a result ends in, once returned. -/
@[simp] theorem finalWorld_ok {α : Type} (a : α) (w : World) :
    finalWorld (.ok a w : EStateM.Result Abort World α) = w := rfl

/-- The world a result ends in, once aborted. -/
@[simp] theorem finalWorld_error {α : Type} (e : Abort) (w : World) :
    finalWorld (.error e w : EStateM.Result Abort World α) = w := rfl

end Steps

section Guards

/-- The recovery marker: the connector ID kept in an annotation. -/
def markerOf (c : FivetranConnector) : String := getAnnotationValue c annotationConnectorID

/-- The connector fingerprint, once written, is the fingerprint of the spec. -/
def FingerprintCurrent (c : FivetranConnector) : Prop :=
  c.metadata.annotations.get? annotationConnectorHash = none ∨
    getAnnotationValue c annotationConnectorHash = calculateConnectorHash c

/-- A call to `CreateConnection`, answered or not. -/
def Event.isCreate : Event → Bool
  | .createConnection _ _ => true
  | _ => false

/-- An edit the code may make: an ID in status or in the marker stays once set, the finalizer
goes only once the connector in status is deleted, the spec is never edited, and the fingerprint
stays current. -/
structure AllowedEdit (w : World) (c : FivetranConnector) : Prop where
  connectorID : w.connector.status.connectorID = "" ∨
    c.status.connectorID = w.connector.status.connectorID
  marker : markerOf w.connector = "" ∨ markerOf c = markerOf w.connector
  finalizer : containsFinalizer w.connector fivetranFinalizer = true →
    containsFinalizer c fivetranFinalizer = false →
    w.connector.status.connectorID = "" ∨
      Event.deleteConnection w.connector.status.connectorID true ∈ w.trace
  spec : c.spec = w.connector.spec
  fingerprint : FingerprintCurrent w.connector → FingerprintCurrent c

/-- A call the code may make: a create only while no ID is known. -/
def AllowedCall (w : World) (e : Event) : Prop :=
  e.isCreate = true → w.connector.status.connectorID = "" ∧ markerOf w.connector = ""

/-- One step of an invocation within the code's guards. -/
abbrev Allowed : World → World → Prop := Step AllowedEdit AllowedCall

/-- Worlds reached by allowed steps. -/
def Reach : World → World → Prop := Relation.ReflTransGen Allowed

/-- The in-memory copy is the stored object, as after every write. -/
def InSync (w : World) : Prop := w.connector = w.stored

/-- A predicate that recording a call keeps. -/
def RecordStable (p : World → Prop) : Prop := ∀ w e, p w → p (w.record e)

/-- An edit that keeps the connector ID, the marker, the finalizer, the spec and the fingerprint
annotation. -/
def Benign (f : FivetranConnector → FivetranConnector) : Prop :=
  ∀ c, (f c).status.connectorID = c.status.connectorID ∧ markerOf (f c) = markerOf c ∧
    (containsFinalizer c fivetranFinalizer = true → containsFinalizer (f c) fivetranFinalizer = true) ∧
    (f c).spec = c.spec ∧
    (f c).metadata.annotations.get? annotationConnectorHash =
      c.metadata.annotations.get? annotationConnectorHash

/-- The connector fingerprint depends on the spec alone. -/
theorem calculateConnectorHash_congr {c c' : FivetranConnector} (h : c.spec = c'.spec) :
    calculateConnectorHash c = calculateConnectorHash c' := by
  rw [calculateConnectorHash, calculateConnectorHash, h]

/-- The fingerprint stays current under an edit that keeps the spec and the annotation. -/
theorem FingerprintCurrent.of_eq {c c' : FivetranConnector} (h : FingerprintCurrent c)
    (hspec : c'.spec = c.spec)
    (hhash : c'.metadata.annotations.get? annotationConnectorHash =
      c.metadata.annotations.get? annotationConnectorHash) : FingerprintCurrent c' := by
  unfold FingerprintCurrent getAnnotationValue at *
  rw [hhash, calculateConnectorHash_congr hspec]
  exact h

/-- An edit that keeps the finalizer list and the spec may change the connector ID or the marker
only where they were empty. -/
theorem AllowedEdit.of_finalizers {w : World} {c : FivetranConnector}
    (hid : w.connector.status.connectorID = "" ∨ c.status.connectorID = w.connector.status.connectorID)
    (hmarker : markerOf w.connector = "" ∨ markerOf c = markerOf w.connector)
    (hfinalizers : c.metadata.finalizers = w.connector.metadata.finalizers)
    (hspec : c.spec = w.connector.spec)
    (hhash : c.metadata.annotations.get? annotationConnectorHash =
      w.connector.metadata.annotations.get? annotationConnectorHash) : AllowedEdit w c where
  connectorID := hid
  marker := hmarker
  finalizer h h' := by simp [containsFinalizer, hfinalizers] at h h'; simp [h] at h'
  spec := hspec
  fingerprint h := h.of_eq hspec hhash

/-- An edit that keeps every guarded field is allowed. -/
theorem Benign.allowedEdit {f : FivetranConnector → FivetranConnector} (hf : Benign f) (w : World) :
    AllowedEdit w (f w.connector) where
  connectorID := .inr (hf _).1
  marker := .inr (hf _).2.1
  finalizer h h' := by simp [(hf _).2.2.1 h] at h'
  spec := (hf _).2.2.2.1
  fingerprint h := h.of_eq (hf _).2.2.2.1 (hf _).2.2.2.2

/-- Every world reaches itself. -/
theorem Reach.refl' (w : World) : Reach w w := Relation.ReflTransGen.refl

/-- Allowed paths compose. -/
theorem Reach.trans {w₁ w₂ w₃ : World} (h₁ : Reach w₁ w₂) (h₂ : Reach w₂ w₃) : Reach w₁ w₃ :=
  Relation.ReflTransGen.trans h₁ h₂

/-- One allowed step is an allowed path. -/
theorem Reach.single {w w' : World} (h : Allowed w w') : Reach w w' :=
  Relation.ReflTransGen.single h

end Guards

section Footprint

/-- The edits of the in-memory copy on the way to a successful end: conditions with status True,
the connector ID and the marker, the two fingerprints, each computed from the copy it is written
into, the cleanup of the force label and the adoption annotation, and the finalizer. -/
inductive LiveEdit : FivetranConnector → FivetranConnector → Prop
  /-- `setCondition` outside `handleError`. -/
  | condition (c : FivetranConnector) {condition : Condition}
      (hstatus : condition.status = .conditionTrue) : LiveEdit c (c.withCondition condition)
  /-- `setConnectorID` and `updateConnectorIDStatus`. -/
  | connectorID (c : FivetranConnector) (connectorID : String) :
      LiveEdit c (c.withConnectorID connectorID)
  /-- The marker, written by `setConnectorID`. -/
  | marker (c : FivetranConnector) (connectorID : String) :
      LiveEdit c (setAnnotationValue c annotationConnectorID connectorID)
  /-- `updateConnectorHash`. -/
  | connectorHash (c : FivetranConnector) :
      LiveEdit c (setAnnotationValue c annotationConnectorHash (calculateConnectorHash c))
  /-- `updateSchemaHash`. -/
  | schemaHash (c : FivetranConnector) :
      LiveEdit c (setAnnotationValue c annotationSchemaHash (calculateSchemaHash c))
  /-- `cleanupAnnotationsAndLabels`. -/
  | removeAdoption (c : FivetranConnector) :
      LiveEdit c (removeAnnotationKey c annotationAdoptExistingConnectorID)
  | removeForceLabel (c : FivetranConnector) : LiveEdit c (removeLabel c annotationForceReconcile)
  /-- `ensureFinalizer`. -/
  | addFinalizer (c : FivetranConnector) : LiveEdit c (addFinalizer c fivetranFinalizer)

/-- Adding the finalizer is a live edit. -/
theorem LiveEdit.of_addFinalizer {c c' : FivetranConnector}
    (h : c' = FivetranConnector.addFinalizer c fivetranFinalizer) : LiveEdit c c' :=
  h ▸ .addFinalizer c

/-- Every edit of the copy the code makes: the live ones, the finalizer's removal in
`handleDeletion`, and a condition of any status, as `handleError` writes it. -/
inductive ControllerEdit : FivetranConnector → FivetranConnector → Prop
  | live {c c' : FivetranConnector} : LiveEdit c c' → ControllerEdit c c'
  | removeFinalizer (c : FivetranConnector) : ControllerEdit c (removeFinalizer c fivetranFinalizer)
  | condition (c : FivetranConnector) (condition : Condition) :
      ControllerEdit c (c.withCondition condition)

/-- An `Update` or a `Status().Update`. -/
def Event.isWrite : Event → Bool
  | .update .. | .statusUpdate .. => true
  | _ => false

/-- The connection request a call sends, with `true` for a create. -/
def Event.connectionRequest : Event → Option (Bool × ConnectionRequest)
  | .createConnection req _ => some (true, req)
  | .updateConnection _ req _ => some (false, req)
  | _ => none

/-- The request `toFivetranConnector` builds from `c`, as the trace records it: the fields of the
spec's connector without the two documents, and paused for a create. -/
def ConnectionRequest.ofSpec (c : FivetranConnector) (create : Bool) : ConnectionRequest :=
  let s := c.spec.connector
  { service := s.service, config := none, auth := none,
    paused := if create then some true else s.paused, groupID := s.groupID,
    syncFrequency := s.syncFrequency, dailySyncTime := s.dailySyncTime,
    runSetupTests := s.runSetupTests, scheduleType := s.scheduleType,
    pauseAfterTrial := s.pauseAfterTrial, trustCertificates := s.trustCertificates,
    trustFingerprints := s.trustFingerprints, dataDelaySensitivity := s.dataDelaySensitivity,
    dataDelayThreshold := s.dataDelayThreshold, networkingMethod := s.networkingMethod,
    proxyAgentID := s.proxyAgentID, privateLinkID := s.privateLinkID,
    hybridDeploymentAgentID := s.hybridDeploymentAgentID }

/-- A call the trace may record from `w`: not a write, and a connection request only as built
from the copy's spec. -/
structure CallFromSpec (w : World) (e : Event) : Prop where
  notWrite : e.isWrite = false
  request : ∀ create req, e.connectionRequest = some (create, req) → req = .ofSpec w.connector create

/-- One step of an invocation, by kind, its edits drawn from `E`. -/
abbrev Walk (E : FivetranConnector → FivetranConnector → Prop) : World → World → Prop :=
  Step (fun w => E w.connector) CallFromSpec

/-- Worlds reached by `Walk` steps. -/
def Walks (E : FivetranConnector → FivetranConnector → Prop) : World → World → Prop :=
  Relation.ReflTransGen (Walk E)

/-- A call that is neither a write nor a connection request may be recorded from any world. -/
theorem CallFromSpec.plain {w : World} {e : Event} (hw : e.isWrite = false)
    (hr : e.connectionRequest = none) : CallFromSpec w e :=
  ⟨hw, fun _ _ h => by rw [hr] at h; cases h⟩

/-- The request `toFivetranConnector` builds, as recorded, depends on the spec alone. -/
theorem toFivetranConnector_redacted_ofSpec {c : FivetranConnector} {resolvedConfig resolvedAuth : Option RawExtension}
    {req : ConnectionRequest} (h : toFivetranConnector c resolvedConfig resolvedAuth = .ok req) :
    req.redacted = .ofSpec c false ∧ { req with paused := some true }.redacted = .ofSpec c true := by
  unfold toFivetranConnector at h
  cases hc : unmarshalResolved "config" resolvedConfig <;>
    cases ha : unmarshalResolved "auth" resolvedAuth <;> rw [hc, ha] at h <;> cases h
  exact ⟨rfl, rfl⟩

end Footprint

section Safe

variable {E : FivetranConnector → FivetranConnector → Prop}

/-- An edit within the code's guards, drawn from `E`. -/
def GuardedEdit (E : FivetranConnector → FivetranConnector → Prop) (w : World) (c : FivetranConnector) :
    Prop :=
  AllowedEdit w c ∧ E w.connector c

/-- A call within the code's guards, its request built from the copy's spec. -/
def GuardedCall (w : World) (e : Event) : Prop := AllowedCall w e ∧ CallFromSpec w e

/-- A call that is neither a write nor a connection request is within the guards. -/
theorem GuardedCall.plain {w : World} {e : Event} (hw : e.isWrite = false)
    (hr : e.connectionRequest = none) : GuardedCall w e :=
  ⟨fun h => by cases e <;> simp_all [Event.isCreate, Event.connectionRequest], .plain hw hr⟩

/-- From worlds satisfying `pre`, `x` takes steps within the code's guards only, its edits drawn
from `E`, and returns in a world satisfying `post`. -/
structure Safe (E : FivetranConnector → FivetranConnector → Prop) {α : Type} (pre : World → Prop)
    (x : ReconcileM α) (post : α → World → Prop) : Prop where
  steps : ∀ w, pre w → Relation.ReflTransGen (Step (GuardedEdit E) GuardedCall) w (finalWorld (x w))
  ok : ∀ w, pre w → ∀ a w', x w = .ok a w' → post a w'

namespace Safe

variable {α β : Type} {pre : World → Prop}

/-- A safe action takes allowed steps only. -/
theorem reach {x : ReconcileM α} {post : α → World → Prop} (h : Safe E pre x post) (w : World)
    (hw : pre w) : Reach w (finalWorld (x w)) :=
  Relation.ReflTransGen.mono (fun _ _ => Step.mono (fun _ _ he => he.1) fun _ _ hc => hc.1)
    (h.steps w hw)

/-- A safe action takes `Walk` steps only. -/
theorem walks {x : ReconcileM α} {post : α → World → Prop} (h : Safe E pre x post) (w : World)
    (hw : pre w) : Walks E w (finalWorld (x w)) :=
  Relation.ReflTransGen.mono (fun _ _ => Step.mono (fun _ _ he => he.2) fun _ _ hc => hc.2)
    (h.steps w hw)

/-- Sequencing: the continuation starts where the first action returned. -/
theorem bind {x : ReconcileM α} {mid : α → World → Prop} {f : α → ReconcileM β}
    {post : β → World → Prop} (hx : Safe E pre x mid) (hf : ∀ a, Safe E (mid a) (f a) post) :
    Safe E pre (x >>= f) post where
  steps w hw := by
    have h := hx.steps w hw
    rw [bind_apply]
    cases hxw : x w with
    | ok a w₁ =>
      rw [hxw] at h
      exact h.trans ((hf a).steps w₁ (hx.ok w hw a w₁ hxw))
    | error e w₁ => rwa [hxw] at h
  ok w hw b w₂ h := by
    rw [bind_apply] at h
    cases hxw : x w with
    | ok a w₁ =>
      rw [hxw, andThen_ok] at h
      exact (hf a).ok w₁ (hx.ok w hw a w₁ hxw) b w₂ h
    | error e w₁ => rw [hxw] at h; cases h

/-- A step whose continuation needs nothing of the world it returns in. -/
theorem seq {x : ReconcileM α} {f : α → ReconcileM β} {post : β → World → Prop}
    (hx : Safe E pre x fun _ _ => True) (hf : ∀ a, Safe E (fun _ => True) (f a) post) :
    Safe E pre (x >>= f) post :=
  bind hx hf

/-- Consequence: a stronger precondition and a weaker postcondition. -/
theorem mono {x : ReconcileM α} {pre' : World → Prop} {post post' : α → World → Prop}
    (h : Safe E pre x post) (hpre : ∀ w, pre' w → pre w) (hpost : ∀ a w, post a w → post' a w) :
    Safe E pre' x post' where
  steps w hw := h.steps w (hpre w hw)
  ok w hw a w' hx := hpost a w' (h.ok w (hpre w hw) a w' hx)

/-- Edits drawn from `E` are drawn from any larger set. -/
theorem widen {E' : FivetranConnector → FivetranConnector → Prop} {x : ReconcileM α}
    {post : α → World → Prop} (hE : ∀ c c', E c c' → E' c c') (h : Safe E pre x post) :
    Safe E' pre x post where
  steps w hw := Relation.ReflTransGen.mono
    (fun _ _ => Step.mono (fun _ _ he => ⟨he.1, hE _ _ he.2⟩) fun _ _ hc => hc) (h.steps w hw)
  ok := h.ok

/-- Forget what a step returns with. -/
theorem forget {x : ReconcileM α} {post : α → World → Prop} (h : Safe E pre x post) :
    Safe E pre x fun _ _ => True :=
  h.mono (fun _ h => h) fun _ _ _ => trivial

/-- A step that leaves the world as it is. -/
theorem ofStay {x : ReconcileM α} {post : α → World → Prop}
    (hstay : ∀ w, finalWorld (x w) = w) (hpost : ∀ w, pre w → ∀ a w', x w = .ok a w' → post a w') :
    Safe E pre x post where
  steps w _ := by rw [hstay]
  ok := hpost

/-- A returned value. -/
theorem pure {a : α} {post : α → World → Prop} (h : ∀ w, pre w → post a w) :
    Safe E pre (Pure.pure a) post :=
  ofStay (fun _ => rfl) fun w hw _ _ hx => by cases hx; exact h w hw

/-- An abort. -/
theorem throw {e : Abort} {post : α → World → Prop} : Safe E pre (MonadExcept.throw e) post :=
  ofStay (fun _ => rfl) fun _ _ _ _ hx => by cases hx

/-- The copy is read as it stands. -/
theorem current : Safe E pre current fun c w => pre w ∧ w.connector = c :=
  ofStay (fun _ => rfl) fun w hw _ _ hx => by cases hx; exact ⟨hw, rfl⟩

/-- The answers are read as they stand. -/
theorem responses : Safe E pre responses fun env w => pre w ∧ w.env = env :=
  ofStay (fun _ => rfl) fun w hw _ _ hx => by cases hx; exact ⟨hw, rfl⟩

/-- The clock changes nothing. -/
theorem now : Safe E pre now fun _ => pre :=
  ofStay (fun _ => rfl) fun w hw _ _ hx => by cases hx; exact hw

/-- A lifted result returns what it holds. -/
theorem liftExcept {r : Except GoError α} :
    Safe E pre (FivetranOperator.liftExcept r) fun a w => pre w ∧ r = .ok a :=
  ofStay (fun _ => by cases r <;> rfl) fun w hw _ _ hx => by
    cases r <;> cases hx; exact ⟨hw, rfl⟩

/-- A panic check changes nothing. -/
theorem liftPanic {r : Except String α} : Safe E pre (FivetranOperator.liftPanic r) fun _ => pre :=
  ofStay (fun _ => by cases r <;> rfl) fun w hw _ _ hx => by
    cases r <;> cases hx; exact hw

/-- A branch, each arm under its condition. -/
theorem ite {p : Prop} [Decidable p] {x y : ReconcileM α} {post : α → World → Prop}
    (hx : p → Safe E pre x post) (hy : ¬p → Safe E pre y post) :
    Safe E pre (if p then x else y) post := by
  split
  exacts [hx ‹_›, hy ‹_›]

/-- Retagging an abort changes no step. -/
theorem mapAbort {g : Abort → Abort} {x : ReconcileM α} {post : α → World → Prop}
    (h : Safe E pre x post) : Safe E pre (FivetranOperator.mapAbort g x) post where
  steps w hw := by
    have := h.steps w hw
    rw [mapAbort_apply]
    cases hxw : x w <;> rw [hxw] at this <;> exact this
  ok w hw a w' hx := by
    rw [mapAbort_apply] at hx
    cases hxw : x w <;> rw [hxw] at hx <;> cases hx
    exact h.ok w hw a w' hxw

/-- Catching the error changes no step. -/
theorem errOf {x : ReconcileM Unit} {post : Unit → World → Prop} (h : Safe E pre x post) :
    Safe E pre (FivetranOperator.errOf x) fun _ _ => True where
  steps w hw := by
    have := h.steps w hw
    rw [errOf_apply]
    rcases hxw : x w with ⟨_, _⟩ | ⟨e | _ | _, _⟩ <;> rw [hxw] at this <;> exact this
  ok _ _ _ _ _ := trivial

/-- A guarded edit of the copy, with what holds after it. -/
theorem modify {f : FivetranConnector → FivetranConnector} {post : Unit → World → Prop}
    (h : ∀ w, pre w → GuardedEdit E w (f w.connector))
    (hpost : ∀ w, pre w → post () { w with connector := f w.connector }) :
    Safe E pre (modifyConnector f) post where
  steps w hw := .single (.edit (h w hw))
  ok w hw _ _ hx := by cases hx; exact hpost w hw

/-- A guarded edit of the copy. -/
theorem edit {f : FivetranConnector → FivetranConnector}
    (h : ∀ w, pre w → GuardedEdit E w (f w.connector)) :
    Safe E pre (modifyConnector f) fun _ _ => True :=
  modify h fun _ _ => trivial

/-- An edit that keeps every guarded field, drawn from `E`. -/
theorem benign {f : FivetranConnector → FivetranConnector} (hf : Benign f) (hE : ∀ c, E c (f c)) :
    Safe E pre (modifyConnector f) fun _ _ => True :=
  edit fun w _ => ⟨hf.allowedEdit w, hE _⟩

/-- An `Update`, accepted or not; an accepted one leaves the copy stored. -/
theorem update : Safe E pre FivetranOperator.update fun _ => InSync where
  steps w _ := .single (.update w)
  ok w _ _ _ h := by
    unfold FivetranOperator.update at h
    split at h <;> cases h
    rfl

/-- A `Status().Update`, accepted or not; an accepted one leaves the copy stored. -/
theorem statusUpdate : Safe E pre FivetranOperator.statusUpdate fun _ => InSync where
  steps w _ := .single (.statusUpdate w)
  ok w _ _ _ h := by
    unfold FivetranOperator.statusUpdate at h
    split at h <;> cases h
    rfl

/-- A status write keeps the stored marker. -/
theorem statusUpdate_marker (q : String → Prop) :
    Safe E (fun w => q (markerOf w.stored)) FivetranOperator.statusUpdate
      fun _ w => InSync w ∧ q (markerOf w.stored) where
  steps w _ := .single (.statusUpdate w)
  ok w hw _ _ h := by
    unfold FivetranOperator.statusUpdate at h
    split at h <;> cases h
    exact ⟨rfl, hw⟩

/-- A provider call within the guards, answered or not, that needs nothing on return. -/
theorem providerCall_any {answer : Responses → Nat → Except APIError α} {event : Bool → Event}
    (hcall : ∀ w, pre w → ∀ b, GuardedCall w (event b)) :
    Safe E pre (FivetranOperator.providerCall answer event) fun _ _ => True where
  steps w hw := by
    unfold FivetranOperator.providerCall
    split <;> exact .single (.call (hcall w hw _))
  ok _ _ _ _ _ := trivial

/-- A provider call that returns has recorded its success. -/
theorem providerCall_recorded {answer : Responses → Nat → Except APIError α} {event : Bool → Event}
    (hrec : RecordStable pre) (hcall : ∀ w, pre w → ∀ b, GuardedCall w (event b)) :
    Safe E pre (FivetranOperator.providerCall answer event) fun _ w => pre w ∧ event true ∈ w.trace where
  steps := (providerCall_any hcall).steps
  ok w hw _ _ h := by
    unfold FivetranOperator.providerCall at h
    split at h <;> cases h
    exact ⟨hrec _ _ hw, List.mem_append_right _ (List.mem_singleton_self _)⟩

/-- A provider call that is neither a write nor a connection request keeps any predicate that
recording a call keeps. -/
theorem plainCall {answer : Responses → Nat → Except APIError α} {event : Bool → Event}
    (hrec : RecordStable pre) (hw : ∀ b, (event b).isWrite = false)
    (hr : ∀ b, (event b).connectionRequest = none) :
    Safe E pre (FivetranOperator.providerCall answer event) fun _ => pre :=
  (providerCall_recorded hrec fun _ _ b => .plain (hw b) (hr b)).mono (fun _ h => h) fun _ _ h => h.1

/-- A create, sent while no ID is known, with the request built from the copy's spec. -/
theorem createConnection {req : ConnectionRequest} (hrec : RecordStable pre)
    (hguard : ∀ w, pre w → w.connector.status.connectorID = "" ∧ markerOf w.connector = "")
    (hspec : ∀ w, pre w → req.redacted = .ofSpec w.connector true) :
    Safe E pre (FivetranOperator.createConnection req) fun _ => pre where
  steps w hw := by
    unfold FivetranOperator.createConnection
    split <;> exact .single (.call ⟨fun _ => hguard w hw, rfl, fun _ _ h => by
      cases h; exact hspec w hw⟩)
  ok w hw _ _ h := by
    unfold FivetranOperator.createConnection at h
    split at h <;> cases h
    exact hrec _ _ hw

/-- `GetSchemaDetails` is a call within the guards. -/
theorem getSchemaDetails {connectorID : String} (hrec : RecordStable pre) :
    Safe E pre (FivetranOperator.getSchemaDetails connectorID) fun _ => pre where
  steps w _ := .single (.call (.plain rfl rfl))
  ok w hw _ _ h := by cases h; exact hrec _ _ hw

end Safe

end Safe

end FivetranOperator
