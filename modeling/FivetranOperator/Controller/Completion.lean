import FivetranOperator.Controller.Reporting

/-!
# Completion

Under answers that cooperate, `Reconcile` completes and converges. Take a live object with no
schema configuration, whose documents resolve against the secret store and decode to a request,
and which either records a connector ID or carries neither a recovery marker nor an adoption
annotation. An invocation with both clients available, whose writes the API server accepts,
whose `CreateConnection` and `UpdateConnection` calls succeed and whose setup tests, when run,
report no failure, returns the empty result and no error. From loaded conditions as
`Quiescence` asks, the next invocation then makes no call and no write
(`invoke_cooperative_completes`).

When the same invocation reconciles the connector and its setup tests report a failure, the
connector is not invalidated: the invocation returns neither an error nor a requeue, and leaves
`ConnectorReady` True and `SetupTestReady` False (`invoke_setupTests_failure_keeps_ready`).

Each step on the way has a triple whose abort assertion is arbitrary, so that the step never
aborts. A `ReconcileM` step always returns or aborts, so such a triple is total correctness: from
a world that reads the answers and keeps the loaded spec (`Cooperating`), the step returns, into
a world that does the same. The work path takes the setup test step as a parameter, with what
it establishes and how it may abort. The recovery and adoption paths, which validate the
provider's connector against the spec, and the schema protocol are not covered.
-/

namespace FivetranOperator

open FivetranConnector

section Answers

/-- Answers under which no call and no write fails. -/
structure Accepting (env : Responses) : Prop where
  fivetranClient : env.fivetranClient = true
  vaultClient : env.vaultClient = none
  kubeWrite : ∀ n, env.kubeWrite n = none
  createConnection : ∀ n, ∃ id, env.createConnection n = .ok id
  updateConnection : ∀ n, env.updateConnection n = .ok ()

/-- Answers under which no call and no write fails, and no setup test fails. -/
structure Cooperative (env : Responses) extends Accepting env : Prop where
  runSetupTests : ∀ n, ∃ tests, env.runSetupTests n = .ok tests ∧ ∀ test ∈ tests,
    test.status = setupTestStatusPassed ∨ test.status = setupTestStatusSkipped ∨
      test.status = setupTestStatusWarning

/-- A passed, skipped or warning test reports no failure. -/
theorem setupTestFailure_eq_none {test : SetupTest} (h : test.status = setupTestStatusPassed ∨
    test.status = setupTestStatusSkipped ∨ test.status = setupTestStatusWarning) :
    setupTestFailure test = none := by
  unfold setupTestFailure
  split
  · rfl
  · rw [if_neg]
    rintro ⟨hpassed, hskipped⟩
    rcases h with h | h | h
    exacts [hpassed h, hskipped h, ‹¬_› h]

/-- Any other status is a failure. -/
theorem setupTestFailure_ne_none {test : SetupTest} (hpassed : test.status ≠ setupTestStatusPassed)
    (hskipped : test.status ≠ setupTestStatusSkipped) (hwarning : test.status ≠ setupTestStatusWarning) :
    setupTestFailure test ≠ none := by
  unfold setupTestFailure
  rw [if_neg hwarning, if_pos ⟨hpassed, hskipped⟩]
  exact Option.some_ne_none _

end Answers

section Congruence

variable {c c' : FivetranConnector}

/-- The request depends on the spec alone. -/
theorem toFivetranConnector_congr (h : c.spec = c'.spec) (resolvedConfig resolvedAuth : Option RawExtension) :
    toFivetranConnector c resolvedConfig resolvedAuth = toFivetranConnector c' resolvedConfig resolvedAuth := by
  unfold toFivetranConnector
  rw [h]

/-- The resolved documents depend on the spec alone. -/
theorem resolveConnectorSecrets_congr (vault : SecretStore) (h : c.spec = c'.spec) :
    resolveConnectorSecrets vault c = resolveConnectorSecrets vault c' := by
  unfold resolveConnectorSecrets
  rw [h]

/-- An annotation depends on the annotations alone. -/
theorem getAnnotationValue_congr (h : c.metadata.annotations = c'.metadata.annotations) (key : String) :
    getAnnotationValue c key = getAnnotationValue c' key := by
  unfold getAnnotationValue
  rw [h]

/-- A label test depends on the labels alone. -/
theorem hasLabel_congr (h : c.metadata.labels = c'.metadata.labels) (key : String) :
    hasLabel c key = hasLabel c' key := by
  unfold hasLabel
  rw [h]

/-- The decision reads the status, the annotations and the spec. -/
theorem determineReconciliationNeeds_congr (hstatus : c.status = c'.status)
    (hannotations : c.metadata.annotations = c'.metadata.annotations) (hspec : c.spec = c'.spec)
    (force : Bool) : determineReconciliationNeeds c force = determineReconciliationNeeds c' force := by
  unfold determineReconciliationNeeds hasFailedConditions hasConnectorHashChanged hasSchemaHashChanged
    calculateConnectorHash calculateSchemaHash hasSchemaConfig getAnnotationValue
  rw [hstatus, hannotations, hspec]

end Congruence

/-- The world reads the answers, and the copy and the stored object have the loaded spec. -/
structure Cooperating (env : Responses) (o : FivetranConnector) (w : World) : Prop where
  env : w.env = env
  connector : w.connector.spec = o.spec
  stored : w.stored.spec = o.spec

namespace Cooperating

variable {env : Responses} {o : FivetranConnector} {w : World}

/-- An edit that keeps the spec keeps cooperation. -/
theorem edit (h : Cooperating env o w) {c : FivetranConnector} (hc : c.spec = w.connector.spec) :
    Cooperating env o { w with connector := c } :=
  ⟨h.env, hc.trans h.connector, h.stored⟩

/-- Recording a call keeps cooperation. -/
theorem record (h : Cooperating env o w) (e : Event) : Cooperating env o (w.record e) :=
  ⟨h.env, h.connector, h.stored⟩

/-- An accepted `Update` keeps cooperation. -/
theorem afterUpdate (h : Cooperating env o w) : Cooperating env o w.afterUpdate :=
  ⟨h.env, h.connector, h.connector⟩

/-- An accepted `Status().Update` keeps cooperation. -/
theorem afterStatusUpdate (h : Cooperating env o w) : Cooperating env o w.afterStatusUpdate :=
  ⟨h.env, h.stored, h.stored⟩

end Cooperating

section Rules

namespace Triple

variable {α β : Type} {x : ReconcileM α} {env : Responses} {o : FivetranConnector}
  {abort : Abort → World → Prop}

/-- The frame rule with the abort assertion of the first triple. -/
theorem andFrame {P Q : World → Prop} {post post' : α → World → Prop}
    (h : Triple P x post abort) (h' : Triple Q x post' fun _ _ => True) :
    Triple (fun w => P w ∧ Q w) x (fun a w => post a w ∧ post' a w) abort :=
  ⟨fun w hw a w' hx => ⟨h.returns w hw.1 a w' hx, h'.returns w hw.2 a w' hx⟩,
    fun w hw e w' hx => h.aborts w hw.1 e w' hx⟩

/-- `responses`, with the answers it returns. -/
theorem responses_eq {pre : World → Prop} :
    Triple pre FivetranOperator.responses (fun env w => pre w ∧ w.env = env) abort :=
  ⟨fun _ hw _ _ hx => by cases hx; exact ⟨hw, rfl⟩, fun _ _ _ _ hx => by cases hx⟩

/-- An edit that keeps the spec keeps the world cooperating. -/
theorem cooperatingEdit {pre : World → Prop} (hpre : ∀ w, pre w → Cooperating env o w)
    {f : FivetranConnector → FivetranConnector} (hf : ∀ c, (f c).spec = c.spec) :
    Triple pre (FivetranOperator.modifyConnector f) (fun _ => Cooperating env o) abort :=
  ⟨fun w hw _ _ hx => by cases hx; exact (hpre w hw).edit (hf _), fun _ _ _ _ hx => by cases hx⟩

/-- A provider call that every answer lets succeed returns one of the answers. -/
theorem cooperatingCall {answer : Responses → Nat → Except APIError β} {event : Bool → Event}
    (hanswer : ∀ n, ∃ a, answer env n = .ok a) :
    Triple (Cooperating env o) (FivetranOperator.providerCall answer event)
      (fun a w => Cooperating env o w ∧ ∃ n, answer env n = .ok a) abort where
  returns w hw _ _ hx := by
    unfold FivetranOperator.providerCall at hx
    split at hx <;> cases hx
    exact ⟨hw.record _, w.calls, hw.env ▸ ‹_›⟩
  aborts w hw _ _ hx := by
    obtain ⟨_, ha⟩ := hanswer w.calls
    unfold FivetranOperator.providerCall at hx
    rw [hw.env, ha] at hx
    cases hx

/-- Under accepting answers an `Update` returns. -/
theorem cooperatingUpdate (haccept : Accepting env) :
    Triple (Cooperating env o) FivetranOperator.update (fun _ => Cooperating env o) abort :=
  ⟨fun _ hw _ _ hx => by rw [update_ok hx]; exact hw.afterUpdate, fun w hw _ _ hx => by
    unfold FivetranOperator.update at hx
    rw [hw.env, haccept.kubeWrite] at hx
    cases hx⟩

/-- Under accepting answers a `Status().Update` returns. -/
theorem cooperatingStatusUpdate (haccept : Accepting env) :
    Triple (Cooperating env o) FivetranOperator.statusUpdate (fun _ => Cooperating env o) abort :=
  ⟨fun _ hw _ _ hx => by rw [statusUpdate_ok hx]; exact hw.afterStatusUpdate, fun w hw _ _ hx => by
    unfold FivetranOperator.statusUpdate at hx
    rw [hw.env, haccept.kubeWrite] at hx
    cases hx⟩

/-- Under accepting answers a create returns. -/
theorem cooperatingCreate (haccept : Accepting env) (req : ConnectionRequest) :
    Triple (Cooperating env o) (createConnection req) (fun _ => Cooperating env o) abort where
  returns w hw _ _ hx := by
    unfold createConnection at hx
    split at hx <;> cases hx
    exact hw.record _
  aborts w hw _ _ hx := by
    unfold createConnection at hx
    obtain ⟨_, hid⟩ := haccept.createConnection w.calls
    rw [hw.env, hid] at hx
    cases hx

end Triple

end Rules

section Steps

variable {env : Responses} {o : FivetranConnector} {abort : Abort → World → Prop}

/-- Under accepting answers `setCondition` returns. -/
theorem setCondition_completes (haccept : Accepting env) (conditionType : String)
    (status : ConditionStatus) (reason message : String) :
    Triple (Cooperating env o) (setCondition conditionType status reason message)
      (fun _ => Cooperating env o) abort := by
  unfold setCondition
  exact .bind .now fun _ => .bind (.cooperatingEdit (fun _ hw => hw) fun _ => rfl) fun _ =>
    .cooperatingStatusUpdate haccept

/-- Under accepting answers `updateConnectorHash` returns. -/
theorem updateConnectorHash_completes (haccept : Accepting env) :
    Triple (Cooperating env o) updateConnectorHash (fun _ => Cooperating env o) abort := by
  unfold updateConnectorHash
  exact .bind .current fun _ => .bind (.cooperatingEdit (fun _ hw => hw.1) fun _ => rfl) fun _ =>
    .cooperatingUpdate haccept

/-- Under accepting answers `setConnectorID` returns. -/
theorem setConnectorID_completes (haccept : Accepting env) (connectorID : String) :
    Triple (Cooperating env o) (setConnectorID connectorID) (fun _ => Cooperating env o) abort := by
  unfold setConnectorID
  exact .bind (.cooperatingEdit (fun _ hw => hw) fun _ => rfl) fun _ =>
    .bind (.cooperatingStatusUpdate haccept) fun _ =>
      .bind (.cooperatingEdit (fun _ hw => hw) fun _ => rfl) fun _ => .cooperatingUpdate haccept

/-- Under accepting answers `ensureFinalizer` returns. -/
theorem ensureFinalizer_completes (haccept : Accepting env) :
    Triple (Cooperating env o) ensureFinalizer (fun _ => Cooperating env o) abort := by
  unfold ensureFinalizer
  exact .bind .current fun _ => .ite (fun _ => .bind (.cooperatingEdit (fun _ hw => hw.1) fun _ =>
    addFinalizer_spec _ _) fun _ => .cooperatingUpdate haccept) fun _ => .pure fun _ hw => hw.1

/-- Under accepting answers the cleanup returns. -/
theorem cleanupAnnotationsAndLabels_completes (haccept : Accepting env) :
    Triple (Cooperating env o) cleanupAnnotationsAndLabels (fun _ => Cooperating env o) abort := by
  unfold cleanupAnnotationsAndLabels
  exact .bind .current fun _ => .bind (.ite (fun _ => .bind (.cooperatingEdit (fun _ hw => hw.1)
    fun _ => rfl) fun _ => .cooperatingUpdate haccept) fun _ => .pure fun _ hw => hw.1) fun _ =>
      .bind .current fun _ => .ite (fun _ => .bind (.cooperatingEdit (fun _ hw => hw.1) fun _ => rfl)
        fun _ => .cooperatingUpdate haccept) fun _ => .pure fun _ hw => hw.1

/-- Under accepting answers `updateSetupTestsCondition` returns. -/
theorem updateSetupTestsCondition_completes (haccept : Accepting env) (setupTestWarnings : List String) :
    Triple (Cooperating env o) (updateSetupTestsCondition setupTestWarnings)
      (fun _ => Cooperating env o) abort := by
  unfold updateSetupTestsCondition
  exact .bind .current fun _ =>
    .ite (fun _ => (setCondition_completes haccept _ _ _ _).weaken fun _ hw => hw.1) fun _ =>
      .ite (fun _ => (setCondition_completes haccept _ _ _ _).weaken fun _ hw => hw.1) fun _ =>
        (setCondition_completes haccept _ _ _ _).weaken fun _ hw => hw.1

/-- The setup tests, run or skipped, report no failure. -/
theorem reconcileSetupTests_completes (hcoop : Cooperative env) (connectorID : String) :
    Triple (Cooperating env o) (reconcileSetupTests connectorID) (fun _ => Cooperating env o) abort := by
  unfold reconcileSetupTests
  refine .bind .current fun _ => .ite (fun _ => .bind ((updateSetupTestsCondition_completes
    hcoop.toAccepting _).weaken fun _ hw => hw.1) fun _ => .pure fun _ hw => hw) fun _ =>
      .bind (.mapAbort ((Triple.cooperatingCall fun n => (hcoop.runSetupTests n).imp fun _ h => h.1).weaken
        fun _ hw => hw.1)) fun tests => .ite (fun hfail => .assume ?_ False.elim)
        fun _ => .bind ((updateSetupTestsCondition_completes hcoop.toAccepting _).weaken fun _ hw => hw.1)
          fun _ => .pure fun _ hw => hw
  rintro _ ⟨_, n, hn⟩
  obtain ⟨_, htests, hpassed⟩ := hcoop.runSetupTests n
  rw [hn] at htests
  cases htests
  rw [List.filterMap_eq_nil_iff.mpr fun test htest => setupTestFailure_eq_none (hpassed test htest)] at hfail
  cases hfail

/-- Setup tests that run and report a failure end the step with `ErrSetupTestsFailed`. -/
theorem reconcileSetupTests_fails
    (hfailing : ∀ n, ∃ tests, env.runSetupTests n = .ok tests ∧ ∃ test ∈ tests,
      test.status ≠ setupTestStatusPassed ∧ test.status ≠ setupTestStatusSkipped ∧
        test.status ≠ setupTestStatusWarning)
    (hrun : o.spec.connector.runSetupTests.getD true = true) (connectorID : String) :
    Triple (Cooperating env o) (reconcileSetupTests connectorID) (fun _ _ => False)
      fun a w => Cooperating env o w ∧ ∃ e, a = .err e ∧ e.is .setupTestsFailed = true ∧
        e.is .schemaMismatchAfterRetry = false := by
  unfold reconcileSetupTests
  refine .bind .current fun _ => .ite (fun hoff => .assume ?_ False.elim) fun _ =>
    .bind (.mapAbort ((Triple.cooperatingCall fun n => (hfailing n).imp fun _ h => h.1).weaken
      fun _ hw => hw.1)) fun tests => .ite (fun _ => .throw fun _ hw => ⟨hw.1, _, rfl, rfl, rfl⟩)
      fun hnone => .assume ?_ False.elim
  · rintro w ⟨hw, rfl⟩
    rw [hw.connector, hrun] at hoff
    cases hoff
  · rintro _ ⟨_, n, hn⟩
    obtain ⟨_, htests, test, htest, hpassed, hskipped, hwarning⟩ := hfailing n
    rw [hn] at htests
    cases htests
    simp only [Bool.not_eq_true', Bool.not_eq_false] at hnone
    exact setupTestFailure_ne_none hpassed hskipped hwarning
      (List.filterMap_eq_nil_iff.mp (List.isEmpty_iff.mp hnone) test htest)

section Request

variable {resolvedConfig resolvedAuth : Option RawExtension}

/-- The request is built from a copy with the loaded spec. -/
theorem toFivetranConnector_completes
    (hrequest : ∃ req, toFivetranConnector o resolvedConfig resolvedAuth = .ok req) (c : FivetranConnector) :
    Triple (fun w => Cooperating env o w ∧ w.connector = c)
      (liftExcept (toFivetranConnector c resolvedConfig resolvedAuth))
      (fun _ => Cooperating env o) abort := by
  refine (Triple.liftExcept ?_).mono (fun _ hw => hw) (fun _ _ hw => hw.1.1) fun _ _ h => h
  rintro w ⟨hw, rfl⟩ ge hge
  obtain ⟨_, hreq⟩ := hrequest
  rw [toFivetranConnector_congr hw.connector, hreq] at hge
  cases hge

/-- Under accepting answers `updateConnector` returns, given a request. -/
theorem updateConnector_completes (haccept : Accepting env)
    (hrequest : ∃ req, toFivetranConnector o resolvedConfig resolvedAuth = .ok req) (connectorID : String) :
    Triple (Cooperating env o) (updateConnector connectorID resolvedConfig resolvedAuth)
      (fun _ => Cooperating env o) abort := by
  unfold updateConnector
  exact .bind .current fun c => .bind (toFivetranConnector_completes hrequest c)
    fun _ => (Triple.cooperatingCall fun _ => ⟨(), haccept.updateConnection _⟩).mono (fun _ hw => hw)
      (fun _ _ h => h.1) fun _ _ h => h

/-- Under accepting answers `createConnector` returns, given a request. -/
theorem createConnector_completes (haccept : Accepting env)
    (hrequest : ∃ req, toFivetranConnector o resolvedConfig resolvedAuth = .ok req) :
    Triple (Cooperating env o) (createConnector resolvedConfig resolvedAuth)
      (fun _ => Cooperating env o) abort := by
  unfold createConnector
  exact .bind .current fun c => .bind (toFivetranConnector_completes hrequest c)
    fun _ => .cooperatingCreate haccept _

/-- The connector step completes on the update path and on the create path; the recovery path is
excluded by the precondition. -/
theorem reconcileConnector_completes (haccept : Accepting env)
    (hrequest : ∃ req, toFivetranConnector o resolvedConfig resolvedAuth = .ok req) :
    Triple (fun w => Cooperating env o w ∧
        (w.connector.status.connectorID = "" → markerOf w.connector = ""))
      (reconcileConnector resolvedConfig resolvedAuth) (fun _ => Cooperating env o) abort := by
  unfold reconcileConnector
  refine .bind .current fun c => .bind (?_ : Triple _ _ (fun _ => Cooperating env o) _) fun _ =>
    .bind (updateConnectorHash_completes haccept) fun _ => .bind (setCondition_completes haccept _ _ _ _)
      fun _ => .pure fun _ hw => hw
  refine .ite (fun _ => .bind ((updateConnector_completes haccept hrequest _).weaken
    fun _ hw => hw.1.1) fun _ => .pure fun _ hw => hw) fun hid =>
      .ite (fun hmarker => .assume (fun w ⟨⟨_, hrecovery⟩, hc⟩ => ?_) False.elim) fun _ =>
        .bind ((createConnector_completes haccept hrequest).weaken fun _ hw => hw.1.1)
          fun _ => .bind (setConnectorID_completes haccept _) fun _ => .pure fun _ hw => hw
  subst hc
  exact hmarker (hrecovery (not_not.mp hid))

/-- The work path, with the setup test step given by what it establishes (`S`) and how it may
abort (`A`, once tagged): it returns the empty result, having established `S` if it reconciled
the connector, or aborts as the setup test step does. The documents resolve to the ones the
request was built from, and the schema step is the skipped condition. -/
theorem reconcileWork_cooperating (haccept : Accepting env) {S : Prop} {A : Abort → World → Prop}
    (hsetup : ∀ connectorID, Triple (Cooperating env o) (reconcileSetupTests connectorID)
      (fun _ w => Cooperating env o w ∧ S)
      fun a => A (Abort.tag conditionTypeSetupTestReady setupTestsReasonReconciliationFailed a))
    {vault : SecretStore} (hresolve : resolveConnectorSecrets vault o = .ok (resolvedConfig, resolvedAuth))
    (hrequest : ∃ req, toFivetranConnector o resolvedConfig resolvedAuth = .ok req)
    (hschema : hasSchemaConfig o = false) (connectorNeeded schemaNeeded : Bool) :
    Triple (fun w => Cooperating env o w ∧
        (w.connector.status.connectorID = "" → markerOf w.connector = ""))
      (reconcileWork vault connectorNeeded schemaNeeded)
      (fun r w => (Cooperating env o w ∧ (connectorNeeded = true → S)) ∧ r = .done) A := by
  unfold reconcileWork
  refine .bind .current fun c => .bind (.mapAbort (.liftExcept ?_)) fun docs => ?_
  · rintro w ⟨⟨hw, -⟩, rfl⟩ ge hge
    rw [resolveConnectorSecrets_congr vault hw.connector, hresolve] at hge
    cases hge
  split
  next resolvedConfig' resolvedAuth' =>
  refine .assume (P := (resolvedConfig', resolvedAuth') = (resolvedConfig, resolvedAuth)) ?_
    fun hdocs => ?_
  · rintro w ⟨⟨⟨hw, -⟩, rfl⟩, hr⟩
    rw [resolveConnectorSecrets_congr vault hw.connector, hresolve] at hr
    cases hr
    rfl
  cases hdocs
  refine .bind (?_ : Triple _ _ (fun _ w => Cooperating env o w ∧ (connectorNeeded = true → S)) _)
    fun _ => .assume (fun _ hw => hw.2) fun hS => .bind (Triple.weaken .current fun _ hw => hw.1) fun c' =>
    .bind (.ite (fun hs => .assume ?_ False.elim) fun _ =>
      .mapAbort ((setCondition_completes haccept _ _ _ _).weaken fun _ hw => hw.1)) fun _ =>
    .bind (.ite (fun _ => .mapAbort (updateConnector_completes haccept hrequest _)) fun _ => .pure fun _ hw => hw)
      fun _ =>
    .bind (.mapAbort (cleanupAnnotationsAndLabels_completes haccept)) fun _ => .pure fun _ hw => ⟨⟨hw, hS⟩, rfl⟩
  · exact .ite (fun hcn => .bind (.mapAbort ((reconcileConnector_completes haccept hrequest).weaken
      fun _ hw => hw.1.1)) fun _ => .bind (.mapAbort (hsetup _)) fun _ =>
        .pure fun _ hw => ⟨hw.1, fun _ => hw.2⟩) fun hcn => .pure fun _ hw => ⟨hw.1.1.1, fun h => (hcn h).elim⟩
  · rintro w ⟨hw, rfl⟩
    rw [hasSchemaConfig_congr hw.connector, hschema, Bool.and_false] at hs
    cases hs

end Request

/-- Adoption is skipped when an ID is recorded or no adoption annotation is present. -/
theorem handleExistingConnectorAdoptionIfNeeded_of_skip {w : World}
    (h : w.connector.status.connectorID = "" →
      getAnnotationValue w.connector annotationAdoptExistingConnectorID = "") :
    handleExistingConnectorAdoptionIfNeeded w = .ok false w := by
  unfold handleExistingConnectorAdoptionIfNeeded
  rw [bind_apply, current_apply, andThen_ok]
  by_cases hid : w.connector.status.connectorID = ""
  · rw [if_pos hid, if_neg (not_not.mpr (h hid))]
    rfl
  · rw [if_neg hid]
    rfl

/-- The copy and the stored object have the loaded object's status, annotations and labels. -/
def Loaded (o : FivetranConnector) (w : World) : Prop :=
  Both (·.status = o.status) w ∧ Both (·.metadata.annotations = o.metadata.annotations) w ∧
    Both (·.metadata.labels = o.metadata.labels) w

/-- Adding the finalizer keeps the loaded status, annotations and labels. -/
theorem loaded_walkStable (o : FivetranConnector) :
    WalkStable (fun c c' => c' = addFinalizer c fivetranFinalizer) (Loaded o) :=
  (Both.walkStable (.inl fun _ _ h hc => h.symm.trans hc) fun _ _ he hc => by rwa [he, addFinalizer_status]).conj
    ((Both.walkStable (.inr fun _ _ hm _ hc => (congrArg ObjectMeta.annotations hm).symm.trans hc)
      fun _ _ he hc => by rwa [he, addFinalizer_annotations]).conj
    (Both.walkStable (.inr fun _ _ hm _ hc => (congrArg ObjectMeta.labels hm).symm.trans hc)
      fun _ _ he hc => by rwa [he, addFinalizer_labels]))

section Live

variable {vault : SecretStore} {resolvedConfig resolvedAuth : Option RawExtension} {S : Prop}
  {A : Abort → World → Prop}

/-- The live path: the finalizer is added, adoption is skipped, and either nothing needs
reconciling or the work path runs; it returns the empty result, having established `S` if the
loaded object needed its connector reconciled, or aborts as the setup test step does. -/
theorem reconcileLive_cooperating (haccept : Accepting env)
    (hsetup : ∀ connectorID, Triple (Cooperating env o) (reconcileSetupTests connectorID)
      (fun _ w => Cooperating env o w ∧ S)
      fun a => A (Abort.tag conditionTypeSetupTestReady setupTestsReasonReconciliationFailed a))
    (hresolve : resolveConnectorSecrets vault o = .ok (resolvedConfig, resolvedAuth))
    (hrequest : ∃ req, toFivetranConnector o resolvedConfig resolvedAuth = .ok req)
    (hschema : hasSchemaConfig o = false) (hrecovery : o.status.connectorID = "" → markerOf o = "")
    (hadopt : o.status.connectorID = "" →
      getAnnotationValue o annotationAdoptExistingConnectorID = "") :
    Triple (fun w => Cooperating env o w ∧ InSync w ∧ Loaded o w) (reconcileLive vault)
      (fun r w => (Cooperating env o w ∧
        ((determineReconciliationNeeds o (hasLabel o annotationForceReconcile)).1 = true → S)) ∧
          r = .done) A := by
  unfold reconcileLive
  refine .bind (.mapAbort ((ensureFinalizer_completes haccept).andFrame
    (ensureFinalizer_safe.triple (loaded_walkStable o)))) fun _ =>
    .bind .current fun c₀ => .bind (.mapAbort (?_ : Triple _ _ (fun needRequeue w =>
      ((Cooperating env o w ∧ InSync w ∧ Loaded o w) ∧ w.connector = c₀) ∧ needRequeue = false) _))
    fun needRequeue => .ite (fun hreq => .assume (fun _ hw => Bool.noConfusion (hw.2.symm.trans hreq))
      False.elim) fun _ => .bind .current fun c => ?_
  · have hskip : ∀ w, Loaded o w → w.connector.status.connectorID = "" →
        getAnnotationValue w.connector annotationAdoptExistingConnectorID = "" :=
      fun w ⟨⟨hs, _⟩, ⟨ha, _⟩, _⟩ hid => (getAnnotationValue_congr ha _).trans (hadopt (hs ▸ hid))
    refine ⟨fun w hw _ _ hx => ?_, fun w hw _ _ hx => ?_⟩ <;>
      rw [handleExistingConnectorAdoptionIfNeeded_of_skip (hskip w hw.1.2.2)] at hx <;> cases hx
    exact ⟨hw, rfl⟩
  split
  next connectorNeeded schemaNeeded hneeds =>
  refine .assume (P := (determineReconciliationNeeds o (hasLabel o annotationForceReconcile)).1 =
    connectorNeeded) ?_ fun hcn => ?_
  · rintro w ⟨⟨⟨⟨hw, -, ⟨hs, -⟩, ⟨ha, -⟩, ⟨hl, -⟩⟩, rfl⟩, -⟩, rfl⟩
    rw [← hasLabel_congr hl, ← determineReconciliationNeeds_congr hs ha hw.connector, hneeds]
  refine .ite (fun hnone => .pure fun w hw => ⟨⟨hw.1.1.1.1, fun h => ?_⟩, rfl⟩) fun _ =>
    ((reconcileWork_cooperating haccept hsetup hresolve hrequest hschema _ _).weaken fun w hw => ?_).mono
      (fun _ hw => hw) (fun _ _ h => ⟨⟨h.1.1, fun hn => h.1.2 (hcn ▸ hn)⟩, h.2⟩) fun _ _ h => h
  · rw [hcn] at h
    simp [h] at hnone
  · obtain ⟨⟨⟨⟨hw, -, ⟨hs, -⟩, ⟨ha, -⟩, -⟩, -⟩, -⟩, -⟩ := hw
    exact ⟨hw, fun hid => (getAnnotationValue_congr ha _).trans (hrecovery (hs ▸ hid))⟩

/-- The steps of `Reconcile`, with both clients available and the object live: the live path. -/
theorem reconcileSteps_cooperating (haccept : Accepting env)
    (hsetup : ∀ connectorID, Triple (Cooperating env o) (reconcileSetupTests connectorID)
      (fun _ w => Cooperating env o w ∧ S)
      fun a => A (Abort.tag conditionTypeSetupTestReady setupTestsReasonReconciliationFailed a))
    (hresolve : resolveConnectorSecrets vault o = .ok (resolvedConfig, resolvedAuth))
    (hrequest : ∃ req, toFivetranConnector o resolvedConfig resolvedAuth = .ok req)
    (hschema : hasSchemaConfig o = false) (hrecovery : o.status.connectorID = "" → markerOf o = "")
    (hadopt : o.status.connectorID = "" →
      getAnnotationValue o annotationAdoptExistingConnectorID = "") :
    Triple (fun w => (Cooperating env o w ∧ InSync w ∧ Loaded o w) ∧
        w.connector.metadata.deletionTimestamp = none)
      (reconcileSteps vault)
      (fun r w => (Cooperating env o w ∧
        ((determineReconciliationNeeds o (hasLabel o annotationForceReconcile)).1 = true → S)) ∧
          r = .done) A := by
  unfold reconcileSteps
  refine .bind .responses_eq fun env' => .ite (fun hclient => .assume ?_ False.elim) fun _ => ?_
  · rintro w ⟨⟨⟨hw, -⟩, -⟩, rfl⟩
    rw [hw.env, haccept.fivetranClient] at hclient
    cases hclient
  split
  next msg hvault =>
    exact .throw fun w ⟨⟨⟨hw, _⟩, _⟩, henv⟩ => by
      rw [← henv, hw.env, haccept.vaultClient] at hvault
      cases hvault
  refine .bind .current fun c => .ite (fun hdel => .assume ?_ False.elim)
    fun _ => (reconcileLive_cooperating haccept hsetup hresolve hrequest hschema hrecovery hadopt).weaken
      fun _ hw => hw.1.1.1
  rintro w ⟨⟨⟨-, hlive⟩, -⟩, rfl⟩
  rw [hlive] at hdel
  cases hdel

end Live

/-- The loaded object's world is cooperating, in sync and loaded. -/
theorem initial_cooperating (env : Responses) (stored : FivetranConnector) :
    Cooperating env stored (World.initial env stored) ∧ InSync (World.initial env stored) ∧
      Loaded stored (World.initial env stored) :=
  ⟨⟨rfl, rfl, rfl⟩, rfl, ⟨rfl, rfl⟩, ⟨rfl, rfl⟩, rfl, rfl⟩

/-- Under answers that cooperate, `Reconcile` completes and converges. On a live object with no
schema configuration, whose documents resolve against the secret store and decode to a request,
and which records a connector ID or else carries neither a recovery marker nor an adoption
annotation, an invocation whose clients are available, whose writes are accepted, whose
`CreateConnection` and `UpdateConnection` calls succeed and whose setup tests report no failure
returns the empty result and no error. If the loaded conditions have distinct types and fail only
with the types the controller writes, the next invocation with the clients available then makes
no call and leaves the stored object as it is. -/
theorem invoke_cooperative_completes (vault : SecretStore) (env : Responses)
    (stored : FivetranConnector) (hcoop : Cooperative env)
    (hlive : stored.metadata.deletionTimestamp = none)
    (hrecovery : stored.status.connectorID = "" → markerOf stored = "")
    (hadopt : stored.status.connectorID = "" →
      getAnnotationValue stored annotationAdoptExistingConnectorID = "")
    (hschema : hasSchemaConfig stored = false)
    (hdocs : ∃ resolvedConfig resolvedAuth req,
      resolveConnectorSecrets vault stored = .ok (resolvedConfig, resolvedAuth) ∧
        toFivetranConnector stored resolvedConfig resolvedAuth = .ok req) :
    ∃ w, invoke vault env stored = .ok ⟨.done, none⟩ w ∧
      (FailedWithin (· ∈ conditionTypes) stored →
        ∀ (vault' : SecretStore) (env' : Responses), env'.fivetranClient = true →
          env'.vaultClient = none →
            invoke vault' env' w.stored = .ok ⟨.done, none⟩ (World.initial env' w.stored)) := by
  obtain ⟨_, _, req, hresolve, hrequest⟩ := hdocs
  have hsteps := reconcileSteps_cooperating (S := True) (A := fun _ _ => False) hcoop.toAccepting
    (fun _ => (reconcileSetupTests_completes hcoop _).mono (fun _ hw => hw) (fun _ _ hw => ⟨hw, trivial⟩)
      fun _ _ h => h) hresolve ⟨req, hrequest⟩ hschema hrecovery hadopt
  rcases hrun : reconcileSteps vault (World.initial env stored) with ⟨r, w⟩ | ⟨e, w⟩
  · obtain ⟨⟨hw, -⟩, rfl⟩ := hsteps.returns _ ⟨initial_cooperating env stored, hlive⟩ _ _ hrun
    refine ⟨w, by rw [invoke, reconcile, hrun]; rfl, fun hconditions vault' env' hclient hvault =>
      (reconcileSteps_done_quiet hconditions hrun (.inr ?_)).invoke vault' env' hclient hvault⟩
    rw [hasSchemaConfig_congr hw.stored, hschema]
  · exact (hsteps.aborts _ ⟨initial_cooperating env stored, hlive⟩ _ _ hrun).elim

/-- An unconfigured resource under accepting answers: created, and quiet afterwards. -/
theorem invoke_cooperative_completes_created :
    Cooperative acceptingResponses ∧
      (exampleResource GoMap.empty GoMap.empty []).metadata.deletionTimestamp = none ∧
      ((exampleResource GoMap.empty GoMap.empty []).status.connectorID = "" →
        markerOf (exampleResource GoMap.empty GoMap.empty []) = "") ∧
      ((exampleResource GoMap.empty GoMap.empty []).status.connectorID = "" →
        getAnnotationValue (exampleResource GoMap.empty GoMap.empty [])
          annotationAdoptExistingConnectorID = "") ∧
      hasSchemaConfig (exampleResource GoMap.empty GoMap.empty []) = false ∧
      (∃ resolvedConfig resolvedAuth req,
        resolveConnectorSecrets emptyStore (exampleResource GoMap.empty GoMap.empty []) =
          .ok (resolvedConfig, resolvedAuth) ∧
        toFivetranConnector (exampleResource GoMap.empty GoMap.empty []) resolvedConfig resolvedAuth =
          .ok req) ∧
      ∃ w, invoke emptyStore acceptingResponses (exampleResource GoMap.empty GoMap.empty []) =
          .ok ⟨.done, none⟩ w ∧
        (FailedWithin (· ∈ conditionTypes) (exampleResource GoMap.empty GoMap.empty []) →
          ∀ (vault' : SecretStore) (env' : Responses), env'.fivetranClient = true →
            env'.vaultClient = none →
              invoke vault' env' w.stored = .ok ⟨.done, none⟩ (World.initial env' w.stored)) :=
  have hcoop : Cooperative acceptingResponses :=
    ⟨⟨rfl, rfl, fun _ => rfl, fun _ => ⟨_, rfl⟩, fun _ => rfl⟩, fun _ => ⟨[], rfl, fun _ h => nomatch h⟩⟩
  have hdocs : ∃ resolvedConfig resolvedAuth req,
      resolveConnectorSecrets emptyStore (exampleResource GoMap.empty GoMap.empty []) =
        .ok (resolvedConfig, resolvedAuth) ∧
      toFivetranConnector (exampleResource GoMap.empty GoMap.empty []) resolvedConfig resolvedAuth =
        .ok req := ⟨_, _, _, rfl, rfl⟩
  ⟨hcoop, rfl, fun _ => rfl, fun _ => rfl, rfl, hdocs,
    invoke_cooperative_completes _ _ _ hcoop rfl (fun _ => rfl) (fun _ => rfl) rfl hdocs⟩

end Steps

section SetupTestFailure

/-- A setup test failure is recorded with the connector marked ready: when the server accepts
every write, `handleError` returns the empty result and no error, and leaves `ConnectorReady`
True and the failed step's condition False. -/
theorem handleError_setupTestsFailed {conditionType reason : String} {err : GoError} {w : World}
    (hmismatch : err.is .schemaMismatchAfterRetry = false) (hsetup : err.is .setupTestsFailed = true)
    (haccept : ∀ n, w.env.kubeWrite n = none) (hne : conditionType ≠ conditionTypeConnectorReady) :
    ∃ w', handleError conditionType reason err w = .ok ⟨.done, none⟩ w' ∧
      ConditionReads conditionTypeConnectorReady .conditionTrue connectorReasonSuccess w'.stored ∧
      ConditionReads conditionType .conditionFalse reason w'.stored := by
  simp only [handleError, hmismatch, hsetup, Bool.false_eq_true, ↓reduceIte, bind_apply, errOf_setCondition,
    statusUpdate, haccept, andThen_ok, pure_apply, finalWorld_ok, Option.map_none', World.afterStatusUpdate,
    World.record, FivetranConnector.withCondition, ConditionReads]
  refine ⟨_, rfl, ?_, congrArg (Option.map _) (conditionOf_upsertCondition_self _
    (mkCondition conditionType .conditionFalse reason err.error _))⟩
  rw [conditionOf_upsertCondition_ne _ _ (Ne.symm hne)]
  exact congrArg (Option.map _) (conditionOf_upsertCondition_self _
    (mkCondition conditionTypeConnectorReady .conditionTrue connectorReasonSuccess msgConnectorReady _))

/-- A setup test failure does not invalidate a connector that was otherwise reconciled. On a live
object as in `invoke_cooperative_completes`, whose connector needs reconciling and whose spec runs
the setup tests, an invocation whose clients are available, whose writes are accepted, whose
`CreateConnection` and `UpdateConnection` calls succeed and whose setup tests report a failure
returns the empty result and no error, with `ConnectorReady` True and `SetupTestReady` False in
the stored status. -/
theorem invoke_setupTests_failure_keeps_ready (vault : SecretStore) (env : Responses)
    (stored : FivetranConnector) (haccept : Accepting env)
    (hfailing : ∀ n, ∃ tests, env.runSetupTests n = .ok tests ∧ ∃ test ∈ tests,
      test.status ≠ setupTestStatusPassed ∧ test.status ≠ setupTestStatusSkipped ∧
        test.status ≠ setupTestStatusWarning)
    (hrun : stored.spec.connector.runSetupTests.getD true = true)
    (hneeds : (determineReconciliationNeeds stored (hasLabel stored annotationForceReconcile)).1 = true)
    (hlive : stored.metadata.deletionTimestamp = none)
    (hrecovery : stored.status.connectorID = "" → markerOf stored = "")
    (hadopt : stored.status.connectorID = "" →
      getAnnotationValue stored annotationAdoptExistingConnectorID = "")
    (hschema : hasSchemaConfig stored = false)
    (hdocs : ∃ resolvedConfig resolvedAuth req,
      resolveConnectorSecrets vault stored = .ok (resolvedConfig, resolvedAuth) ∧
        toFivetranConnector stored resolvedConfig resolvedAuth = .ok req) :
    ∃ w, invoke vault env stored = .ok ⟨.done, none⟩ w ∧
      ConditionReads conditionTypeConnectorReady .conditionTrue connectorReasonSuccess w.stored ∧
      ConditionReads conditionTypeSetupTestReady .conditionFalse setupTestsReasonReconciliationFailed
        w.stored := by
  obtain ⟨_, _, req, hresolve, hrequest⟩ := hdocs
  have hsteps := reconcileSteps_cooperating (S := False)
    (A := fun a w => w.env = env ∧ ∃ e, a = .failed conditionTypeSetupTestReady
      setupTestsReasonReconciliationFailed e ∧ e.is .setupTestsFailed = true ∧
        e.is .schemaMismatchAfterRetry = false)
    haccept (fun _ => (reconcileSetupTests_fails hfailing hrun _).mono (fun _ hw => hw) (fun _ _ h => h.elim)
      fun _ _ ⟨hw, e, ha, hs, hm⟩ => ⟨hw.env, e, by rw [ha]; rfl, hs, hm⟩)
    hresolve ⟨req, hrequest⟩ hschema hrecovery hadopt
  rcases hsteps_run : reconcileSteps vault (World.initial env stored) with ⟨r, w⟩ | ⟨a, w⟩
  · exact ((hsteps.returns _ ⟨initial_cooperating env stored, hlive⟩ _ _ hsteps_run).1.2 hneeds).elim
  · obtain ⟨henv, e, rfl, hs, hm⟩ := hsteps.aborts _ ⟨initial_cooperating env stored, hlive⟩ _ _ hsteps_run
    obtain ⟨w', hw', hready, hsetup⟩ :=
      handleError_setupTestsFailed hm hs (henv ▸ haccept.kubeWrite)
        (show conditionTypeSetupTestReady ≠ conditionTypeConnectorReady by decide)
    exact ⟨w', (invoke_of_failed hsteps_run).1.trans hw', hready, hsetup⟩

/-- Answers under which every call succeeds and the one setup test fails. -/
def failingSetupTestResponses : Responses :=
  { acceptingResponses with
    runSetupTests := fun _ => .ok [⟨"Connecting to host", "FAILED", "connection refused"⟩] }

/-- A forced resource whose spec runs the setup tests. -/
def setupTestingResource : FivetranConnector :=
  ⟨⟨forceLabel, GoMap.empty, [], none⟩, ⟨{ exampleConnector with runSetupTests := some true }, none⟩, .empty⟩

/-- A forced reconcile whose setup tests fail keeps `ConnectorReady` True. -/
theorem invoke_setupTests_failure_keeps_ready_forced :
    Accepting failingSetupTestResponses ∧
      (∀ n, ∃ tests, failingSetupTestResponses.runSetupTests n = .ok tests ∧ ∃ test ∈ tests,
        test.status ≠ setupTestStatusPassed ∧ test.status ≠ setupTestStatusSkipped ∧
          test.status ≠ setupTestStatusWarning) ∧
      setupTestingResource.spec.connector.runSetupTests.getD true = true ∧
      (determineReconciliationNeeds setupTestingResource
        (hasLabel setupTestingResource annotationForceReconcile)).1 = true ∧
      setupTestingResource.metadata.deletionTimestamp = none ∧
      (setupTestingResource.status.connectorID = "" → markerOf setupTestingResource = "") ∧
      (setupTestingResource.status.connectorID = "" →
        getAnnotationValue setupTestingResource annotationAdoptExistingConnectorID = "") ∧
      hasSchemaConfig setupTestingResource = false ∧
      (∃ resolvedConfig resolvedAuth req,
        resolveConnectorSecrets emptyStore setupTestingResource = .ok (resolvedConfig, resolvedAuth) ∧
          toFivetranConnector setupTestingResource resolvedConfig resolvedAuth = .ok req) ∧
      ∃ w, invoke emptyStore failingSetupTestResponses setupTestingResource = .ok ⟨.done, none⟩ w ∧
        ConditionReads conditionTypeConnectorReady .conditionTrue connectorReasonSuccess w.stored ∧
        ConditionReads conditionTypeSetupTestReady .conditionFalse setupTestsReasonReconciliationFailed
          w.stored :=
  have haccept : Accepting failingSetupTestResponses :=
    ⟨rfl, rfl, fun _ => rfl, fun _ => ⟨_, rfl⟩, fun _ => rfl⟩
  have hfailing : ∀ n, ∃ tests, failingSetupTestResponses.runSetupTests n = .ok tests ∧
      ∃ test ∈ tests, test.status ≠ setupTestStatusPassed ∧ test.status ≠ setupTestStatusSkipped ∧
        test.status ≠ setupTestStatusWarning :=
    fun _ => ⟨_, rfl, _, List.mem_singleton_self _, by decide, by decide, by decide⟩
  have hdocs : ∃ resolvedConfig resolvedAuth req,
      resolveConnectorSecrets emptyStore setupTestingResource = .ok (resolvedConfig, resolvedAuth) ∧
        toFivetranConnector setupTestingResource resolvedConfig resolvedAuth = .ok req :=
    ⟨_, _, _, rfl, rfl⟩
  ⟨haccept, hfailing, rfl, rfl, rfl, fun _ => rfl, fun _ => rfl, rfl, hdocs,
    invoke_setupTests_failure_keeps_ready _ _ _ haccept hfailing rfl rfl rfl (fun _ => rfl) (fun _ => rfl) rfl
      hdocs⟩

end SetupTestFailure

end FivetranOperator
