import FivetranOperator.Controller.Quiescence

/-!
# Failure reporting

Every step of `Reconcile` runs under a condition type and a reason, and a failed step is handed
to `handleError` with both. The result below says that no failure goes unreported: the
invocation returns, with the result the error's class gives, and either the stored status holds,
as the first condition of the step's type, a False condition with the step's reason, or the
invocation ends with a status write the API server rejected and returns that rejection
(`invoke_reports_failure`).

`handleError` makes at most two status writes, and every branch ends with the False condition of
the step's type; the `setupTestsFailed` branch first sets `ConnectorReady` True and returns
early if that write is rejected. The lemma per write is `errOf_setCondition_reports`.
-/

namespace FivetranOperator

open FivetranConnector

/-- The first condition of a type, as `meta.FindStatusCondition` reads it, has this status and
reason. -/
def ConditionReads (conditionType : String) (status : ConditionStatus) (reason : String)
    (c : FivetranConnector) : Prop :=
  (conditionOf conditionType c.status.conditions).map (fun e => (e.status, e.reason)) =
    some (status, reason)

section Writes

/-- A status write always returns: the world after the condition edit and the write. -/
theorem errOf_setCondition_world (conditionType : String) (status : ConditionStatus)
    (reason message : String) (w : World) :
    ∃ e, errOf (setCondition conditionType status reason message) w = .ok e
      (finalWorld (statusUpdate { w with connector := (w.connector.withCondition
        (mkCondition conditionType status reason message (w.env.clock w.calls))) })) :=
  ⟨_, by rw [errOf_setCondition]⟩

/-- A status write leaves the condition it upserted, or ends with the write the server rejected,
which carried that condition, and returns the rejection; the answers it reads are unchanged. -/
theorem errOf_setCondition_reports {conditionType : String} {status : ConditionStatus}
    {reason message : String} {w w' : World} {e : Option GoError}
    (h : errOf (setCondition conditionType status reason message) w = .ok e w') :
    w'.env = w.env ∧ ((e = none ∧ ConditionReads conditionType status reason w'.stored) ∨
      ∃ c msg, w' = { w with connector := c }.record (.statusUpdate c false) ∧
        w.env.kubeWrite w.calls = some msg ∧ e = some (.text msg) ∧
        ConditionReads conditionType status reason c) := by
  rw [errOf_setCondition] at h
  cases h
  have hreads := congrArg (Option.map fun e : Condition => (e.status, e.reason))
    (conditionOf_upsertCondition_self w.connector.status.conditions
      (mkCondition conditionType status reason message (w.env.clock w.calls)))
  cases hw : w.env.kubeWrite w.calls with
  | none =>
    simp only [statusUpdate, hw, finalWorld_ok]
    exact ⟨rfl, .inl ⟨rfl, hreads⟩⟩
  | some msg =>
    simp only [statusUpdate, hw, finalWorld_error]
    exact ⟨rfl, .inr ⟨_, msg, rfl, rfl, rfl, hreads⟩⟩

/-- The errors `handleError` records in a condition without returning them: the three
sentinels, a `*VaultError` and an `*APIError`. -/
def GoError.reportedOnly (err : GoError) : Bool :=
  err.is .schemaMismatchAfterRetry || err.is .setupTestsFailed || err.is .connectorValidationFailed ||
    err.asVault.isSome || err.asAPI.isSome

/-- `handleError` by its writes. Either it writes the False condition of the step's type from
`w₁` and returns the result of the error's class, with that write's rejection as the error, or,
once the write is accepted, the error itself unless its class is reported only; `w₁` is `w`, or,
for a failed setup test, `w` after an accepted `ConnectorReady` True write. Or that first write is
rejected, and the rejection is returned. -/
theorem handleError_cases (conditionType reason : String) (err : GoError) (w : World) :
    (∃ (w₁ : World) (message : String) (f : Option GoError → ReconcileM Outcome),
      handleError conditionType reason err w =
        (errOf (setCondition conditionType .conditionFalse reason message) >>= f) w₁ ∧
      (∀ e w', f e w' =
        .ok ⟨errorResult err, e.or (if err.reportedOnly then none else some err)⟩ w') ∧
      (w₁ = w ∨ errOf (setCondition conditionTypeConnectorReady .conditionTrue
        connectorReasonSuccess msgConnectorReady) w = .ok none w₁)) ∨
    ∃ e w₁, errOf (setCondition conditionTypeConnectorReady .conditionTrue connectorReasonSuccess
        msgConnectorReady) w = .ok (some e) w₁ ∧
      handleError conditionType reason err w = .ok ⟨errorResult err, some e⟩ w₁ := by
  have hpure : ∀ result, errorResult err = result → err.reportedOnly = true → ∀ e w',
      (Pure.pure (⟨result, e⟩ : Outcome) : ReconcileM Outcome) w' =
        .ok ⟨errorResult err, e.or (if err.reportedOnly then none else some err)⟩ w' := by
    intro _ hresult hreported _ _
    rw [hresult, hreported, if_pos rfl, Option.or_none]
    rfl
  unfold handleError
  by_cases hmismatch : err.is .schemaMismatchAfterRetry = true
  · rw [if_pos hmismatch]
    exact .inl ⟨w, _, _, rfl, hpure _ (by simp [errorResult, hmismatch])
      (by simp [GoError.reportedOnly, hmismatch]), .inl rfl⟩
  rw [if_neg hmismatch]
  by_cases hsetup : err.is .setupTestsFailed = true
  · have hresult : errorResult err = .done := by simp [errorResult, hsetup]
    rw [if_pos hsetup]
    obtain ⟨e, hready⟩ := errOf_setCondition_world conditionTypeConnectorReady .conditionTrue
      connectorReasonSuccess msgConnectorReady w
    cases e with
    | none => exact .inl ⟨_, _, _, by rw [bind_apply, hready, andThen_ok],
        hpure _ hresult (by simp [GoError.reportedOnly, hsetup]), .inr hready⟩
    | some e => exact .inr ⟨e, _, hready, by rw [bind_apply, hready, andThen_ok, hresult]; rfl⟩
  rw [if_neg hsetup]
  by_cases hvalidation : err.is .connectorValidationFailed = true
  · rw [if_pos hvalidation]
    exact .inl ⟨w, _, _, rfl, hpure _ (by simp [errorResult, hvalidation])
      (by simp [GoError.reportedOnly, hvalidation]), .inl rfl⟩
  rw [if_neg hvalidation]
  have hsentinels : (err.is .schemaMismatchAfterRetry || err.is .setupTestsFailed ||
      err.is .connectorValidationFailed) = false := by simp_all
  cases hvault : err.asVault with
  | some _ => exact .inl ⟨w, _, _, rfl, hpure _ (by simp [errorResult, hsentinels, hvault])
      (by simp [GoError.reportedOnly, hvault]), .inl rfl⟩
  | none =>
  cases hapi : err.asAPI with
  | some _ => exact .inl ⟨w, _, _, rfl, hpure _ (by simp [errorResult, hsentinels, hvault, hapi])
      (by simp [GoError.reportedOnly, hvault, hapi]), .inl rfl⟩
  | none =>
    have hresult : errorResult err = .done := by simp [errorResult, hsentinels, hvault, hapi]
    have hreported : err.reportedOnly = false := by
      simp only [GoError.reportedOnly, hsentinels, hvault, hapi]; rfl
    refine .inl ⟨w, _, _, rfl, fun e w' => ?_, .inl rfl⟩
    rw [hresult, hreported]
    cases e <;> rfl

/-- A property that a condition edit followed by a status write keeps, `handleError` keeps. -/
theorem handleError_keeps {P : World → Prop}
    (hP : ∀ w c, P w → P (finalWorld (statusUpdate { w with connector := c })))
    (conditionType reason : String) (err : GoError) {w : World} (hw : P w) :
    P (finalWorld (handleError conditionType reason err w)) := by
  have hready : ∀ {e w₁}, errOf (setCondition conditionTypeConnectorReady .conditionTrue
      connectorReasonSuccess msgConnectorReady) w = .ok e w₁ → P w₁ := fun h => by
    obtain ⟨_, hx⟩ := errOf_setCondition_world conditionTypeConnectorReady .conditionTrue
      connectorReasonSuccess msgConnectorReady w
    rw [hx] at h
    cases h
    exact hP _ _ hw
  rcases handleError_cases conditionType reason err w with
    ⟨w₁, message, f, heq, hf, hw₁⟩ | ⟨e, w₁, hfirst, heq⟩
  · have h₁ : P w₁ := hw₁.elim (fun h => h ▸ hw) hready
    obtain ⟨e, hx⟩ := errOf_setCondition_world conditionType .conditionFalse reason message w₁
    rw [heq, bind_apply, hx, andThen_ok, hf, finalWorld_ok]
    exact hP _ _ h₁
  · rw [heq, finalWorld_ok]
    exact hready hfirst

end Writes

/-- What `handleError` guarantees of its outcome: the False condition of the step's type and
reason is stored, or the last call of the run was a status write that the API server rejected,
carrying that condition or, before it, `ConnectorReady` True, and the rejection is returned. -/
def Reported (conditionType reason : String) (env : Responses) (o : Outcome) (w : World) : Prop :=
  ConditionReads conditionType .conditionFalse reason w.stored ∨
    ∃ (w₀ : World) (c : FivetranConnector) (msg : String), w = w₀.record (.statusUpdate c false) ∧ env.kubeWrite w₀.calls = some msg ∧
      o.err = some (.text msg) ∧
      (ConditionReads conditionType .conditionFalse reason c ∨
        ConditionReads conditionTypeConnectorReady .conditionTrue connectorReasonSuccess c)

/-- `handleError` always returns, and reports the failure it handles. -/
theorem handleError_reports (conditionType reason : String) (err : GoError) (w : World) :
    ∃ o w', handleError conditionType reason err w = .ok o w' ∧ o.result = errorResult err ∧
      Reported conditionType reason w.env o w' := by
  rcases handleError_cases conditionType reason err w with
    ⟨w₁, message, f, heq, hf, hw₁⟩ | ⟨e, w₁, hfirst, heq⟩
  · have henv : w₁.env = w.env := hw₁.elim (fun h => h ▸ rfl) fun h => (errOf_setCondition_reports h).1
    obtain ⟨e, hx⟩ := errOf_setCondition_world conditionType .conditionFalse reason message w₁
    refine ⟨_, _, by rw [heq, bind_apply, hx, andThen_ok, hf], rfl, ?_⟩
    rcases (errOf_setCondition_reports hx).2 with ⟨-, hreads⟩ | ⟨c, msg, hlast, hmsg, rfl, hreads⟩
    · exact .inl hreads
    · exact Or.inr ⟨_, c, msg, hlast, henv ▸ hmsg, rfl, .inl hreads⟩
  · rcases (errOf_setCondition_reports hfirst).2 with ⟨h, -⟩ | ⟨c, msg, rfl, hmsg, he, hreads⟩
    · cases h
    · exact ⟨_, _, heq, rfl, Or.inr ⟨_, c, msg, rfl, hmsg, he, .inr hreads⟩⟩

/-- The answers an invocation reads never change. -/
theorem env_walkStable {E : FivetranConnector → FivetranConnector → Prop} (env : Responses) :
    WalkStable E (·.env = env) := by
  intro w w' h hw
  cases h with
  | edit => exact hw
  | update => rcases update_cases w with h | h <;> rw [h] <;> exact hw
  | statusUpdate => rcases statusUpdate_cases w with h | h <;> rw [h] <;> exact hw
  | call => exact hw

/-- A failed step hands its error to `handleError`, in a world with the invocation's answers. -/
theorem invoke_of_failed {vault : SecretStore} {env : Responses} {stored : FivetranConnector}
    {conditionType reason : String} {err : GoError} {w : World}
    (hsteps : reconcileSteps vault (World.initial env stored) =
      .error (.failed conditionType reason err) w) :
    invoke vault env stored = handleError conditionType reason err w ∧ w.env = env := by
  have hwalks := (reconcileSteps_safe vault).walks (World.initial env stored) rfl
  rw [hsteps] at hwalks
  refine ⟨?_, (env_walkStable env).walks hwalks rfl⟩
  unfold invoke reconcile
  rw [hsteps]
  rfl

/-- Without the Fivetran client, the steps stop at once, tagged for `ConnectorReady`. -/
theorem reconcileSteps_noClient :
    reconcileSteps emptyStore
        (World.initial noClientResponses (exampleResource GoMap.empty GoMap.empty [])) =
      .error (.failed conditionTypeConnectorReady connectorReasonFivetranClientNotInitialized
        (.sentinel .fivetranClientNotInitialized))
        (World.initial noClientResponses (exampleResource GoMap.empty GoMap.empty [])) := rfl

section Requeue

/-- The error results never ask for an immediate requeue: a requeue after five minutes or none. -/
theorem errorResult_requeue (err : GoError) : (errorResult err).requeue = false := by
  unfold errorResult
  repeat' split
  all_goals rfl

/-- The work path returns the empty result only. -/
theorem reconcileWork_done (vault : SecretStore) (connectorNeeded schemaNeeded : Bool) :
    Triple (fun _ => True) (reconcileWork vault connectorNeeded schemaNeeded) (fun r _ => r = .done)
      fun _ _ => True := by
  unfold reconcileWork
  refine .bind .top fun _ => .bind .top fun docs => ?_
  split
  exact .bind .top fun _ => .bind .top fun _ => .bind .top fun _ => .bind .top fun _ =>
    .bind .top fun _ => .pure fun _ _ => rfl

/-- Adding the finalizer leaves the connector ID in status alone. -/
theorem connectorID_addFinalizer_walkStable (connectorID : String) :
    WalkStable (fun c c' => c' = addFinalizer c fivetranFinalizer)
      (Both (·.status.connectorID = connectorID)) :=
  Both.walkStable (.inl fun _ _ h hc => (congrArg (·.connectorID) h).symm.trans hc) fun _ _ he hc => by
    rwa [he, addFinalizer_status]

/-- Adding the finalizer leaves every annotation alone. -/
theorem annotation_addFinalizer_walkStable (key value : String) :
    WalkStable (fun c c' => c' = addFinalizer c fivetranFinalizer)
      (Both (getAnnotationValue · key = value)) :=
  Both.walkStable (.inr fun _ _ hm _ hc =>
    (congrArg (fun m : ObjectMeta => (m.annotations.get? key).getD "") hm).symm.trans hc)
    fun _ _ he hc => by rwa [he, getAnnotationValue_addFinalizer]

/-- An adoption that returns has stored the adopted ID in status. -/
theorem handleExistingConnectorAdoption_records (adoptConnectorID : String) :
    Triple (fun _ => True) (handleExistingConnectorAdoption adoptConnectorID)
      (fun _ w => w.stored.status.connectorID = adoptConnectorID) fun _ _ => True := by
  unfold handleExistingConnectorAdoption updateConnectorIDStatus
  exact .bind .top fun _ => (Triple.editStatusUpdate (P := (·.status.connectorID = adoptConnectorID))
    (fun _ _ h hc => (congrArg (·.connectorID) h).symm.trans hc) fun _ _ => rfl).mono (fun _ _ => trivial) (fun _ _ h => h.2.2)
      fun _ _ h => h

/-- Adoption ran: the copy had no connector ID and an adoption annotation, and the stored status
holds the annotation's ID. -/
theorem handleExistingConnectorAdoptionIfNeeded_true {w w' : World}
    (h : handleExistingConnectorAdoptionIfNeeded w = .ok true w') :
    w.connector.status.connectorID = "" ∧
      getAnnotationValue w.connector annotationAdoptExistingConnectorID ≠ "" ∧
      w'.stored.status.connectorID = getAnnotationValue w.connector annotationAdoptExistingConnectorID := by
  unfold handleExistingConnectorAdoptionIfNeeded at h
  rw [bind_apply, current_apply, andThen_ok] at h
  by_cases hid : w.connector.status.connectorID = ""
  · rw [if_pos hid] at h
    by_cases hadopt : getAnnotationValue w.connector annotationAdoptExistingConnectorID = ""
    · rw [if_neg (not_not.mpr hadopt)] at h
      cases h
    · rw [if_pos hadopt, bind_apply] at h
      rcases hx : handleExistingConnectorAdoption _ w with ⟨_, _⟩ | ⟨_, _⟩ <;> rw [hx] at h <;> cases h
      exact ⟨hid, hadopt, (handleExistingConnectorAdoption_records _).returns w trivial _ _ hx⟩
  · rw [if_neg hid] at h
    cases h

/-- The live path asks for an immediate requeue only after adopting: the loaded copy had no
connector ID and an adoption annotation, and the stored status holds the annotation's ID. The
loaded ID and annotation are ghost values of the precondition. -/
theorem reconcileLive_requeues (vault : SecretStore) (connectorID adopt : String) :
    Triple (fun w => InSync w ∧ Both (·.status.connectorID = connectorID) w ∧
        Both (getAnnotationValue · annotationAdoptExistingConnectorID = adopt) w)
      (reconcileLive vault)
      (fun r w => r.requeue = true → r = ⟨true, 0⟩ ∧ connectorID = "" ∧ adopt ≠ "" ∧
        w.stored.status.connectorID = adopt)
      fun _ _ => True := by
  unfold reconcileLive
  refine .bind (.mapAbort (ensureFinalizer_safe.triple ((connectorID_addFinalizer_walkStable connectorID).conj
      (annotation_addFinalizer_walkStable _ adopt)))) fun _ =>
      .bind .current fun _ => .bind (.mapAbort (?_ : Triple _ _ (fun needRequeue w =>
        needRequeue = true → connectorID = "" ∧ adopt ≠ "" ∧ w.stored.status.connectorID = adopt) _))
        fun needRequeue => .ite (fun hreq => .pure fun _ hw _ => ⟨rfl, hw hreq⟩) fun _ =>
          .bind .current fun _ => ?_
  · exact ⟨fun w ⟨⟨_, ⟨hs, _⟩, ha, _⟩, _⟩ _ _ h hreq => by
      subst hreq hs ha
      exact handleExistingConnectorAdoptionIfNeeded_true h, fun _ _ _ _ _ => True.intro⟩
  split
  exact .ite (fun _ => .pure fun _ _ h => by cases h) fun _ =>
    (reconcileWork_done vault _ _).mono (fun _ _ => trivial) (fun _ _ hr h => by rw [hr] at h; cases h)
      fun _ _ h => h

/-- The steps of `Reconcile` ask for an immediate requeue only on the live path, after adopting. -/
theorem reconcileSteps_requeues (vault : SecretStore) (deletionTimestamp : Option Nat)
    (connectorID adopt : String) :
    Triple (fun w => InSync w ∧ w.connector.metadata.deletionTimestamp = deletionTimestamp ∧
        Both (·.status.connectorID = connectorID) w ∧
        Both (getAnnotationValue · annotationAdoptExistingConnectorID = adopt) w)
      (reconcileSteps vault)
      (fun r w => r.requeue = true → r = ⟨true, 0⟩ ∧ deletionTimestamp = none ∧ connectorID = "" ∧
        adopt ≠ "" ∧ w.stored.status.connectorID = adopt)
      fun _ _ => True := by
  unfold reconcileSteps
  refine .bind .responses fun _ => .ite (fun _ => .throw fun _ _ => True.intro) fun _ => ?_
  split
  · exact .throw fun _ _ => True.intro
  refine .bind .current fun c => .ite (fun _ => .bind .top fun _ => .pure fun _ _ h => by cases h)
    fun hlive => .assume (fun w ⟨⟨_, hd, _⟩, hc⟩ => ?_) fun hnone =>
      (reconcileLive_requeues vault connectorID adopt).mono (fun _ hw => ⟨hw.1.1, hw.1.2.2⟩)
        (fun _ _ h hreq => ⟨(h hreq).1, hnone, (h hreq).2⟩) fun _ _ h => h
  rw [← hd, hc]
  simpa using hlive

/-- An invocation asks for an immediate requeue only after adopting a connector: the loaded object
was live, had no connector ID and an adoption annotation, the invocation returns no error, and
the stored status holds the adopted ID. -/
theorem invoke_requeue_adopted {vault : SecretStore} {env : Responses} {stored : FivetranConnector}
    {o : Outcome} {w : World} (hinvoke : invoke vault env stored = .ok o w)
    (hrequeue : o.result.requeue = true) :
    o = ⟨⟨true, 0⟩, none⟩ ∧ stored.metadata.deletionTimestamp = none ∧
      stored.status.connectorID = "" ∧
      getAnnotationValue stored annotationAdoptExistingConnectorID ≠ "" ∧
      w.stored.status.connectorID = getAnnotationValue stored annotationAdoptExistingConnectorID := by
  unfold invoke reconcile at hinvoke
  rcases hsteps : reconcileSteps vault (World.initial env stored) with
    ⟨r, w₁⟩ | ⟨_ | ⟨conditionType, reason, err⟩ | _, w₁⟩ <;> rw [hsteps] at hinvoke
  · cases hinvoke
    obtain ⟨rfl, h⟩ := (reconcileSteps_requeues vault _ _ _).returns (World.initial env stored)
      ⟨rfl, rfl, ⟨rfl, rfl⟩, rfl, rfl⟩ _ _ hsteps hrequeue
    exact ⟨rfl, h⟩
  · cases hinvoke
    cases hrequeue
  · obtain ⟨o', w', hx, hresult, -⟩ := handleError_reports conditionType reason err w₁
    have h : handleError conditionType reason err w₁ = .ok o w := hinvoke
    rw [hx] at h
    cases h
    rw [hresult, errorResult_requeue] at hrequeue
    cases hrequeue
  · cases hinvoke

/-- The immediate requeue of `Reconcile`: an invocation asks to be requeued at once only after it
adopted an existing connector, on a live object with no connector ID and an adoption annotation;
it then returns no error and the stored status holds the adopted ID. So the next invocation on
the stored object, whatever its secret store and answers, never asks for an immediate requeue:
adoption cannot keep the controller busy. -/
theorem invoke_requeue_after_adoption (vault : SecretStore) (env : Responses)
    (stored : FivetranConnector) (o : Outcome) (w : World) (hinvoke : invoke vault env stored = .ok o w)
    (hrequeue : o.result.requeue = true) :
    (o = ⟨⟨true, 0⟩, none⟩ ∧ stored.metadata.deletionTimestamp = none ∧
      stored.status.connectorID = "" ∧
      getAnnotationValue stored annotationAdoptExistingConnectorID ≠ "" ∧
      w.stored.status.connectorID = getAnnotationValue stored annotationAdoptExistingConnectorID) ∧
    ∀ (vault' : SecretStore) (env' : Responses) (o' : Outcome) (w' : World),
      invoke vault' env' w.stored = .ok o' w' → o'.result.requeue = false := by
  have hadopted := invoke_requeue_adopted hinvoke hrequeue
  refine ⟨hadopted, fun _ _ _ _ hnext => Bool.eq_false_iff.mpr fun hrequeue' => ?_⟩
  exact hadopted.2.2.2.1 (hadopted.2.2.2.2.symm.trans (invoke_requeue_adopted hnext hrequeue').2.2.1)

/-- An adoption requeues at once, with the adopted ID stored. -/
theorem invoke_requeue_after_adoption_adopting :
    ∃ o w, invoke emptyStore acceptingResponses adoptingResource = .ok o w ∧
      o.result.requeue = true ∧
      (o = ⟨⟨true, 0⟩, none⟩ ∧ adoptingResource.metadata.deletionTimestamp = none ∧
        adoptingResource.status.connectorID = "" ∧
        getAnnotationValue adoptingResource annotationAdoptExistingConnectorID ≠ "" ∧
        w.stored.status.connectorID =
          getAnnotationValue adoptingResource annotationAdoptExistingConnectorID) ∧
      ∀ (vault' : SecretStore) (env' : Responses) (o' : Outcome) (w' : World),
        invoke vault' env' w.stored = .ok o' w' → o'.result.requeue = false :=
  match (⟨_, rfl⟩ : ∃ w, invoke emptyStore acceptingResponses adoptingResource =
      .ok ⟨⟨true, 0⟩, none⟩ w) with
  | ⟨w, hinvoke⟩ => ⟨_, w, hinvoke, rfl,
    invoke_requeue_after_adoption _ _ _ _ _ hinvoke rfl⟩

end Requeue

end FivetranOperator
