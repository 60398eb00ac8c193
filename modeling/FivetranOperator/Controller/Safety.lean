import FivetranOperator.Controller.Frame

/-!
# Every function of the controller keeps within the guards

One `Safe` lemma per function, proved from the lemmas of the functions it calls and following
the shape of its body. Each names the set its edits are drawn from: `LiveEdit` on the way to a
successful end, `ControllerEdit` for `handleError` and `handleDeletion`, and for
`ensureFinalizer` the finalizer's addition alone. Most functions need nothing of the world they
start in. The guarded edits need what the code checks before them: `setConnectorID` is reached
only with no ID in status and with the marker empty or already the ID it writes, and only right
after a write, so that the copy is the stored object; adoption is reached only with no ID in
status; a create only with neither. `reconcile_safe` covers a whole invocation, `handleError`
included.
-/

namespace FivetranOperator

open FivetranConnector

section Benign

/-- Writing a condition touches the status conditions alone. -/
theorem benign_withCondition (condition : Condition) : Benign (·.withCondition condition) :=
  fun _ => ⟨rfl, rfl, id, rfl, rfl⟩

/-- Writing an annotation other than the marker and the connector fingerprint. -/
theorem benign_setAnnotationValue {key : String} (hkey : annotationConnectorID ≠ key)
    (hhash : annotationConnectorHash ≠ key) (value : String) :
    Benign (setAnnotationValue · key value) :=
  fun c => ⟨rfl, getAnnotationValue_setAnnotationValue_ne c value hkey, id, rfl,
    GoMap.get?_insert_ne _ _ hhash⟩

/-- Removing an annotation other than the marker and the connector fingerprint. -/
theorem benign_removeAnnotationKey {key : String} (hkey : annotationConnectorID ≠ key)
    (hhash : annotationConnectorHash ≠ key) : Benign (removeAnnotationKey · key) :=
  fun c => ⟨rfl, getAnnotationValue_removeAnnotationKey_ne c hkey, id, rfl, GoMap.get?_erase_ne _ hhash⟩

/-- Removing a label. -/
theorem benign_removeLabel (key : String) : Benign (removeLabel · key) :=
  fun c => ⟨rfl, getAnnotationValue_removeLabel c key annotationConnectorID, id, rfl, rfl⟩

/-- Adding a finalizer keeps every finalizer already there. -/
theorem benign_addFinalizer (f : String) : Benign (addFinalizer · f) := by
  intro c
  dsimp only [addFinalizer]
  split
  · exact ⟨rfl, rfl, id, rfl, rfl⟩
  · exact ⟨rfl, rfl, fun h => by simp [containsFinalizer] at h ⊢; exact .inl h, rfl, rfl⟩

end Benign

variable {E : FivetranConnector → FivetranConnector → Prop} {pre : World → Prop}

/-- `setCondition` writes one condition of its status and stores it, for any edit set that holds
such a write. -/
theorem setCondition_safe (conditionType : String) (status : ConditionStatus) (reason message : String)
    (hE : ∀ c (condition : Condition), condition.status = status → E c (c.withCondition condition)) :
    Safe E pre (setCondition conditionType status reason message) fun _ => InSync :=
  .bind .now fun _ => .bind (.benign (benign_withCondition _) fun c => hE c _ rfl) fun _ => .statusUpdate

/-- A condition written, then a result built from its error: the shape of every branch of
`handleError`. -/
theorem setCondition_then_safe {α : Type} (conditionType : String) (status : ConditionStatus)
    (reason message : String) {k : Option GoError → ReconcileM α}
    (hk : ∀ e, Safe ControllerEdit (fun _ => True) (k e) fun _ _ => True) :
    Safe ControllerEdit pre (errOf (setCondition conditionType status reason message) >>= k)
      fun _ _ => True :=
  .bind (.errOf (setCondition_safe _ _ _ _ fun c condition _ => .condition c condition)) hk

/-- `handleError` writes one condition of any status, or two for a failed setup test. -/
theorem handleError_safe (conditionType reason : String) (err : GoError) :
    Safe ControllerEdit pre (handleError conditionType reason err) fun _ _ => True := by
  have done : ∀ {q : World → Prop} (o : Outcome), Safe ControllerEdit q (pure o) fun _ _ => True :=
    fun _ => .pure fun _ _ => trivial
  unfold handleError
  by_cases h₁ : err.is .schemaMismatchAfterRetry
  · rw [if_pos h₁]; exact setCondition_then_safe _ _ _ _ fun _ => done _
  rw [if_neg h₁]
  by_cases h₂ : err.is .setupTestsFailed
  · rw [if_pos h₂]
    refine setCondition_then_safe _ _ _ _ fun e => ?_
    cases e
    · exact setCondition_then_safe _ _ _ _ fun _ => done _
    · exact done _
  rw [if_neg h₂]
  by_cases h₃ : err.is .connectorValidationFailed
  · rw [if_pos h₃]; exact setCondition_then_safe _ _ _ _ fun _ => done _
  rw [if_neg h₃]
  split
  · exact setCondition_then_safe _ _ _ _ fun _ => done _
  split
  · exact setCondition_then_safe _ _ _ _ fun _ => done _
  · exact setCondition_then_safe _ _ _ _ fun e => by cases e <;> exact done _

/-- `updateSetupTestsCondition` sets `SetupTestReady` True. -/
theorem updateSetupTestsCondition_safe (setupTestWarnings : List String) :
    Safe LiveEdit pre (updateSetupTestsCondition setupTestWarnings) fun _ => InSync := by
  unfold updateSetupTestsCondition
  refine .bind .current fun _ => ?_
  split_ifs <;> exact setCondition_safe _ _ _ _ fun c _ => .condition c

/-- `validateExistingConnector` reads the connector and edits nothing. -/
theorem validateExistingConnector_safe (fn connectorID : String) (hrec : RecordStable pre) :
    Safe E pre (validateExistingConnector fn connectorID) fun _ => pre := by
  unfold validateExistingConnector
  refine .bind (.mapAbort (.plainCall hrec (fun _ => rfl) fun _ => rfl)) fun existing =>
    .bind .current fun c => ?_
  dsimp only
  split_ifs
  · exact .throw
  · exact .throw
  · split
    · exact .pure fun _ h => h.1
    · split
      · exact .throw
      · refine .bind .liftPanic fun _ => ?_
        split_ifs
        · exact .throw
        · exact .pure fun _ h => h.1

/-- `setConnectorID` from a synced world with no ID in status and the marker empty or already
the ID it writes: the status write leaves the stored marker alone, so the marker edit after it
is still allowed. -/
theorem setConnectorID_safe (connectorID : String) :
    Safe LiveEdit (fun w => InSync w ∧ w.connector.status.connectorID = "" ∧
        (markerOf w.connector = "" ∨ markerOf w.connector = connectorID))
      (setConnectorID connectorID) fun _ => InSync := by
  let ok (m : String) : Prop := m = "" ∨ m = connectorID
  have hstatus : Safe LiveEdit
      (fun w => InSync w ∧ w.connector.status.connectorID = "" ∧ ok (markerOf w.connector))
      (modifyConnector (·.withConnectorID connectorID)) fun _ w => ok (markerOf w.stored) :=
    .modify (fun w ⟨_, hid, _⟩ => ⟨.of_finalizers (.inl hid) (.inr rfl) rfl rfl rfl, .connectorID _ _⟩)
      fun w ⟨hsync, _, hmarker⟩ => (hsync : w.connector = w.stored) ▸ hmarker
  unfold setConnectorID
  refine .bind hstatus fun _ => .bind (.statusUpdate_marker ok) fun _ => .bind (.edit ?_) fun _ => .update
  rintro w ⟨hsync, hmarker⟩
  refine ⟨.of_finalizers (.inr rfl) ?_ rfl rfl (GoMap.get?_insert_ne _ _ (by decide)), .marker _ _⟩
  rw [show w.connector = w.stored from hsync]
  rcases hmarker with h | h
  · exact .inl h
  · exact .inr ((getAnnotationValue_setAnnotationValue_self _ _ _).trans h.symm)

/-- `updateConnectorIDStatus` writes an ID into an empty status. -/
theorem updateConnectorIDStatus_safe (connectorID : String) :
    Safe LiveEdit (fun w => w.connector.status.connectorID = "") (updateConnectorIDStatus connectorID)
      fun _ => InSync :=
  .bind (.edit fun _ hid => ⟨.of_finalizers (.inl hid) (.inr rfl) rfl rfl rfl, .connectorID _ _⟩)
    fun _ => .statusUpdate

/-- Recovery from the marker, reached with no ID in status. -/
theorem handleConnectorFromAnnotation_safe (connectorID : String) :
    Safe LiveEdit
      (fun w => InSync w ∧ w.connector.status.connectorID = "" ∧ markerOf w.connector = connectorID)
      ( handleConnectorFromAnnotation connectorID) fun _ => InSync :=
  .bind (validateExistingConnector_safe _ _ fun _ _ h => h) fun _ =>
    (setConnectorID_safe connectorID).mono (fun _ ⟨hsync, hid, hmarker⟩ => ⟨hsync, hid, .inr hmarker⟩)
      fun _ _ h => h

/-- Adoption, reached with no ID in status. -/
theorem handleExistingConnectorAdoption_safe (adoptConnectorID : String) :
    Safe LiveEdit (fun w => w.connector.status.connectorID = "")
      (handleExistingConnectorAdoption adoptConnectorID) fun _ => InSync :=
  .bind (validateExistingConnector_safe _ _ fun _ _ h => h) fun _ => updateConnectorIDStatus_safe _

/-- Adoption runs only with no ID in status. -/
theorem handleExistingConnectorAdoptionIfNeeded_safe :
    Safe LiveEdit InSync handleExistingConnectorAdoptionIfNeeded fun _ => InSync := by
  unfold handleExistingConnectorAdoptionIfNeeded
  refine .bind .current fun c => ?_
  dsimp only
  split_ifs with hid
  · refine .bind ((handleExistingConnectorAdoption_safe _).mono ?_ fun _ _ h => h) fun _ =>
      .pure fun _ h => h
    rintro w ⟨-, rfl⟩
    exact hid
  · exact .pure fun _ h => h.1
  · exact .pure fun _ h => h.1

/-- `createConnector` sends the request built from the copy, paused, while no ID is known. -/
theorem createConnector_safe (resolvedConfig resolvedAuth : Option RawExtension)
    (hrec : RecordStable pre)
    (hguard : ∀ w, pre w → w.connector.status.connectorID = "" ∧ markerOf w.connector = "") :
    Safe E pre (createConnector resolvedConfig resolvedAuth) fun _ => pre :=
  .bind .current fun _ => .bind .liftExcept fun _ =>
    (Safe.createConnection (fun _ _ h => ⟨⟨hrec _ _ h.1.1, h.1.2⟩, h.2⟩) (fun w h => hguard w h.1.1)
      fun _ ⟨⟨_, hc⟩, hr⟩ => hc ▸ (toFivetranConnector_redacted_ofSpec hr).2).mono
      (fun _ h => h) fun _ _ h => h.1.1

/-- `updateConnector` sends the request built from the copy. -/
theorem updateConnector_safe (connectorID : String) (resolvedConfig resolvedAuth : Option RawExtension) :
    Safe E pre (updateConnector connectorID resolvedConfig resolvedAuth) fun _ _ => True :=
  .bind .current fun _ => .bind .liftExcept fun _ =>
    .providerCall_any fun _ ⟨⟨_, hc⟩, hr⟩ _ => ⟨fun h => (nomatch h), rfl, fun _ _ h => by
      cases h; exact hc ▸ (toFivetranConnector_redacted_ofSpec hr).1⟩

/-- The fingerprint is written from the copy it is written into. -/
theorem updateConnectorHash_safe : Safe LiveEdit pre updateConnectorHash fun _ => InSync := by
  refine .bind .current fun _ => .bind (.edit ?_) fun _ => .update
  rintro w ⟨-, rfl⟩
  refine ⟨⟨.inr rfl, .inr (getAnnotationValue_setAnnotationValue_ne _ _ (by decide)),
    fun h h' => (nomatch h.symm.trans h'), rfl, fun _ => .inr ?_⟩, .connectorHash _⟩
  rw [getAnnotationValue_setAnnotationValue_self]
  exact calculateConnectorHash_congr rfl

/-- The connector ID step: a known ID is kept, recovery needs the marker it reads, and a create
happens only when status and marker are both empty. -/
theorem reconcileConnectorID_safe (c : FivetranConnector) (resolvedConfig resolvedAuth : Option RawExtension) :
    Safe LiveEdit (fun w => InSync w ∧ w.connector = c) (reconcileConnectorID c resolvedConfig resolvedAuth)
      fun _ _ => True := by
  unfold reconcileConnectorID
  dsimp only
  split_ifs with hid hmarker
  · exact .bind (updateConnector_safe _ _ _) fun _ => .pure fun _ _ => trivial
  · refine .bind (.mapAbort ((handleConnectorFromAnnotation_safe _).mono ?_ fun _ _ h => h)) fun _ =>
      .bind (updateConnector_safe _ _ _) fun _ => .pure fun _ _ => trivial
    rintro w ⟨hsync, rfl⟩
    exact ⟨hsync, not_not.mp hid, rfl⟩
  · have hcreate : Safe LiveEdit (fun w => InSync w ∧ w.connector = c)
        (createConnector resolvedConfig resolvedAuth) fun _ w => InSync w ∧ w.connector = c := by
      refine createConnector_safe _ _ (fun _ _ h => h) ?_
      rintro w ⟨-, rfl⟩
      exact ⟨not_not.mp hid, not_not.mp hmarker⟩
    refine .bind hcreate fun _ => .bind ((setConnectorID_safe _).mono ?_ fun _ _ h => h) fun _ =>
      .pure fun _ _ => trivial
    rintro w ⟨hsync, rfl⟩
    exact ⟨hsync, not_not.mp hid, .inl (not_not.mp hmarker)⟩

/-- The connector step, then the fingerprint and `ConnectorReady`. -/
theorem reconcileConnector_safe (resolvedConfig resolvedAuth : Option RawExtension) :
    Safe LiveEdit InSync (reconcileConnector resolvedConfig resolvedAuth) fun _ => InSync :=
  .bind .current fun c => .seq (reconcileConnectorID_safe c _ _) fun _ =>
    .bind updateConnectorHash_safe fun _ => .bind (setCondition_safe _ _ _ _ fun c _ => .condition c)
      fun _ => .pure fun _ h => h

/-- The setup test step: the tests run with the spec's flags, then `SetupTestReady` is set. -/
theorem reconcileSetupTests_safe (connectorID : String) :
    Safe LiveEdit pre (reconcileSetupTests connectorID) fun _ _ => True := by
  unfold reconcileSetupTests
  refine .bind .current fun _ => ?_
  split_ifs
  · exact .bind (updateSetupTestsCondition_safe _) fun _ => .pure fun _ _ => trivial
  · refine .bind (.mapAbort (.providerCall_any fun _ _ _ => .plain rfl rfl)) fun _ => ?_
    dsimp only
    split_ifs
    · exact .throw
    · exact .bind (updateSetupTestsCondition_safe _) fun _ => .pure fun _ _ => trivial

/-- `reloadSchema` calls the provider and edits nothing. -/
theorem reloadSchema_safe (connectorID : String) :
    Safe E pre (reloadSchema connectorID) fun _ _ => True :=
  .bind .current fun _ => .bind .liftPanic fun _ => .mapAbort (.providerCall_any fun _ _ _ => .plain rfl rfl)

/-- The schema fingerprint is written from the copy it is written into. -/
theorem updateSchemaHash_safe : Safe LiveEdit pre updateSchemaHash fun _ => InSync := by
  refine .bind .current fun _ => .bind (.edit ?_) fun _ => .update
  rintro w ⟨-, rfl⟩
  exact ⟨(benign_setAnnotationValue (by decide) (by decide) _).allowedEdit w, .schemaHash _⟩

/-- `applySchema` sends the schema update, then writes the schema fingerprint. -/
theorem applySchema_safe (connectorID : String) :
    Safe LiveEdit pre (applySchema connectorID) fun _ => InSync :=
  .bind .current fun _ => .bind .liftPanic fun _ =>
    .bind (.mapAbort (.bind .liftExcept fun _ => .providerCall_any fun _ _ _ => .plain rfl rfl)) fun _ =>
      updateSchemaHash_safe

/-- `GetSchemaDetails` edits nothing. -/
theorem getSchemaDetails_safe (connectorID : String) :
    Safe E pre (getSchemaDetails connectorID) fun _ _ => True :=
  have h : Safe E (fun _ => True) (getSchemaDetails connectorID) fun _ _ => True :=
    .getSchemaDetails fun _ _ _ => trivial
  h.mono (fun _ _ => trivial) fun _ _ h => h

/-- `fetchSchemaDetails` edits nothing. -/
theorem fetchSchemaDetails_safe (pre' connectorID : String) :
    Safe E pre (fetchSchemaDetails pre' connectorID) fun _ _ => True := by
  unfold fetchSchemaDetails
  refine .bind (getSchemaDetails_safe _) fun _ => ?_
  split
  split
  · exact .throw
  · exact .pure fun _ _ => trivial

/-- The schema protocol: two fetches, a reload and an apply, the same once more on a mismatch,
then `SchemaReady` True. -/
theorem reconcileSchema_safe (connectorID : String) :
    Safe LiveEdit pre (reconcileSchema connectorID) fun _ _ => True := by
  unfold reconcileSchema
  refine .bind (getSchemaDetails_safe _) fun _ =>
    .seq ?_ fun _ => .bind (.mapAbort (applySchema_safe _)) fun _ =>
    .bind (fetchSchemaDetails_safe _ _) fun _ => .bind .current fun _ => .bind .liftPanic fun _ => ?_
  · split
    · split_ifs
      · exact .throw
      · exact .mapAbort (reloadSchema_safe _)
    · exact .pure fun _ _ => trivial
  · split
    refine .seq ?_ fun _ => (setCondition_safe _ _ _ _ fun c _ => .condition c).forget
    split_ifs
    · refine .bind (.mapAbort (reloadSchema_safe _)) fun _ =>
        .bind (.mapAbort (applySchema_safe _)) fun _ =>
        .bind (fetchSchemaDetails_safe _ _) fun _ => .bind .current fun _ =>
        .bind .liftPanic fun _ => ?_
      split
      split_ifs
      · exact .throw
      · exact .pure fun _ _ => trivial
    · exact .pure fun _ _ => trivial

/-- `ensureFinalizer` edits the copy only by adding the finalizer. -/
theorem ensureFinalizer_safe :
    Safe (fun c c' => c' = addFinalizer c fivetranFinalizer) InSync ensureFinalizer fun _ => InSync := by
  unfold ensureFinalizer
  refine .bind .current fun _ => ?_
  split_ifs
  · exact .bind (.benign (benign_addFinalizer _) fun _ => rfl) fun _ => .update
  · exact .pure fun _ h => h.1

/-- The finalizer goes only after the connector in status is deleted, or with no ID in status. -/
theorem handleDeletion_safe : Safe ControllerEdit pre handleDeletion fun _ _ => True := by
  unfold handleDeletion
  refine .bind .current fun c => ?_
  split
  · have hdelete : Safe ControllerEdit (fun w => w.connector = c) (deleteConnection c.status.connectorID)
        fun _ w => w.connector = c ∧ Event.deleteConnection c.status.connectorID true ∈ w.trace :=
      .providerCall_recorded (fun _ _ h => h) fun _ _ _ => .plain rfl rfl
    have hdeleted : Safe ControllerEdit (fun w => pre w ∧ w.connector = c)
        (if c.status.connectorID ≠ "" then deleteConnection c.status.connectorID else pure ())
        fun _ w => w.connector = c ∧
          (c.status.connectorID = "" ∨ Event.deleteConnection c.status.connectorID true ∈ w.trace) := by
      split
      · exact hdelete.mono (fun _ h => h.2) fun _ _ h => ⟨h.1, .inr h.2⟩
      · exact .pure fun _ h => ⟨h.2, .inl (not_not.mp ‹_›)⟩
    exact .bind hdeleted fun _ =>
      .bind (.edit fun w ⟨hc, hdel⟩ => ⟨⟨.inr rfl, .inr rfl, fun _ _ => hc ▸ hdel, rfl, id⟩,
        .removeFinalizer _⟩) fun _ => Safe.update.forget
  · exact .pure fun _ _ => trivial

/-- The cleanup removes the force label and the adoption annotation. -/
theorem cleanupAnnotationsAndLabels_safe : Safe LiveEdit pre cleanupAnnotationsAndLabels fun _ _ => True := by
  unfold cleanupAnnotationsAndLabels
  refine .bind .current fun _ => .seq ?_ fun _ => .bind .current fun _ => ?_
  · split_ifs
    · exact .bind (.benign (benign_removeLabel _) .removeForceLabel) fun _ => Safe.update.forget
    · exact .pure fun _ _ => trivial
  · split_ifs
    · exact .bind (.benign (benign_removeAnnotationKey (by decide) (by decide)) .removeAdoption) fun _ =>
        Safe.update.forget
    · exact .pure fun _ _ => trivial

/-- The work path: the connector and setup test steps, the schema step or its skip, and the
cleanup. -/
theorem reconcileWork_safe (vault : SecretStore) (reconcileConnectorNeeded reconcileSchemaNeeded : Bool) :
    Safe LiveEdit InSync (reconcileWork vault reconcileConnectorNeeded reconcileSchemaNeeded)
      fun _ _ => True := by
  unfold reconcileWork
  refine .bind .current fun _ => .bind (.mapAbort .liftExcept) fun docs => ?_
  split
  refine .seq ?_ fun _ => .bind .current fun _ => .seq ?_ fun _ => .seq ?_ fun _ =>
    .bind (.mapAbort cleanupAnnotationsAndLabels_safe) fun _ => .pure fun _ _ => trivial
  · split_ifs
    · exact .bind (.mapAbort ((reconcileConnector_safe _ _).mono (fun _ h => h.1.1) fun _ _ h => h))
        fun _ => .bind (.mapAbort (reconcileSetupTests_safe _)) fun _ => .pure fun _ _ => trivial
    · exact .pure fun _ _ => trivial
  · split_ifs
    · exact .mapAbort (reconcileSchema_safe _)
    · exact .mapAbort (setCondition_safe _ _ _ _ fun c _ => .condition c).forget
  · split_ifs
    · exact .mapAbort (updateConnector_safe _ _ _)
    · exact .pure fun _ _ => trivial

/-- The live path: the finalizer, adoption, the decision, then the work path. -/
theorem reconcileLive_safe (vault : SecretStore) :
    Safe LiveEdit InSync (reconcileLive vault) fun _ _ => True := by
  unfold reconcileLive
  refine .bind (.mapAbort (ensureFinalizer_safe.widen fun _ _ => LiveEdit.of_addFinalizer)) fun _ =>
    .bind .current fun _ => .bind (.mapAbort (handleExistingConnectorAdoptionIfNeeded_safe.mono
      (fun _ h => h.1) fun _ _ h => h)) fun _ => ?_
  split_ifs
  · exact .pure fun _ _ => trivial
  · refine .bind .current fun _ => ?_
    split
    split_ifs
    · exact .pure fun _ _ => trivial
    · exact (reconcileWork_safe _ _ _).mono (fun _ h => h.1) fun _ _ h => h

/-- The steps of `Reconcile`: the client checks, then deletion or the live path. -/
theorem reconcileSteps_safe (vault : SecretStore) :
    Safe ControllerEdit InSync (reconcileSteps vault) fun _ _ => True := by
  unfold reconcileSteps
  refine .bind .responses fun _ => ?_
  split_ifs
  · exact .throw
  · split
    · exact .throw
    · refine .bind .current fun _ => ?_
      split_ifs
      · exact .bind (.mapAbort handleDeletion_safe) fun _ => .pure fun _ _ => trivial
      · exact ((reconcileLive_safe vault).widen fun _ _ => .live).mono (fun _ h => h.1.1) fun _ _ h => h

/-- A whole invocation, `handleError` included, takes guarded steps only. -/
theorem reconcile_safe (vault : SecretStore) :
    Safe ControllerEdit InSync (reconcile vault) fun _ _ => True where
  steps w hsync := by
    have h := (reconcileSteps_safe vault).steps w hsync
    show Relation.ReflTransGen _ w (finalWorld (finishReconcile (reconcileSteps vault w)))
    cases hs : reconcileSteps vault w with
    | ok r w' => rw [hs] at h; exact h
    | error a w' =>
      rw [hs] at h
      cases a with
      | err e => exact h
      | failed conditionType reason e =>
        have hhandle : Safe ControllerEdit (fun _ => True) (handleError conditionType reason e)
            fun _ _ => True :=
          handleError_safe conditionType reason e
        exact h.trans (hhandle.steps w' trivial)
      | panic msg => exact h
  ok _ _ _ _ _ := trivial

end FivetranOperator
