import FivetranOperator.Controller.Footprint
import FivetranOperator.Controller.Drift
import FivetranOperator.Controller.Invocation

/-!
# Quiescence

An invocation whose steps end without an error and with the empty result leaves the resource
where the next invocation makes no call and no write, whatever it is answered, as long as the two
clients are available (`reconcileSteps_done_quiescent`). Three exits end so: the deletion path,
which has removed the finalizer; the no-op exit, which has at most added it; and the completed
work path, which has written both fingerprints from the spec, set the three conditions True, and
consumed the force label and the adoption annotation.

Two hypotheses are real preconditions. The loaded conditions have pairwise distinct types and
fail only with the types the controller writes: `setCondition` replaces the first condition of a
type, so a failed condition of another type, or a second one of a written type, outlives the work
and makes the next invocation reconcile again. And the final object has a connector ID or no
schema configuration: `hasSchemaHashChanged` reports a change whenever `status.connectorId` is
empty, so a work path that ends without an ID, such as schema work after a lost status, is
followed by more schema work.

The proof follows the steps that establish something, with two rules added to `Triple`: a
conjunction rule, and a frame rule (`Safe.triple`) by which a safe step keeps every assertion its
`Walk` steps all keep. The functions in between are covered by their `Safe` lemmas. The
work path carries one assertion between its steps, `Settling`, whose parameters record what has
been established so far.
-/

namespace FivetranOperator

open FivetranConnector

section Assertions

/-- The condition types the controller writes. -/
def conditionTypes : List String :=
  [conditionTypeConnectorReady, conditionTypeSetupTestReady, conditionTypeSchemaReady]

/-- The connector fingerprint is the fingerprint of the spec. -/
def ConnectorHashCurrent (c : FivetranConnector) : Prop :=
  getAnnotationValue c annotationConnectorHash = calculateConnectorHash c

/-- With a schema configuration, the schema fingerprint is the fingerprint of the spec. -/
def SchemaHashCurrent (c : FivetranConnector) : Prop :=
  hasSchemaConfig c = true → getAnnotationValue c annotationSchemaHash = calculateSchemaHash c

/-- The condition types are pairwise distinct, and every failed condition has a type in `T`. -/
def FailedWithin (T : String → Prop) (c : FivetranConnector) : Prop :=
  (c.status.conditions.map (·.type)).Nodup ∧
    ∀ e ∈ c.status.conditions, e.status = .conditionFalse → T e.type

/-- The force label and the adoption annotation are gone. -/
def Consumed (c : FivetranConnector) : Prop :=
  hasLabel c annotationForceReconcile = false ∧
    getAnnotationValue c annotationAdoptExistingConnectorID = ""

/-- The schema fingerprint depends on the spec alone. -/
theorem calculateSchemaHash_congr {c c' : FivetranConnector} (h : c.spec = c'.spec) :
    calculateSchemaHash c = calculateSchemaHash c' := by
  rw [calculateSchemaHash, calculateSchemaHash, h]

/-- Whether schemas are configured depends on the spec alone. -/
theorem hasSchemaConfig_congr {c c' : FivetranConnector} (h : c.spec = c'.spec) :
    hasSchemaConfig c = hasSchemaConfig c' := by
  rw [hasSchemaConfig, hasSchemaConfig, h]

/-- A current connector fingerprint depends on metadata and spec alone. -/
theorem connectorHashCurrent_congr : ∀ c c' : FivetranConnector, c.metadata = c'.metadata →
    c.spec = c'.spec → ConnectorHashCurrent c → ConnectorHashCurrent c' := by
  intro c c' hm hs h
  unfold ConnectorHashCurrent getAnnotationValue at *
  rw [← hm, ← calculateConnectorHash_congr hs]
  exact h

/-- A current schema fingerprint depends on metadata and spec alone. -/
theorem schemaHashCurrent_congr : ∀ c c' : FivetranConnector, c.metadata = c'.metadata →
    c.spec = c'.spec → SchemaHashCurrent c → SchemaHashCurrent c' := by
  intro c c' hm hs h hconfig
  unfold getAnnotationValue at *
  rw [← hm, ← calculateSchemaHash_congr hs]
  exact h (by rwa [hasSchemaConfig_congr hs])

/-- Which conditions failed depends on the status alone. -/
theorem failedWithin_congr (T : String → Prop) : ∀ c c' : FivetranConnector,
    c.status = c'.status → FailedWithin T c → FailedWithin T c' := by
  intro c c' hs h
  unfold FailedWithin at *
  rw [← hs]
  exact h

/-- The fingerprint `updateConnectorHash` writes is current. -/
theorem connectorHashCurrent_setAnnotationValue (c : FivetranConnector) :
    ConnectorHashCurrent (setAnnotationValue c annotationConnectorHash (calculateConnectorHash c)) := by
  rw [ConnectorHashCurrent, getAnnotationValue_setAnnotationValue_self]
  exact calculateConnectorHash_congr rfl

/-- The fingerprint `updateSchemaHash` writes is current. -/
theorem schemaHashCurrent_setAnnotationValue (c : FivetranConnector) :
    SchemaHashCurrent (setAnnotationValue c annotationSchemaHash (calculateSchemaHash c)) := fun _ => by
  rw [getAnnotationValue_setAnnotationValue_self]
  exact calculateSchemaHash_congr rfl

/-- Failing within fewer types is failing within more. -/
theorem FailedWithin.mono {T T' : String → Prop} {c : FivetranConnector} (h : FailedWithin T c)
    (hT : ∀ t, T t → T' t) : FailedWithin T' c :=
  ⟨h.1, fun e he hf => hT _ (h.2 e he hf)⟩

/-- A condition with status True replaces the one failed condition of its type, if any. -/
theorem failed_upsertCondition {T : String → Prop} {condition : Condition}
    (hstatus : condition.status = .conditionTrue) :
    ∀ {conditions : List Condition}, (conditions.map (·.type)).Nodup →
      (∀ e ∈ conditions, e.status = .conditionFalse → T e.type) →
      ∀ e ∈ upsertCondition conditions condition, e.status = .conditionFalse →
        T e.type ∧ e.type ≠ condition.type
  | [], _, _, e, he, hfalse => by
    rw [upsertCondition, List.mem_singleton] at he
    subst he
    rw [hstatus] at hfalse
    cases hfalse
  | x :: rest, hnodup, hfailed, e, he, hfalse => by
    rw [List.map_cons, List.nodup_cons] at hnodup
    unfold upsertCondition at he
    split at he
    · rcases List.mem_cons.mp he with rfl | he
      · rw [hstatus] at hfalse; cases hfalse
      · refine ⟨hfailed e (.tail _ he) hfalse, fun h => hnodup.1 ?_⟩
        rw [‹x.type = condition.type›, ← h]
        exact List.mem_map_of_mem _ he
    · rcases List.mem_cons.mp he with rfl | he
      · exact ⟨hfailed e (.head _) hfalse, ‹_›⟩
      · exact failed_upsertCondition hstatus hnodup.2 (fun e he => hfailed e (.tail _ he)) e he hfalse

/-- Writing a condition with status True takes its type off the failed ones. -/
theorem FailedWithin.withCondition {T : String → Prop} {c : FivetranConnector} (h : FailedWithin T c)
    {condition : Condition} (hstatus : condition.status = .conditionTrue) :
    FailedWithin (fun t => T t ∧ t ≠ condition.type) (c.withCondition condition) :=
  ⟨nodup_upsertCondition h.1 condition, failed_upsertCondition hstatus h.1 h.2⟩

/-- No failed condition at all. -/
theorem FailedWithin.hasFailedConditions_eq_false {c : FivetranConnector} (h : FailedWithin (fun _ => False) c) :
    hasFailedConditions c = false := by
  rw [hasFailedConditions, List.any_eq_false]
  intro e he hfalse
  exact h.2 e he (by simpa using hfalse)

end Assertions

section LiveEdits

variable {c c' : FivetranConnector}

/-- A live edit keeps the finalizer. -/
theorem LiveEdit.containsFinalizer (h : LiveEdit c c') (hc : containsFinalizer c fivetranFinalizer = true) :
    containsFinalizer c' fivetranFinalizer = true := by
  cases h with
  | addFinalizer => exact containsFinalizer_addFinalizer _ _
  | _ => exact hc

/-- The connector fingerprint stays current while its annotation and the spec stay. -/
theorem ConnectorHashCurrent.of_annotation (hc : ConnectorHashCurrent c) (hspec : c'.spec = c.spec)
    (hvalue : getAnnotationValue c' annotationConnectorHash =
      getAnnotationValue c annotationConnectorHash) : ConnectorHashCurrent c' := by
  unfold ConnectorHashCurrent at *
  rw [hvalue, calculateConnectorHash_congr hspec]
  exact hc

/-- A live edit keeps the connector fingerprint current. -/
theorem LiveEdit.connectorHashCurrent (h : LiveEdit c c') (hc : ConnectorHashCurrent c) :
    ConnectorHashCurrent c' := by
  have hspec := h.footprint.spec
  cases h with
  | connectorHash => exact connectorHashCurrent_setAnnotationValue _
  | marker | schemaHash =>
    exact hc.of_annotation hspec (getAnnotationValue_setAnnotationValue_ne _ _ (by decide))
  | removeAdoption =>
    exact hc.of_annotation hspec (getAnnotationValue_removeAnnotationKey_ne _ (by decide))
  | addFinalizer =>
    unfold FivetranConnector.addFinalizer
    split
    · exact hc
    · exact connectorHashCurrent_congr _ _ rfl rfl hc
  | _ => exact hc

/-- A live edit keeps the schema fingerprint current. -/
theorem LiveEdit.schemaHashCurrent (h : LiveEdit c c') (hc : SchemaHashCurrent c) :
    SchemaHashCurrent c' := by
  have hspec := h.footprint.spec
  intro hconfig
  have hc := hc (by rwa [hasSchemaConfig_congr hspec] at hconfig)
  rw [calculateSchemaHash_congr hspec]
  cases h with
  | schemaHash => exact getAnnotationValue_setAnnotationValue_self _ _ _
  | marker | connectorHash => rw [getAnnotationValue_setAnnotationValue_ne _ _ (by decide)]; exact hc
  | removeAdoption => rw [getAnnotationValue_removeAnnotationKey_ne _ (by decide)]; exact hc
  | addFinalizer =>
    unfold FivetranConnector.addFinalizer
    split <;> exact hc
  | _ => exact hc

/-- A live edit fails no condition. -/
theorem LiveEdit.failedWithin {T : String → Prop} (h : LiveEdit c c') (hc : FailedWithin T c) :
    FailedWithin T c' := by
  cases h with
  | condition hstatus => exact (hc.withCondition hstatus).mono fun _ h => h.1
  | addFinalizer =>
    unfold FivetranConnector.addFinalizer
    split <;> exact hc
  | _ => exact hc

end LiveEdits

section Stable

variable {E : FivetranConnector → FivetranConnector → Prop}

/-- A write-stable property of the copy and the stored object that every edit of `E` keeps. -/
theorem Both.walkStable {P : FivetranConnector → Prop} (hP : WriteStable P)
    (hedit : ∀ c c', E c c' → P c → P c') : WalkStable E (Both P) := by
  intro w w' h hw
  cases h with
  | edit he => exact ⟨hedit _ _ he hw.1, hw.2⟩
  | update => exact hw.update hP
  | statusUpdate => exact hw.statusUpdate hP
  | call _ => exact hw

/-- Two predicates every `Walk` step keeps are kept together. -/
theorem WalkStable.conj {P Q : World → Prop} (hP : WalkStable E P) (hQ : WalkStable E Q) :
    WalkStable E fun w => P w ∧ Q w :=
  fun w w' h hw => ⟨hP w w' h hw.1, hQ w w' h hw.2⟩

/-- On a synced world, a property of the copy is one of the stored object. -/
theorem Both.of_inSync {P : FivetranConnector → Prop} {w : World} (hsync : InSync w)
    (h : P w.connector) : Both P w :=
  ⟨h, (show w.connector = w.stored from hsync) ▸ h⟩

/-- A step without edits keeps the copy equal to the stored object. -/
theorem inSync_walkStable : WalkStable (fun _ _ => False) InSync := by
  intro w w' h hw
  cases h with
  | edit he => exact he.elim
  | update => rcases update_cases w with h | h <;> rw [h]; exacts [rfl, hw]
  | statusUpdate => rcases statusUpdate_cases w with h | h <;> rw [h]; exacts [rfl, hw]
  | call _ => exact hw

/-- Live steps keep the object live. -/
theorem live_walkStable : WalkStable LiveEdit (Both (·.metadata.deletionTimestamp = none)) :=
  Both.walkStable (.inr fun c c' hm _ (h : c.metadata.deletionTimestamp = none) =>
    show c'.metadata.deletionTimestamp = none by rw [← hm]; exact h)
    fun _ _ he h => he.footprint.deletionTimestamp.trans h

/-- Live steps keep the finalizer. -/
theorem finalizer_walkStable : WalkStable LiveEdit (Both (containsFinalizer · fivetranFinalizer = true)) :=
  Both.walkStable (.inr fun c c' hm _ (h : containsFinalizer c fivetranFinalizer = true) =>
    show containsFinalizer c' fivetranFinalizer = true by
      unfold FivetranConnector.containsFinalizer at *; rw [← hm]; exact h)
    fun _ _ he => he.containsFinalizer

/-- Live steps fail no condition. -/
theorem failedWithin_walkStable (T : String → Prop) : WalkStable LiveEdit (Both (FailedWithin T)) :=
  Both.walkStable (.inl (failedWithin_congr T)) fun _ _ he => he.failedWithin

/-- Live steps keep the connector fingerprint current. -/
theorem connectorHash_walkStable : WalkStable LiveEdit (Both ConnectorHashCurrent) :=
  Both.walkStable (.inr connectorHashCurrent_congr) fun _ _ he => he.connectorHashCurrent

/-- Live steps keep the schema fingerprint current. -/
theorem schemaHash_walkStable : WalkStable LiveEdit (Both SchemaHashCurrent) :=
  Both.walkStable (.inr schemaHashCurrent_congr) fun _ _ he => he.schemaHashCurrent

end Stable

/-- The work path's state between its steps: the object is not being deleted and holds the
finalizer, every failed condition has a type in `T`, the connector fingerprint is current once
`hashed` holds and the schema fingerprint once `schemaHashed` holds; each of the copy and of the
stored object alike. -/
structure Settling (T : String → Prop) (hashed schemaHashed : Prop) (w : World) : Prop where
  live : Both (·.metadata.deletionTimestamp = none) w
  finalizer : Both (containsFinalizer · fivetranFinalizer = true) w
  failed : Both (FailedWithin T) w
  connectorHash : hashed → Both ConnectorHashCurrent w
  schemaHash : schemaHashed → Both SchemaHashCurrent w

/-- Settling with fewer failed types and fewer fingerprints known. -/
theorem Settling.mono {T T' : String → Prop} {h h' s s' : Prop} {w : World} (hw : Settling T h s w)
    (hT : ∀ t, T t → T' t) (hh : h' → h) (hs : s' → s) : Settling T' h' s' w :=
  ⟨hw.live, hw.finalizer, ⟨hw.failed.1.mono hT, hw.failed.2.mono hT⟩, fun p => hw.connectorHash (hh p),
    fun p => hw.schemaHash (hs p)⟩

/-- Live steps keep the settling assertion. -/
theorem settling_walkStable (T : String → Prop) (hashed schemaHashed : Prop) :
    WalkStable LiveEdit (Settling T hashed schemaHashed) :=
  fun w w' h hw => ⟨live_walkStable w w' h hw.live, finalizer_walkStable w w' h hw.finalizer,
    failedWithin_walkStable T w w' h hw.failed, fun p => connectorHash_walkStable w w' h (hw.connectorHash p),
    fun p => schemaHash_walkStable w w' h (hw.schemaHash p)⟩

section Rules

namespace Triple

variable {α : Type} {x : ReconcileM α} {pre : World → Prop} {abort : Abort → World → Prop}

/-- The triple that promises nothing. -/
theorem top : Triple pre x (fun _ _ => True) fun _ _ => True :=
  ⟨fun _ _ _ _ _ => True.intro, fun _ _ _ _ _ => True.intro⟩

/-- The conjunction rule. -/
theorem and {P Q : World → Prop} {post post' : α → World → Prop}
    (h : Triple P x post fun _ _ => True) (h' : Triple Q x post' fun _ _ => True) :
    Triple (fun w => P w ∧ Q w) x (fun a w => post a w ∧ post' a w) fun _ _ => True :=
  ⟨fun w hw a w' hx => ⟨h.returns w hw.1 a w' hx, h'.returns w hw.2 a w' hx⟩,
    fun _ _ _ _ _ => True.intro⟩

/-- A branch, each arm under its condition. -/
theorem ite {p : Prop} [Decidable p] {y z : ReconcileM α} {post : α → World → Prop}
    (hy : p → Triple pre y post abort) (hz : ¬p → Triple pre z post abort) :
    Triple pre (if p then y else z) post abort := by
  split
  exacts [hy ‹_›, hz ‹_›]

/-- The answers are read as they stand. -/
theorem responses : Triple pre FivetranOperator.responses (fun _ => pre) abort :=
  ⟨fun w hw _ _ hx => by cases hx; exact hw, fun _ _ _ _ hx => by cases hx⟩

end Triple

/-- The frame rule: a safe step keeps every assertion its `Walk` steps all keep. -/
theorem Safe.triple {E : FivetranConnector → FivetranConnector → Prop} {α : Type} {pre : World → Prop}
    {x : ReconcileM α} {post : α → World → Prop} {P : World → Prop} (hx : Safe E pre x post)
    (hP : WalkStable E P) :
    Triple (fun w => pre w ∧ P w) x (fun a w => post a w ∧ P w) fun _ _ => True :=
  ⟨fun w hw a w' h => ⟨hx.ok w hw.1 a w' h, by have := hP.walks (hx.walks w hw.1) hw.2; rwa [h] at this⟩,
    fun _ _ _ _ _ => True.intro⟩

/-- The frame rule for a step safe from every world. -/
theorem Safe.frame {E : FivetranConnector → FivetranConnector → Prop} {α : Type} {x : ReconcileM α}
    {post : α → World → Prop} {P : World → Prop} (hx : Safe E (fun _ => True) x post)
    (hP : WalkStable E P) : Triple P x (fun _ => P) fun _ _ => True :=
  (hx.triple hP).mono (fun _ hw => ⟨trivial, hw⟩) (fun _ _ h => h.2) fun _ _ h => h

/-- An `Update` that returns was accepted. -/
theorem update_ok {w w' : World} {u : Unit} (h : update w = .ok u w') : w' = w.afterUpdate := by
  unfold update at h
  split at h <;> cases h
  rfl

/-- A `Status().Update` that returns was accepted. -/
theorem statusUpdate_ok {w w' : World} {u : Unit} (h : statusUpdate w = .ok u w') :
    w' = w.afterStatusUpdate := by
  unfold statusUpdate at h
  split at h <;> cases h
  rfl

/-- An edit and an accepted `Update`: what the edit made of the copy, read off its metadata and
spec, holds of the copy and of the stored object, which agree. -/
theorem Triple.editUpdate {pre : World → Prop} {f : FivetranConnector → FivetranConnector}
    {P : FivetranConnector → Prop}
    (hP : ∀ c c', c.metadata = c'.metadata → c.spec = c'.spec → P c → P c')
    (hf : ∀ w, pre w → P (f w.connector)) :
    Triple pre (FivetranOperator.modifyConnector f >>= fun _ => FivetranOperator.update)
      (fun _ w => InSync w ∧ Both P w)
      fun _ _ => True :=
  ⟨fun w hw _ _ h => by
    rw [bind_apply, modifyConnector_apply, andThen_ok] at h
    rw [update_ok h]
    have hs := hP (f w.connector) ({ w with connector := f w.connector }.afterUpdate.stored) rfl rfl
      (hf w hw)
    exact ⟨rfl, hs, hs⟩, fun _ _ _ _ _ => True.intro⟩

/-- An edit and an accepted `Status().Update`: what the edit made of the copy, read off its
status, holds of the copy and of the stored object, which agree. -/
theorem Triple.editStatusUpdate {pre : World → Prop} {f : FivetranConnector → FivetranConnector}
    {P : FivetranConnector → Prop} (hP : ∀ c c', c.status = c'.status → P c → P c')
    (hf : ∀ w, pre w → P (f w.connector)) :
    Triple pre (FivetranOperator.modifyConnector f >>= fun _ => FivetranOperator.statusUpdate)
      (fun _ w => InSync w ∧ Both P w)
      fun _ _ => True :=
  ⟨fun w hw _ _ h => by
    rw [bind_apply, modifyConnector_apply, andThen_ok] at h
    rw [statusUpdate_ok h]
    have hs := hP (f w.connector) ({ w with connector := f w.connector }.afterStatusUpdate.stored) rfl
      (hf w hw)
    exact ⟨rfl, hs, hs⟩, fun _ _ _ _ _ => True.intro⟩

end Rules

section Steps

variable (T : String → Prop) (hashed schemaHashed : Prop)

/-- `setCondition` with status True takes its type off the failed ones. -/
theorem setCondition_settles (conditionType reason message : String) :
    Triple (Settling T hashed schemaHashed) (setCondition conditionType .conditionTrue reason message)
      (fun _ w => InSync w ∧ Settling (fun t => T t ∧ t ≠ conditionType) hashed schemaHashed w)
      fun _ _ => True := by
  have hfailed : Triple (Settling T hashed schemaHashed)
      (setCondition conditionType .conditionTrue reason message)
      (fun _ w => InSync w ∧ Both (FailedWithin fun t => T t ∧ t ≠ conditionType) w) fun _ _ => True :=
    .bind .now fun _ => .editStatusUpdate (failedWithin_congr _) fun _ hw => hw.failed.1.withCondition rfl
  refine ((Safe.frame (setCondition_safe _ _ _ _ fun c _ => .condition c) (settling_walkStable T hashed schemaHashed)).and
    hfailed).mono (fun _ hw => ⟨hw, hw⟩) ?_ fun _ _ h => h
  rintro _ _ ⟨hw, hsync, hfailed⟩
  exact ⟨hsync, { hw with failed := hfailed }⟩

/-- `updateConnectorHash` makes the connector fingerprint current. -/
theorem updateConnectorHash_settles :
    Triple (Settling T hashed schemaHashed) updateConnectorHash
      (fun _ w => InSync w ∧ Settling T True schemaHashed w) fun _ _ => True := by
  have hhash : Triple (Settling T hashed schemaHashed) updateConnectorHash
      (fun _ w => InSync w ∧ Both ConnectorHashCurrent w) fun _ _ => True :=
    .bind .current fun c => .editUpdate connectorHashCurrent_congr fun w hw => by
      rw [hw.2]; exact connectorHashCurrent_setAnnotationValue c
  refine ((Safe.frame updateConnectorHash_safe (settling_walkStable T hashed schemaHashed)).and
    hhash).mono (fun _ hw => ⟨hw, hw⟩) ?_ fun _ _ h => h
  rintro _ _ ⟨hw, hsync, hhash⟩
  exact ⟨hsync, { hw with connectorHash := fun _ => hhash }⟩

/-- `applySchema` returns only once `updateSchemaHash` has made the schema fingerprint current. -/
theorem applySchema_settles (connectorID : String) :
    Triple (Settling T hashed schemaHashed) (applySchema connectorID)
      (fun _ w => InSync w ∧ Settling T hashed True w) fun _ _ => True := by
  have hhash : Triple (Settling T hashed schemaHashed) (applySchema connectorID)
      (fun _ w => InSync w ∧ Both SchemaHashCurrent w) fun _ _ => True :=
    .bind .top fun _ => .bind .top fun _ => .bind .top fun _ =>
      .bind .current fun c => .editUpdate schemaHashCurrent_congr fun w hw => by
        rw [hw.2]; exact schemaHashCurrent_setAnnotationValue c
  refine ((Safe.frame (applySchema_safe _) (settling_walkStable T hashed schemaHashed)).and
    hhash).mono (fun _ hw => ⟨hw, hw⟩) ?_ fun _ _ h => h
  rintro _ _ ⟨hw, hsync, hhash⟩
  exact ⟨hsync, { hw with schemaHash := fun _ => hhash }⟩

/-- The connector step makes the connector fingerprint current and `ConnectorReady` True. -/
theorem reconcileConnector_settles (resolvedConfig resolvedAuth : Option RawExtension) :
    Triple (fun w => InSync w ∧ Settling T hashed schemaHashed w)
      (reconcileConnector resolvedConfig resolvedAuth)
      (fun _ w => InSync w ∧
        Settling (fun t => T t ∧ t ≠ conditionTypeConnectorReady) True schemaHashed w)
      fun _ _ => True := by
  unfold reconcileConnector
  refine .bind .current fun c => .bind (((reconcileConnectorID_safe c _ _).triple
    (settling_walkStable T hashed schemaHashed)).weaken fun _ ⟨⟨hsync, hw⟩, hc⟩ => ⟨⟨hsync, hc⟩, hw⟩)
      fun _ => .bind ((updateConnectorHash_settles T hashed schemaHashed).weaken fun _ hw => hw.2) fun _ =>
        .bind ((setCondition_settles T True schemaHashed _ _ _).weaken fun _ hw => hw.2) fun _ =>
          .pure fun _ hw => hw

/-- `updateSetupTestsCondition` takes `SetupTestReady` off the failed types. -/
theorem updateSetupTestsCondition_settles (setupTestWarnings : List String) :
    Triple (Settling T hashed schemaHashed) (updateSetupTestsCondition setupTestWarnings)
      (fun _ w => InSync w ∧
        Settling (fun t => T t ∧ t ≠ conditionTypeSetupTestReady) hashed schemaHashed w)
      fun _ _ => True :=
  .bind (Safe.frame .current (settling_walkStable T hashed schemaHashed)) fun _ =>
    .ite (fun _ => setCondition_settles T hashed schemaHashed _ _ _)
      fun _ => .ite (fun _ => setCondition_settles T hashed schemaHashed _ _ _)
        fun _ => setCondition_settles T hashed schemaHashed _ _ _

/-- The setup test step returns only with `SetupTestReady` True. -/
theorem reconcileSetupTests_settles (connectorID : String) :
    Triple (Settling T hashed schemaHashed) (reconcileSetupTests connectorID)
      (fun _ w => InSync w ∧
        Settling (fun t => T t ∧ t ≠ conditionTypeSetupTestReady) hashed schemaHashed w)
      fun _ _ => True := by
  have hP := settling_walkStable T hashed schemaHashed
  unfold reconcileSetupTests
  refine .bind (Safe.frame .current hP) fun _ =>
    .ite (fun _ => .bind (updateSetupTestsCondition_settles T hashed schemaHashed _) fun _ =>
      .pure fun _ hw => hw) fun _ =>
    .bind (Safe.frame (.mapAbort (.providerCall_any fun _ _ _ => .plain rfl rfl)) hP) fun _ =>
      .ite (fun _ => .throw fun _ _ => True.intro) fun _ =>
        .bind (updateSetupTestsCondition_settles T hashed schemaHashed _) fun _ => .pure fun _ hw => hw

/-- The schema step returns only with the schema fingerprint current and `SchemaReady` True. -/
theorem reconcileSchema_settles (connectorID : String) :
    Triple (Settling T hashed schemaHashed) (reconcileSchema connectorID)
      (fun _ w => InSync w ∧ Settling (fun t => T t ∧ t ≠ conditionTypeSchemaReady) hashed True w)
      fun _ _ => True := by
  have hP := settling_walkStable T hashed schemaHashed
  have hP' := settling_walkStable T hashed True
  unfold reconcileSchema
  refine .bind (Safe.frame (getSchemaDetails_safe _) hP) fun _ =>
    .bind (Safe.frame (?_ : Safe _ _ _ fun _ _ => True) hP) fun _ =>
    .bind (.mapAbort (applySchema_settles T hashed schemaHashed _)) fun _ =>
      .bind ((Safe.frame (fetchSchemaDetails_safe _ _) hP').weaken fun _ hw => hw.2) fun _ =>
        .bind (Safe.frame .current hP') fun _ => .bind (Safe.frame .liftPanic hP') fun _ => ?_
  · split
    · exact .ite (fun _ => .throw) fun _ => .mapAbort (reloadSchema_safe _)
    · exact .pure fun _ _ => trivial
  · split
    refine .bind (Safe.frame (.ite (fun _ => ?_) fun _ => .pure fun _ _ => trivial :
      Safe _ _ _ fun _ _ => True) hP') fun _ =>
      setCondition_settles T hashed True _ _ _
    refine .bind (.mapAbort (reloadSchema_safe _)) fun _ => .bind (.mapAbort (applySchema_safe _))
      fun _ => .bind (fetchSchemaDetails_safe _ _) fun _ => .bind .current fun _ =>
        .bind .liftPanic fun _ => ?_
    split
    exact .ite (fun _ => .throw) fun _ => .pure fun _ _ => trivial

end Steps

section Metadata

/-- A guarded edit and `Update`, as `ensureFinalizer` and `cleanupAnnotationsAndLabels` make
them: `P` holds of the copy and of the stored object afterwards when the edit makes it hold and
the copy, synced, already held it wherever the guard skips the edit. -/
theorem Triple.guardedEditUpdate {pre : World → Prop} {b : Bool}
    {f : FivetranConnector → FivetranConnector} {P : FivetranConnector → Prop}
    (hP : ∀ c c', c.metadata = c'.metadata → c.spec = c'.spec → P c → P c')
    (hf : ∀ w, pre w → P (f w.connector)) (hskip : b = false → ∀ w, pre w → InSync w ∧ P w.connector) :
    Triple pre (if b then FivetranOperator.modifyConnector f >>= fun _ => FivetranOperator.update
      else Pure.pure ()) (fun _ w => InSync w ∧ Both P w) fun _ _ => True :=
  .ite (fun _ => .editUpdate hP hf) fun hb => .pure fun w hw => by
    obtain ⟨hsync, hc⟩ := hskip (by simpa using hb) w hw
    exact ⟨hsync, hc, (show w.connector = w.stored from hsync) ▸ hc⟩

/-- The finalizer test depends on the metadata alone. -/
theorem containsFinalizer_congr : ∀ c c' : FivetranConnector, c.metadata = c'.metadata →
    c.spec = c'.spec → containsFinalizer c fivetranFinalizer = containsFinalizer c' fivetranFinalizer := by
  intro c c' hm _
  unfold FivetranConnector.containsFinalizer
  rw [hm]

/-- `ensureFinalizer` returns only with the finalizer in place. -/
theorem ensureFinalizer_adds :
    Triple InSync ensureFinalizer
      (fun _ w => InSync w ∧ Both (containsFinalizer · fivetranFinalizer = true) w) fun _ _ => True := by
  unfold ensureFinalizer
  refine .bind .current fun c => .guardedEditUpdate
    (fun c c' hm hs h => (containsFinalizer_congr c c' hm hs).symm.trans h)
    (fun _ _ => containsFinalizer_addFinalizer _ _) ?_
  rintro hb w ⟨hsync, rfl⟩
  exact ⟨hsync, by simpa using hb⟩

/-- `handleDeletion` returns only with the finalizer gone. -/
theorem handleDeletion_removes :
    Triple InSync handleDeletion
      (fun _ w => Both (containsFinalizer · fivetranFinalizer = false) w) fun _ _ => True := by
  unfold handleDeletion
  refine .bind .current fun _ => .ite (fun _ => .bind .top fun _ =>
    (Triple.editUpdate (fun c c' hm hs h => (containsFinalizer_congr c c' hm hs).symm.trans h) ?_).mono
      (fun _ _ => True.intro) (fun _ _ h => h.2) fun _ _ h => h) fun hc => .pure ?_
  · exact fun _ _ => containsFinalizer_removeFinalizer _ _
  rintro w ⟨hsync, rfl⟩
  have hc : containsFinalizer w.connector fivetranFinalizer = false := by simpa using hc
  exact ⟨hc, (show w.connector = w.stored from hsync) ▸ hc⟩

/-- A consumed force label and adoption annotation depend on the metadata alone. -/
theorem consumed_congr : ∀ c c' : FivetranConnector, c.metadata = c'.metadata → c.spec = c'.spec →
    Consumed c → Consumed c' := by
  intro c c' hm _ h
  unfold Consumed FivetranConnector.hasLabel getAnnotationValue at *
  rwa [← hm]

/-- `cleanupAnnotationsAndLabels` returns only with the force label and the adoption annotation
gone. -/
theorem cleanupAnnotationsAndLabels_consumes :
    Triple InSync cleanupAnnotationsAndLabels (fun _ w => InSync w ∧ Both Consumed w)
      fun _ _ => True := by
  have hlabel : ∀ c c' : FivetranConnector, c.metadata = c'.metadata → c.spec = c'.spec →
      hasLabel c annotationForceReconcile = false → hasLabel c' annotationForceReconcile = false := by
    intro c c' hm _ h
    unfold FivetranConnector.hasLabel at *
    rwa [← hm]
  unfold cleanupAnnotationsAndLabels
  refine .bind .current fun c => .bind (.guardedEditUpdate hlabel ?_ ?_) fun _ =>
    .bind .current fun c' => .guardedEditUpdate consumed_congr ?_ ?_
  · intro w _
    simp [FivetranConnector.hasLabel, FivetranConnector.removeLabel, GoMap.get?_erase_self]
  · rintro hb w ⟨hsync, rfl⟩
    exact ⟨hsync, hb⟩
  · rintro w ⟨⟨_, hlabel, _⟩, _⟩
    exact ⟨hlabel, by simp [getAnnotationValue, FivetranConnector.removeAnnotationKey, GoMap.get?_erase_self]⟩
  · rintro hb w ⟨⟨hsync, hlabel, _⟩, rfl⟩
    have hnone : w.connector.metadata.annotations.get? annotationAdoptExistingConnectorID = none := by
      simpa [FivetranConnector.hasAnnotationKey] using hb
    exact ⟨hsync, hlabel, by rw [getAnnotationValue, hnone]; rfl⟩

end Metadata

section Decision

/-- No connector work: no force, no failed condition, and the connector fingerprint current. -/
theorem determineReconciliationNeeds_fst_eq_false {c : FivetranConnector} {force : Bool}
    (h : (determineReconciliationNeeds c force).1 = false) :
    hasFailedConditions c = false ∧ ConnectorHashCurrent c := by
  unfold determineReconciliationNeeds at h
  split at h
  · cases h
  · rename_i hforce
    simp only [Bool.or_eq_true, not_or, Bool.not_eq_true] at hforce
    dsimp only at h
    rw [hasConnectorHashChanged, bne_eq_false_iff_eq] at h
    exact ⟨hforce.2, h.symm⟩

/-- No schema work: the schema fingerprint is current wherever a configuration is declared. -/
theorem determineReconciliationNeeds_snd_eq_false {c : FivetranConnector} {force : Bool}
    (h : (determineReconciliationNeeds c force).2 = false) : SchemaHashCurrent c := by
  intro hconfig
  unfold determineReconciliationNeeds at h
  split at h
  · rw [hconfig] at h; cases h
  · dsimp only at h
    rw [hasSchemaHashChanged, hconfig, if_neg (by decide)] at h
    split at h
    · cases h
    · rw [bne_eq_false_iff_eq] at h
      exact h.symm

/-- Without failed conditions, every bound on the failed types holds. -/
theorem FailedWithin.of_hasFailedConditions {T T' : String → Prop} {c : FivetranConnector}
    (h : FailedWithin T c) (hfailed : hasFailedConditions c = false) : FailedWithin T' c :=
  ⟨h.1, fun e he hf => by
    rw [hasFailedConditions, List.any_eq_false] at hfailed
    exact absurd (by simp [hf]) (hfailed e he)⟩

/-- Adoption skipped: the world is as it was, with an ID in status or no adoption annotation. -/
theorem handleExistingConnectorAdoptionIfNeeded_false {w w' : World}
    (h : handleExistingConnectorAdoptionIfNeeded w = .ok false w') :
    w' = w ∧ (w.connector.status.connectorID ≠ "" ∨
      getAnnotationValue w.connector annotationAdoptExistingConnectorID = "") := by
  unfold handleExistingConnectorAdoptionIfNeeded at h
  rw [bind_apply, current_apply, andThen_ok] at h
  by_cases hid : w.connector.status.connectorID = ""
  · rw [if_pos hid] at h
    by_cases hadopt : getAnnotationValue w.connector annotationAdoptExistingConnectorID = ""
    · rw [if_neg (not_not.mpr hadopt)] at h
      cases h
      exact ⟨rfl, .inr hadopt⟩
    · rw [if_pos hadopt, bind_apply] at h
      rcases hx : handleExistingConnectorAdoption _ w with ⟨_, _⟩ | ⟨_, _⟩ <;> rw [hx] at h <;> cases h
  · rw [if_neg hid] at h
    cases h
    exact ⟨rfl, .inl hid⟩

/-- Adoption that does not requeue changed nothing and leaves an ID or no adoption annotation. -/
theorem handleExistingConnectorAdoptionIfNeeded_skips {P : World → Prop} :
    Triple P handleExistingConnectorAdoptionIfNeeded
      (fun needRequeue w => needRequeue = false → P w ∧ (w.connector.status.connectorID ≠ "" ∨
        getAnnotationValue w.connector annotationAdoptExistingConnectorID = ""))
      fun _ _ => True :=
  ⟨fun w hw _ _ h hb => by
    subst hb
    obtain ⟨rfl, hskip⟩ := handleExistingConnectorAdoptionIfNeeded_false h
    exact ⟨hw, hskip⟩, fun _ _ _ _ _ => True.intro⟩

end Decision

section Work

/-- `updateConnector` leaves every settled fact as it found it. -/
theorem updateConnector_keeps (connectorID : String) (resolvedConfig resolvedAuth : Option RawExtension)
    (T : String → Prop) (hashed schemaHashed : Prop) :
    Triple (fun w => InSync w ∧ Settling T hashed schemaHashed w)
      (updateConnector connectorID resolvedConfig resolvedAuth)
      (fun _ w => InSync w ∧ Settling T hashed schemaHashed w) fun _ _ => True :=
  (Safe.frame (updateConnector_safe _ _ _) inSync_walkStable).and
    (Safe.frame (updateConnector_safe _ _ _) (settling_walkStable T hashed schemaHashed))

/-- The schema step or its skip: either way `SchemaReady` is True and the schema fingerprint
current, given it was current unless the schema was to be reconciled. -/
theorem reconcileSchemaOrSkip_settles (connectorID : String) (schemaNeeded : Bool) (c : FivetranConnector)
    (T : String → Prop) :
    Triple (fun w => (InSync w ∧ Settling T True (schemaNeeded = false) w) ∧ w.connector = c)
      (if (schemaNeeded && hasSchemaConfig c) = true then
        failAs conditionTypeSchemaReady schemaReasonReconciliationFailed (reconcileSchema connectorID)
      else failAs conditionTypeSchemaReady schemaReasonSkipped
        (setCondition conditionTypeSchemaReady .conditionTrue schemaReasonSkipped msgSchemaSkipped))
      (fun _ w => InSync w ∧ Settling (fun t => T t ∧ t ≠ conditionTypeSchemaReady) True True w)
      fun _ _ => True := by
  refine .ite (fun _ => .mapAbort ((reconcileSchema_settles T True _ _).weaken fun _ hw => hw.1.2))
    fun hskip => .mapAbort ((setCondition_settles T True True _ _ _).weaken ?_)
  rintro w ⟨⟨hsync, hw⟩, rfl⟩
  refine { hw with schemaHash := fun _ => ?_ }
  cases hs : schemaNeeded
  · exact hw.schemaHash hs
  · have hconfig : hasSchemaConfig w.connector = false := by simpa [hs] using hskip
    exact Both.of_inSync hsync fun h => absurd (hconfig ▸ h) (by decide)

/-- The work path: from `T` the failed types it may meet, and each fingerprint current unless
its part is reconciled, it returns only with both fingerprints current, the force label and
the adoption annotation consumed, and every type it set True off the failed ones. -/
theorem reconcileWork_settles (vault : SecretStore) (connectorNeeded schemaNeeded : Bool)
    (T : String → Prop) :
    Triple (fun w => InSync w ∧ Settling T (connectorNeeded = false) (schemaNeeded = false) w)
      (reconcileWork vault connectorNeeded schemaNeeded)
      (fun _ w => InSync w ∧ Both Consumed w ∧ Settling (fun t => (T t ∧ (connectorNeeded = true →
        t ≠ conditionTypeConnectorReady ∧ t ≠ conditionTypeSetupTestReady)) ∧
          t ≠ conditionTypeSchemaReady) True True w)
      fun _ _ => True := by
  unfold reconcileWork
  refine .bind .current fun c => .bind (.mapAbort (.liftExcept fun _ _ _ _ => True.intro)) fun docs => ?_
  split
  refine .bind (?_ : Triple _ _ (fun _ w => InSync w ∧ Settling (fun t => T t ∧ (connectorNeeded = true →
    t ≠ conditionTypeConnectorReady ∧ t ≠ conditionTypeSetupTestReady)) True (schemaNeeded = false) w) _)
    fun connectorID => .bind .current fun c' => .bind (reconcileSchemaOrSkip_settles connectorID _ c' _)
      fun _ => .bind (.ite (fun _ => .mapAbort (updateConnector_keeps _ _ _ _ _ _))
        fun _ => .pure fun _ hw => hw) fun _ => .bind (.mapAbort
          ((cleanupAnnotationsAndLabels_consumes.and (Safe.frame cleanupAnnotationsAndLabels_safe
            (settling_walkStable _ True True))).weaken fun _ hw => ⟨hw.1, hw.2⟩)) fun _ =>
          .pure fun _ hw => ⟨hw.1.1, hw.1.2, hw.2⟩
  refine .ite (fun _ => .bind (.mapAbort ((reconcileConnector_settles T _ _ _ _).weaken
    fun _ hw => hw.1.1)) fun _ => .bind (.mapAbort ((reconcileSetupTests_settles _ True _ _).weaken
      fun _ hw => hw.2)) fun _ => .pure ?_) fun hskip => .pure ?_
  · rintro w ⟨hsync, hw⟩
    exact ⟨hsync, hw.mono (fun t ht => ⟨ht.1.1, fun _ => ⟨ht.1.2, ht.2⟩⟩) id id⟩
  · rintro w ⟨⟨⟨hsync, hw⟩, _⟩, _⟩
    exact ⟨hsync, hw.mono (fun t ht => ⟨ht, fun h => absurd h hskip⟩)
      (fun _ => by simpa using hskip) id⟩

end Work

section Quiescent

/-- An object on which `Reconcile` has nothing to do: being deleted with the finalizer gone, or
live with the finalizer, nothing to adopt and the no-op decision. -/
def Quiet (c : FivetranConnector) : Prop :=
  (c.metadata.deletionTimestamp.isSome = true ∧ containsFinalizer c fivetranFinalizer = false) ∨
  (c.metadata.deletionTimestamp = none ∧ containsFinalizer c fivetranFinalizer = true ∧
    (c.status.connectorID ≠ "" ∨ getAnnotationValue c annotationAdoptExistingConnectorID = "") ∧
    determineReconciliationNeeds c (hasLabel c annotationForceReconcile) = (false, false))

/-- A live object the work path has finished: finalizer in place, force label and adoption
annotation consumed, both fingerprints current and no failed condition. -/
structure Settled (c : FivetranConnector) : Prop where
  live : c.metadata.deletionTimestamp = none
  finalizer : containsFinalizer c fivetranFinalizer = true
  consumed : Consumed c
  connectorHash : ConnectorHashCurrent c
  schemaHash : SchemaHashCurrent c
  failed : FailedWithin (fun _ => False) c

/-- A settled object is quiet once it has a connector ID or no schema configuration: without an
ID the schema fingerprint is never taken as current. -/
theorem Settled.quiet {c : FivetranConnector} (h : Settled c)
    (hid : c.status.connectorID ≠ "" ∨ hasSchemaConfig c = false) : Quiet c := by
  have hschema : hasSchemaHashChanged c = false := by
    unfold hasSchemaHashChanged
    cases hconfig : hasSchemaConfig c
    · rfl
    · have hid : c.status.connectorID ≠ "" := hid.resolve_right (by simp [hconfig])
      rw [if_neg (by decide), if_neg hid, h.schemaHash hconfig, bne_self_eq_false]
  refine .inr ⟨h.live, h.finalizer, .inr h.consumed.2, ?_⟩
  rw [h.consumed.1]
  exact determineReconciliationNeeds_noop c h.failed.hasFailedConditions_eq_false h.connectorHash hschema

/-- A quiet object: with the clients available, an invocation ends with the empty result, no
call made and the object untouched. -/
theorem Quiet.invoke {c : FivetranConnector} (h : Quiet c) (vault : SecretStore) (env : Responses)
    (hclient : env.fivetranClient = true) (hvault : env.vaultClient = none) :
    FivetranOperator.invoke vault env c = .ok ⟨.done, none⟩ (World.initial env c) := by
  rcases h with ⟨hdeleting, hfinalizer⟩ | ⟨hlive, hfinalizer, hskip, hneeds⟩
  · simp [FivetranOperator.invoke, reconcile, reconcileSteps, handleDeletion, finishReconcile, failAs,
      hclient, hvault, hdeleting, hfinalizer, -bind_pure_comp]
  · exact invoke_noop vault env c hclient hvault hlive hfinalizer hskip hneeds

end Quiescent

section Live

/-- The decision sets up the work path's assertion: a type may have failed only if the connector
is reconciled, and each fingerprint is current unless its part is reconciled. -/
theorem Settling.of_decision {w : World} (hsync : InSync w)
    (hs : Settling (· ∈ conditionTypes) False False w) {force connectorNeeded schemaNeeded : Bool}
    (hneeds : determineReconciliationNeeds w.connector force = (connectorNeeded, schemaNeeded)) :
    Settling (fun t => connectorNeeded = true ∧ t ∈ conditionTypes) (connectorNeeded = false)
      (schemaNeeded = false) w := by
  have hfst : connectorNeeded = false →
      hasFailedConditions w.connector = false ∧ ConnectorHashCurrent w.connector :=
    fun h => determineReconciliationNeeds_fst_eq_false ((congrArg Prod.fst hneeds).trans h)
  have hsnd : schemaNeeded = false → SchemaHashCurrent w.connector :=
    fun h => determineReconciliationNeeds_snd_eq_false ((congrArg Prod.snd hneeds).trans h)
  refine { hs with
    failed := ?_
    connectorHash := fun h => Both.of_inSync hsync (hfst h).2
    schemaHash := fun h => Both.of_inSync hsync (hsnd h) }
  by_cases hcn : connectorNeeded = true
  · exact ⟨hs.failed.1.mono fun _ ht => ⟨hcn, ht⟩, hs.failed.2.mono fun _ ht => ⟨hcn, ht⟩⟩
  · exact Both.of_inSync hsync (hs.failed.1.of_hasFailedConditions (hfst (by simpa using hcn)).1)

/-- The work path writes off each of the three types it may meet, so it ends settled. -/
theorem Settling.settled {connectorNeeded : Bool} {w : World} (hconsumed : Both Consumed w)
    (hs : Settling (fun t => ((connectorNeeded = true ∧ t ∈ conditionTypes) ∧
      (connectorNeeded = true → t ≠ conditionTypeConnectorReady ∧ t ≠ conditionTypeSetupTestReady)) ∧
        t ≠ conditionTypeSchemaReady) True True w) : Settled w.stored := by
  refine ⟨hs.live.2, hs.finalizer.2, hconsumed.2, (hs.connectorHash trivial).2,
    (hs.schemaHash trivial).2, hs.failed.2.mono ?_⟩
  rintro t ⟨⟨⟨hcn, ht⟩, hoff⟩, hschema⟩
  obtain ⟨hconnector, hsetup⟩ := hoff hcn
  simp only [conditionTypes, List.mem_cons, List.mem_singleton, List.not_mem_nil, or_false] at ht
  rcases ht with rfl | rfl | rfl <;> contradiction

/-- The live path returns the empty result only on a quiet or a settled object. -/
theorem reconcileLive_settles (vault : SecretStore) :
    Triple (fun w => InSync w ∧ Both (·.metadata.deletionTimestamp = none) w ∧
        Both (FailedWithin (· ∈ conditionTypes)) w)
      (reconcileLive vault) (fun r w => r = .done → Quiet w.stored ∨ Settled w.stored)
      fun _ _ => True := by
  unfold reconcileLive
  refine .bind (?_ : Triple _ _ (fun _ w => InSync w ∧ Settling (· ∈ conditionTypes) False False w) _)
    fun _ => .bind .current fun c => .bind (.mapAbort handleExistingConnectorAdoptionIfNeeded_skips)
      fun needRequeue => .ite (fun _ => .pure fun _ _ h => by cases h) fun hreq =>
        .bind .current fun c' => ?_
  · refine .mapAbort ((ensureFinalizer_adds.and ((ensureFinalizer_safe.widen fun _ _ =>
      LiveEdit.of_addFinalizer).triple (live_walkStable.conj (failedWithin_walkStable _)))).mono
        (fun _ hw => ⟨hw.1, hw.1, hw.2⟩) ?_ fun _ _ h => h)
    rintro _ w ⟨⟨hsync, hfinalizer⟩, -, hlive, hfailed⟩
    exact ⟨hsync, hlive, hfinalizer, hfailed, False.elim, False.elim⟩
  split
  next connectorNeeded schemaNeeded hneeds =>
  refine .ite (fun hnone => .pure ?_) fun _ =>
    (reconcileWork_settles vault _ _ fun t => connectorNeeded = true ∧ t ∈ conditionTypes).mono
      ?_ ?_ fun _ _ h => h
  · rintro w ⟨hw, rfl⟩ -
    obtain ⟨⟨⟨hsync, hs⟩, rfl⟩, hskip⟩ := hw (by simpa using hreq)
    obtain ⟨rfl, rfl⟩ : connectorNeeded = false ∧ schemaNeeded = false := by simpa using hnone
    rw [← show w.connector = w.stored from hsync]
    exact .inl (.inr ⟨hs.live.1, hs.finalizer.1, hskip, hneeds⟩)
  · rintro w ⟨hw, rfl⟩
    obtain ⟨⟨⟨hsync, hs⟩, rfl⟩, -⟩ := hw (by simpa using hreq)
    exact ⟨hsync, hs.of_decision hsync hneeds⟩
  · rintro _ w ⟨-, hconsumed, hs⟩ -
    exact .inr (hs.settled hconsumed)

/-- The invocation body returns the empty result only on a quiet or a settled object. -/
theorem reconcileSteps_settles (vault : SecretStore) :
    Triple (fun w => InSync w ∧ Both (FailedWithin (· ∈ conditionTypes)) w) (reconcileSteps vault)
      (fun r w => r = .done → Quiet w.stored ∨ Settled w.stored) fun _ _ => True := by
  have hdeleting : WalkStable ControllerEdit (Both (·.metadata.deletionTimestamp.isSome = true)) :=
    Both.walkStable (.inr fun _ _ hm _ h => by simpa only [← hm]) fun _ _ he h => by
      rwa [he.footprint.deletionTimestamp]
  unfold reconcileSteps
  refine .bind .responses fun _ => .ite (fun _ => .throw fun _ _ => True.intro) fun _ => ?_
  split
  · exact .throw fun _ _ => True.intro
  refine .bind .current fun c => .ite (fun hdel => .bind (.mapAbort
    ((handleDeletion_removes.and (Safe.frame handleDeletion_safe hdeleting)).weaken ?_)) fun _ =>
      .pure fun _ hw _ => .inl (.inl ⟨hw.2.2, hw.1.2⟩)) fun hlive => (reconcileLive_settles vault).weaken ?_
  · rintro w ⟨⟨hsync, -⟩, rfl⟩
    exact ⟨hsync, Both.of_inSync hsync hdel⟩
  · rintro w ⟨⟨hsync, hfailed⟩, rfl⟩
    exact ⟨hsync, Both.of_inSync hsync (by simpa using hlive), hfailed⟩

end Live

/-- The steps ending with the empty result leave a quiet object, from loaded conditions of
distinct types that fail only with the types the controller writes, once the object has a
connector ID or no schema configuration. -/
theorem reconcileSteps_done_quiet {vault : SecretStore} {env : Responses} {stored : FivetranConnector}
    {w : World} (hconditions : FailedWithin (· ∈ conditionTypes) stored)
    (hrun : reconcileSteps vault (World.initial env stored) = .ok .done w)
    (hid : w.stored.status.connectorID ≠ "" ∨ hasSchemaConfig w.stored = false) : Quiet w.stored := by
  have hsync : InSync (World.initial env stored) := rfl
  rcases (reconcileSteps_settles vault).returns _ ⟨hsync, hconditions, hconditions⟩ _ _ hrun rfl with
    hquiet | hsettled
  · exact hquiet
  · exact hsettled.quiet hid

/-- Quiescence: a `Reconcile` whose steps end with the empty result, from an object whose
conditions have distinct types and fail only with the types the controller writes, leaves a
stored object on which the next invocation, with the clients available, makes no call and leaves
the object as it is, provided that object has a connector ID or no schema configuration. An error
that `handleError` turns into the empty result is not covered: it leaves a False condition. -/
theorem reconcileSteps_done_quiescent (vault : SecretStore) (env : Responses)
    (stored : FivetranConnector) (w : World) (hconditions : FailedWithin (· ∈ conditionTypes) stored)
    (hrun : reconcileSteps vault (World.initial env stored) = .ok .done w)
    (hid : w.stored.status.connectorID ≠ "" ∨ hasSchemaConfig w.stored = false)
    (vault' : SecretStore) (env' : Responses)
    (hclient : env'.fivetranClient = true) (hvault : env'.vaultClient = none) :
    invoke vault' env' w.stored = .ok ⟨.done, none⟩ (World.initial env' w.stored) :=
  (reconcileSteps_done_quiet hconditions hrun hid).invoke vault' env' hclient hvault

/-- The world after the forced create of `exampleResource`. -/
def forcedCreateWorld : World :=
  finalWorld (reconcileSteps emptyStore
    (World.initial acceptingResponses (exampleResource forceLabel GoMap.empty [])))

/-- A resource as a user creates it has no condition at all. -/
theorem exampleResource_failedWithin (T : String → Prop) (labels annotations : GoMap String)
    (finalizers : List String) : FailedWithin T (exampleResource labels annotations finalizers) :=
  ⟨List.nodup_nil, fun _ h => by cases h⟩

/-- A forced reconcile of a new resource under accepting answers returns the empty result. -/
theorem reconcileSteps_forcedCreate :
    reconcileSteps emptyStore (World.initial acceptingResponses
      (exampleResource forceLabel GoMap.empty [])) = .ok .done forcedCreateWorld := rfl

/-- A forced create: quiescent afterwards. -/
theorem reconcileSteps_done_quiescent_created :
    FailedWithin (· ∈ conditionTypes) (exampleResource forceLabel GoMap.empty []) ∧
    reconcileSteps emptyStore (World.initial acceptingResponses
      (exampleResource forceLabel GoMap.empty [])) = .ok .done forcedCreateWorld ∧
    (forcedCreateWorld.stored.status.connectorID ≠ "" ∨
      hasSchemaConfig forcedCreateWorld.stored = false) ∧
    invoke emptyStore acceptingResponses forcedCreateWorld.stored =
      .ok ⟨.done, none⟩ (World.initial acceptingResponses forcedCreateWorld.stored) :=
  have hid : forcedCreateWorld.stored.status.connectorID ≠ "" ∨
      hasSchemaConfig forcedCreateWorld.stored = false := .inr rfl
  ⟨exampleResource_failedWithin _ _ _ _, reconcileSteps_forcedCreate, hid,
    reconcileSteps_done_quiescent _ _ _ _ (exampleResource_failedWithin _ _ _ _)
      reconcileSteps_forcedCreate hid _ _ rfl rfl⟩

section Runs

/-- A `Reconcile` move under which both clients are available. -/
def Move.clientsAvailable : Move → Bool
  | .reconcile _ env => env.fivetranClient && env.vaultClient.isNone
  | _ => false

/-- A quiet object is left as it is by a move with both clients available, which makes no call. -/
theorem Quiet.applyMove {c : FivetranConnector} (h : Quiet c) {m : Move}
    (hm : m.clientsAvailable = true) : applyMove c m = (c, []) := by
  cases m with
  | reconcile vault env =>
    simp only [Move.clientsAvailable, Bool.and_eq_true, Option.isNone_iff_eq_none] at hm
    simp only [FivetranOperator.applyMove, h.invoke vault env hm.1 hm.2, finalWorld_ok]
    rfl
  | clearStatus | requestDeletion => cases hm

/-- A quiet object is a fixed point of every run of moves with both clients available. -/
theorem Quiet.runMoves {c : FivetranConnector} (h : Quiet c) (moves : List Move)
    (hmoves : ∀ m ∈ moves, m.clientsAvailable = true) :
    FivetranOperator.runMoves c moves = (c, moves.map fun _ => []) := by
  induction moves with
  | nil => rfl
  | cons m rest ih =>
    simp only [FivetranOperator.runMoves, h.applyMove (hmoves m (.head _)),
      ih fun m hm => hmoves m (.tail _ hm), List.map_cons]

/-- Stability: after `Reconcile` steps that end with the empty result, under the preconditions
of `reconcileSteps_done_quiescent`, every later run of invocations with both clients available
leaves the stored object as it is and makes no call. -/
theorem runMoves_after_done_unchanged (vault : SecretStore) (env : Responses)
    (stored : FivetranConnector) (w : World) (hconditions : FailedWithin (· ∈ conditionTypes) stored)
    (hrun : reconcileSteps vault (World.initial env stored) = .ok .done w)
    (hid : w.stored.status.connectorID ≠ "" ∨ hasSchemaConfig w.stored = false)
    (moves : List Move) (hmoves : ∀ m ∈ moves, m.clientsAvailable = true) :
    runMoves w.stored moves = (w.stored, moves.map fun _ => []) :=
  (reconcileSteps_done_quiet hconditions hrun hid).runMoves moves hmoves

/-- A forced create: every later move of a run leaves the object as it is. -/
theorem runMoves_after_done_unchanged_created :
    FailedWithin (· ∈ conditionTypes) (exampleResource forceLabel GoMap.empty []) ∧
    reconcileSteps emptyStore (World.initial acceptingResponses
      (exampleResource forceLabel GoMap.empty [])) = .ok .done forcedCreateWorld ∧
    (forcedCreateWorld.stored.status.connectorID ≠ "" ∨
      hasSchemaConfig forcedCreateWorld.stored = false) ∧
    (∀ m ∈ [Move.reconcile emptyStore acceptingResponses, .reconcile emptyStore acceptingResponses],
      m.clientsAvailable = true) ∧
    runMoves forcedCreateWorld.stored
        [.reconcile emptyStore acceptingResponses, .reconcile emptyStore acceptingResponses] =
      (forcedCreateWorld.stored, [[], []]) :=
  have hid : forcedCreateWorld.stored.status.connectorID ≠ "" ∨
      hasSchemaConfig forcedCreateWorld.stored = false := .inr rfl
  have hmoves : ∀ m ∈ [Move.reconcile emptyStore acceptingResponses,
      .reconcile emptyStore acceptingResponses], m.clientsAvailable = true := by decide
  ⟨exampleResource_failedWithin _ _ _ _, reconcileSteps_forcedCreate, hid, hmoves,
    runMoves_after_done_unchanged _ _ _ _ (exampleResource_failedWithin _ _ _ _)
      reconcileSteps_forcedCreate hid _ hmoves⟩

end Runs

end FivetranOperator
