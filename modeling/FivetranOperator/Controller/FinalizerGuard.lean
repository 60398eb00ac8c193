import FivetranOperator.Controller.Quiescence
import FivetranOperator.Controller.Reporting

/-!
# The finalizer guards every provider call

`Reconcile` adds the finalizer before anything else on a live resource, and on a resource being
deleted it calls `DeleteConnection` only while the finalizer is still there. So every call an
invocation makes to the provider, whatever the answers, is made while the object the API server
holds carries the finalizer (`invoke_calls_guarded`). The object the API server holds at a call
is the loaded object with the accepted writes before the call replayed (`Event.storedAfter`).
Without the guard, a connector could be created for a resource whose deletion then skips
`handleDeletion` and leaves the connector behind.

The proof carries `Guarded`, which says the trace replays to the stored object and each of its
calls met the finalizer. Writes keep it, and so does a call made while the finalizer is stored.
The live path establishes the finalizer first and keeps it under `LiveEdit`. The deletion path
calls while it holds. `handleError` only writes conditions.
-/

namespace FivetranOperator

open FivetranConnector

section Calls

/-- Every provider call of `calls`, replayed from `stored`, meets the finalizer on the object the
API server holds. -/
def callsGuarded : FivetranConnector → List Event → Bool
  | _, [] => true
  | stored, e :: rest =>
    (e.isWrite || containsFinalizer stored fivetranFinalizer) &&
      callsGuarded (e.storedAfter stored) rest

/-- The guard over a trace splits with the trace, the second part from the object the first leaves.
-/
theorem callsGuarded_append (stored : FivetranConnector) (calls rest : List Event) :
    callsGuarded stored (calls ++ rest) =
      (callsGuarded stored calls && callsGuarded (calls.foldl Event.storedAfter stored) rest) := by
  induction calls generalizing stored with
  | nil => simp [callsGuarded]
  | cons e calls ih => simp [callsGuarded, ih, Bool.and_assoc]

/-- Read at a position: a provider call there meets the finalizer on the calls before it,
replayed. -/
theorem callsGuarded_get? {stored : FivetranConnector} {calls : List Event}
    (h : callsGuarded stored calls = true) {i : Nat} {e : Event} (he : calls.get? i = some e)
    (hcall : e.isWrite = false) :
    containsFinalizer ((calls.take i).foldl Event.storedAfter stored) fivetranFinalizer = true := by
  induction calls generalizing stored i with
  | nil => cases he
  | cons e' rest ih =>
    simp only [callsGuarded, Bool.and_eq_true, Bool.or_eq_true] at h
    cases i with
    | zero =>
      cases he
      exact h.1.resolve_left (by rw [hcall]; decide)
    | succ i => exact ih h.2 he

end Calls

section Invariant

/-- The trace replays, from the loaded object, to the stored one, and each of its calls met the
finalizer. -/
structure Guarded (stored : FivetranConnector) (w : World) : Prop where
  replay : w.trace.foldl Event.storedAfter stored = w.stored
  calls : callsGuarded stored w.trace = true

variable {stored : FivetranConnector} {w : World}

/-- A recorded call keeps the guard when the finalizer is stored while it is no write. -/
theorem Guarded.record (h : Guarded stored w) {w' : World} {e : Event}
    (htrace : w'.trace = w.trace ++ [e]) (hstored : w'.stored = e.storedAfter w.stored)
    (hcall : e.isWrite = false → containsFinalizer w.stored fivetranFinalizer = true) :
    Guarded stored w' := by
  refine ⟨by rw [htrace, List.foldl_append, h.replay, hstored]; rfl, ?_⟩
  rw [htrace, callsGuarded_append, h.calls, h.replay]
  cases hw : e.isWrite
  · simp [callsGuarded, hcall hw]
  · simp [callsGuarded, hw]

/-- An edit of the copy keeps the guard. -/
theorem Guarded.edit (h : Guarded stored w) (c : FivetranConnector) :
    Guarded stored { w with connector := c } :=
  ⟨h.replay, h.calls⟩

/-- An accepted `Update` keeps the guard. -/
theorem Guarded.afterUpdate (h : Guarded stored w) : Guarded stored w.afterUpdate :=
  h.record rfl rfl fun h => by cases h

/-- An accepted `Status().Update` keeps the guard. -/
theorem Guarded.afterStatusUpdate (h : Guarded stored w) : Guarded stored w.afterStatusUpdate :=
  h.record rfl rfl fun h => by cases h

/-- A call, or a rejected write, made while the finalizer is stored. -/
theorem Guarded.recordCall (h : Guarded stored w) {e : Event} (he : e.isAcceptedWrite = false)
    (hfinalizer : containsFinalizer w.stored fivetranFinalizer = true) :
    Guarded stored (w.record e) :=
  h.record rfl (Event.storedAfter_of_not_accepted he _).symm fun _ => hfinalizer

/-- An `Update`, accepted or not, keeps the guard. -/
theorem Guarded.update (h : Guarded stored w) : Guarded stored (finalWorld (update w)) := by
  rcases update_cases w with hw | hw <;> rw [hw]
  · exact h.afterUpdate
  · exact h.record rfl rfl fun h => by cases h

/-- A `Status().Update`, accepted or not, keeps the guard. -/
theorem Guarded.statusUpdate (h : Guarded stored w) :
    Guarded stored (finalWorld (statusUpdate w)) := by
  rcases statusUpdate_cases w with hw | hw <;> rw [hw]
  · exact h.afterStatusUpdate
  · exact h.record rfl rfl fun h => by cases h

/-- With the finalizer in the copy and in the stored object, `LiveEdit` steps keep both and every
call they make meets it. -/
theorem guarded_walkStable (stored : FivetranConnector) :
    WalkStable LiveEdit fun w =>
      Both (containsFinalizer · fivetranFinalizer = true) w ∧ Guarded stored w :=
  finalizer_walkStable.and (fun _ c _ _ h => h.edit c) (fun _ _ h => h.afterUpdate)
    (fun _ _ h => h.afterStatusUpdate) fun _ _ he hfinalizer h => h.recordCall he.notAccepted hfinalizer.2

end Invariant

section Rules

/-- What holds of the world an action ends in holds on return and on abort. -/
theorem Triple.ofFinal {α : Type} {pre P : World → Prop} {x : ReconcileM α}
    (h : ∀ w, pre w → P (finalWorld (x w))) : Triple pre x (fun _ => P) fun _ => P :=
  ⟨fun w hw _ _ hx => by have := h w hw; rwa [hx, finalWorld_ok] at this,
    fun w hw _ _ hx => by have := h w hw; rwa [hx, finalWorld_error] at this⟩

/-- A safe `LiveEdit` action keeps the finalizer and the guard, and leaves the guard on abort. -/
theorem Safe.guards {α : Type} {pre : World → Prop} {x : ReconcileM α} {post : α → World → Prop}
    (hx : Safe LiveEdit pre x post) (stored : FivetranConnector) :
    Triple (fun w => pre w ∧ Both (containsFinalizer · fivetranFinalizer = true) w ∧ Guarded stored w) x
      (fun a w => post a w ∧ Both (containsFinalizer · fivetranFinalizer = true) w ∧ Guarded stored w)
      fun _ => Guarded stored :=
  have hfinal : Triple (fun w => pre w ∧ Both (containsFinalizer · fivetranFinalizer = true) w ∧
      Guarded stored w) x
      (fun _ w => Both (containsFinalizer · fivetranFinalizer = true) w ∧ Guarded stored w)
      fun _ w => Both (containsFinalizer · fivetranFinalizer = true) w ∧ Guarded stored w :=
    .ofFinal fun w hw => (guarded_walkStable stored).walks (hx.walks w hw.1) hw.2
  ⟨fun w hw a w' h => ⟨hx.ok w hw.1 a w' h, hfinal.returns w hw a w' h⟩,
    fun w hw e w' h => (hfinal.aborts w hw e w' h).2⟩

end Rules

section Steps

variable (stored : FivetranConnector)

/-- `ensureFinalizer` returns with the finalizer in place, and makes no call. -/
theorem ensureFinalizer_guarded :
    Triple (fun w => InSync w ∧ Guarded stored w) ensureFinalizer
      (fun _ w => InSync w ∧ Both (containsFinalizer · fivetranFinalizer = true) w ∧ Guarded stored w)
      fun _ => Guarded stored := by
  have hguarded : Triple (fun w => InSync w ∧ Guarded stored w) ensureFinalizer
      (fun _ => Guarded stored) fun _ => Guarded stored := .ofFinal fun w ⟨_, hg⟩ => by
    unfold ensureFinalizer
    rw [bind_apply, current_apply, andThen_ok]
    by_cases hc : containsFinalizer w.connector fivetranFinalizer = true
    · rw [if_neg (by simp [hc])]
      exact hg
    · rw [if_pos (by simpa using hc), bind_apply, modifyConnector_apply, andThen_ok]
      exact Guarded.update (hg.edit _)
  exact ⟨fun w hw a w' hx => ⟨(ensureFinalizer_adds.returns w hw.1 a w' hx).1,
    (ensureFinalizer_adds.returns w hw.1 a w' hx).2, hguarded.returns w hw a w' hx⟩, hguarded.aborts⟩

/-- `handleDeletion` calls `DeleteConnection` only while the finalizer is stored. -/
theorem handleDeletion_guarded :
    Triple (fun w => InSync w ∧ Guarded stored w) handleDeletion (fun _ => Guarded stored)
      fun _ => Guarded stored := by
  unfold handleDeletion
  refine .bind .current fun c => .ite (fun hc => .bind (?_ : Triple _ _ (fun _ => Guarded stored) _)
    fun _ => .bind .modifyConnector fun _ => .ofFinal ?_) fun _ => .pure fun _ hw => hw.1.2
  · have hcall : ∀ w, (InSync w ∧ Guarded stored w) ∧ w.connector = c → ∀ e : Event,
        e.isAcceptedWrite = false → Guarded stored (w.record e) := by
      rintro w ⟨⟨hsync, hg⟩, rfl⟩ e he
      exact hg.recordCall he (hsync ▸ hc)
    exact .ite (fun _ => (Triple.providerCall fun w hw _ _ =>
      hcall w hw (.deleteConnection _ false) rfl).mono (fun _ h => h)
        (fun _ _ ⟨w, hw, h⟩ => h ▸ hcall w hw (.deleteConnection _ true) rfl) fun _ _ h => h)
      fun _ => .pure fun _ hw => hw.1.2
  · rintro _ ⟨w, hg, rfl⟩
    exact Guarded.update (hg.edit _)

/-- The live path: the finalizer first, then every call under it. -/
theorem reconcileLive_guarded (vault : SecretStore) :
    Triple (fun w => InSync w ∧ Guarded stored w) (reconcileLive vault) (fun _ => Guarded stored)
      fun _ => Guarded stored := by
  unfold reconcileLive
  refine .bind (.mapAbort (ensureFinalizer_guarded stored)) fun _ =>
    .bind ((Safe.current (E := LiveEdit)).guards stored) fun _ =>
      .bind (.mapAbort ((handleExistingConnectorAdoptionIfNeeded_safe.guards stored).weaken
        fun _ hw => ⟨hw.1.1, hw.2⟩)) fun _ =>
        .ite (fun _ => .pure fun _ hw => hw.2.2) fun _ =>
          .bind ((Safe.current (E := LiveEdit)).guards stored) fun _ => ?_
  split
  exact .ite (fun _ => .pure fun _ hw => hw.2.2) fun _ =>
    (((reconcileWork_safe _ _ _).guards stored).weaken fun _ hw => ⟨hw.1.1, hw.2⟩).mono (fun _ h => h)
      (fun _ _ h => h.2.2) fun _ _ h => h

/-- The steps of `Reconcile` keep the guard. -/
theorem reconcileSteps_guarded (vault : SecretStore) :
    Triple (fun w => InSync w ∧ Guarded stored w) (reconcileSteps vault) (fun _ => Guarded stored)
      fun _ => Guarded stored := by
  unfold reconcileSteps
  refine .bind .responses fun _ => .ite (fun _ => .throw fun _ hw => hw.2) fun _ => ?_
  split
  · exact .throw fun _ hw => hw.2
  · exact .bind .current fun _ => .ite
      (fun _ => .bind (.mapAbort ((handleDeletion_guarded stored).weaken fun _ hw => hw.1))
        fun _ => .pure fun _ hw => hw)
      fun _ => (reconcileLive_guarded stored vault).weaken fun _ hw => hw.1

/-- A whole invocation, `handleError` included, keeps the guard. -/
theorem invokeWorld_guarded (vault : SecretStore) (env : Responses) :
    Guarded stored (invokeWorld vault env stored) := by
  have hinit : InSync (World.initial env stored) ∧ Guarded stored (World.initial env stored) :=
    ⟨rfl, rfl, rfl⟩
  have hsteps := reconcileSteps_guarded stored vault
  show Guarded stored (finalWorld (finishReconcile (reconcileSteps vault (World.initial env stored))))
  rcases hx : reconcileSteps vault (World.initial env stored) with ⟨_, w⟩ | ⟨e, w⟩
  · exact hsteps.returns _ hinit _ _ hx
  · have hw := hsteps.aborts _ hinit _ _ hx
    cases e with
    | failed conditionType reason err =>
      exact handleError_keeps (fun _ c h => Guarded.statusUpdate (h.edit c)) conditionType reason err hw
    | err _ | panic _ => exact hw

end Steps

/-- The finalizer guards every provider call: in every invocation, whatever the answers, each
call to the provider (create, read, update, delete, setup tests, schema) is made while the object
the API server holds, the loaded object with the accepted writes before the call replayed,
carries the finalizer. -/
theorem invoke_calls_guarded (vault : SecretStore) (env : Responses) (stored : FivetranConnector)
    (i : Nat) (e : Event) (hcall : (invokeWorld vault env stored).trace.get? i = some e)
    (hprovider : e.isWrite = false) :
    containsFinalizer (((invokeWorld vault env stored).trace.take i).foldl Event.storedAfter stored)
      fivetranFinalizer = true :=
  callsGuarded_get? (invokeWorld_guarded stored vault env).calls hcall hprovider

/-- A forced reconcile of a new resource: the create is its second call, made with the finalizer
stored. -/
theorem invoke_calls_guarded_create :
    (invokeWorld emptyStore acceptingResponses (exampleResource forceLabel GoMap.empty [])).trace.get? 1 =
        some (.createConnection (.ofSpec (exampleResource forceLabel GoMap.empty []) true) (some "c1")) ∧
      (Event.createConnection (.ofSpec (exampleResource forceLabel GoMap.empty []) true)
        (some "c1")).isWrite = false ∧
      containsFinalizer (((invokeWorld emptyStore acceptingResponses
        (exampleResource forceLabel GoMap.empty [])).trace.take 1).foldl Event.storedAfter
          (exampleResource forceLabel GoMap.empty [])) fivetranFinalizer = true :=
  have hcall : (invokeWorld emptyStore acceptingResponses
      (exampleResource forceLabel GoMap.empty [])).trace.get? 1 =
      some (.createConnection (.ofSpec (exampleResource forceLabel GoMap.empty []) true) (some "c1")) :=
    rfl
  ⟨hcall, rfl, invoke_calls_guarded _ _ _ _ _ hcall rfl⟩

end FivetranOperator
