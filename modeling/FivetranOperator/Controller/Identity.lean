import FivetranOperator.Controller.Invariants
import FivetranOperator.Controller.Invocation

/-!
# The connector's identity over a run

What the guards of `Allowed` give over whole runs. Within one invocation the connector ID in
status and the recovery marker, once set, stay what they are in the copy and in the stored object
alike; no `CreateConnection` is made while either is set; and the finalizer leaves the stored
object only once the connector in status has been deleted. Each is a predicate that every allowed
step keeps, so by `reconcile_safe` every invocation keeps it, and by induction on the moves every
run.

Neither guard reaches a connector whose ID was never stored. A create whose status write is lost,
with the failure condition after it, leaves nothing behind, and the next invocation creates again.
A connector whose status was lost while its marker survives is not deleted: `handleDeletion`
reads status alone.
-/

namespace FivetranOperator

open FivetranConnector

section Identity

/-- The connector ID in status, once known, is `s`. -/
def HasID (s : String) (c : FivetranConnector) : Prop := s = "" ∨ c.status.connectorID = s

/-- The marker, once set, is `m`. -/
def HasMarker (m : String) (c : FivetranConnector) : Prop := m = "" ∨ markerOf c = m

/-- The finalizer is in place. -/
def HasFinalizer (c : FivetranConnector) : Prop := containsFinalizer c fivetranFinalizer = true

instance (s : String) (c : FivetranConnector) : Decidable (HasID s c) :=
  inferInstanceAs (Decidable (_ ∨ _))

instance (m : String) (c : FivetranConnector) : Decidable (HasMarker m c) :=
  inferInstanceAs (Decidable (_ ∨ _))

instance (c : FivetranConnector) : Decidable (HasFinalizer c) :=
  inferInstanceAs (Decidable (_ = _))

/-- No `CreateConnection` has been called. -/
def NoCreate (w : World) : Prop := ∀ e ∈ w.trace, e.isCreate = false

/-- The connector `s` has been deleted, or there is none. -/
def Deleted (s : String) (w : World) : Prop :=
  s = "" ∨ Event.deleteConnection s true ∈ w.trace

/-- The marker depends on the metadata alone. -/
theorem markerOf_congr {c c' : FivetranConnector} (h : c.metadata = c'.metadata) :
    markerOf c = markerOf c' := by
  simp only [markerOf, getAnnotationValue, h]

/-- An ID kept by two stretches is kept by both. -/
theorem HasID.trans {s : String} {c c' : FivetranConnector} (h : HasID s c)
    (h' : HasID c.status.connectorID c') : HasID s c' := by
  rcases h with rfl | rfl
  · exact .inl rfl
  · exact h'

/-- A marker kept by two stretches is kept by both. -/
theorem HasMarker.trans {m : String} {c c' : FivetranConnector} (h : HasMarker m c)
    (h' : HasMarker (markerOf c) c') : HasMarker m c' := by
  rcases h with rfl | rfl
  · exact .inl rfl
  · exact h'

/-- Every allowed step keeps a connector ID in status, in the copy and the stored object. -/
theorem hasID_stepStable (s : String) : StepStable (Both (HasID s)) :=
  Both.stepStable (.inl fun c c' h hc => by rwa [HasID, ← h]) fun _ _ he hc => hc.trans he.connectorID

/-- Every allowed step keeps the marker, in the copy and the stored object. -/
theorem hasMarker_stepStable (m : String) : StepStable (Both (HasMarker m)) :=
  Both.stepStable (.inr fun c c' h _ hc => by rwa [HasMarker, ← markerOf_congr h])
    fun _ _ he hc => hc.trans he.marker

/-- While status or marker holds an ID, no step calls `CreateConnection`. -/
theorem noCreate_stepStable {s m : String} (hknown : s ≠ "" ∨ m ≠ "") :
    StepStable fun w => Both (HasID s) w ∧ Both (HasMarker m) w ∧ NoCreate w := by
  rintro w w' hstep ⟨hid, hmarker, hnone⟩
  refine ⟨hasID_stepStable s w w' hstep hid, hasMarker_stepStable m w w' hstep hmarker, ?_⟩
  rcases hstep.trace_cases with ht | ⟨e, hcall, ht⟩ <;> rw [NoCreate, ht]
  · exact hnone
  · intro e' he'
    rcases List.mem_append.mp he' with he' | he'
    · exact hnone e' he'
    · rw [List.mem_singleton.mp he']
      cases hcreate : e.isCreate
      · rfl
      · obtain ⟨hnoID, hnoMarker⟩ := hcall hcreate
        rcases hknown with hs | hm
        · exact absurd (hnoID ▸ (hid.1.resolve_left hs).symm) hs
        · exact absurd (hnoMarker ▸ (hmarker.1.resolve_left hm).symm) hm

/-- The finalizers are metadata, stored by `Update` alone. -/
theorem hasFinalizer_writeStable : WriteStable HasFinalizer :=
  .inr fun _ _ h _ hc => by rwa [HasFinalizer, containsFinalizer, ← h]

/-- The finalizer stays on copy and stored object until the connector in status, kept by
`HasID`, is deleted. -/
theorem finalizer_stepStable (s : String) :
    StepStable fun w => Both (HasID s) w ∧ (Both HasFinalizer w ∨ Deleted s w) := by
  rintro w w' hstep ⟨hid, hfinalizer | hdeleted⟩
  · refine ⟨hasID_stepStable s w w' hstep hid, ?_⟩
    cases hstep with
    | edit he =>
      rename_i c
      cases hc : containsFinalizer c fivetranFinalizer
      · right
        rcases hid.1 with hs | hs
        · exact .inl hs
        · rw [← hs]
          exact he.finalizer hfinalizer.1 hc
      · exact .inl ⟨hc, hfinalizer.2⟩
    | update => exact .inl (hfinalizer.update hasFinalizer_writeStable)
    | statusUpdate => exact .inl (hfinalizer.statusUpdate hasFinalizer_writeStable)
    | call _ => exact .inl hfinalizer
  · refine ⟨hasID_stepStable s w w' hstep hid, .inr ?_⟩
    rcases hdeleted with hs | hmem
    · exact .inl hs
    · exact .inr (hstep.mem_trace hmem)

end Identity

section Invocation

variable (vault : SecretStore) (env : Responses) (stored : FivetranConnector)

/-- An invocation keeps the stored connector ID. -/
theorem invoke_keeps_connectorID :
    HasID stored.status.connectorID (invokeWorld vault env stored).stored :=
  ((hasID_stepStable _).reach (invoke_reach vault env stored) ⟨.inr rfl, .inr rfl⟩).2

/-- An invocation keeps the stored marker. -/
theorem invoke_keeps_marker : HasMarker (markerOf stored) (invokeWorld vault env stored).stored :=
  ((hasMarker_stepStable _).reach (invoke_reach vault env stored) ⟨.inr rfl, .inr rfl⟩).2

/-- An invocation that finds an ID, in status or in the marker, makes no create. -/
theorem invoke_never_creates (hknown : stored.status.connectorID ≠ "" ∨ markerOf stored ≠ "") :
    NoCreate (invokeWorld vault env stored) :=
  ((noCreate_stepStable hknown).reach (invoke_reach vault env stored)
    ⟨⟨.inr rfl, .inr rfl⟩, ⟨.inr rfl, .inr rfl⟩, fun _ h => nomatch h⟩).2.2

/-- An invocation that takes the finalizer off has deleted the connector in status as it found
it. -/
theorem invoke_finalizer_removal (hfinalizer : HasFinalizer stored)
    (hremoved : containsFinalizer (invokeWorld vault env stored).stored fivetranFinalizer = false) :
    Deleted stored.status.connectorID (invokeWorld vault env stored) := by
  obtain ⟨-, hkept | hdeleted⟩ := (finalizer_stepStable _).reach (invoke_reach vault env stored)
    ⟨⟨.inr rfl, .inr rfl⟩, .inl ⟨hfinalizer, hfinalizer⟩⟩
  · exact absurd hkept.2 (by simp [HasFinalizer, hremoved])
  · exact hdeleted

end Invocation

section Run

/-- Every move keeps the stored marker. -/
theorem applyMove_keeps_marker (stored : FivetranConnector) (m : Move) :
    HasMarker (markerOf stored) (applyMove stored m).1 := by
  cases m with
  | reconcile vault env => exact invoke_keeps_marker vault env stored
  | clearStatus => exact .inr rfl
  | requestDeletion t => exact .inr rfl

/-- Every move but a status loss keeps the stored connector ID. -/
theorem applyMove_keeps_connectorID (stored : FivetranConnector) (m : Move)
    (hm : m ≠ .clearStatus) : HasID stored.status.connectorID (applyMove stored m).1 := by
  cases m with
  | reconcile vault env => exact invoke_keeps_connectorID vault env stored
  | clearStatus => exact absurd rfl hm
  | requestDeletion t => exact .inr rfl

/-- A move from an object with an ID or a marker makes no create. -/
theorem applyMove_never_creates (stored : FivetranConnector) (m : Move)
    (hknown : stored.status.connectorID ≠ "" ∨ markerOf stored ≠ "") :
    ∀ e ∈ (applyMove stored m).2, e.isCreate = false := by
  cases m with
  | reconcile vault env => exact invoke_never_creates vault env stored hknown
  | clearStatus => exact fun _ h => nomatch h
  | requestDeletion t => exact fun _ h => nomatch h

/-- A move that takes the finalizer off is an invocation that deleted the connector in status. -/
theorem applyMove_finalizer_removal (stored : FivetranConnector) (m : Move)
    (hfinalizer : HasFinalizer stored)
    (hremoved : containsFinalizer (applyMove stored m).1 fivetranFinalizer = false) :
    stored.status.connectorID = "" ∨
      Event.deleteConnection stored.status.connectorID true ∈ (applyMove stored m).2 := by
  cases m with
  | reconcile vault env => exact invoke_finalizer_removal vault env stored hfinalizer hremoved
  | clearStatus | requestDeletion _ =>
    have hkept : containsFinalizer stored fivetranFinalizer = false := hremoved
    exact absurd hfinalizer (by simp [HasFinalizer, hkept])

/-- A run keeps the stored marker. -/
theorem runMoves_keeps_marker (stored : FivetranConnector) (moves : List Move) :
    HasMarker (markerOf stored) (runMoves stored moves).1 := by
  induction moves generalizing stored with
  | nil => exact .inr rfl
  | cons m rest ih => exact (applyMove_keeps_marker stored m).trans (ih _)

/-- A run without a status loss keeps the stored connector ID. -/
theorem runMoves_keeps_connectorID (stored : FivetranConnector) (moves : List Move)
    (hkept : Move.clearStatus ∉ moves) :
    HasID stored.status.connectorID (runMoves stored moves).1 := by
  induction moves generalizing stored with
  | nil => exact .inr rfl
  | cons m rest ih =>
    rw [List.mem_cons, not_or] at hkept
    exact (applyMove_keeps_connectorID stored m (Ne.symm hkept.1)).trans (ih _ hkept.2)

/-- Once the stored object holds an ID in the marker, or in status while status is never lost,
no move of the run calls `CreateConnection`, and the ID is kept. -/
theorem identified_resource_never_recreated (stored : FivetranConnector) (moves : List Move)
    (hidentified : markerOf stored ≠ "" ∨ stored.status.connectorID ≠ "" ∧ Move.clearStatus ∉ moves) :
    (∀ calls ∈ (runMoves stored moves).2, ∀ e ∈ calls, e.isCreate = false) ∧
      HasMarker (markerOf stored) (runMoves stored moves).1 ∧
      (Move.clearStatus ∉ moves → HasID stored.status.connectorID (runMoves stored moves).1) := by
  refine ⟨?_, runMoves_keeps_marker stored moves, runMoves_keeps_connectorID stored moves⟩
  induction moves generalizing stored with
  | nil => exact fun _ h => nomatch h
  | cons m rest ih =>
    have hknown : stored.status.connectorID ≠ "" ∨ markerOf stored ≠ "" :=
      hidentified.symm.imp (fun h => h.1) id
    have hnext : markerOf (applyMove stored m).1 ≠ "" ∨
        (applyMove stored m).1.status.connectorID ≠ "" ∧ Move.clearStatus ∉ rest := by
      rcases hidentified with hmarker | ⟨hid, hkept⟩
      · exact .inl ((applyMove_keeps_marker stored m).resolve_left hmarker ▸ hmarker)
      · rw [List.mem_cons, not_or] at hkept
        exact .inr ⟨(applyMove_keeps_connectorID stored m (Ne.symm hkept.1)).resolve_left hid ▸ hid,
          hkept.2⟩
    intro calls hcalls
    rw [runMoves_cons_snd, List.mem_cons] at hcalls
    rcases hcalls with rfl | hlater
    · exact applyMove_never_creates stored m hknown
    · exact ih _ hnext calls hlater

/-- A resource whose marker holds `quiet_lantern`, reconciled, then its status lost, then reconciled
again: no create. -/
theorem identified_resource_never_recreated_marker :
    markerOf recoveringResource ≠ "" ∧
      (∀ calls ∈ (runMoves recoveringResource [.reconcile emptyStore acceptingResponses,
          .clearStatus, .reconcile emptyStore acceptingResponses]).2, ∀ e ∈ calls,
          e.isCreate = false) ∧
      HasMarker (markerOf recoveringResource) (runMoves recoveringResource
        [.reconcile emptyStore acceptingResponses, .clearStatus,
          .reconcile emptyStore acceptingResponses]).1 ∧
      (Move.clearStatus ∉ [Move.reconcile emptyStore acceptingResponses, .clearStatus,
          .reconcile emptyStore acceptingResponses] →
        HasID recoveringResource.status.connectorID (runMoves recoveringResource
          [.reconcile emptyStore acceptingResponses, .clearStatus,
            .reconcile emptyStore acceptingResponses]).1) :=
  ⟨by decide, identified_resource_never_recreated _ _ (.inl (by decide))⟩

/-- The ID a successful `CreateConnection` returned. -/
def Event.createdID : Event → Option String
  | .createConnection _ id => id
  | _ => none

/-- The ID of a successful `DeleteConnection`. -/
def Event.deletedID : Event → Option String
  | .deleteConnection id true => some id
  | _ => none

/-- Answers under which the status write right after the create (call 2) is lost, and so is
the failure condition `handleError` writes after it (call 3). -/
def createStatusLostResponses : Responses :=
  { acceptingResponses with kubeWrite := fun n => if n = 2 ∨ n = 3 then some "connection refused" else none }

/-- A forced reconcile whose create is never recorded, then one in which every call is accepted. -/
def unpersistedCreateRun : FivetranConnector × List (List Event) :=
  runMoves (exampleResource forceLabel GoMap.empty [])
    [.reconcile emptyStore createStatusLostResponses, .reconcile emptyStore acceptingResponses]

/-- A create whose ID never reached the stored object is made again by the next invocation: two
successful creates for one resource. -/
theorem unpersisted_create_is_repeated :
    unpersistedCreateRun.2.flatten.filterMap Event.createdID = ["c1", "c1"] := by
  decide

/-- The finalizer leaves a resource only once the connector its status named when the run began
has been deleted, provided status was never lost on the way; that holds of every ID status ever
held, since `HasID` keeps it. -/
theorem finalizer_removed_only_after_delete (stored : FivetranConnector) (before : List Move)
    (m : Move) (hkept : Move.clearStatus ∉ before)
    (hremove : HasFinalizer (runMoves stored before).1 ∧
      containsFinalizer (applyMove (runMoves stored before).1 m).1 fivetranFinalizer = false) :
    stored.status.connectorID = "" ∨
      Event.deleteConnection stored.status.connectorID true ∈
        (applyMove (runMoves stored before).1 m).2 := by
  have hdeleted := applyMove_finalizer_removal _ m hremove.1 hremove.2
  rcases runMoves_keeps_connectorID stored before hkept with hs | hs
  · exact .inl hs
  · rcases hdeleted with h | h
    · exact .inl (hs ▸ h)
    · exact .inr (hs ▸ h)

/-- After a create, a deletion request: the connector `c1` is deleted before the finalizer
goes. -/
theorem finalizer_removed_only_after_delete_created :
    (Move.clearStatus ∉ [Move.requestDeletion 1] ∧
      HasFinalizer (runMoves createdResource [.requestDeletion 1]).1 ∧
      containsFinalizer (applyMove (runMoves createdResource [.requestDeletion 1]).1
        (.reconcile emptyStore acceptingResponses)).1 fivetranFinalizer = false) ∧
    (createdResource.status.connectorID = "" ∨
      Event.deleteConnection createdResource.status.connectorID true ∈
        (applyMove (runMoves createdResource [.requestDeletion 1]).1
          (.reconcile emptyStore acceptingResponses)).2) :=
  have hkept : Move.clearStatus ∉ [Move.requestDeletion 1] := by simp
  have hremove : HasFinalizer (runMoves _ [Move.requestDeletion 1]).1 ∧ _ := ⟨by decide, by decide⟩
  ⟨⟨hkept, hremove⟩, finalizer_removed_only_after_delete _ _ _ hkept hremove⟩

/-- A forced reconcile that creates `c1`, the loss of the status, a deletion request, and the
invocation that handles it. -/
def markerOnlyRun : FivetranConnector × List (List Event) :=
  runMoves (exampleResource forceLabel GoMap.empty [])
    [.reconcile emptyStore acceptingResponses, .clearStatus, .requestDeletion 1,
      .reconcile emptyStore acceptingResponses]

/-- A connector known only from its marker: after a create, status is lost, then deletion is
requested; the finalizer goes and `c1` is never deleted. -/
theorem markerOnly_connector_not_deleted :
    markerOnlyRun.2.flatten.filterMap Event.createdID = ["c1"] ∧ markerOf markerOnlyRun.1 = "c1" ∧
      containsFinalizer markerOnlyRun.1 fivetranFinalizer = false ∧
      markerOnlyRun.2.flatten.filterMap Event.deletedID = [] := by
  decide

end Run

end FivetranOperator
