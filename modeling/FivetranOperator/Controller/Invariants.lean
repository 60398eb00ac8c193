import FivetranOperator.Controller.Safety

/-!
# Invariants of whole runs

The machinery that turns the guards of `Allowed` into facts about runs. A predicate every
allowed step keeps holds at the end of every invocation, since `reconcile_safe` makes each
invocation a path of allowed steps; a property of the stored object that every move keeps holds
after every run, by induction on the moves.

Most properties of the connector are facts about the copy and the stored object alike (`Both`):
an `Update` stores the copy's metadata and spec, a `Status().Update` its status, and each
refreshes the copy from what it stored, so a property of one half of the object is kept by both
writes. Two such properties are proved here. The controller never edits the spec. The connector
fingerprint, once written, is the fingerprint of the stored spec: the only write of the
annotation is `updateConnectorHash`, which computes it from the copy it writes.
-/

namespace FivetranOperator

open FivetranConnector

/-- A predicate every allowed step keeps. -/
def StepStable (P : World → Prop) : Prop := ∀ w w', Allowed w w' → P w → P w'

/-- A predicate every allowed step keeps holds along every allowed path. -/
theorem StepStable.reach {P : World → Prop} (hP : StepStable P) {w w' : World} (h : Reach w w')
    (hw : P w) : P w' := by
  induction h with
  | refl => exact hw
  | tail _ hstep ih => exact hP _ _ hstep ih

section Writes

/-- Recording a call leaves the stored object alone. -/
@[simp] theorem World.record_stored (w : World) (e : Event) : (w.record e).stored = w.stored := rfl

/-- Recording a call leaves the copy alone. -/
@[simp] theorem World.record_connector (w : World) (e : Event) :
    (w.record e).connector = w.connector := rfl

/-- Recording a call appends it to the trace. -/
@[simp] theorem World.record_trace (w : World) (e : Event) : (w.record e).trace = w.trace ++ [e] :=
  rfl

/-- An `Update` is accepted or recorded as rejected. -/
theorem update_cases (w : World) :
    finalWorld (update w) = w.afterUpdate ∨
      finalWorld (update w) = w.record (.update w.connector false) := by
  unfold update
  split
  · exact .inl rfl
  · exact .inr rfl

/-- A `Status().Update` is accepted or recorded as rejected. -/
theorem statusUpdate_cases (w : World) :
    finalWorld (statusUpdate w) = w.afterStatusUpdate ∨
      finalWorld (statusUpdate w) = w.record (.statusUpdate w.connector false) := by
  unfold statusUpdate
  split
  · exact .inl rfl
  · exact .inr rfl

/-- A step leaves the trace as it is or records one call the guards allow. -/
theorem Allowed.trace_cases {w w' : World} (h : Allowed w w') :
    w'.trace = w.trace ∨ ∃ e, AllowedCall w e ∧ w'.trace = w.trace ++ [e] := by
  have write : ∀ e, e.isCreate = false → AllowedCall w e := fun e he h => by simp [he] at h
  cases h with
  | edit _ => exact .inl rfl
  | update =>
    rcases update_cases w with hw | hw <;> rw [hw]
    · exact .inr ⟨.update w.connector true, write _ rfl, rfl⟩
    · exact .inr ⟨.update w.connector false, write _ rfl, rfl⟩
  | statusUpdate =>
    rcases statusUpdate_cases w with hw | hw <;> rw [hw]
    · exact .inr ⟨.statusUpdate w.connector true, write _ rfl, rfl⟩
    · exact .inr ⟨.statusUpdate w.connector false, write _ rfl, rfl⟩
  | call hcall => exact .inr ⟨_, hcall, rfl⟩

/-- The trace only grows. -/
theorem Allowed.mem_trace {w w' : World} (h : Allowed w w') {e : Event} (he : e ∈ w.trace) :
    e ∈ w'.trace := by
  rcases h.trace_cases with ht | ⟨_, _, ht⟩ <;> rw [ht]
  · exact he
  · exact List.mem_append_left _ he

end Writes

section Both

/-- A property of the copy and of the stored object alike. -/
def Both (P : FivetranConnector → Prop) (w : World) : Prop := P w.connector ∧ P w.stored

/-- A property of the status alone, or of the metadata and spec alone: `Status().Update` stores
the first from the copy, `Update` the second, and each refreshes the copy from what it stored. -/
def WriteStable (P : FivetranConnector → Prop) : Prop :=
  (∀ c c', c.status = c'.status → P c → P c') ∨
    (∀ c c', c.metadata = c'.metadata → c.spec = c'.spec → P c → P c')

variable {P : FivetranConnector → Prop}

/-- A write-stable property of both halves survives an `Update`, accepted or not. -/
theorem Both.update (hP : WriteStable P) {w : World} (h : Both P w) :
    Both P (finalWorld (update w)) := by
  rcases update_cases w with hw | hw <;> rw [hw]
  · have hstored : P w.afterUpdate.stored := by
      rcases hP with hstatus | hmetadata
      · exact hstatus w.stored _ rfl h.2
      · exact hmetadata w.connector _ rfl rfl h.1
    exact ⟨hstored, hstored⟩
  · exact h

/-- A write-stable property of both halves survives a `Status().Update`, accepted or not. -/
theorem Both.statusUpdate (hP : WriteStable P) {w : World} (h : Both P w) :
    Both P (finalWorld (statusUpdate w)) := by
  rcases statusUpdate_cases w with hw | hw <;> rw [hw]
  · have hstored : P w.afterStatusUpdate.stored := by
      rcases hP with hstatus | hmetadata
      · exact hstatus w.connector _ rfl h.1
      · exact hmetadata w.stored _ rfl rfl h.2
    exact ⟨hstored, hstored⟩
  · exact h

/-- A write-stable property that every allowed edit keeps holds of copy and stored object over
every step. -/
theorem Both.stepStable (hP : WriteStable P)
    (hedit : ∀ w c, AllowedEdit w c → P w.connector → P c) : StepStable (Both P) := by
  intro w w' hstep h
  cases hstep with
  | edit he => exact ⟨hedit _ _ he h.1, h.2⟩
  | update => exact h.update hP
  | statusUpdate => exact h.statusUpdate hP
  | call _ => exact h

end Both

section Invariants

/-- The controller never edits the spec: copy and stored object keep it over every step. -/
theorem spec_stepStable (spec : FivetranConnectorSpec) : StepStable (Both (·.spec = spec)) :=
  Both.stepStable (.inr fun _ _ _ h hc => h.symm.trans hc) fun _ _ he hc => he.spec.trans hc

/-- Along an allowed path from a synced world the copy keeps its spec. -/
theorem Reach.spec {w w' : World} (hsync : InSync w) (h : Reach w w') :
    w'.connector.spec = w.connector.spec :=
  ((spec_stepStable _).reach h ⟨rfl, by rw [show w.connector = w.stored from hsync]⟩).1

/-- The connector fingerprint, where there is one, is the fingerprint of the spec, in the copy
and in the stored object, over every step. -/
theorem fingerprint_stepStable : StepStable (Both FingerprintCurrent) :=
  Both.stepStable (.inr fun _ _ hmetadata hspec h => h.of_eq hspec.symm (by rw [hmetadata]))
    fun _ _ he h => he.fingerprint h

end Invariants

section Invocation

variable (vault : SecretStore) (env : Responses) (stored : FivetranConnector)

/-- The world an invocation ends in. -/
abbrev invokeWorld : World := finalWorld (invoke vault env stored)

/-- An invocation is an allowed path from the loaded object. -/
theorem invoke_reach : Reach (World.initial env stored) (invokeWorld vault env stored) :=
  (reconcile_safe vault).reach _ rfl

/-- An invocation leaves the stored spec as it was. -/
theorem invoke_spec : (invokeWorld vault env stored).stored.spec = stored.spec :=
  ((spec_stepStable _).reach (invoke_reach vault env stored) ⟨rfl, rfl⟩).2

/-- An invocation keeps the connector fingerprint current. -/
theorem invoke_fingerprintCurrent (h : FingerprintCurrent stored) :
    FingerprintCurrent (invokeWorld vault env stored).stored :=
  (fingerprint_stepStable.reach (invoke_reach vault env stored) ⟨h, h⟩).2

end Invocation

section Run

/-- The object a run leaves is the one its rest leaves after the first move. -/
@[simp] theorem runMoves_cons_fst (stored : FivetranConnector) (m : Move) (rest : List Move) :
    (runMoves stored (m :: rest)).1 = (runMoves (applyMove stored m).1 rest).1 := rfl

/-- The calls of a run are those of its first move, then those of the rest. -/
@[simp] theorem runMoves_cons_snd (stored : FivetranConnector) (m : Move) (rest : List Move) :
    (runMoves stored (m :: rest)).2 =
      (applyMove stored m).2 :: (runMoves (applyMove stored m).1 rest).2 := rfl

/-- A property of the stored object that every move keeps holds after every run. -/
theorem runMoves_preserves {P : FivetranConnector → Prop}
    (hmove : ∀ stored m, P stored → P (applyMove stored m).1) (stored : FivetranConnector)
    (moves : List Move) (h : P stored) : P (runMoves stored moves).1 := by
  induction moves generalizing stored with
  | nil => exact h
  | cons m rest ih => exact ih _ (hmove stored m h)

/-- Every move keeps the stored spec. -/
theorem applyMove_spec (stored : FivetranConnector) (m : Move) :
    (applyMove stored m).1.spec = stored.spec := by
  cases m with
  | reconcile vault env => exact invoke_spec vault env stored
  | clearStatus | requestDeletion => rfl

/-- Neither status loss nor a delete request touches the annotations or the spec. -/
theorem applyMove_fingerprintCurrent (stored : FivetranConnector) (m : Move)
    (h : FingerprintCurrent stored) : FingerprintCurrent (applyMove stored m).1 := by
  cases m with
  | reconcile vault env => exact invoke_fingerprintCurrent vault env stored h
  | clearStatus | requestDeletion => exact h.of_eq rfl rfl

/-- Over every run from an object whose fingerprint is current, or absent, the fingerprint the
stored object carries is the fingerprint of its spec. -/
theorem runMoves_fingerprintCurrent (stored : FivetranConnector) (moves : List Move)
    (h : FingerprintCurrent stored) : FingerprintCurrent (runMoves stored moves).1 :=
  runMoves_preserves applyMove_fingerprintCurrent stored moves h

end Run

end FivetranOperator
