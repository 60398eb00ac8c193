import FivetranOperator.Controller.Invariants

/-!
# The footprint of an invocation

What an invocation does to the resource, and what it sends the provider, whatever the answers.
`reconcile_safe` makes every invocation a path of `Walk ControllerEdit` steps (`invoke_walks`):
edits the code makes to its in-memory copy, `Update`s, `Status().Update`s, and calls that are not
writes and whose connection request, if they send one, is the request `toFivetranConnector`
builds from the copy's spec. Every function but `handleDeletion` and `handleError` makes live
edits only (`LiveEdit`).

Three properties of every invocation follow, each from one lemma per kind of step:
* the stored object keeps every label, annotation and finalizer the operator does not own, its
  spec and its deletion timestamp (`invoke_footprint`);
* none of its writes passes the event filter of `SetupWithManager`, so the controller never
  triggers itself (`invoke_writes_filtered`);
* every connection request it sends is the spec's, and a create is sent paused
  (`invoke_requests_from_spec`).
-/

namespace FivetranOperator

open FivetranConnector

/-- The annotations the operator writes or consumes. -/
def operatorAnnotations : List String :=
  [annotationConnectorID, annotationConnectorHash, annotationSchemaHash,
    annotationAdoptExistingConnectorID]

/-- A write the API server accepted. -/
def Event.isAcceptedWrite : Event → Bool
  | .update _ true | .statusUpdate _ true => true
  | _ => false

section Invariants

variable {E : FivetranConnector → FivetranConnector → Prop}

/-- A recorded call that is not an accepted write, with its request built from the copy's spec. -/
structure RecordedCall (w : World) (e : Event) : Prop where
  notAccepted : e.isAcceptedWrite = false
  request : ∀ create req, e.connectionRequest = some (create, req) → req = .ofSpec w.connector create

/-- A call that is no write is no accepted write. -/
theorem Event.isAcceptedWrite_of_isWrite {e : Event} (h : e.isWrite = false) :
    e.isAcceptedWrite = false := by
  cases e <;> first | rfl | cases h

/-- A `Walk` step by what it does to the world. -/
theorem Walk.cases {w w' : World} (h : Walk E w w') :
    (∃ c, E w.connector c ∧ w' = { w with connector := c }) ∨ w' = w.afterUpdate ∨
      w' = w.afterStatusUpdate ∨ ∃ e, RecordedCall w e ∧ w' = w.record e := by
  have rejected : ∀ e, e.isAcceptedWrite = false → e.connectionRequest = none → RecordedCall w e :=
    fun _ ha hr => ⟨ha, fun _ _ h => by rw [hr] at h; cases h⟩
  cases h with
  | edit he => exact .inl ⟨_, he, rfl⟩
  | update =>
    rcases update_cases w with h | h
    · exact .inr (.inl h)
    · exact .inr (.inr (.inr ⟨_, rejected (.update w.connector false) rfl rfl, h⟩))
  | statusUpdate =>
    rcases statusUpdate_cases w with h | h
    · exact .inr (.inr (.inl h))
    · exact .inr (.inr (.inr ⟨_, rejected (.statusUpdate w.connector false) rfl rfl, h⟩))
  | call hcall =>
    exact .inr (.inr (.inr ⟨_, ⟨Event.isAcceptedWrite_of_isWrite hcall.notWrite, hcall.request⟩, rfl⟩))

/-- A predicate every `Walk` step keeps. -/
def WalkStable (E : FivetranConnector → FivetranConnector → Prop) (P : World → Prop) : Prop :=
  ∀ w w', Walk E w w' → P w → P w'

/-- A predicate every `Walk` step keeps holds along every path of them. -/
theorem WalkStable.walks {P : World → Prop} (hP : WalkStable E P) {w w' : World} (h : Walks E w w')
    (hw : P w) : P w' := by
  induction h with
  | refl => exact hw
  | tail _ hstep ih => exact hP _ _ hstep ih

/-- A predicate kept by each kind of step is kept by every `Walk` step. -/
theorem WalkStable.of_cases {P : World → Prop}
    (hedit : ∀ w c, E w.connector c → P w → P { w with connector := c })
    (hupdate : ∀ w, P w → P w.afterUpdate) (hstatus : ∀ w, P w → P w.afterStatusUpdate)
    (hcall : ∀ w e, RecordedCall w e → P w → P (w.record e)) : WalkStable E P := by
  intro w w' h hw
  rcases h.cases with ⟨c, hc, rfl⟩ | rfl | rfl | ⟨e, he, rfl⟩
  exacts [hedit w c hc hw, hupdate w hw, hstatus w hw, hcall w e he hw]

/-- A predicate kept by each kind of step, given a `WalkStable` one, is kept with it. -/
theorem WalkStable.and {P Q : World → Prop} (hP : WalkStable E P)
    (hedit : ∀ w c, E w.connector c → P w → Q w → Q { w with connector := c })
    (hupdate : ∀ w, P w → Q w → Q w.afterUpdate) (hstatus : ∀ w, P w → Q w → Q w.afterStatusUpdate)
    (hcall : ∀ w e, RecordedCall w e → P w → Q w → Q (w.record e)) :
    WalkStable E fun w => P w ∧ Q w := by
  intro w w' h ⟨hp, hq⟩
  refine ⟨hP w w' h hp, ?_⟩
  rcases h.cases with ⟨c, hc, rfl⟩ | rfl | rfl | ⟨e, he, rfl⟩
  exacts [hedit w c hc hp hq, hupdate w hp hq, hstatus w hp hq, hcall w e he hp hq]

/-- An invocation takes `Walk` steps only, its edits drawn from `ControllerEdit`. -/
theorem invoke_walks (vault : SecretStore) (env : Responses) (stored : FivetranConnector) :
    Walks ControllerEdit (World.initial env stored) (invokeWorld vault env stored) :=
  (reconcile_safe vault).walks _ rfl

end Invariants

section Footprint

/-- What `c` keeps of `o`: every label but the force label, which may only be gone; every
annotation the operator does not own; every finalizer but its own, in order; the deletion
timestamp; and the spec. -/
structure Footprint (o c : FivetranConnector) : Prop where
  labels : ∀ k, c.metadata.labels.get? k = o.metadata.labels.get? k ∨
    (k = annotationForceReconcile ∧ c.metadata.labels.get? k = none)
  annotations : ∀ k ∉ operatorAnnotations,
    c.metadata.annotations.get? k = o.metadata.annotations.get? k
  finalizers : c.metadata.finalizers.filter (· != fivetranFinalizer) =
    o.metadata.finalizers.filter (· != fivetranFinalizer)
  deletionTimestamp : c.metadata.deletionTimestamp = o.metadata.deletionTimestamp
  spec : c.spec = o.spec

namespace Footprint

/-- An object keeps its own footprint. -/
theorem refl (o : FivetranConnector) : Footprint o o :=
  ⟨fun _ => .inl rfl, fun _ _ => rfl, rfl, rfl, rfl⟩

/-- Footprints compose. -/
theorem trans {o c d : FivetranConnector} (h₁ : Footprint o c) (h₂ : Footprint c d) :
    Footprint o d where
  labels k := by
    rcases h₂.labels k with h | h
    · rw [h]; exact h₁.labels k
    · exact .inr h
  annotations k hk := (h₂.annotations k hk).trans (h₁.annotations k hk)
  finalizers := h₂.finalizers.trans h₁.finalizers
  deletionTimestamp := h₂.deletionTimestamp.trans h₁.deletionTimestamp
  spec := h₂.spec.trans h₁.spec

/-- A footprint reads the metadata and the spec only. -/
theorem congr {o c c' : FivetranConnector} (h : Footprint o c) (hm : c'.metadata = c.metadata)
    (hs : c'.spec = c.spec) : Footprint o c' := by
  obtain ⟨hl, ha, hf, hd, hspec⟩ := h
  exact ⟨by rw [hm]; exact hl, by rw [hm]; exact ha, by rw [hm]; exact hf, by rw [hm]; exact hd,
    by rw [hs]; exact hspec⟩

/-- A label the copy carries is one the original carried. -/
theorem hasLabel {o c : FivetranConnector} (h : Footprint o c) {k : String}
    (hk : c.hasLabel k = true) : o.hasLabel k = true := by
  unfold FivetranConnector.hasLabel at *
  rcases h.labels k with h | ⟨-, h⟩ <;> rw [h] at hk
  · exact hk
  · cases hk

end Footprint

/-- Each live edit stays within the footprint. -/
theorem LiveEdit.footprint {c c' : FivetranConnector} (h : LiveEdit c c') : Footprint c c' := by
  have keep : ∀ c', c'.metadata = c.metadata → c'.spec = c.spec → Footprint c c' :=
    fun _ hm hs => (Footprint.refl c).congr hm hs
  have ownKey : ∀ {key : String} (value : String), key ∈ operatorAnnotations →
      Footprint c (setAnnotationValue c key value) := fun _ hkey =>
    ⟨fun _ => .inl rfl, fun k hk => GoMap.get?_insert_ne _ _ fun h => hk (h ▸ hkey), rfl, rfl, rfl⟩
  cases h with
  | condition => exact keep _ rfl rfl
  | connectorID => exact keep _ rfl rfl
  | marker => exact ownKey _ (.head _)
  | connectorHash => exact ownKey _ (.tail _ (.head _))
  | schemaHash => exact ownKey _ (.tail _ (.tail _ (.head _)))
  | removeAdoption =>
    exact ⟨fun _ => .inl rfl, fun k hk => GoMap.get?_erase_ne _ fun h => hk (h ▸ by decide), rfl, rfl, rfl⟩
  | removeForceLabel =>
    refine ⟨fun k => ?_, fun _ _ => rfl, rfl, rfl, rfl⟩
    by_cases hk : k = annotationForceReconcile
    · exact .inr ⟨hk, hk ▸ GoMap.get?_erase_self _ _⟩
    · exact .inl (GoMap.get?_erase_ne _ hk)
  | addFinalizer =>
    dsimp only [FivetranConnector.addFinalizer]
    split
    · exact .refl c
    · exact ⟨fun _ => .inl rfl, fun _ _ => rfl, by simp, rfl, rfl⟩

/-- Each edit the code makes stays within the footprint. -/
theorem ControllerEdit.footprint {c c' : FivetranConnector} (h : ControllerEdit c c') :
    Footprint c c' := by
  cases h with
  | live h => exact h.footprint
  | removeFinalizer =>
    refine ⟨fun _ => .inl rfl, fun _ _ => rfl, ?_, rfl, rfl⟩
    simp [FivetranConnector.removeFinalizer, List.filter_filter]
  | condition => exact (Footprint.refl c).congr rfl rfl

end Footprint

/-- Every controller step stays within the footprint, in the copy and in the stored object. -/
theorem footprint_walkStable (o : FivetranConnector) :
    WalkStable ControllerEdit fun w => Footprint o w.connector ∧ Footprint o w.stored :=
  .of_cases (fun _ _ hc h => ⟨h.1.trans hc.footprint, h.2⟩)
    (fun _ h => ⟨h.1.congr rfl rfl, h.1.congr rfl rfl⟩) (fun _ h => ⟨h.2.congr rfl rfl, h.2.congr rfl rfl⟩)
    fun _ _ _ h => h

/-- Whatever the API server and the provider answer, an invocation leaves on the stored object
every label but the force label, which it may only remove; every annotation the operator does
not own; every other finalizer, in order; the deletion timestamp; and the spec. -/
theorem invoke_footprint (vault : SecretStore) (env : Responses) (stored : FivetranConnector) :
    Footprint stored (invokeWorld vault env stored).stored :=
  ((footprint_walkStable stored).walks (invoke_walks vault env stored) ⟨.refl _, .refl _⟩).2

section EventFilter

/-- The update events the filter of `SetupWithManager` lets through: `predicate.Or` of
`GenerationChangedPredicate` and the label predicate. Under the API server's rule for a resource
with a status subresource, the generation moves exactly when the spec changes.
`kubeutils.ForceReconcileLabel` is not among the sources, so the label key is a parameter. -/
def eventFilterUpdate (forceReconcileLabel : String) (old new : FivetranConnector) : Prop :=
  old.spec ≠ new.spec ∨ (CustomLabelKeyChangedPredicate.mk forceReconcileLabel).update old new = true

/-- The object the API server holds after a call: an accepted `Update` stores the metadata and
spec it was sent, an accepted `Status().Update` the status. -/
def Event.storedAfter (stored : FivetranConnector) : Event → FivetranConnector
  | .update obj true => { stored with metadata := obj.metadata, spec := obj.spec }
  | .statusUpdate obj true => { stored with status := obj.status }
  | _ => stored

/-- The update events a run's calls raise on the watch: each accepted write, with the object
before and after it. -/
def writeEvents : FivetranConnector → List Event → List (FivetranConnector × FivetranConnector)
  | _, [] => []
  | stored, e :: rest =>
    (if e.isAcceptedWrite then [(stored, e.storedAfter stored)] else []) ++
      writeEvents (e.storedAfter stored) rest

/-- A call that is not an accepted write leaves the stored object as it was. -/
theorem Event.storedAfter_of_not_accepted {e : Event} (h : e.isAcceptedWrite = false)
    (stored : FivetranConnector) : e.storedAfter stored = stored := by
  unfold Event.storedAfter
  split <;> simp_all [Event.isAcceptedWrite]

/-- The writes of a trace with one more call: those of the trace, then the call's if it is an
accepted write. -/
theorem writeEvents_append (stored : FivetranConnector) (calls : List Event) (e : Event) :
    writeEvents stored (calls ++ [e]) = writeEvents stored calls ++
      if e.isAcceptedWrite then
        [(calls.foldl Event.storedAfter stored, e.storedAfter (calls.foldl Event.storedAfter stored))]
      else [] := by
  induction calls generalizing stored with
  | nil => simp [writeEvents]
  | cons e' rest ih => simp [writeEvents, ih, List.append_assoc]

/-- A write that adds no label and keeps the spec passes neither predicate of the filter. -/
theorem not_eventFilterUpdate {forceReconcileLabel : String} {old new : FivetranConnector}
    (hspec : new.spec = old.spec) (hlabels : ∀ k, new.hasLabel k = true → old.hasLabel k = true) :
    ¬ eventFilterUpdate forceReconcileLabel old new := by
  rintro (h | h)
  · exact h hspec.symm
  · simp only [CustomLabelKeyChangedPredicate.update, Bool.and_eq_true, Bool.not_eq_true'] at h
    rw [hlabels _ h.2] at h
    cases h.1

/-- The copy carries no label the stored object lacks, and the stored spec. -/
structure WithinStored (w : World) : Prop where
  labels : ∀ k, w.connector.hasLabel k = true → w.stored.hasLabel k = true
  spec : w.connector.spec = w.stored.spec

/-- A copy equal to the stored object is within it. -/
theorem WithinStored.synced {w : World} (h : w.connector = w.stored) : WithinStored w :=
  ⟨fun _ hk => h ▸ hk, congrArg _ h⟩

/-- Every controller step keeps the copy within the stored object. -/
theorem withinStored_walkStable : WalkStable ControllerEdit WithinStored :=
  .of_cases (fun _ _ hc hin => ⟨fun k hk => hin.labels k (hc.footprint.hasLabel hk),
      hc.footprint.spec.trans hin.spec⟩)
    (fun _ _ => .synced rfl) (fun _ _ => .synced rfl) fun _ _ _ hin => ⟨hin.labels, hin.spec⟩

/-- The calls since `w₀` replay to the stored object, and none of their writes passes the
filter. -/
def Replay (forceReconcileLabel : String) (w₀ w : World) : Prop :=
  ∃ calls, w.trace = w₀.trace ++ calls ∧ calls.foldl Event.storedAfter w₀.stored = w.stored ∧
    ∀ p ∈ writeEvents w₀.stored calls, ¬ eventFilterUpdate forceReconcileLabel p.1 p.2

/-- A recorded call keeps the replay when an accepted write would not pass the filter. -/
theorem Replay.record {key : String} {w₀ w w' : World} (h : Replay key w₀ w) {e : Event}
    (hpass : e.isAcceptedWrite = true → ¬ eventFilterUpdate key w.stored (e.storedAfter w.stored))
    (hstored : w'.stored = e.storedAfter w.stored) (htrace : w'.trace = w.trace ++ [e]) :
    Replay key w₀ w' := by
  obtain ⟨calls, htr, hfold, hall⟩ := h
  refine ⟨calls ++ [e], by rw [htrace, htr, List.append_assoc], by
    rw [List.foldl_append, hfold, hstored]; rfl, ?_⟩
  rw [writeEvents_append, hfold]
  intro p hp
  rcases List.mem_append.mp hp with hp | hp
  · exact hall p hp
  · cases he : e.isAcceptedWrite
    · simp [he] at hp
    · rw [if_pos he, List.mem_singleton] at hp
      exact hp ▸ hpass he

/-- Every controller step keeps the replay of its writes through the filter. -/
theorem replay_walkStable (key : String) (w₀ : World) :
    WalkStable ControllerEdit fun w => WithinStored w ∧ Replay key w₀ w :=
  withinStored_walkStable.and (fun _ _ _ _ hr => hr)
    (fun w hin hr => hr.record (e := .update w.connector true)
      (fun _ => not_eventFilterUpdate hin.spec hin.labels) rfl rfl)
    (fun w _ hr => hr.record (e := .statusUpdate w.connector true)
      (fun _ => not_eventFilterUpdate rfl fun _ hk => hk) rfl rfl)
    fun _ _ he _ hr => hr.record (fun h => by rw [he.notAccepted] at h; cases h)
      (Event.storedAfter_of_not_accepted he.notAccepted _).symm rfl

/-- The controller never triggers itself: the writes of an invocation, replayed from the object
it loaded, are the objects the API server stores, and none of the update events they raise passes
the filter of `SetupWithManager`, whatever the label key and whatever the answers. -/
theorem invoke_writes_filtered (forceReconcileLabel : String) (vault : SecretStore) (env : Responses)
    (stored : FivetranConnector) :
    (invokeWorld vault env stored).trace.foldl Event.storedAfter stored =
        (invokeWorld vault env stored).stored ∧
      ∀ p ∈ writeEvents stored (invokeWorld vault env stored).trace,
        ¬ eventFilterUpdate forceReconcileLabel p.1 p.2 := by
  obtain ⟨-, calls, htrace, hfold, hall⟩ :=
    (replay_walkStable forceReconcileLabel (World.initial env stored)).walks
      (invoke_walks vault env stored) ⟨.synced rfl, [], rfl, rfl, fun _ h => by cases h⟩
  rw [htrace]
  exact ⟨hfold, hall⟩

end EventFilter

section Requests

/-- The request built from the spec depends on the spec alone. -/
theorem ConnectionRequest.ofSpec_congr {c c' : FivetranConnector} (h : c.spec = c'.spec)
    (create : Bool) : ConnectionRequest.ofSpec c create = .ofSpec c' create := by
  unfold ConnectionRequest.ofSpec
  rw [h]

/-- Every connection request of the calls since `w₀` is built from the spec of `o`. -/
def RequestsFromSpec (o : FivetranConnector) (w₀ w : World) : Prop :=
  ∃ calls, w.trace = w₀.trace ++ calls ∧ ∀ e ∈ calls, ∀ create req,
    e.connectionRequest = some (create, req) → req = .ofSpec o create

/-- A recorded call keeps every request from the spec when its own is. -/
theorem RequestsFromSpec.record {o : FivetranConnector} {w₀ w w' : World}
    (h : RequestsFromSpec o w₀ w) {e : Event}
    (hreq : ∀ create req, e.connectionRequest = some (create, req) → req = .ofSpec o create)
    (htrace : w'.trace = w.trace ++ [e]) : RequestsFromSpec o w₀ w' := by
  obtain ⟨calls, htr, hall⟩ := h
  refine ⟨calls ++ [e], by rw [htrace, htr, List.append_assoc], fun e' he' => ?_⟩
  rcases List.mem_append.mp he' with he' | he'
  · exact hall e' he'
  · exact List.mem_singleton.mp he' ▸ hreq

/-- Every controller step sends requests from the spec only. -/
theorem requests_walkStable (o : FivetranConnector) (w₀ : World) :
    WalkStable ControllerEdit fun w =>
      (Footprint o w.connector ∧ Footprint o w.stored) ∧ RequestsFromSpec o w₀ w := by
  have noRequest : ∀ e : Event, e.connectionRequest = none →
      ∀ create req, e.connectionRequest = some (create, req) → req = .ofSpec o create :=
    fun _ h _ _ h' => by rw [h] at h'; cases h'
  exact (footprint_walkStable o).and (fun _ _ _ _ hr => hr)
    (fun w _ hr => hr.record (noRequest (.update w.connector true) rfl) rfl)
    (fun w _ hr => hr.record (noRequest (.statusUpdate w.connector true) rfl) rfl)
    fun _ _ he hfp hr => hr.record (fun create req h => (he.request create req h).trans
      (ConnectionRequest.ofSpec_congr hfp.1.spec create)) rfl

/-- Every connection request an invocation sends is built from the spec of the object it
loaded, whatever the answers. -/
theorem invoke_requests_from_spec (vault : SecretStore) (env : Responses) (stored : FivetranConnector) :
    ∀ e ∈ (invokeWorld vault env stored).trace, ∀ create req,
      e.connectionRequest = some (create, req) → req = .ofSpec stored create := by
  obtain ⟨-, calls, htrace, hall⟩ := (requests_walkStable stored (World.initial env stored)).walks
    (invoke_walks vault env stored) ⟨⟨.refl _, .refl _⟩, [], rfl, fun _ h => by cases h⟩
  rw [htrace]
  exact hall

/-- Every connection request of a run is built from the stored spec. -/
theorem runMoves_requests_of_mem (stored : FivetranConnector) (moves : List Move) :
    ∀ calls ∈ (runMoves stored moves).2, ∀ e ∈ calls, ∀ create req,
      e.connectionRequest = some (create, req) → req = .ofSpec stored create := by
  induction moves generalizing stored with
  | nil => intro _ h; cases h
  | cons m rest ih =>
    intro calls hcalls e he create req hreq
    rw [runMoves_cons_snd] at hcalls
    rcases List.mem_cons.mp hcalls with rfl | hcalls
    · cases m with
      | reconcile vault env => exact invoke_requests_from_spec vault env stored e he create req hreq
      | clearStatus => cases he
      | requestDeletion t => cases he
    · rw [ih _ calls hcalls e he create req hreq]
      exact ConnectionRequest.ofSpec_congr (applyMove_spec stored m) create

/-- Over every run, the connection requests of all invocations, in order, are each the request
built from the spec the run started with: the spec's connector field for field, and paused for a
create. -/
theorem runMoves_requests_from_spec (stored : FivetranConnector) (moves : List Move) :
    (runMoves stored moves).2.flatten.filterMap Event.connectionRequest =
      ((runMoves stored moves).2.flatten.filterMap Event.connectionRequest).map
        fun r => (r.1, ConnectionRequest.ofSpec stored r.1) := by
  refine (List.map_id _).symm.trans (List.map_congr_left fun r hr => ?_)
  obtain ⟨e, he, hreq⟩ := List.mem_filterMap.mp hr
  obtain ⟨calls, hcalls, he⟩ := List.mem_flatten.mp he
  rw [id, ← runMoves_requests_of_mem stored moves calls hcalls e he r.1 r.2 hreq]

end Requests

end FivetranOperator
