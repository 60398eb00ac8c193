import FivetranOperator.Controller.Schema

/-!
# The drift protocol

`reconcileSchema` fetches the live schema, reloads it when the provider has none, applies the
declared tree, fetches again and compares; on a mismatch it reloads, applies, fetches and compares
once more, and a second mismatch is `ErrSchemaMismatchAfterRetry`. Over every sequence of answers
it makes at most two reloads, two updates and three fetches; it returns nil only after a fetch
whose answer compares equal to the spec; and it fails with the sentinel exactly when both
post-apply comparisons mismatched and every call succeeded, a `NotFound_SchemaConfig` answer to
the first fetch apart.

The proof follows the code with a Hoare logic over returns and aborts, `Triple`. Its assertions
read the calls a run has added to the trace since it began (`World.After`); the answer to each
call is found by its number. `Progress` is the assertion between the steps of the protocol, and
every abort is checked against `DriftAbort` where it happens.
-/

namespace FivetranOperator

open FivetranConnector

section Calls

/-- A call that succeeded: a write accepted, a create answered with an ID, a provider call
answered without error. -/
def Event.ok : Event → Bool
  | .update _ accepted => accepted
  | .statusUpdate _ accepted => accepted
  | .createConnection _ id => id.isSome
  | .getConnection _ ok => ok
  | .updateConnection _ _ ok => ok
  | .deleteConnection _ ok => ok
  | .runSetupTests _ _ _ ok => ok
  | .getSchemaDetails _ ok => ok
  | .reloadSchema _ _ ok => ok
  | .updateSchema _ _ ok => ok

/-- A `GetSchemaDetails` call. -/
def Event.isGetSchemaDetails : Event → Bool
  | .getSchemaDetails _ _ => true
  | _ => false

/-- A `ReloadSchema` call. -/
def Event.isReloadSchema : Event → Bool
  | .reloadSchema _ _ _ => true
  | _ => false

/-- An `UpdateSchema` call. -/
def Event.isUpdateSchema : Event → Bool
  | .updateSchema _ _ _ => true
  | _ => false

/-- The answers to the `GetSchemaDetails` calls among `calls`, the first of which has number `n`. -/
def fetchAnswers (env : Responses) : Nat → List Event → List (SchemaDetails × Option APIError)
  | _, [] => []
  | n, e :: rest =>
    if e.isGetSchemaDetails then env.getSchemaDetails n :: fetchAnswers env (n + 1) rest
    else fetchAnswers env (n + 1) rest

/-- The answers to the fetches of a trace split with the trace. -/
theorem fetchAnswers_append (env : Responses) (t : List Event) :
    ∀ (n : Nat) (s : List Event),
      fetchAnswers env n (s ++ t) = fetchAnswers env n s ++ fetchAnswers env (n + s.length) t
  | _, [] => rfl
  | n, e :: s => by
    rw [List.cons_append, fetchAnswers, fetchAnswers, fetchAnswers_append env t (n + 1) s,
      List.length_cons, Nat.add_assoc, Nat.add_comm 1]
    split <;> rfl

/-- One answer per fetch. -/
theorem length_fetchAnswers (env : Responses) :
    ∀ (n : Nat) (s : List Event), (fetchAnswers env n s).length = s.countP Event.isGetSchemaDetails
  | _, [] => rfl
  | n, e :: s => by
    rw [fetchAnswers, List.countP_cons, ← length_fetchAnswers env (n + 1) s]
    split <;> simp [*]

end Calls

/-- `w'` is `w` after the calls `calls`: the same answers, each call recorded and counted once. -/
structure World.After (w : World) (calls : List Event) (w' : World) : Prop where
  env : w'.env = w.env
  trace : w'.trace = w.trace ++ calls
  count : w'.calls = w.calls + calls.length

namespace World.After

variable {w w₁ w₂ : World} {s t : List Event}

/-- Two stretches of a run make one. -/
theorem trans (h₁ : w.After s w₁) (h₂ : w₁.After t w₂) : w.After (s ++ t) w₂ :=
  ⟨h₂.env.trans h₁.env, by rw [h₂.trace, h₁.trace, List.append_assoc],
    by rw [h₂.count, h₁.count, List.length_append, Nat.add_assoc]⟩

/-- Recording a call appends it. -/
theorem record (w : World) (e : Event) : w.After [e] (w.record e) := ⟨rfl, rfl, rfl⟩

/-- An accepted `Update` appends its event. -/
theorem afterUpdate (w : World) : w.After [.update w.connector true] w.afterUpdate := ⟨rfl, rfl, rfl⟩

/-- An accepted `Status().Update` appends its event. -/
theorem afterStatusUpdate (w : World) : w.After [.statusUpdate w.connector true] w.afterStatusUpdate :=
  ⟨rfl, rfl, rfl⟩

/-- An edit appends nothing. -/
theorem edit (w : World) (c : FivetranConnector) : w.After [] { w with connector := c } :=
  ⟨rfl, (List.append_nil _).symm, rfl⟩

/-- The calls between two worlds are determined by them. -/
theorem calls_unique (h : w.After s w₁) (h' : w.After t w₁) : s = t :=
  List.append_cancel_left (h.trace.symm.trans h'.trace)

end World.After

/-- From worlds satisfying `pre`, every return of `x` satisfies `post` and every abort `abort`. -/
structure Triple {α : Type} (pre : World → Prop) (x : ReconcileM α) (post : α → World → Prop)
    (abort : Abort → World → Prop) : Prop where
  returns : ∀ w, pre w → ∀ a w', x w = .ok a w' → post a w'
  aborts : ∀ w, pre w → ∀ e w', x w = .error e w' → abort e w'

namespace Triple

variable {α β : Type} {pre : World → Prop} {post : β → World → Prop} {abort : Abort → World → Prop}

/-- Sequencing: the continuation starts where the first action returned. -/
theorem bind {x : ReconcileM α} {mid : α → World → Prop} {f : α → ReconcileM β}
    (hx : Triple pre x mid abort) (hf : ∀ a, Triple (mid a) (f a) post abort) :
    Triple pre (x >>= f) post abort where
  returns w hw b w₂ h := by
    rw [bind_apply] at h
    cases hxw : x w with
    | ok a w₁ =>
      rw [hxw, andThen_ok] at h
      exact (hf a).returns w₁ (hx.returns w hw a w₁ hxw) b w₂ h
    | error e w₁ => rw [hxw] at h; cases h
  aborts w hw e w₂ h := by
    rw [bind_apply] at h
    cases hxw : x w with
    | ok a w₁ =>
      rw [hxw, andThen_ok] at h
      exact (hf a).aborts w₁ (hx.returns w hw a w₁ hxw) e w₂ h
    | error e₁ w₁ =>
      rw [hxw, andThen_error] at h
      cases h
      exact hx.aborts w hw _ _ hxw

/-- Consequence: a stronger precondition, weaker postcondition and abort assertion. -/
theorem mono {x : ReconcileM β} {pre' : World → Prop} {post' : β → World → Prop}
    {abort' : Abort → World → Prop} (h : Triple pre' x post' abort') (hpre : ∀ w, pre w → pre' w)
    (hpost : ∀ a w, post' a w → post a w) (habort : ∀ e w, abort' e w → abort e w) :
    Triple pre x post abort where
  returns w hw a w' hx := hpost a w' (h.returns w (hpre w hw) a w' hx)
  aborts w hw e w' hx := habort e w' (h.aborts w (hpre w hw) e w' hx)

/-- A stronger precondition. -/
theorem weaken {x : ReconcileM β} {pre' : World → Prop} (h : Triple pre' x post abort)
    (hpre : ∀ w, pre w → pre' w) : Triple pre x post abort :=
  h.mono hpre (fun _ _ h => h) fun _ _ h => h

/-- A fact that every world satisfying the precondition gives may be used for the whole step. -/
theorem assume {x : ReconcileM β} {P : Prop} (hP : ∀ w, pre w → P) (h : P → Triple pre x post abort) :
    Triple pre x post abort :=
  ⟨fun w hw => (h (hP w hw)).returns w hw, fun w hw => (h (hP w hw)).aborts w hw⟩

/-- A returned value. -/
theorem pure {a : β} (h : ∀ w, pre w → post a w) : Triple pre (Pure.pure a) post abort where
  returns w hw _ _ hx := by cases hx; exact h w hw
  aborts _ _ _ _ hx := by cases hx

/-- An abort. -/
theorem throw {e : Abort} (h : ∀ w, pre w → abort e w) : Triple pre (MonadExcept.throw e) post abort where
  returns _ _ _ _ hx := by cases hx
  aborts w hw _ _ hx := by cases hx; exact h w hw

/-- Retagging an abort. -/
theorem mapAbort {g : Abort → Abort} {x : ReconcileM β} (h : Triple pre x post fun e w => abort (g e) w) :
    Triple pre (FivetranOperator.mapAbort g x) post abort where
  returns w hw a w' hx := by
    rw [mapAbort_apply] at hx
    cases hxw : x w <;> rw [hxw] at hx <;> cases hx
    exact h.returns w hw a w' hxw
  aborts w hw e w' hx := by
    rw [mapAbort_apply] at hx
    cases hxw : x w <;> rw [hxw] at hx <;> cases hx
    exact h.aborts w hw _ w' hxw

/-- The copy is read as it stands. -/
theorem current : Triple pre FivetranOperator.current (fun c w => pre w ∧ w.connector = c) abort :=
  ⟨fun w hw _ _ hx => by cases hx; exact ⟨hw, rfl⟩, fun _ _ _ _ hx => by cases hx⟩

/-- The clock changes nothing. -/
theorem now : Triple pre FivetranOperator.now (fun _ => pre) abort :=
  ⟨fun w hw _ _ hx => by cases hx; exact hw, fun _ _ _ _ hx => by cases hx⟩

/-- A panic check returns its value or aborts with its message. -/
theorem liftPanic {r : Except String β} (h : ∀ w, pre w → ∀ msg, r = .error msg → abort (.panic msg) w) :
    Triple pre (FivetranOperator.liftPanic r) (fun a w => pre w ∧ r = .ok a) abort where
  returns w hw _ _ hx := by cases r <;> cases hx; exact ⟨hw, rfl⟩
  aborts w hw _ _ hx := by cases r <;> cases hx; exact h w hw _ rfl

/-- A lifted result returns its value or aborts with its error. -/
theorem liftExcept {r : Except GoError β} (h : ∀ w, pre w → ∀ ge, r = .error ge → abort (.err ge) w) :
    Triple pre (FivetranOperator.liftExcept r) (fun a w => pre w ∧ r = .ok a) abort where
  returns w hw _ _ hx := by cases r <;> cases hx; exact ⟨hw, rfl⟩
  aborts w hw _ _ hx := by cases r <;> cases hx; exact h w hw _ rfl

/-- An edit of the copy. -/
theorem modifyConnector {f : FivetranConnector → FivetranConnector} :
    Triple pre (FivetranOperator.modifyConnector f)
      (fun _ w' => ∃ w, pre w ∧ w' = { w with connector := f w.connector }) abort :=
  ⟨fun w hw _ _ hx => by cases hx; exact ⟨w, hw, rfl⟩, fun _ _ _ _ hx => by cases hx⟩

/-- `GetSchemaDetails` returns the answer at its call number and records its outcome. -/
theorem getSchemaDetails {connectorID : String} :
    Triple pre (FivetranOperator.getSchemaDetails connectorID)
      (fun a w' => ∃ w, pre w ∧ a = w.env.getSchemaDetails w.calls ∧
        w' = w.record (.getSchemaDetails connectorID a.2.isNone)) abort :=
  ⟨fun w hw _ _ hx => by cases hx; exact ⟨w, hw, rfl, rfl⟩, fun _ _ _ _ hx => by cases hx⟩

/-- A provider call returns its answer and records its success, or aborts with its error. -/
theorem providerCall {answer : Responses → Nat → Except APIError β} {event : Bool → Event}
    (h : ∀ w, pre w → ∀ ge, answer w.env w.calls = .error ge → abort (.err (.api ge)) (w.record (event false))) :
    Triple pre (FivetranOperator.providerCall answer event)
      (fun _ w' => ∃ w, pre w ∧ w' = w.record (event true)) abort where
  returns w hw _ _ hx := by
    unfold FivetranOperator.providerCall at hx
    split at hx <;> cases hx
    exact ⟨w, hw, rfl⟩
  aborts w hw _ _ hx := by
    unfold FivetranOperator.providerCall at hx
    split at hx <;> cases hx
    exact h w hw _ ‹_›

/-- An `Update` is accepted, or aborts with the server's message. -/
theorem update (h : ∀ w, pre w → ∀ msg, w.env.kubeWrite w.calls = some msg →
      abort (.err (.text msg)) (w.record (.update w.connector false))) :
    Triple pre FivetranOperator.update (fun _ w' => ∃ w, pre w ∧ w' = w.afterUpdate) abort where
  returns w hw _ _ hx := by
    unfold FivetranOperator.update at hx
    split at hx <;> cases hx
    exact ⟨w, hw, rfl⟩
  aborts w hw _ _ hx := by
    unfold FivetranOperator.update at hx
    split at hx <;> cases hx
    exact h w hw _ ‹_›

/-- A `Status().Update` is accepted, or aborts with the server's message. -/
theorem statusUpdate (h : ∀ w, pre w → ∀ msg, w.env.kubeWrite w.calls = some msg →
      abort (.err (.text msg)) (w.record (.statusUpdate w.connector false))) :
    Triple pre FivetranOperator.statusUpdate (fun _ w' => ∃ w, pre w ∧ w' = w.afterStatusUpdate)
      abort where
  returns w hw _ _ hx := by
    unfold FivetranOperator.statusUpdate at hx
    split at hx <;> cases hx
    exact ⟨w, hw, rfl⟩
  aborts w hw _ _ hx := by
    unfold FivetranOperator.statusUpdate at hx
    split at hx <;> cases hx
    exact h w hw _ ‹_›

end Triple

/-- The error wraps `ErrSchemaMismatchAfterRetry`. -/
def Abort.isMismatchAfterRetry (e : Abort) : Prop :=
  ∃ ge, e = .err ge ∧ ge.is .schemaMismatchAfterRetry = true

/-- Wrapping an error keeps what it wraps. -/
theorem Abort.isMismatchAfterRetry_mapErr (pre post : String) (e : Abort) :
    (e.mapErr (.wrap pre · post)).isMismatchAfterRetry ↔ e.isMismatchAfterRetry := by
  cases e <;> simp [Abort.mapErr, Abort.isMismatchAfterRetry]

/-- A run's calls within the protocol's budget: three fetches, two reloads, two updates. -/
def WithinBudget (calls : List Event) : Prop :=
  calls.countP Event.isGetSchemaDetails ≤ 3 ∧ calls.countP Event.isReloadSchema ≤ 2 ∧
    calls.countP Event.isUpdateSchema ≤ 2

/-- No call of a run from `w` failed, a `NotFound_SchemaConfig` answer to its first call apart. -/
def NoFailedCall (w : World) (calls : List Event) : Prop :=
  (∀ e ∈ calls.head?, e.ok = false → (w.env.getSchemaDetails w.calls).1.code = schemaNotFoundError) ∧
    ∀ e ∈ calls.tail, e.ok = true

/-- A run from `w` fetched three times, and the answers to the last two were schemas that both
mismatched the spec. -/
def MismatchedTwice (w : World) (calls : List Event) : Prop :=
  ∃ first d₁ m₁ d₂ m₂, fetchAnswers w.env w.calls calls = [first, (d₁, none), (d₂, none)] ∧
    compareSchemaWithCR d₁ w.connector.spec.connectorSchemas = .ok (false, m₁) ∧
    compareSchemaWithCR d₂ w.connector.spec.connectorSchemas = .ok (false, m₂)

section Drift

variable (connectorID : String) (w₀ : World)

/-- How `reconcileSchema` run from `w₀` may abort: within budget, and with the sentinel exactly
when both post-apply comparisons mismatched and no call failed. -/
def DriftAbort (e : Abort) (w : World) : Prop :=
  ∃ calls, w₀.After calls w ∧ WithinBudget calls ∧
    (e.isMismatchAfterRetry ↔ MismatchedTwice w₀ calls ∧ NoFailedCall w₀ calls)

/-- How `reconcileSchema` run from `w₀` may return: within budget, its last fetch answered a
schema that compares equal to the spec. -/
def DriftReturn (w : World) : Prop :=
  ∃ calls, w₀.After calls w ∧ WithinBudget calls ∧ ∃ d m,
    (fetchAnswers w₀.env w₀.calls calls).getLast? = some (d, none) ∧
    compareSchemaWithCR d w₀.connector.spec.connectorSchemas = .ok (true, m)

/-- The protocol run from `w₀` has reached `w`: the first call fetched the schema and failed at
most with `NotFound_SchemaConfig`, every later call succeeded, the later fetches answered
`later`, at most `reloads` reloads and `updates` updates were made, and the spec is as it was. -/
structure Progress (later : List (SchemaDetails × Option APIError)) (reloads updates : Nat)
    (w : World) : Prop where
  spec : w.connector.spec = w₀.connector.spec
  calls : ∃ rest, w₀.After (.getSchemaDetails connectorID (w₀.env.getSchemaDetails w₀.calls).2.isNone :: rest) w ∧
    (∀ e ∈ rest, e.ok = true) ∧ fetchAnswers w₀.env (w₀.calls + 1) rest = later ∧
    rest.countP Event.isReloadSchema ≤ reloads ∧ rest.countP Event.isUpdateSchema ≤ updates
  handled : (w₀.env.getSchemaDetails w₀.calls).2.isSome →
    (w₀.env.getSchemaDetails w₀.calls).1.code = schemaNotFoundError

/-- The run has reached `w` within budget, and its last fetch answered a schema equal to the spec. -/
def Verified (w : World) : Prop :=
  ∃ later r u, Progress connectorID w₀ later r u w ∧ later.length ≤ 2 ∧ r ≤ 2 ∧ u ≤ 2 ∧
    ∃ d m, later.getLast? = some (d, none) ∧
      compareSchemaWithCR d w₀.connector.spec.connectorSchemas = .ok (true, m)

variable {connectorID w₀}

/-- Wrapping an error keeps an abort of the protocol. -/
theorem DriftAbort.mapErr {e : Abort} {w : World} (h : DriftAbort w₀ e w) (pre post : String) :
    DriftAbort w₀ (e.mapErr (.wrap pre · post)) w := by
  obtain ⟨calls, hafter, hbudget, hiff⟩ := h
  exact ⟨calls, hafter, hbudget, (Abort.isMismatchAfterRetry_mapErr pre post e).trans hiff⟩

/-- A step wrapped by \x60wrapErr\x60 aborts as the protocol allows if the step does. -/
theorem Triple.wrapErr {α : Type} {pre : World → Prop} {x : ReconcileM α} {post : α → World → Prop}
    (h : Triple pre x post (DriftAbort w₀)) (p : String) :
    Triple pre (FivetranOperator.wrapErr p x) post (DriftAbort w₀) :=
  .mapAbort (h.mono (fun _ h => h) (fun _ _ h => h) fun _ _ h => h.mapErr p "")

section Progress

variable {later : List (SchemaDetails × Option APIError)} {r u : Nat} {w w' : World}

/-- The first fetch, answered without error or with \x60NotFound_SchemaConfig\x60, starts the run. -/
theorem Progress.start (hhandled : (w₀.env.getSchemaDetails w₀.calls).2.isSome →
      (w₀.env.getSchemaDetails w₀.calls).1.code = schemaNotFoundError) :
    Progress connectorID w₀ [] 0 0
      (w₀.record (.getSchemaDetails connectorID (w₀.env.getSchemaDetails w₀.calls).2.isNone)) :=
  ⟨rfl, ⟨[], World.After.record _ _, fun _ h => (nomatch h), rfl, le_rfl, le_rfl⟩, hhandled⟩

/-- Progress allows more reloads and applies than were made. -/
theorem Progress.mono (hw : Progress connectorID w₀ later r u w) {r' u' : Nat} (hr : r ≤ r')
    (hu : u ≤ u') : Progress connectorID w₀ later r' u' w := by
  obtain ⟨rest, hafter, hok, hlater, hr₀, hu₀⟩ := hw.calls
  exact ⟨hw.spec, ⟨rest, hafter, hok, hlater, hr₀.trans hr, hu₀.trans hu⟩, hw.handled⟩

/-- Successful calls that keep the spec advance the run. -/
theorem Progress.advance (hw : Progress connectorID w₀ later r u w) {t : List Event}
    (hafter : w.After t w') (hok : ∀ e ∈ t, e.ok = true) (hspec : w'.connector.spec = w.connector.spec) :
    Progress connectorID w₀ (later ++ fetchAnswers w₀.env w.calls t)
      (r + t.countP Event.isReloadSchema) (u + t.countP Event.isUpdateSchema) w' := by
  obtain ⟨rest, hrest, hokRest, hlater, hr, hu⟩ := hw.calls
  have hcalls : w.calls = w₀.calls + 1 + rest.length := by
    rw [hrest.count, List.length_cons]
    omega
  refine ⟨hspec.trans hw.spec, ⟨rest ++ t, hrest.trans hafter, ?_, ?_, ?_, ?_⟩, hw.handled⟩
  · intro e he
    rcases List.mem_append.mp he with he | he
    exacts [hokRest e he, hok e he]
  · rw [fetchAnswers_append, hlater, hcalls]
  · rw [List.countP_append]
    omega
  · rw [List.countP_append]
    omega

/-- An edit that keeps the spec keeps the run where it is. -/
theorem Progress.edit (hw : Progress connectorID w₀ later r u w) (c : FivetranConnector)
    (hspec : c.spec = w.connector.spec) : Progress connectorID w₀ later r u { w with connector := c } := by
  simpa [fetchAnswers] using hw.advance (World.After.edit w c) (fun _ h => nomatch h) hspec

/-- Progress keeps the answers. -/
theorem Progress.env (hw : Progress connectorID w₀ later r u w) : w.env = w₀.env := by
  obtain ⟨_, hafter, -⟩ := hw.calls
  exact hafter.env

/-- The fetch answers of a run that began with the first fetch: its answer, then the later ones. -/
theorem fetchAnswers_first {rest : List Event} (hlater : fetchAnswers w₀.env (w₀.calls + 1) rest = later)
    (t : List Event) (ht : t.countP Event.isGetSchemaDetails = 0) :
    fetchAnswers w₀.env w₀.calls
        (.getSchemaDetails connectorID (w₀.env.getSchemaDetails w₀.calls).2.isNone :: (rest ++ t)) =
      w₀.env.getSchemaDetails w₀.calls :: later := by
  have hnone : fetchAnswers w₀.env (w₀.calls + 1 + rest.length) t = [] := by
    rw [← List.length_eq_zero, length_fetchAnswers, ht]
  simp [fetchAnswers, Event.isGetSchemaDetails, fetchAnswers_append, hlater, hnone]

/-- A run in progress that stops after the calls `t` has stayed within budget if `t` leaves room. -/
theorem Progress.stop (hw : Progress connectorID w₀ later r u w) {t : List Event} (hafter : w.After t w')
    (hbudget : later.length + t.countP Event.isGetSchemaDetails ≤ 2 ∧
      r + t.countP Event.isReloadSchema ≤ 2 ∧ u + t.countP Event.isUpdateSchema ≤ 2) :
    ∃ rest, w₀.After (.getSchemaDetails connectorID (w₀.env.getSchemaDetails w₀.calls).2.isNone ::
        (rest ++ t)) w' ∧
      WithinBudget (.getSchemaDetails connectorID (w₀.env.getSchemaDetails w₀.calls).2.isNone ::
        (rest ++ t)) ∧
      (∀ e ∈ rest, e.ok = true) ∧ fetchAnswers w₀.env (w₀.calls + 1) rest = later := by
  obtain ⟨rest, hrest, hok, hlater, hr, hu⟩ := hw.calls
  have hget := length_fetchAnswers w₀.env (w₀.calls + 1) rest
  rw [hlater] at hget
  refine ⟨rest, hrest.trans hafter, ?_, hok, hlater⟩
  simp only [WithinBudget, List.countP_cons, List.countP_append, Event.isGetSchemaDetails,
    Event.isReloadSchema, Event.isUpdateSchema, ite_true, Bool.false_eq_true, ite_false]
  omega

/-- A failed call ends the run as the protocol allows, if the budget leaves room for it. -/
theorem Progress.abort_of_failed (hw : Progress connectorID w₀ later r u w) {ev : Event}
    (hfailed : ev.ok = false)
    (hbudget : later.length + [ev].countP Event.isGetSchemaDetails ≤ 2 ∧
      r + [ev].countP Event.isReloadSchema ≤ 2 ∧ u + [ev].countP Event.isUpdateSchema ≤ 2)
    {e : Abort} (he : ¬e.isMismatchAfterRetry) : DriftAbort w₀ e (w.record ev) := by
  obtain ⟨rest, hafter, hbudget', -⟩ := hw.stop (World.After.record w ev) hbudget
  refine ⟨_, hafter, hbudget', iff_of_false he fun ⟨_, _, hok⟩ => ?_⟩
  rw [hok ev (List.mem_append_right _ (List.mem_singleton_self ev))] at hfailed
  cases hfailed

/-- A run in progress may stop without a call, unless its fetches mismatched twice. -/
theorem Progress.abort_of_stop (hw : Progress connectorID w₀ later r u w)
    (hbudget : later.length ≤ 2 ∧ r ≤ 2 ∧ u ≤ 2)
    (hnot : ∀ d₁ d₂, later = [(d₁, none), (d₂, none)] → ∀ m,
      compareSchemaWithCR d₂ w₀.connector.spec.connectorSchemas ≠ .ok (false, m))
    {e : Abort} (he : ¬e.isMismatchAfterRetry) : DriftAbort w₀ e w := by
  obtain ⟨rest, hafter, hbudget', -, hlater⟩ := hw.stop (World.After.edit w w.connector)
    (by simpa using hbudget)
  refine ⟨_, hafter, hbudget', iff_of_false he fun ⟨⟨_, d₁, _, d₂, m₂, hfetch, _, h₂⟩, _⟩ => ?_⟩
  rw [fetchAnswers_first hlater [] rfl, List.cons.injEq] at hfetch
  exact hnot d₁ d₂ hfetch.2 m₂ h₂

/-- Two mismatching comparisons after successful calls end the run with the sentinel. -/
theorem Progress.abort_mismatch {d₁ d₂ : SchemaDetails} {m₁ m₂ : SchemaMismatch}
    (hw : Progress connectorID w₀ [(d₁, none), (d₂, none)] r u w) (hr : r ≤ 2) (hu : u ≤ 2)
    (h₁ : compareSchemaWithCR d₁ w₀.connector.spec.connectorSchemas = .ok (false, m₁))
    (h₂ : compareSchemaWithCR d₂ w₀.connector.spec.connectorSchemas = .ok (false, m₂))
    {ge : GoError} (hge : ge.is .schemaMismatchAfterRetry = true) : DriftAbort w₀ (.err ge) w := by
  obtain ⟨rest, hafter, hbudget, hok, hlater⟩ := hw.stop (World.After.edit w w.connector)
    (by simpa using And.intro hr hu)
  refine ⟨_, hafter, hbudget, iff_of_true ⟨ge, rfl, hge⟩
    ⟨⟨_, d₁, m₁, d₂, m₂, fetchAnswers_first hlater [] rfl, h₁, h₂⟩, ?_, by simpa using hok⟩⟩
  rintro _ ⟨⟩ hfailed
  exact hw.handled (by simpa [Event.ok] using hfailed)

/-- A reload counts one more. -/
theorem Progress.reload (hw : Progress connectorID w₀ later r u w) (excludeMode : String) :
    Progress connectorID w₀ later (r + 1) u (w.record (.reloadSchema connectorID excludeMode true)) := by
  simpa [fetchAnswers, Event.isGetSchemaDetails, Event.isReloadSchema, Event.isUpdateSchema] using
    hw.advance (World.After.record w (.reloadSchema connectorID excludeMode true)) (by simp [Event.ok]) rfl

/-- A schema update counts one more. -/
theorem Progress.updateSchema (hw : Progress connectorID w₀ later r u w) (req : SchemaUpdateRequest) :
    Progress connectorID w₀ later r (u + 1) (w.record (.updateSchema connectorID req true)) := by
  simpa [fetchAnswers, Event.isGetSchemaDetails, Event.isReloadSchema, Event.isUpdateSchema] using
    hw.advance (World.After.record w (.updateSchema connectorID req true)) (by simp [Event.ok]) rfl

/-- A fetch reads the next answer. -/
theorem Progress.fetch (hw : Progress connectorID w₀ later r u w) :
    Progress connectorID w₀ (later ++ [w.env.getSchemaDetails w.calls]) r u
      (w.record (.getSchemaDetails connectorID true)) := by
  simpa [fetchAnswers, Event.isGetSchemaDetails, Event.isReloadSchema, Event.isUpdateSchema, hw.env] using
    hw.advance (World.After.record w (.getSchemaDetails connectorID true)) (by simp [Event.ok]) rfl

/-- An accepted `Update` keeps the progress. -/
theorem Progress.afterUpdate (hw : Progress connectorID w₀ later r u w) :
    Progress connectorID w₀ later r u w.afterUpdate := by
  simpa [fetchAnswers, Event.isGetSchemaDetails, Event.isReloadSchema, Event.isUpdateSchema] using
    hw.advance (World.After.afterUpdate w) (by simp [Event.ok]) rfl

end Progress

section Stages

variable {later : List (SchemaDetails × Option APIError)} {r u : Nat}

/-- A `ReloadSchema` that returns has made one more reload. -/
theorem reloadSchema_triple (hlater : later.length ≤ 1) (hr : r ≤ 1) (hu : u ≤ 2) :
    Triple (Progress connectorID w₀ later r u) (reloadSchema connectorID)
      (fun _ => Progress connectorID w₀ later (r + 1) u) (DriftAbort w₀) := by
  unfold reloadSchema
  refine .bind .current fun _ => .bind (.liftPanic ?_) fun _ => .wrapErr ((Triple.providerCall ?_).mono
    (fun _ h => h) ?_ fun _ _ h => h) _
  · rintro w ⟨hw, -⟩ msg -
    refine hw.abort_of_stop ⟨by omega, by omega, hu⟩ (fun _ _ h => ?_) (by simp [Abort.isMismatchAfterRetry])
    simp [h] at hlater
  · rintro w ⟨⟨hw, -⟩, -⟩ ge -
    exact hw.abort_of_failed (by rfl)
      (by simp [Event.isGetSchemaDetails, Event.isReloadSchema, Event.isUpdateSchema]; omega)
      (by simp [Abort.isMismatchAfterRetry])
  · rintro _ _ ⟨w, ⟨⟨hw, -⟩, -⟩, rfl⟩
    exact hw.reload _

/-- Writing the schema fingerprint changes nothing the protocol counts. -/
theorem updateSchemaHash_triple (hlater : later.length ≤ 2) (hr : r ≤ 2) (hu : u ≤ 2) :
    Triple (Progress connectorID w₀ later r u) updateSchemaHash
      (fun _ => Progress connectorID w₀ later r u) (DriftAbort w₀) := by
  unfold updateSchemaHash
  refine .bind .current fun _ => .bind .modifyConnector fun _ =>
    (Triple.update ?_).mono (fun _ h => h) ?_ fun _ _ h => h
  · rintro _ ⟨w, ⟨hw, -⟩, rfl⟩ msg -
    exact (hw.edit _ (by rfl)).abort_of_failed (by rfl)
      (by simp [Event.isGetSchemaDetails, Event.isReloadSchema, Event.isUpdateSchema]; omega)
      (by simp [Abort.isMismatchAfterRetry])
  · rintro _ _ ⟨_, ⟨w, ⟨hw, -⟩, rfl⟩, rfl⟩
    exact (hw.edit _ (by rfl)).afterUpdate

/-- A build of the request fails with a text error. -/
theorem schemaUpdateRequest_error_is {b : SchemaBuilder} (hb : b.TextErr) {ge : GoError}
    (h : schemaUpdateRequest b = .error ge) (s : Sentinel) : ge.is s = false := by
  unfold schemaUpdateRequest SchemaBuilder.build at h
  cases herr : b.err with
  | none => simp [herr] at h
  | some e =>
    simp only [herr, Except.error.injEq] at h
    subst h
    obtain ⟨msg, rfl⟩ := hb e herr
    rfl

/-- An `applySchema` that returns has made one more update. -/
theorem applySchema_triple (hlater : later.length ≤ 1) (hr : r ≤ 2) (hu : u ≤ 1) :
    Triple (Progress connectorID w₀ later r u) (applySchema connectorID)
      (fun _ => Progress connectorID w₀ later r (u + 1)) (DriftAbort w₀) := by
  have hnot : ∀ d₁ d₂, later = [(d₁, none), (d₂, none)] → ∀ m,
      compareSchemaWithCR d₂ w₀.connector.spec.connectorSchemas ≠ .ok (false, m) := by
    intro _ _ h
    simp [h] at hlater
  unfold applySchema
  refine .bind .current fun c => .bind (.liftPanic ?_) fun builder => .bind (Triple.wrapErr
    (.bind (.liftExcept ?_) fun req => (Triple.providerCall ?_).mono (fun _ h => h) ?_ fun _ _ h => h) _)
    fun _ => updateSchemaHash_triple (by omega) hr (by omega)
  · rintro w ⟨hw, -⟩ msg -
    exact hw.abort_of_stop ⟨by omega, hr, by omega⟩ hnot (by simp [Abort.isMismatchAfterRetry])
  · rintro w ⟨⟨hw, -⟩, hbuilder⟩ ge hge
    have hb : builder.TextErr := by
      cases hconvert : convertSchema c.spec.connectorSchemas <;> rw [hconvert] at hbuilder <;> cases hbuilder
      exact convertSchema_textErr hconvert
    exact hw.abort_of_stop ⟨by omega, hr, by omega⟩ hnot
      (by simp [Abort.isMismatchAfterRetry, schemaUpdateRequest_error_is hb hge])
  · rintro w ⟨⟨⟨hw, -⟩, -⟩, -⟩ ge -
    exact hw.abort_of_failed (by rfl)
      (by simp [Event.isGetSchemaDetails, Event.isReloadSchema, Event.isUpdateSchema]; omega)
      (by simp [Abort.isMismatchAfterRetry])
  · rintro _ _ ⟨w, ⟨⟨⟨hw, -⟩, -⟩, -⟩, rfl⟩
    exact hw.updateSchema req

/-- A fetch after apply that returns has answered without error. -/
theorem fetchSchemaDetails_triple (hlater : later.length ≤ 1) (hr : r ≤ 2) (hu : u ≤ 2) (pre : String) :
    Triple (Progress connectorID w₀ later r u) (fetchSchemaDetails pre connectorID)
      (fun details => Progress connectorID w₀ (later ++ [(details, none)]) r u) (DriftAbort w₀) := by
  unfold fetchSchemaDetails
  refine .bind .getSchemaDetails fun answer => ?_
  obtain ⟨details, _ | e⟩ := answer
  · refine .pure ?_
    rintro _ ⟨w, hw, hanswer, rfl⟩
    simpa [← hanswer] using hw.fetch
  · refine .throw ?_
    rintro _ ⟨w, hw, -, rfl⟩
    exact hw.abort_of_failed (by rfl)
      (by simp [Event.isGetSchemaDetails, Event.isReloadSchema, Event.isUpdateSchema]; omega)
      (by simp [Abort.isMismatchAfterRetry])

/-- Setting the condition after a verified comparison returns as the protocol allows. -/
theorem setCondition_triple (conditionType : String) (status : ConditionStatus) (reason message : String) :
    Triple (Verified connectorID w₀) (setCondition conditionType status reason message)
      (fun _ => DriftReturn w₀) (DriftAbort w₀) := by
  unfold setCondition
  refine .bind .now fun t => .bind .modifyConnector fun _ =>
    (Triple.statusUpdate ?_).mono (fun _ h => h) ?_ fun _ _ h => h
  · rintro _ ⟨w, ⟨later, r, u, hw, hl, hr, hu, -⟩, rfl⟩ msg -
    exact (hw.edit _ (by rfl)).abort_of_failed (by rfl)
      (by simp [Event.isGetSchemaDetails, Event.isReloadSchema, Event.isUpdateSchema]; omega)
      (by simp [Abort.isMismatchAfterRetry])
  · rintro _ _ ⟨_, ⟨w, ⟨later, r, u, hw, hl, hr, hu, d, m, hlast, hcmp⟩, rfl⟩, rfl⟩
    obtain ⟨rest, hafter, hbudget, -, hlater⟩ :=
      (hw.edit (w.connector.withCondition (mkCondition conditionType status reason message t)) rfl).stop
        (World.After.afterStatusUpdate _)
        (by simp [Event.isGetSchemaDetails, Event.isReloadSchema, Event.isUpdateSchema]; omega)
    refine ⟨_, hafter, hbudget, d, m, ?_, hcmp⟩
    rw [fetchAnswers_first hlater _ (by rfl), List.getLast?_cons, hlast]
    rfl

/-- A first fetch that fails otherwise than with `NotFound_SchemaConfig` ends the run. -/
theorem abort_first_fetch (hfail : (w₀.env.getSchemaDetails w₀.calls).2.isSome)
    (hcode : (w₀.env.getSchemaDetails w₀.calls).1.code ≠ schemaNotFoundError)
    {e : Abort} (he : ¬e.isMismatchAfterRetry) :
    DriftAbort w₀ e (w₀.record (.getSchemaDetails connectorID (w₀.env.getSchemaDetails w₀.calls).2.isNone)) := by
  refine ⟨_, World.After.record _ _, by simp [WithinBudget, Event.isGetSchemaDetails,
    Event.isReloadSchema, Event.isUpdateSchema], iff_of_false he fun ⟨_, hhead, _⟩ => ?_⟩
  exact hcode (hhead _ rfl (by simpa [Event.ok] using hfail))

end Stages

/-- `reconcileSchema` run from `w₀` returns and aborts only as the drift protocol allows. -/
theorem reconcileSchema_triple :
    Triple (· = w₀) (reconcileSchema connectorID) (fun _ => DriftReturn w₀) (DriftAbort w₀) := by
  unfold reconcileSchema
  refine .bind .getSchemaDetails fun answer => ?_
  obtain ⟨details, err⟩ := answer
  refine .bind (?_ : Triple _ _ (fun _ => Progress connectorID w₀ [] 1 0) (DriftAbort w₀)) fun _ =>
    .bind (Triple.wrapErr (applySchema_triple (by simp) (by omega) (by omega)) _) fun _ =>
    .bind (fetchSchemaDetails_triple (by simp) (by omega) (by omega) _) fun d₁ =>
    .bind .current fun c => .bind (.liftPanic ?_) fun res => ?_
  · rcases err with _ | e
    · refine .pure ?_
      rintro _ ⟨_, rfl, hanswer, rfl⟩
      rw [hanswer]
      exact (Progress.start fun h => by simp [← hanswer] at h).mono (Nat.zero_le _) le_rfl
    · dsimp only
      split_ifs with hcode
      · refine .throw ?_
        rintro _ ⟨w, rfl, hanswer, rfl⟩
        rw [show (some e).isNone = (w.env.getSchemaDetails w.calls).2.isNone by rw [← hanswer]]
        exact abort_first_fetch (by rw [← hanswer]; rfl) (by rw [← hanswer]; exact hcode)
          (by simp [Abort.isMismatchAfterRetry])
      · refine (Triple.wrapErr (reloadSchema_triple (by simp) (by omega) (by omega)) _).weaken ?_
        rintro _ ⟨w, rfl, hanswer, rfl⟩
        rw [show (some e).isNone = (w.env.getSchemaDetails w.calls).2.isNone by rw [← hanswer]]
        exact Progress.start fun _ => by rw [← hanswer]; exact not_not.mp hcode
  · rintro w ⟨hw, -⟩ msg -
    exact hw.abort_of_stop (by simp) (fun _ _ h => by simp at h) (by simp [Abort.isMismatchAfterRetry])
  · obtain ⟨matched, m₁⟩ := res
    refine Triple.assume (P := compareSchemaWithCR d₁ w₀.connector.spec.connectorSchemas = .ok (matched, m₁))
      (fun w ⟨⟨hw, hc⟩, hcmp⟩ => by rwa [← hc, hw.spec] at hcmp) fun hcmp₁ => ?_
    refine .bind (?_ : Triple _ _ (fun _ => Verified connectorID w₀) (DriftAbort w₀)) fun _ =>
      setCondition_triple _ _ _ _
    cases matched
    · refine .bind ((Triple.wrapErr (reloadSchema_triple (by simp) le_rfl (by omega)) _).weaken
          fun _ h => h.1.1) fun _ =>
        .bind (Triple.wrapErr (applySchema_triple (by simp) (by omega) le_rfl) _) fun _ =>
        .bind (fetchSchemaDetails_triple (by simp) (by omega) (by omega) _) fun d₂ =>
        .bind .current fun c₂ => .bind (.liftPanic ?_) fun res₂ => ?_
      · rintro w ⟨hw, hc⟩ msg hmsg
        refine hw.abort_of_stop (by simp) (fun _ _ h m hcmp => ?_) (by simp [Abort.isMismatchAfterRetry])
        simp only [List.nil_append, List.cons_append, List.cons.injEq, Prod.mk.injEq, and_true] at h
        rw [← h.2, ← hw.spec, hc, hmsg] at hcmp
        cases hcmp
      · obtain ⟨retryMatches, m₂⟩ := res₂
        refine Triple.assume (P := compareSchemaWithCR d₂ w₀.connector.spec.connectorSchemas =
            .ok (retryMatches, m₂)) (fun w ⟨⟨hw, hc⟩, hcmp⟩ => by rwa [← hc, hw.spec] at hcmp)
          fun hcmp₂ => ?_
        cases retryMatches
        · refine .throw ?_
          rintro w ⟨⟨hw, -⟩, -⟩
          exact hw.abort_mismatch (by omega) le_rfl hcmp₁ hcmp₂ rfl
        · refine .pure ?_
          rintro w ⟨⟨hw, -⟩, -⟩
          exact ⟨_, _, _, hw, by simp, by omega, le_rfl, d₂, m₂, by simp, hcmp₂⟩
    · refine .pure ?_
      rintro w ⟨⟨hw, -⟩, -⟩
      exact ⟨_, _, _, hw, by simp, by omega, by omega, d₁, m₁, by simp, hcmp₁⟩


end Drift

/-- The drift protocol over every sequence of answers: `reconcileSchema` stays within two reloads,
two updates and three fetches; it returns nil only when the last schema it fetched compares equal
to the spec; and it fails with `ErrSchemaMismatchAfterRetry` exactly when both post-apply
comparisons mismatched and no call failed, a `NotFound_SchemaConfig` answer to the first fetch
counting as handled. -/
theorem reconcileSchema_drift_protocol (connectorID : String) (w : World) :
    ∃ calls, w.After calls (finalWorld (reconcileSchema connectorID w)) ∧ WithinBudget calls ∧
      (∀ w', reconcileSchema connectorID w = .ok () w' → ∃ d m,
        (fetchAnswers w.env w.calls calls).getLast? = some (d, none) ∧
        compareSchemaWithCR d w.connector.spec.connectorSchemas = .ok (true, m)) ∧
      ((∃ e w', reconcileSchema connectorID w = .error (.err e) w' ∧
          e.is .schemaMismatchAfterRetry = true) ↔
        MismatchedTwice w calls ∧ NoFailedCall w calls) := by
  have h : Triple (· = w) (reconcileSchema connectorID) (fun _ => DriftReturn w) (DriftAbort w) :=
    reconcileSchema_triple
  rcases hrun : reconcileSchema connectorID w with ⟨_, w'⟩ | ⟨e, w'⟩
  · obtain ⟨calls, hafter, hbudget, d, m, hlast, hcmp⟩ := h.returns w rfl () w' hrun
    refine ⟨calls, hafter, hbudget, fun _ _ => ⟨d, m, hlast, hcmp⟩,
      iff_of_false (fun ⟨_, _, h, _⟩ => nomatch h) ?_⟩
    rintro ⟨⟨_, _, _, d₂, m₂, hfetch, -, h₂⟩, -⟩
    rw [hfetch] at hlast
    cases hlast
    rw [hcmp] at h₂
    cases h₂
  · obtain ⟨calls, hafter, hbudget, hiff⟩ := h.aborts w rfl e w' hrun
    refine ⟨calls, hafter, hbudget, fun _ h => (nomatch h), Iff.trans ?_ hiff⟩
    constructor
    · rintro ⟨ge, _, h, hge⟩
      cases h
      exact ⟨ge, rfl, hge⟩
    · rintro ⟨ge, rfl, hge⟩
      exact ⟨ge, w', rfl, hge⟩

end FivetranOperator
