import FivetranOperator.Api.Types

/-!
# Status conditions as a map keyed by type

The list edit `setCondition` (`status_mgmt.go`) makes before it writes the status: the first
condition of the same type is replaced, otherwise the condition is appended. Every caller goes
through it, so a run of writes is a fold of `upsertCondition`.

Each write carries the clock reading `metav1.Now()` as its `LastTransitionTime`, whether or not
the status changed: the timestamp records the last write of its type, not the last transition.
-/

namespace FivetranOperator

/-- The condition list after one `setCondition`. -/
def upsertCondition : List Condition → Condition → List Condition
  | [], condition => [condition]
  | existing :: rest, condition =>
    if existing.type = condition.type then condition :: rest
    else existing :: upsertCondition rest condition

/-- The condition list after a run of `setCondition` calls, in order. -/
def applyConditions (conditions : List Condition) (writes : List Condition) : List Condition :=
  writes.foldl upsertCondition conditions

/-- The entry of a type, if any. -/
def conditionOf (t : String) (conditions : List Condition) : Option Condition :=
  conditions.find? (·.type = t)

/-- The last write of a type in a run, if any. -/
def lastWriteOf (t : String) (writes : List Condition) : Option Condition :=
  writes.reverse.find? (·.type = t)

/-- An upsert keeps the set of types, plus the written one. -/
theorem types_upsertCondition (conditions : List Condition) (c : Condition) :
    (upsertCondition conditions c).map (·.type) =
      if c.type ∈ conditions.map (·.type) then conditions.map (·.type)
      else conditions.map (·.type) ++ [c.type] := by
  induction conditions with
  | nil => simp [upsertCondition]
  | cons e rest ih =>
    by_cases h : e.type = c.type
    · simp [upsertCondition, h]
    · simp only [upsertCondition, h, ite_false, List.map_cons, ih, List.mem_cons, Ne.symm h,
        false_or]
      split <;> simp

/-- An upsert keeps the types pairwise distinct. -/
theorem nodup_upsertCondition {conditions : List Condition} (h : (conditions.map (·.type)).Nodup)
    (c : Condition) : ((upsertCondition conditions c).map (·.type)).Nodup := by
  rw [types_upsertCondition]
  split
  · exact h
  · exact h.append (List.nodup_singleton _) (List.disjoint_singleton.mpr ‹_›)

/-- After an upsert the entry of the written type is the written condition. -/
theorem conditionOf_upsertCondition_self (conditions : List Condition) (c : Condition) :
    conditionOf c.type (upsertCondition conditions c) = some c := by
  induction conditions with
  | nil => simp [upsertCondition, conditionOf]
  | cons e rest ih =>
    by_cases h : e.type = c.type
    · simp [upsertCondition, conditionOf, h]
    · simpa [upsertCondition, conditionOf, h] using ih

/-- An upsert leaves, in order, the entries a filter keeps that drops the written type. -/
theorem filter_upsertCondition {c : Condition} {p : Condition → Bool}
    (hp : ∀ e, e.type = c.type → p e = false) (conditions : List Condition) :
    (upsertCondition conditions c).filter p = conditions.filter p := by
  induction conditions with
  | nil => simp [upsertCondition, hp c rfl]
  | cons e rest ih =>
    by_cases h : e.type = c.type
    · simp [upsertCondition, h, List.filter_cons, hp c rfl, hp e h]
    · simp [upsertCondition, h, List.filter_cons, ih]

/-- A run of writes leaves, in order, the entries a filter keeps that drops every written type. -/
theorem filter_applyConditions {p : Condition → Bool} (writes : List Condition)
    (hp : ∀ w ∈ writes, ∀ e, e.type = w.type → p e = false) (conditions : List Condition) :
    (applyConditions conditions writes).filter p = conditions.filter p := by
  induction writes generalizing conditions with
  | nil => rfl
  | cons w rest ih =>
    calc (applyConditions (upsertCondition conditions w) rest).filter p
        = (upsertCondition conditions w).filter p :=
          ih (fun w' hw' => hp w' (List.mem_cons_of_mem _ hw')) _
      _ = conditions.filter p := filter_upsertCondition (hp w (List.mem_cons_self _ _)) _

/-- An upsert leaves the entry of every other type. -/
theorem conditionOf_upsertCondition_ne (conditions : List Condition) (c : Condition) {t : String}
    (ht : t ≠ c.type) : conditionOf t (upsertCondition conditions c) = conditionOf t conditions := by
  induction conditions with
  | nil => simp [upsertCondition, conditionOf, Ne.symm ht]
  | cons e rest ih =>
    by_cases h : e.type = c.type
    · have : e.type ≠ t := h ▸ Ne.symm ht
      simp [upsertCondition, conditionOf, h, this, Ne.symm ht]
    · by_cases het : e.type = t <;> simp_all [upsertCondition, conditionOf]

/-- Status conditions behave as a map keyed by type. From a list with pairwise distinct types,
any run of writes keeps the types distinct; the entry of each type is its last write, timestamp
included, or the original entry when the type was never written; and the entries of types never
written stay as they were, in order. -/
theorem applyConditions_map_semantics (conditions writes : List Condition)
    (h : (conditions.map (·.type)).Nodup) :
    ((applyConditions conditions writes).map (·.type)).Nodup ∧
      (∀ t, conditionOf t (applyConditions conditions writes) =
        (lastWriteOf t writes).or (conditionOf t conditions)) ∧
      (applyConditions conditions writes).filter (fun c => c.type ∉ writes.map (·.type)) =
        conditions.filter (fun c => c.type ∉ writes.map (·.type)) := by
  refine ⟨?_, ?_, filter_applyConditions writes (fun w hw e he => by simpa [he] using ⟨w, hw, rfl⟩) conditions⟩
  · induction writes generalizing conditions with
    | nil => exact h
    | cons w rest ih => exact ih _ (nodup_upsertCondition h w)
  · induction writes generalizing conditions with
    | nil => simp [applyConditions, lastWriteOf]
    | cons w rest ih =>
      intro t
      rw [show applyConditions conditions (w :: rest) =
        applyConditions (upsertCondition conditions w) rest from rfl, ih _ (nodup_upsertCondition h w)]
      by_cases ht : t = w.type
      · subst ht
        simp only [lastWriteOf, List.reverse_cons, List.find?_append, conditionOf_upsertCondition_self]
        cases List.find? _ rest.reverse <;> simp
      · simp [lastWriteOf, List.find?_append, conditionOf_upsertCondition_ne _ _ ht, Ne.symm ht]

/-- The map semantics from a ready connector, through a failed schema write and a new setup
test entry. -/
theorem applyConditions_map_semantics_ready :
    let conditions : List Condition :=
      [⟨"ConnectorReady", .conditionTrue, "ReconciledSuccessfully", "Connector is ready", 1⟩]
    let writes : List Condition :=
      [⟨"SchemaReady", .conditionFalse, "ReconciliationFailed", "boom", 5⟩,
        ⟨"SetupTestReady", .conditionTrue, "Skipped", "Setup tests skipped", 6⟩]
    (conditions.map (·.type)).Nodup ∧
      ((applyConditions conditions writes).map (·.type)).Nodup ∧
      (∀ t, conditionOf t (applyConditions conditions writes) =
        (lastWriteOf t writes).or (conditionOf t conditions)) ∧
      (applyConditions conditions writes).filter (fun c => c.type ∉ writes.map (·.type)) =
        conditions.filter (fun c => c.type ∉ writes.map (·.type)) := by
  intro conditions writes
  exact ⟨by decide, applyConditions_map_semantics conditions writes (by decide)⟩

/-- A second write of the same status moves the timestamp: `LastTransitionTime` changes although
the status does not. -/
theorem upsertCondition_restamps_same_status :
    ∃ before after : Condition,
      conditionOf "SchemaReady" [⟨"SchemaReady", .conditionTrue, "Skipped", "none", 1⟩] = some before ∧
      conditionOf "SchemaReady" (upsertCondition [⟨"SchemaReady", .conditionTrue, "Skipped", "none", 1⟩]
        ⟨"SchemaReady", .conditionTrue, "Skipped", "none", 2⟩) = some after ∧
      before.status = after.status ∧ before.lastTransitionTime ≠ after.lastTransitionTime :=
  ⟨_, _, rfl, rfl, rfl, by decide⟩

end FivetranOperator
