import FivetranOperator.Fivetran.Compare

/-!
# What the comparator decides

The declared-versus-live predicate `declaredApplied`, stated from the comparator's contract: the
policy is unset or equal, and every declared schema is live, its live flag unset or equal, and,
when it declares a tables map, every declared table is live with its live flag unset or equal
and its declared sync mode empty or equal to the live one. `compareSchemaWithCR` decides it, and
its report says why: the missing schemas in enumeration order, one entry per offending table.

Each loop is proved once: a step lemma for one iteration, then the loop by induction on the
entries left, its accumulator holding exactly the failures seen so far. A nil pointer in the live
response panics the comparator, so the live side is required to hold none.
-/

namespace FivetranOperator

/-- A live flag agrees with the declared one when it is unset or equal. -/
def flagAgrees (live : Option Bool) (declared : Bool) : Bool := live.all fun e => decide (e = declared)

/-- A declared sync mode is met when none is declared or the live one is set and equal. -/
def syncModeAgrees (live : Option String) (declared : String) : Bool :=
  decide (declared = "") || decide (live = some declared)

/-- A declared table is applied in a live table map. -/
def tableApplied (liveTables : GoMap (Option TableResponse)) (name : String) (cr : TableObject) :
    Bool :=
  match liveTables.get? name with
  | some (some live) => flagAgrees live.enabled cr.enabled && syncModeAgrees live.syncMode cr.syncMode
  | _ => false

/-- A declared table entry that is not applied. -/
def tableOffends (liveTables : GoMap (Option TableResponse)) (t : String × Option TableObject) :
    Bool :=
  !t.2.all (tableApplied liveTables t.1)

/-- A declared schema is applied: live, its flag agreeing, and every table of a declared tables
map applied. -/
def schemaApplied (live : SchemaDetails) (name : String) (cr : SchemaObject) : Bool :=
  match live.schemas.get? name with
  | some (some l) =>
    flagAgrees l.enabled cr.enabled && cr.tables.all fun tables => !tables.entries.any (tableOffends l.tables)
  | _ => false

/-- The declared policy is met when none is declared or the live one equals it. -/
def handlingAgrees (live : SchemaDetails) (cr : ConnectorSchemaConfig) : Bool :=
  decide (cr.schemaChangeHandling = "") || decide (live.schemaChangeHandling = cr.schemaChangeHandling)

/-- The declared configuration is applied in the live response. -/
def declaredApplied (live : SchemaDetails) (cr : ConnectorSchemaConfig) : Bool :=
  handlingAgrees live cr && cr.schemas.entries.all fun s => s.2.all (schemaApplied live s.1)

/-- No entry of the map is nil. -/
def GoMap.noNil {α : Type} (m : GoMap (Option α)) : Bool := m.entries.all (·.2.isSome)

/-- The live response holds no nil schema and no nil table. -/
def SchemaDetails.noNil (live : SchemaDetails) : Bool :=
  live.schemas.entries.all fun e =>
    match e.2 with
    | some l => l.tables.noNil
    | none => false

/-- The declared configuration holds no nil schema and no nil table. -/
def ConnectorSchemaConfig.noNil (cr : ConnectorSchemaConfig) : Bool :=
  cr.schemas.entries.all fun e =>
    match e.2 with
    | some s => (s.tables.getD GoMap.empty).noNil
    | none => false

/-- A lookup in entries without nil values never reads a nil. -/
theorem GoMap.lookupEntry_ne_some_none {α : Type} (k : String) :
    ∀ {entries : List (String × Option α)}, entries.all (·.2.isSome) = true →
      GoMap.lookupEntry k entries ≠ some none
  | [], _ => fun h => nomatch h
  | e :: rest, h => by
    simp only [List.all_cons, Bool.and_eq_true] at h
    unfold GoMap.lookupEntry
    split
    · intro he
      simp [Option.some.inj he] at h
    · exact GoMap.lookupEntry_ne_some_none k h.2

/-- A map without nil entries answers no lookup with nil. -/
theorem GoMap.get?_ne_some_none {α : Type} {m : GoMap (Option α)} (h : m.noNil = true) (k : String) :
    m.get? k ≠ some none :=
  GoMap.lookupEntry_ne_some_none k h

section Tables

variable {liveTables : GoMap (Option TableResponse)}

/-- A live table has no issue exactly when its flag and sync mode agree. -/
theorem tableIssues_eq_nil_iff (live : TableResponse) (cr : TableObject) :
    tableIssues live cr = [] ↔
      (flagAgrees live.enabled cr.enabled && syncModeAgrees live.syncMode cr.syncMode) = true := by
  unfold tableIssues flagAgrees syncModeAgrees
  cases live.enabled <;> cases live.syncMode <;> by_cases hs : cr.syncMode = "" <;>
    simp_all [Option.all]

/-- One iteration of `compareTablesWithFivetran` adds one issue for an offending table, none for
an applied one. -/
theorem compareTable_ok (hlive : liveTables.noNil = true) (acc : List String) (name : String)
    (cr : TableObject) :
    ∃ issue, compareTable liveTables acc name (some cr) =
      .ok (acc ++ if tableApplied liveTables name cr then [] else [issue]) := by
  unfold compareTable tableApplied
  cases hget : liveTables.get? name with
  | none => exact ⟨_, rfl⟩
  | some liveObj =>
    cases liveObj with
    | none => exact absurd hget (GoMap.get?_ne_some_none hlive name)
    | some live =>
      by_cases hissues : tableIssues live cr = []
      · refine ⟨"", ?_⟩
        simp only [deref, bind, Except.bind, hissues, List.isEmpty_nil, if_true,
          (tableIssues_eq_nil_iff live cr).mp hissues, List.append_nil, pure, Except.pure]
      · refine ⟨"table " ++ name ++ ": " ++ String.intercalate ", " (tableIssues live cr), ?_⟩
        have happlied := mt (tableIssues_eq_nil_iff live cr).mpr hissues
        simp only [Bool.not_eq_true] at happlied
        simp only [deref, bind, Except.bind, List.isEmpty_iff, hissues, if_false, happlied,
          Bool.false_eq_true, pure, Except.pure]

/-- `compareTablesWithFivetran`'s loop appends one issue per offending table, in enumeration
order. -/
theorem compareTables_ok (hlive : liveTables.noNil = true) :
    ∀ (acc : List String) (entries : List (String × Option TableObject)),
      entries.all (·.2.isSome) = true →
      ∃ issues, compareTables liveTables acc entries = .ok (acc ++ issues) ∧
        issues.length = entries.countP (tableOffends liveTables)
  | acc, [], _ => ⟨[], by simp [compareTables]⟩
  | acc, (name, crTableObj) :: rest, h => by
    simp only [List.all_cons, Bool.and_eq_true] at h
    obtain ⟨cr, rfl⟩ := Option.isSome_iff_exists.mp h.1
    obtain ⟨issue, hstep⟩ := compareTable_ok hlive acc name cr
    obtain ⟨issues, hrest, hlen⟩ := compareTables_ok hlive
      (acc ++ if tableApplied liveTables name cr then [] else [issue]) rest h.2
    refine ⟨(if tableApplied liveTables name cr then [] else [issue]) ++ issues, ?_, ?_⟩
    · simp only [compareTables, bind, Except.bind, hstep, hrest, List.append_assoc]
    · cases happlied : tableApplied liveTables name cr <;>
        simp [tableOffends, happlied, hlen, List.countP_cons, Nat.add_comm]

end Tables

/-- A value found under a key is one of the map's entries. -/
theorem GoMap.mem_of_lookupEntry {α : Type} {k : String} {v : α} :
    ∀ {entries : List (String × α)}, GoMap.lookupEntry k entries = some v → (k, v) ∈ entries
  | [], h => nomatch h
  | e :: rest, h => by
    unfold GoMap.lookupEntry at h
    split at h
    · rename_i he
      cases h
      exact he ▸ List.mem_cons_self _ _
    · exact List.mem_cons_of_mem _ (GoMap.mem_of_lookupEntry h)

/-- The report's flag is set exactly when one of its parts is non-empty. -/
def SchemaMismatch.Consistent (m : SchemaMismatch) : Prop :=
  m.hasMismatch = true ↔ m.schemaChangeHandling.isSome = true ∨ m.missingSchemas ≠ [] ∨
    m.schemaMismatches.entries ≠ [] ∨ m.tableMismatches.entries ≠ []

/-- An assignment leaves a map with entries. -/
theorem GoMap.insert_entries_ne_nil {α : Type} (m : GoMap α) (k : String) (v : α) :
    (m.insert k v).entries ≠ [] := by
  simp [GoMap.insert]

/-- What one iteration of `CompareSchemaWithCR`'s loop does to the report. -/
structure ReportStep (live : SchemaDetails) (name : String) (s : SchemaObject)
    (m m' : SchemaMismatch) : Prop where
  handling : m'.schemaChangeHandling = m.schemaChangeHandling
  hasMismatch : m'.hasMismatch = (m.hasMismatch || !schemaApplied live name s)
  missing : m'.missingSchemas =
    m.missingSchemas ++ if (live.schemas.get? name).isNone then [name] else []
  consistent : m.Consistent → m'.Consistent
  otherTables : ∀ n, n ≠ name → m'.tableMismatches.get? n = m.tableMismatches.get? n
  ownTables : m.tableMismatches.get? name = none → ∀ l tables, live.schemas.get? name = some (some l) →
    s.tables = some tables →
      ((m'.tableMismatches.get? name).getD []).length = tables.entries.countP (tableOffends l.tables)

section Schemas

variable {live : SchemaDetails}

/-- One iteration of the loop over the declared schemas, on a live response without nils. -/
theorem compareSchema_ok (hlive : live.noNil = true) (m : SchemaMismatch) (name : String)
    (s : SchemaObject) (hdecl : (s.tables.getD GoMap.empty).noNil = true) :
    ∃ m', compareSchema live m name (some s) = .ok m' ∧ ReportStep live name s m m' := by
  unfold compareSchema
  cases hget : live.schemas.get? name with
  | none =>
    refine ⟨_, rfl, ⟨rfl, by simp [schemaApplied, hget], by simp [hget], fun _ => ?_, fun _ _ => rfl,
      fun _ _ _ h => by simp [hget] at h⟩⟩
    simp [SchemaMismatch.Consistent]
  | some liveObj =>
    have hmem := GoMap.mem_of_lookupEntry hget
    have hentry := List.all_eq_true.mp hlive _ hmem
    cases liveObj with
    | none => simp at hentry
    | some l =>
      have hl : l.tables.noNil = true := hentry
      have happlied : schemaApplied live name s = (flagAgrees l.enabled s.enabled &&
          s.tables.all fun tables => !tables.entries.any (tableOffends l.tables)) := by
        simp [schemaApplied, hget]
      have hpresent : (live.schemas.get? name).isNone = false := by simp [hget]
      cases htables : s.tables with
      | none =>
        refine ⟨_, by simp only [deref, bind, Except.bind, htables, pure, Except.pure]; rfl, ?_⟩
        refine ⟨by (repeat' split) <;> rfl, ?_,
          by simp only [hpresent, Bool.false_eq_true, if_false, List.append_nil]; (repeat' split) <;> rfl,
          fun hm => ?_,
          fun _ _ => by (repeat' split) <;> rfl, fun _ _ _ _ h => by simp [htables] at h⟩
        · rw [happlied, htables]
          (repeat' split) <;> simp_all [flagAgrees]
        · (repeat' split) <;> first | exact hm | simp [SchemaMismatch.Consistent, GoMap.insert_entries_ne_nil]
      | some tables =>
        have hdecl' : tables.noNil = true := by simpa [htables] using hdecl
        obtain ⟨issues, hissues, hlen⟩ := compareTables_ok hl [] tables.entries hdecl'
        have hcompare : compareTablesWithFivetran l.tables tables = .ok issues := by
          simpa using hissues
        have hempty : issues.isEmpty = !tables.entries.any (tableOffends l.tables) := by
          rw [Bool.eq_iff_iff]
          simp [List.isEmpty_iff, ← List.length_eq_zero, hlen, List.countP_eq_zero]
        refine ⟨_, by simp only [deref, bind, Except.bind, htables, hcompare, pure, Except.pure]; rfl, ?_⟩
        refine ⟨by (repeat' split) <;> rfl, ?_,
          by simp only [hpresent, Bool.false_eq_true, if_false, List.append_nil]; (repeat' split) <;> rfl,
          fun hm => ?_,
          fun n hn => ?_, fun hnone l' tables' hget' htables' => ?_⟩
        · rw [happlied, htables, Option.all_some, ← hempty]
          (repeat' split) <;> simp_all [flagAgrees]
        · (repeat' split) <;> first | exact hm | simp [SchemaMismatch.Consistent, GoMap.insert_entries_ne_nil]
        · (repeat' split) <;> simp [GoMap.get?_insert_ne _ _ hn]
        · obtain rfl : l' = l := by simpa [hget] using hget'.symm
          obtain rfl : tables' = tables := by simpa [htables] using htables'.symm
          rw [← hlen]
          (repeat' split) <;> simp_all [List.isEmpty_iff]

/-- What `CompareSchemaWithCR`'s loop leaves of the report after a list of declared schemas. -/
structure ReportRun (live : SchemaDetails) (entries : List (String × Option SchemaObject))
    (m m' : SchemaMismatch) : Prop where
  handling : m'.schemaChangeHandling = m.schemaChangeHandling
  hasMismatch : m'.hasMismatch = (m.hasMismatch || entries.any fun e => !e.2.all (schemaApplied live e.1))
  missing : m'.missingSchemas =
    m.missingSchemas ++ (entries.map Prod.fst).filter fun n => (live.schemas.get? n).isNone
  consistent : m.Consistent → m'.Consistent
  frame : ∀ n, n ∉ entries.map Prod.fst → m'.tableMismatches.get? n = m.tableMismatches.get? n
  tables : (∀ n ∈ entries.map Prod.fst, m.tableMismatches.get? n = none) →
    ∀ name s tables l, (name, some s) ∈ entries → s.tables = some tables →
      live.schemas.get? name = some (some l) →
      ((m'.tableMismatches.get? name).getD []).length = tables.entries.countP (tableOffends l.tables)

/-- The loop over the declared schemas, each once, none nil. -/
theorem compareSchemas_ok (hlive : live.noNil = true) :
    ∀ (m : SchemaMismatch) (entries : List (String × Option SchemaObject)),
      (entries.map Prod.fst).Nodup →
      (entries.all fun e => match e.2 with
        | some s => (s.tables.getD GoMap.empty).noNil
        | none => false) = true →
      ∃ m', compareSchemas live m entries = .ok m' ∧ ReportRun live entries m m'
  | m, [], _, _ =>
    ⟨m, rfl, ⟨rfl, by simp, by simp, id, fun _ _ => rfl, fun _ _ _ _ _ h => nomatch h⟩⟩
  | m, (name, schemaObj) :: rest, hnodup, hdecl => by
    simp only [List.all_cons, Bool.and_eq_true] at hdecl
    obtain ⟨s, rfl⟩ : ∃ s, schemaObj = some s := by cases schemaObj <;> simp_all
    simp only [List.map_cons, List.nodup_cons] at hnodup
    obtain ⟨m₁, hstep, hm₁⟩ := compareSchema_ok hlive m name s hdecl.1
    obtain ⟨m', hrest, hm'⟩ := compareSchemas_ok hlive m₁ rest hnodup.2 hdecl.2
    refine ⟨m', by simp only [compareSchemas, bind, Except.bind, hstep, hrest], ?_⟩
    refine ⟨hm'.handling.trans hm₁.handling, ?_, ?_, fun h => hm'.consistent (hm₁.consistent h),
      fun n hn => ?_, fun hfresh name' s' tables l hmem htables hget => ?_⟩
    · rw [hm'.hasMismatch, hm₁.hasMismatch]
      simp [Bool.or_assoc]
    · rw [hm'.missing, hm₁.missing]
      by_cases h : (live.schemas.get? name).isNone <;> simp [h, List.filter_cons]
    · simp only [List.map_cons, List.mem_cons, not_or] at hn
      rw [hm'.frame n hn.2, hm₁.otherTables n hn.1]
    · have hfresh₁ : ∀ n ∈ rest.map Prod.fst, m₁.tableMismatches.get? n = none := fun n hn => by
        rw [hm₁.otherTables n fun h => hnodup.1 (h ▸ hn)]
        exact hfresh n (List.mem_cons_of_mem _ hn)
      rcases List.mem_cons.mp hmem with heq | hmem'
      · cases heq
        rw [hm'.frame name hnodup.1]
        exact hm₁.ownTables (hfresh name (List.mem_cons_self _ _)) l tables hget htables
      · exact hm'.tables hfresh₁ name' s' tables l hmem' htables hget

end Schemas

/-- The report `CompareSchemaWithCR` starts from: the policy mismatch, if any. -/
def initialReport (live : SchemaDetails) (cr : ConnectorSchemaConfig) : SchemaMismatch :=
  if cr.schemaChangeHandling ≠ "" ∧ live.schemaChangeHandling ≠ cr.schemaChangeHandling then
    { SchemaMismatch.empty with
      hasMismatch := true
      schemaChangeHandling := some
        ("expected " ++ cr.schemaChangeHandling ++ ", got " ++ live.schemaChangeHandling) }
  else SchemaMismatch.empty

/-- Against a declared configuration the comparison walks its schemas from the initial report. -/
theorem compareSchemaWithCR_some (live : SchemaDetails) (cr : ConnectorSchemaConfig) :
    compareSchemaWithCR live (some cr) =
      (compareSchemas live (initialReport live cr) cr.schemas.entries).bind
        fun m => .ok (!m.hasMismatch, m) := rfl

/-- The initial report is consistent. -/
theorem initialReport_consistent (live : SchemaDetails) (cr : ConnectorSchemaConfig) :
    (initialReport live cr).Consistent := by
  unfold initialReport
  split <;> simp [SchemaMismatch.Consistent, SchemaMismatch.empty, GoMap.empty]

/-- The initial report mismatches exactly when the change-handling policies differ. -/
theorem initialReport_hasMismatch (live : SchemaDetails) (cr : ConnectorSchemaConfig) :
    (initialReport live cr).hasMismatch = !handlingAgrees live cr := by
  unfold initialReport handlingAgrees
  split <;> simp_all [SchemaMismatch.empty]

/-- On a live response and a declaration without nil entries, `CompareSchemaWithCR` answers
`declaredApplied`. -/
theorem compareSchemaWithCR_eq_declaredApplied (live : SchemaDetails) (cr : ConnectorSchemaConfig)
    (hlive : live.noNil = true) (hdecl : cr.noNil = true) :
    ∃ m, compareSchemaWithCR live (some cr) = .ok (!m.hasMismatch, m) ∧
      (!m.hasMismatch) = declaredApplied live cr := by
  obtain ⟨m, hloop, hrun⟩ :=
    compareSchemas_ok hlive (initialReport live cr) cr.schemas.entries cr.schemas.nodup hdecl
  refine ⟨m, by rw [compareSchemaWithCR_some, hloop]; rfl, ?_⟩
  rw [hrun.hasMismatch, initialReport_hasMismatch]
  simp [declaredApplied, List.all_eq_not_any_not]

/-- `CompareSchemaWithCR` decides `declaredApplied` on a live response without nil entries, for
every enumeration order of the maps: it returns, its answer is `!HasMismatch`, the flag is set
exactly when a part of the report is non-empty, the missing schemas are the declared ones absent
from the live response, each once and in enumeration order, and each schema's table report has
one entry per offending table. -/
theorem compareSchemaWithCR_decides_applied (live : SchemaDetails) (cr : ConnectorSchemaConfig)
    (hlive : live.noNil = true) (hdecl : cr.noNil = true) :
    compareSchemaWithCR live none = .ok (true, SchemaMismatch.empty) ∧
      ∃ m, compareSchemaWithCR live (some cr) = .ok (!m.hasMismatch, m) ∧
        (!m.hasMismatch) = declaredApplied live cr ∧
        m.Consistent ∧
        m.missingSchemas = cr.schemas.keys.filter (fun n => (live.schemas.get? n).isNone) ∧
        m.missingSchemas.Nodup ∧
        ∀ name s tables l, (name, some s) ∈ cr.schemas.entries → s.tables = some tables →
          live.schemas.get? name = some (some l) →
          ((m.tableMismatches.get? name).getD []).length =
            tables.entries.countP (tableOffends l.tables) := by
  obtain ⟨m, hloop, hrun⟩ :=
    compareSchemas_ok hlive (initialReport live cr) cr.schemas.entries cr.schemas.nodup hdecl
  have hmissing : m.missingSchemas = cr.schemas.keys.filter fun n => (live.schemas.get? n).isNone := by
    rw [hrun.missing]
    unfold initialReport
    split <;> rfl
  refine ⟨rfl, m, by rw [compareSchemaWithCR_some, hloop]; rfl, ?_,
    hrun.consistent (initialReport_consistent live cr), hmissing,
    hmissing ▸ cr.schemas.nodup.filter _, hrun.tables fun n _ => ?_⟩
  · rw [hrun.hasMismatch, initialReport_hasMismatch]
    simp [declaredApplied, List.all_eq_not_any_not]
  · unfold initialReport
    split <;> rfl

/-- With no live schema, both declared schemas are reported missing, in enumeration order. -/
theorem compareSchemaWithCR_decides_applied_sales :
    ∃ m, compareSchemaWithCR noLiveSchemas (some ⟨salesFirst, ""⟩) = .ok (!m.hasMismatch, m) ∧
      m.missingSchemas = ["sales", "billing"] :=
  let ⟨m, hm, _, _, hmissing, _⟩ :=
    (compareSchemaWithCR_decides_applied noLiveSchemas ⟨salesFirst, ""⟩ rfl rfl).2
  ⟨m, hm, hmissing.trans rfl⟩

/-- A live response whose `public` schema is a nil pointer. -/
def nilPublicLive : SchemaDetails := ⟨"", "", ⟨[("public", none)], by decide⟩⟩

/-- A declaration of the `public` schema alone. -/
def publicDeclared : ConnectorSchemaConfig := ⟨⟨[("public", some ⟨true, none⟩)], by decide⟩, ""⟩

/-- A nil live schema pointer under a declared name panics the comparator instead of answering. -/
theorem compareSchemaWithCR_nil_live_panics :
    publicDeclared.noNil = true ∧
      compareSchemaWithCR nilPublicLive (some publicDeclared) = .error nilDereference :=
  ⟨rfl, rfl⟩

end FivetranOperator
