import FivetranOperator.Controller.ConvertSchema
import FivetranOperator.Fivetran.CompareSpec

/-!
# Applying the declared schema and reading it back

`applySchema` sends the request `convertSchema` builds, and `reconcileSchema` then reads the
schema back and compares it with the declaration. With the provider applying the request as
`applySchemaUpdate` does, the comparison's answer is computed here for every well-declared
configuration and every live response without nil entries: the policy, every schema flag and
every table without columns agree by construction, while a table that declares columns agrees
exactly when its live flag and sync mode already did, since `AddColumn` replaced the table
configuration `AddTable` had set.

The provider's application is described by what a lookup reads afterwards: distinct names are
applied independently, each to the value it had before.
-/

namespace FivetranOperator

/-- The request `UpdateSchema` sends for a well-declared configuration. -/
def declaredRequest (cr : ConnectorSchemaConfig) : SchemaUpdateRequest :=
  ⟨if cr.schemaChangeHandling ≠ "" then some cr.schemaChangeHandling else none,
    GoMap.empty.insertAll (builtEntries builtSchema cr.schemas.entries)⟩

/-- A declared table as the live response holds it; a missing schema or table reads as unset. -/
def liveTableOf (live : SchemaDetails) (schemaName tableName : String) : TableResponse :=
  ((live.schemas.get? schemaName).join.bind fun s => (s.tables.get? tableName).join).getD ⟨none, none⟩

/-- A well-declared configuration converts to the request built from its declared entries. -/
theorem convertSchema_request (cr : ConnectorSchemaConfig) (hwell : wellDeclared cr = true) :
    (convertSchema (some cr)).map schemaUpdateRequest = some (.ok (declaredRequest cr)) := by
  rw [convertSchema_eq cr hwell]
  rfl

section Apply

/-- Distinct table configurations are applied independently, each to the table as it was. -/
theorem applyTableConfigs_eq_insertAll : ∀ (tables : GoMap (Option TableResponse))
    (l : List (String × SchemaConfigTable)), (l.map Prod.fst).Nodup →
    applyTableConfigs tables l =
      tables.insertAll (l.map fun e => (e.1, some (applyTableConfig (tables.get? e.1).join e.2)))
  | _, [], _ => rfl
  | tables, (name, req) :: rest, hnodup => by
    rw [List.map_cons, List.nodup_cons] at hnodup
    rw [applyTableConfigs, applyTableConfigs_eq_insertAll _ rest hnodup.2, List.map_cons,
      GoMap.insertAll]
    refine congrArg _ (List.map_congr_left fun e he => ?_)
    rw [GoMap.get?_insert_ne _ _ fun h : e.1 = name => hnodup.1 (List.mem_map.mpr ⟨e, he, h⟩)]

/-- Distinct schema configurations are applied independently, each to the schema as it was. -/
theorem applySchemaConfigs_eq_insertAll : ∀ (schemas : GoMap (Option SchemaResponse))
    (l : List (String × SchemaConfigSchema)), (l.map Prod.fst).Nodup →
    applySchemaConfigs schemas l =
      schemas.insertAll (l.map fun e => (e.1, some (applySchemaConfig (schemas.get? e.1).join e.2)))
  | _, [], _ => rfl
  | schemas, (name, req) :: rest, hnodup => by
    rw [List.map_cons, List.nodup_cons] at hnodup
    rw [applySchemaConfigs, applySchemaConfigs_eq_insertAll _ rest hnodup.2, List.map_cons,
      GoMap.insertAll]
    refine congrArg _ (List.map_congr_left fun e he => ?_)
    rw [GoMap.get?_insert_ne _ _ fun h : e.1 = name => hnodup.1 (List.mem_map.mpr ⟨e, he, h⟩)]

/-- Building keeps the declared map's keys, so the built entries are assigned in order. -/
theorem entries_insertAll_builtEntries {α β : Type} (f : α → β) (m : GoMap (Option α))
    (h : ∀ e ∈ m.entries, e.2.isSome) :
    (GoMap.empty.insertAll (builtEntries f m.entries)).entries = builtEntries f m.entries := by
  rw [GoMap.entries_insertAll (GoMap.empty : GoMap β) _
    (by rw [builtEntries_keys f h]; exact m.nodup) fun _ _ => rfl]
  rfl

/-- The lookup of a name after applying a list of distinct names. -/
theorem get?_insertAll_map_of_mem {α γ : Type} (m : GoMap γ) (g : String → α → γ)
    {l : List (String × α)} (hnodup : (l.map Prod.fst).Nodup) {k : String} {a : α} (h : (k, a) ∈ l) :
    (m.insertAll (l.map fun e => (e.1, g e.1 e.2))).get? k = some (g k a) :=
  GoMap.get?_insertAll_of_mem _ _ (by rw [List.map_map]; exact hnodup)
    (List.mem_map_of_mem (fun e => (e.1, g e.1 e.2)) h)

end Apply

section Declared

variable {cr : ConnectorSchemaConfig}

/-- A well-declared configuration declares every schema, table and column with a name. -/
theorem wellDeclared_decl (hwell : wellDeclared cr = true) :
    declaredWith (fun schema => declaredWith
      (fun table => declaredWith (fun _ => true) table.columns.entries)
      (schema.tables.getD GoMap.empty).entries) cr.schemas.entries = true := by
  rwa [wellDeclared_eq] at hwell

/-- A well-declared configuration holds no nil entry. -/
theorem noNil_of_wellDeclared (hwell : wellDeclared cr = true) : cr.noNil = true := by
  refine List.all_eq_true.mpr fun ⟨name, schema⟩ hmem => ?_
  cases schema with
  | none => exact absurd (declaredWith_isSome (wellDeclared_decl hwell) _ hmem) (by simp)
  | some schema =>
    exact List.all_eq_true.mpr (declaredWith_isSome (declaredWith_mem (wellDeclared_decl hwell) hmem).2)

/-- Without nil entries, a declared table has no column exactly when no last column is found. -/
theorem lastColumn_isNone_iff {columns : List (String × Option ColumnObject)}
    (h : declaredWith (fun _ => true) columns = true) :
    (lastColumn columns).isNone = true ↔ columns = [] := by
  match columns, h with
  | [], _ => simp [lastColumn]
  | (_, none) :: _, h => rw [declaredWith_cons_none] at h; cases h
  | (_, some _) :: rest, _ => cases lastColumn rest <;> simp [lastColumn]

end Declared

/-- What the comparator reads of a table after the provider applied `builtTable`: a table without
columns agrees, one with columns agrees exactly when the live table did. -/
theorem tableAgrees_builtTable (old : Option TableResponse) (table : TableObject) :
    (flagAgrees (applyTableConfig old (builtTable table)).enabled table.enabled &&
        syncModeAgrees (applyTableConfig old (builtTable table)).syncMode table.syncMode) =
      ((lastColumn table.columns.entries).isNone ||
        (flagAgrees (old.getD ⟨none, none⟩).enabled table.enabled &&
          syncModeAgrees (old.getD ⟨none, none⟩).syncMode table.syncMode)) := by
  unfold builtTable applyTableConfig
  cases lastColumn table.columns.entries with
  | none => by_cases h : table.syncMode = "" <;> simp [flagAgrees, syncModeAgrees, h]
  | some c => simp

/-- The update keeps a live response free of nil entries. -/
theorem noNil_applySchemaUpdate (live : SchemaDetails) (req : SchemaUpdateRequest)
    (hlive : live.noNil = true) : (applySchemaUpdate live req).noNil = true := by
  unfold SchemaDetails.noNil
  rw [applySchemaUpdate, applySchemaConfigs_eq_insertAll _ _ req.schemas.nodup]
  refine List.all_eq_true.mpr fun ⟨name, v⟩ hmem => ?_
  rcases GoMap.mem_entries_insertAll _ _ hmem with hold | hnew
  · exact List.all_eq_true.mp hlive _ hold
  obtain ⟨⟨n, r⟩, -, heq⟩ := List.mem_map.mp hnew
  cases heq
  show (applyTableConfigs _ r.tables.entries).noNil = true
  rw [applyTableConfigs_eq_insertAll _ _ r.tables.nodup]
  refine List.all_eq_true.mpr fun ⟨tableName, tv⟩ htable => ?_
  rcases GoMap.mem_entries_insertAll _ _ htable with hold | hnew
  · cases hs : (live.schemas.get? n).join with
    | none => rw [hs] at hold; cases hold
    | some s =>
      rw [hs] at hold
      have hentry := List.all_eq_true.mp hlive _
        (GoMap.mem_of_lookupEntry (Option.join_eq_some.mp hs))
      exact List.all_eq_true.mp hentry _ hold
  · obtain ⟨_, -, heq⟩ := List.mem_map.mp hnew
    cases heq
    rfl

/-- The live table read through the schema the update started from. -/
theorem liveTableOf_eq (live : SchemaDetails) (name tableName : String) :
    ((((live.schemas.get? name).join).getD ⟨none, GoMap.empty⟩).tables.get? tableName).join.getD
      ⟨none, none⟩ = liveTableOf live name tableName := by
  unfold liveTableOf
  cases (live.schemas.get? name).join <;> rfl

section Applied

variable {cr : ConnectorSchemaConfig} (hwell : wellDeclared cr = true) (live : SchemaDetails)
include hwell

/-- Each declared schema is live after the update, applied to the schema as it was. -/
theorem get?_applySchemaUpdate {name : String} {schema : SchemaObject}
    (hmem : (name, some schema) ∈ cr.schemas.entries) :
    (applySchemaUpdate live (declaredRequest cr)).schemas.get? name =
      some (some (applySchemaConfig (live.schemas.get? name).join (builtSchema schema))) := by
  have hsome := declaredWith_isSome (wellDeclared_decl hwell)
  have hnodup : ((builtEntries builtSchema cr.schemas.entries).map Prod.fst).Nodup := by
    rw [builtEntries_keys _ hsome]
    exact cr.schemas.nodup
  rw [applySchemaUpdate, declaredRequest]
  dsimp only
  rw [entries_insertAll_builtEntries _ _ hsome, applySchemaConfigs_eq_insertAll _ _ hnodup]
  exact get?_insertAll_map_of_mem _ (fun n r => some (applySchemaConfig (live.schemas.get? n).join r))
    hnodup (mem_builtEntries _ hmem)

/-- What the comparator reads of a declared table after the update: a table without columns
agrees, one with columns agrees exactly when the live table did. -/
theorem tableApplied_applySchemaUpdate {name : String} {schema : SchemaObject}
    (hmem : (name, some schema) ∈ cr.schemas.entries) (tableName : String) (table : TableObject)
    (htable : (tableName, some table) ∈ (schema.tables.getD GoMap.empty).entries) :
    tableApplied (applySchemaConfig (live.schemas.get? name).join (builtSchema schema)).tables
        tableName table = true ↔
      (table.columns.entries ≠ [] →
        flagAgrees (liveTableOf live name tableName).enabled table.enabled = true ∧
          syncModeAgrees (liveTableOf live name tableName).syncMode table.syncMode = true) := by
  have hdecl := (declaredWith_mem (wellDeclared_decl hwell) hmem).2
  have hsome := declaredWith_isSome hdecl
  have hnodup : ((builtEntries builtTable (schema.tables.getD GoMap.empty).entries).map
      Prod.fst).Nodup := by
    rw [builtEntries_keys _ hsome]
    exact (schema.tables.getD GoMap.empty).nodup
  unfold tableApplied applySchemaConfig builtSchema
  dsimp only
  rw [entries_insertAll_builtEntries _ _ hsome, applyTableConfigs_eq_insertAll _ _ hnodup,
    get?_insertAll_map_of_mem _ (fun n r => some (applyTableConfig
      ((((live.schemas.get? name).join).getD ⟨none, GoMap.empty⟩).tables.get? n).join r))
      hnodup (mem_builtEntries _ htable)]
  dsimp only
  rw [tableAgrees_builtTable, liveTableOf_eq, Bool.or_eq_true,
    lastColumn_isNone_iff (declaredWith_mem hdecl htable).2, Bool.and_eq_true, or_iff_not_imp_left]

/-- A declared schema is applied after the update exactly when every declared table with
columns agreed in the live response. -/
theorem schemaApplied_applySchemaUpdate {name : String} {schema : SchemaObject}
    (hmem : (name, some schema) ∈ cr.schemas.entries) :
    schemaApplied (applySchemaUpdate live (declaredRequest cr)) name schema = true ↔
      ∀ tableName table, (tableName, some table) ∈ (schema.tables.getD GoMap.empty).entries →
        table.columns.entries ≠ [] →
        flagAgrees (liveTableOf live name tableName).enabled table.enabled = true ∧
          syncModeAgrees (liveTableOf live name tableName).syncMode table.syncMode = true := by
  have happlied := tableApplied_applySchemaUpdate hwell live hmem
  unfold schemaApplied
  rw [get?_applySchemaUpdate hwell live hmem]
  dsimp only
  have hflag : flagAgrees (applySchemaConfig (live.schemas.get? name).join (builtSchema schema)).enabled
      schema.enabled = true := by
    simp [applySchemaConfig, builtSchema, flagAgrees]
  rw [hflag, Bool.true_and]
  cases htables : schema.tables with
  | none => simp [GoMap.empty]
  | some tables =>
    rw [htables] at happlied
    simp only [Option.all_some, Bool.not_eq_true', List.any_eq_false, tableOffends,
      Bool.not_eq_false, Prod.forall]
    constructor
    · intro h tableName table htable
      exact (happlied tableName table htable).mp (h _ _ htable)
    · rintro h tableName (_ | table) htable
      · rfl
      · exact (happlied tableName table htable).mpr (h tableName table htable)

/-- The whole declaration is applied after the update exactly when every declared table with
columns agreed in the live response. -/
theorem declaredApplied_applySchemaUpdate :
    declaredApplied (applySchemaUpdate live (declaredRequest cr)) cr = true ↔
      ∀ name schema, (name, some schema) ∈ cr.schemas.entries →
      ∀ tableName table, (tableName, some table) ∈ (schema.tables.getD GoMap.empty).entries →
        table.columns.entries ≠ [] →
        flagAgrees (liveTableOf live name tableName).enabled table.enabled = true ∧
          syncModeAgrees (liveTableOf live name tableName).syncMode table.syncMode = true := by
  have hhandling : handlingAgrees (applySchemaUpdate live (declaredRequest cr)) cr = true := by
    unfold handlingAgrees applySchemaUpdate declaredRequest
    by_cases h : cr.schemaChangeHandling = "" <;> simp [h]
  rw [declaredApplied, hhandling, Bool.true_and, List.all_eq_true]
  constructor
  · intro h name schema hmem
    exact (schemaApplied_applySchemaUpdate hwell live hmem).mp (h _ hmem)
  · rintro h ⟨name, _ | schema⟩ hmem
    · rfl
    · exact (schemaApplied_applySchemaUpdate hwell live hmem).mpr (h name schema hmem)

end Applied

/-- Apply and verify: for every well-declared configuration and every live response without nil
entries, after the provider applies the request `convertSchema` builds, `CompareSchemaWithCR`
returns `matches = true` exactly when every declared table that declares columns already had a
live flag unset or equal and the declared sync mode; schemas, the policy and tables without
columns always verify. -/
theorem applySchema_verifies_iff (cr : ConnectorSchemaConfig) (hwell : wellDeclared cr = true)
    (live : SchemaDetails) (hlive : live.noNil = true) :
    ∃ req m, (convertSchema (some cr)).map schemaUpdateRequest = some (.ok req) ∧
      compareSchemaWithCR (applySchemaUpdate live req) (some cr) = .ok (!m.hasMismatch, m) ∧
      ((!m.hasMismatch) = true ↔
        ∀ name schema, (name, some schema) ∈ cr.schemas.entries →
        ∀ tableName table, (tableName, some table) ∈ (schema.tables.getD GoMap.empty).entries →
          table.columns.entries ≠ [] →
          flagAgrees (liveTableOf live name tableName).enabled table.enabled = true ∧
            syncModeAgrees (liveTableOf live name tableName).syncMode table.syncMode = true) := by
  obtain ⟨m, hcmp, happlied⟩ := compareSchemaWithCR_eq_declaredApplied _ cr
    (noNil_applySchemaUpdate live _ hlive) (noNil_of_wellDeclared hwell)
  refine ⟨declaredRequest cr, m, convertSchema_request cr hwell, hcmp, ?_⟩
  rw [happlied]
  exact declaredApplied_applySchemaUpdate hwell live

/-- At `columnTableDeclared` on `columnTableLive` the read-back reports a mismatch: `orders`
declares a column, and its live flag is false where true is declared. -/
theorem applySchema_verifies_iff_columnTable :
    ∃ req m, (convertSchema (some columnTableDeclared)).map schemaUpdateRequest = some (.ok req) ∧
      compareSchemaWithCR (applySchemaUpdate columnTableLive req) (some columnTableDeclared) =
        .ok (!m.hasMismatch, m) ∧ m.hasMismatch = true := by
  obtain ⟨req, m, hreq, hcmp, hiff⟩ :=
    applySchema_verifies_iff columnTableDeclared rfl columnTableLive rfl
  refine ⟨req, m, hreq, hcmp, ?_⟩
  cases hm : m.hasMismatch
  · have horders := hiff.mp (by rw [hm]; rfl) "public" _ (.head _) "orders" _ (.head _) (List.cons_ne_nil _ _)
    exact absurd horders.1 (by decide)
  · rfl

end FivetranOperator
