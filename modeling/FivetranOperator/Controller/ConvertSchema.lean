import FivetranOperator.Fivetran.SchemaBuilder
import FivetranOperator.Fivetran.Compare

/-!
# From the declared schema tree to the update request

`convertSchema`, `processSchemaTable` and `processTableColumns` (`utils.go`) feed the declared
tree to a `SchemaBuilder` in the maps' enumeration order, skipping nil entries. The provider is
modelled by `applySchemaUpdate`: every field the request sets overwrites the live value and every
field it leaves unset keeps it. Applying the request and reading the schema back is what
`reconcileSchema` verifies with `CompareSchemaWithCR`.

A table that declares columns goes through `AddColumn`, which replaces the table configuration
`AddTable` installed; the request then carries neither the table's enabled flag nor its sync mode.

For a well-declared tree the three loops are computed exactly: each is one `GoMap.insertAll` of
the declared entries, a schema built by `builtSchema` and a table by `builtTable`, which keeps only
the last column in enumeration order (`convertSchema_eq`).
-/

namespace FivetranOperator

/-- `processTableColumns`. -/
def processTableColumns (b : SchemaBuilder) (schemaName tableName : String) :
    List (String × Option ColumnObject) → SchemaBuilder
  | [] => b
  | (_, none) :: rest => processTableColumns b schemaName tableName rest
  | (columnName, some column) :: rest =>
    processTableColumns
      (b.addColumn schemaName tableName columnName column.enabled column.hashed column.isPrimaryKey)
      schemaName tableName rest

/-- `processSchemaTable`. -/
def processSchemaTable (b : SchemaBuilder) (schemaName : String) :
    List (String × Option TableObject) → SchemaBuilder
  | [] => b
  | (_, none) :: rest => processSchemaTable b schemaName rest
  | (tableName, some table) :: rest =>
    processSchemaTable
      (processTableColumns (b.addTable schemaName tableName table.enabled table.syncMode)
        schemaName tableName table.columns.entries)
      schemaName rest

/-- The loop of `convertSchema` over the declared schemas. -/
def convertSchemas (b : SchemaBuilder) : List (String × Option SchemaObject) → SchemaBuilder
  | [] => b
  | (_, none) :: rest => convertSchemas b rest
  | (schemaName, some schema) :: rest =>
    convertSchemas
      (processSchemaTable (b.addSchema schemaName schema.enabled) schemaName
        (schema.tables.getD GoMap.empty).entries)
      rest

/-- `convertSchema`: `none` for a nil configuration. -/
def convertSchema (apiSchema : Option ConnectorSchemaConfig) : Option SchemaBuilder :=
  apiSchema.map fun cfg =>
    let builder :=
      if cfg.schemaChangeHandling ≠ "" then SchemaBuilder.new.withSchemaChangeHandling cfg.schemaChangeHandling
      else SchemaBuilder.new
    if cfg.schemas.entries.length > 0 then convertSchemas builder cfg.schemas.entries else builder

section TextErr

variable (schemaName tableName : String)

/-- Adding the columns of a table keeps every error text. -/
theorem processTableColumns_textErr : ∀ (b : SchemaBuilder) (columns : List (String × Option ColumnObject)),
    b.TextErr → (processTableColumns b schemaName tableName columns).TextErr
  | _, [], h => h
  | _, (_, none) :: rest, h => processTableColumns_textErr _ rest h
  | _, (_, some _) :: rest, h => processTableColumns_textErr _ rest (h.addColumn _ _ _ _ _ _)

/-- Adding the tables of a schema keeps every error text. -/
theorem processSchemaTable_textErr : ∀ (b : SchemaBuilder) (tables : List (String × Option TableObject)),
    b.TextErr → (processSchemaTable b schemaName tables).TextErr
  | _, [], h => h
  | _, (_, none) :: rest, h => processSchemaTable_textErr _ rest h
  | _, (_, some _) :: rest, h =>
    processSchemaTable_textErr _ rest (processTableColumns_textErr _ _ _ _ (h.addTable _ _ _ _))

/-- Adding the schemas keeps every error text. -/
theorem convertSchemas_textErr : ∀ (b : SchemaBuilder) (schemas : List (String × Option SchemaObject)),
    b.TextErr → (convertSchemas b schemas).TextErr
  | _, [], h => h
  | _, (_, none) :: rest, h => convertSchemas_textErr _ rest h
  | _, (_, some _) :: rest, h =>
    convertSchemas_textErr _ rest (processSchemaTable_textErr _ _ _ (h.addSchema _ _))

end TextErr

/-- The builder `convertSchema` hands over holds only text errors. -/
theorem convertSchema_textErr {apiSchema : Option ConnectorSchemaConfig} {b : SchemaBuilder}
    (h : convertSchema apiSchema = some b) : b.TextErr := by
  obtain ⟨cfg, -, rfl⟩ := Option.map_eq_some'.mp h
  have hstart : (if cfg.schemaChangeHandling ≠ "" then
      SchemaBuilder.new.withSchemaChangeHandling cfg.schemaChangeHandling else SchemaBuilder.new).TextErr := by
    split
    exacts [SchemaBuilder.textErr_new.withSchemaChangeHandling _, SchemaBuilder.textErr_new]
  dsimp only
  split
  exacts [convertSchemas_textErr _ _ hstart, hstart]

/-- A live table after the provider applied a table configuration. -/
def applyTableConfig (live : Option TableResponse) (req : SchemaConfigTable) : TableResponse :=
  let base := live.getD ⟨none, none⟩
  ⟨req.enabled.or base.enabled, req.syncMode.or base.syncMode⟩

/-- Apply a list of table configurations to a live table map. -/
def applyTableConfigs (tables : GoMap (Option TableResponse)) :
    List (String × SchemaConfigTable) → GoMap (Option TableResponse)
  | [] => tables
  | (name, req) :: rest =>
    applyTableConfigs (tables.insert name (some (applyTableConfig (tables.get? name).join req))) rest

/-- A live schema after the provider applied a schema configuration. -/
def applySchemaConfig (live : Option SchemaResponse) (req : SchemaConfigSchema) : SchemaResponse :=
  let base := live.getD ⟨none, GoMap.empty⟩
  ⟨req.enabled.or base.enabled, applyTableConfigs base.tables req.tables.entries⟩

/-- Apply a list of schema configurations to a live schema map. -/
def applySchemaConfigs (schemas : GoMap (Option SchemaResponse)) :
    List (String × SchemaConfigSchema) → GoMap (Option SchemaResponse)
  | [] => schemas
  | (name, req) :: rest =>
    applySchemaConfigs (schemas.insert name (some (applySchemaConfig (schemas.get? name).join req))) rest

/-- The provider's handling of a schema update: set fields overwrite, unset fields are kept. -/
def applySchemaUpdate (live : SchemaDetails) (req : SchemaUpdateRequest) : SchemaDetails :=
  { live with
    schemaChangeHandling := req.schemaChangeHandling.getD live.schemaChangeHandling
    schemas := applySchemaConfigs live.schemas req.schemas.entries }

/-- Every declared schema, table and column name is non-empty and no declared map holds nil. -/
def wellDeclared (cr : ConnectorSchemaConfig) : Bool :=
  cr.schemas.entries.all fun s =>
    s.1 != "" && match s.2 with
      | none => false
      | some schema => (schema.tables.getD GoMap.empty).entries.all fun t =>
        t.1 != "" && match t.2 with
          | none => false
          | some table => table.columns.entries.all fun c => c.1 != "" && c.2.isSome

/-- The live schema holds every declared schema, and every declared table of each. -/
def liveContains (live : SchemaDetails) (cr : ConnectorSchemaConfig) : Bool :=
  cr.schemas.entries.all fun s =>
    match live.schemas.get? s.1, s.2 with
    | some (some liveSchema), some schema =>
      (schema.tables.getD GoMap.empty).entries.all fun t => (liveSchema.tables.get? t.1).join.isSome
    | _, _ => false

/-- Every declared name is non-empty and every declared entry is present and passes `p`. -/
def declaredWith {α : Type} (p : α → Bool) (entries : List (String × Option α)) : Bool :=
  entries.all fun e => e.1 != "" && match e.2 with
    | none => false
    | some a => p a

/-- `wellDeclared`, level by level. -/
theorem wellDeclared_eq (cr : ConnectorSchemaConfig) :
    wellDeclared cr = declaredWith (fun schema => declaredWith
      (fun table => declaredWith (fun _ => true) table.columns.entries)
      (schema.tables.getD GoMap.empty).entries) cr.schemas.entries := by
  unfold wellDeclared declaredWith
  refine congrArg cr.schemas.entries.all (funext fun ⟨_, schema⟩ => ?_)
  rcases schema with _ | schema
  · rfl
  refine congrArg (_ && ·) (congrArg (List.all _) (funext fun ⟨_, table⟩ => ?_))
  rcases table with _ | table
  · rfl
  exact congrArg (_ && ·) (congrArg (List.all _) (funext fun ⟨_, column⟩ => by cases column <;> rfl))

section Declared

variable {α β : Type} {p : α → Bool} {k : String} {a : α} {rest entries : List (String × Option α)}

/-- A declared entry: a named key, its value declared, and the rest declared. -/
theorem declaredWith_cons_some :
    declaredWith p ((k, some a) :: rest) = true ↔ k ≠ "" ∧ p a = true ∧ declaredWith p rest = true := by
  simp [declaredWith, and_assoc]

/-- A nil entry is not declared. -/
theorem declaredWith_cons_none : declaredWith p ((k, none) :: rest) = false := by
  simp [declaredWith]

/-- A well-declared map holds no nil entry. -/
theorem declaredWith_isSome (h : declaredWith p entries = true) : ∀ e ∈ entries, e.2.isSome := by
  intro ⟨k, v⟩ he
  cases v
  · simpa [declaredWith] using List.all_eq_true.mp h _ he
  · rfl

/-- Each entry of a well-declared map has a name and passes `p`. -/
theorem declaredWith_mem (h : declaredWith p entries = true) (he : (k, some a) ∈ entries) :
    k ≠ "" ∧ p a = true := by
  simpa using List.all_eq_true.mp h _ he

end Declared

/-- The last declared column in enumeration order, nil entries skipped. -/
def lastColumn : List (String × Option ColumnObject) → Option (String × ColumnObject)
  | [] => none
  | (_, none) :: rest => lastColumn rest
  | (name, some column) :: rest => (lastColumn rest).or (some (name, column))

/-- The last declared column is a declared column. -/
theorem lastColumn_mem {name : String} {column : ColumnObject} :
    ∀ {columns : List (String × Option ColumnObject)}, lastColumn columns = some (name, column) →
      (name, some column) ∈ columns
  | [], h => nomatch h
  | (_, none) :: _, h => .tail _ (lastColumn_mem h)
  | (_, some _) :: rest, h => by
    rw [lastColumn] at h
    cases hlast : lastColumn rest with
    | none =>
      rw [hlast, Option.none_or, Option.some.injEq] at h
      cases h
      exact .head _
    | some last =>
      rw [hlast, Option.or_some] at h
      exact .tail _ (lastColumn_mem (hlast.trans h))

/-- The configuration the builder holds for a declared table once its columns are processed:
`AddTable`'s flag and sync mode when the table declares no column, otherwise what the last
column's `AddColumn` installed. -/
def builtTable (table : TableObject) : SchemaConfigTable :=
  match lastColumn table.columns.entries with
  | none => ⟨some table.enabled, if table.syncMode ≠ "" then some table.syncMode else none, GoMap.empty⟩
  | some (name, column) =>
    ⟨none, none, GoMap.empty.insert name ⟨some column.enabled, some column.hashed, some column.isPrimaryKey⟩⟩

/-- The non-nil entries of a declared map, each value mapped by `f`. -/
def builtEntries {α β : Type} (f : α → β) (entries : List (String × Option α)) : List (String × β) :=
  entries.filterMap fun e => e.2.map fun a => (e.1, f a)

/-- The configuration the builder holds for a declared schema. -/
def builtSchema (schema : SchemaObject) : SchemaConfigSchema :=
  ⟨some schema.enabled,
    GoMap.empty.insertAll (builtEntries builtTable (schema.tables.getD GoMap.empty).entries)⟩

section Built

variable {α β : Type} (f : α → β) {k : String} {a : α} {rest entries : List (String × Option α)}

/-- No entries, none built. -/
@[simp] theorem builtEntries_nil : builtEntries f [] = [] := rfl

/-- A declared entry is built from its value. -/
@[simp] theorem builtEntries_cons_some :
    builtEntries f ((k, some a) :: rest) = (k, f a) :: builtEntries f rest := rfl

/-- Every declared entry is built. -/
theorem mem_builtEntries (h : (k, some a) ∈ entries) : (k, f a) ∈ builtEntries f entries :=
  List.mem_filterMap.mpr ⟨_, h, rfl⟩

/-- Without nil entries, building keeps every key in order. -/
theorem builtEntries_keys : ∀ {entries : List (String × Option α)}, (∀ e ∈ entries, e.2.isSome) →
    (builtEntries f entries).map Prod.fst = entries.map Prod.fst
  | [], _ => rfl
  | (_, none) :: _, h => nomatch h _ (.head _)
  | (_, some _) :: _, h => by
    simp [builtEntries_keys fun e he => h e (.tail _ he)]

end Built

/-- The column loop amounts to its last column's `AddColumn`. -/
theorem processTableColumns_eq (schemaName tableName : String)
    (hnames : schemaName ≠ "" ∧ tableName ≠ "") :
    ∀ (b : SchemaBuilder) (columns : List (String × Option ColumnObject)), b.err = none →
      (b.schemas.get? schemaName).isSome → declaredWith (fun _ => true) columns = true →
      processTableColumns b schemaName tableName columns =
        match lastColumn columns with
        | none => b
        | some (name, column) =>
          b.addColumn schemaName tableName name column.enabled column.hashed column.isPrimaryKey
  | _, [], _, _, _ => rfl
  | _, (_, none) :: _, _, _, h => by rw [declaredWith_cons_none] at h; cases h
  | b, (name, some column) :: rest, herr, hs, h => by
    obtain ⟨hname, -, hrest⟩ := declaredWith_cons_some.mp h
    obtain ⟨s, hs'⟩ := Option.isSome_iff_exists.mp hs
    have hstep : (b.addColumn schemaName tableName name column.enabled column.hashed
        column.isPrimaryKey).err = none ∧ ((b.addColumn schemaName tableName name column.enabled
          column.hashed column.isPrimaryKey).schemas.get? schemaName).isSome := by
      simp [SchemaBuilder.addColumn, herr, hnames, hname, hs']
    rw [processTableColumns, processTableColumns_eq schemaName tableName hnames _ rest hstep.1 hstep.2 hrest]
    rcases hlast : lastColumn rest with _ | ⟨last, _⟩
    · simp only [lastColumn, hlast, Option.none_or]
    · simp only [lastColumn, hlast, Option.or_some]
      exact SchemaBuilder.addColumn_addColumn b _ _ _ _ _ _ _ _ _ _ herr
        ⟨hnames.1, hnames.2, hname, (declaredWith_mem hrest (lastColumn_mem hlast)).1⟩ hs

/-- One declared table, `AddTable` and then its columns, installs `builtTable`. -/
theorem processTableColumns_addTable (b : SchemaBuilder) (schemaName tableName : String)
    (schema : SchemaConfigSchema) (table : TableObject) (herr : b.err = none)
    (hs : b.schemas.get? schemaName = some schema) (hnames : schemaName ≠ "" ∧ tableName ≠ "")
    (hcolumns : declaredWith (fun _ => true) table.columns.entries = true) :
    processTableColumns (b.addTable schemaName tableName table.enabled table.syncMode) schemaName
        tableName table.columns.entries =
      { b with schemas := (b.schemas.insert schemaName
          { schema with tables := schema.tables.insert tableName (builtTable table) }) } := by
  have hadd : (b.addTable schemaName tableName table.enabled table.syncMode).err = none ∧
      ((b.addTable schemaName tableName table.enabled table.syncMode).schemas.get? schemaName).isSome := by
    simp [SchemaBuilder.addTable, herr, hnames, hs]
  rw [processTableColumns_eq schemaName tableName hnames _ _ hadd.1 hadd.2 hcolumns, builtTable]
  rcases hlast : lastColumn table.columns.entries with _ | ⟨name, column⟩
  · simp [SchemaBuilder.addTable, herr, hnames, hs]
  · have hname := (declaredWith_mem hcolumns (lastColumn_mem hlast)).1
    dsimp only
    rw [SchemaBuilder.addColumn_addTable _ _ _ _ _ _ _ _ _ herr ⟨hnames.1, hnames.2, hname⟩ (by simp [hs])]
    simp [SchemaBuilder.addColumn, herr, hnames, hname, hs]

/-- The table loop installs `builtTable` for every declared table, in order. -/
theorem processSchemaTable_eq (b : SchemaBuilder) (schemaName : String) (herr : b.err = none)
    (hname : schemaName ≠ "") :
    ∀ (schema : SchemaConfigSchema) (tables : List (String × Option TableObject)),
      declaredWith (fun table => declaredWith (fun _ => true) table.columns.entries) tables = true →
      processSchemaTable { b with schemas := b.schemas.insert schemaName schema } schemaName tables =
        { b with schemas := (b.schemas.insert schemaName
            { schema with tables := schema.tables.insertAll (builtEntries builtTable tables) }) }
  | _, [], _ => rfl
  | _, (_, none) :: _, h => by rw [declaredWith_cons_none] at h; cases h
  | schema, (tableName, some table) :: rest, h => by
    obtain ⟨htable, hcolumns, hrest⟩ := declaredWith_cons_some.mp h
    rw [processSchemaTable, processTableColumns_addTable { b with schemas := b.schemas.insert schemaName schema } _ _ schema table herr
      (GoMap.get?_insert_self _ _ _) ⟨hname, htable⟩ hcolumns]
    simpa [GoMap.insertAll] using processSchemaTable_eq b schemaName herr hname _ rest hrest

/-- The schema loop installs `builtSchema` for every declared schema, in order. -/
theorem convertSchemas_eq :
    ∀ (b : SchemaBuilder) (schemas : List (String × Option SchemaObject)), b.err = none →
      declaredWith (fun schema => declaredWith
        (fun table => declaredWith (fun _ => true) table.columns.entries)
        (schema.tables.getD GoMap.empty).entries) schemas = true →
      convertSchemas b schemas = { b with schemas := b.schemas.insertAll (builtEntries builtSchema schemas) }
  | _, [], _, _ => rfl
  | _, (_, none) :: _, _, h => by rw [declaredWith_cons_none] at h; cases h
  | b, (schemaName, some schema) :: rest, herr, h => by
    obtain ⟨hname, htables, hrest⟩ := declaredWith_cons_some.mp h
    have hadd : b.addSchema schemaName schema.enabled =
        { b with schemas := b.schemas.insert schemaName ⟨some schema.enabled, GoMap.empty⟩ } := by
      simp [SchemaBuilder.addSchema, herr, hname]
    rw [convertSchemas, hadd, processSchemaTable_eq b schemaName herr hname _ _ htables]
    exact convertSchemas_eq { b with schemas := b.schemas.insert schemaName (builtSchema schema) } rest
      herr hrest

/-- A well-declared configuration builds to `builtSchema` of each declared schema, assigned in
enumeration order, with its change-handling policy. -/
theorem convertSchema_eq (cr : ConnectorSchemaConfig) (hwell : wellDeclared cr = true) :
    convertSchema (some cr) =
      some ⟨GoMap.empty.insertAll (builtEntries builtSchema cr.schemas.entries),
        cr.schemaChangeHandling, none⟩ := by
  have hstart : (if cr.schemaChangeHandling ≠ "" then
      SchemaBuilder.new.withSchemaChangeHandling cr.schemaChangeHandling else SchemaBuilder.new) =
        ⟨GoMap.empty, cr.schemaChangeHandling, none⟩ := by
    split
    · rfl
    · rename_i h
      rw [not_not.mp h]
      rfl
  rw [wellDeclared_eq] at hwell
  simp only [convertSchema, Option.map_some', hstart]
  split
  · rw [convertSchemas_eq _ _ rfl hwell]
  · rename_i hlen
    rw [List.length_eq_zero.mp (Nat.eq_zero_of_not_pos hlen)]
    rfl

/-- A declared schema `public` whose table `orders` is enabled, soft-delete, with one column. -/
def columnTableDeclared : ConnectorSchemaConfig :=
  ⟨⟨[("public", some ⟨true, some ⟨[("orders", some
      ⟨true, ⟨[("id", some ⟨true, false, true, ""⟩)], by decide⟩, "SOFT_DELETE"⟩)], by decide⟩⟩)],
    by decide⟩, ""⟩

/-- What `Build` returns for a well-declared configuration: the declared policy and schema keys,
each schema with its declared flag and table keys, and each table as `builtTable` has it. -/
theorem convertSchema_build (cr : ConnectorSchemaConfig) (hwell : wellDeclared cr = true) :
    ∃ schemas, (convertSchema (some cr)).map SchemaBuilder.build =
        some (.ok (schemas, cr.schemaChangeHandling)) ∧
      (∀ name, name ∈ schemas.keys ↔ name ∈ cr.schemas.keys) ∧
      ∀ name schema, (name, some schema) ∈ cr.schemas.entries →
        ∃ built, schemas.get? name = some built ∧ built.enabled = some schema.enabled ∧
          (∀ tableName, tableName ∈ built.tables.keys ↔
            tableName ∈ (schema.tables.getD GoMap.empty).keys) ∧
          ∀ tableName table, (tableName, some table) ∈ (schema.tables.getD GoMap.empty).entries →
            built.tables.get? tableName = some (builtTable table) := by
  have hdecl := hwell
  rw [wellDeclared_eq] at hdecl
  have hkeys := builtEntries_keys builtSchema (declaredWith_isSome hdecl)
  refine ⟨_, by rw [convertSchema_eq cr hwell]; rfl, fun name => ?_, fun name schema hmem =>
    ⟨builtSchema schema, ?_, rfl, fun tableName => ?_, fun tableName table htable => ?_⟩⟩
  · rw [GoMap.mem_keys_insertAll, hkeys]
    simp [GoMap.keys, GoMap.empty]
  · refine GoMap.get?_insertAll_of_mem _ _ ?_ (mem_builtEntries _ hmem)
    rw [hkeys]
    exact cr.schemas.nodup
  all_goals
    have htables := declaredWith_isSome (declaredWith_mem hdecl hmem).2
    have htableKeys := builtEntries_keys builtTable htables
  · rw [builtSchema, GoMap.mem_keys_insertAll, htableKeys]
    simp [GoMap.keys, GoMap.empty]
  · refine GoMap.get?_insertAll_of_mem _ _ ?_ (mem_builtEntries _ htable)
    rw [htableKeys]
    exact (schema.tables.getD GoMap.empty).nodup

/-- At `columnTableDeclared` the built `orders` table has neither its enabled flag nor its sync
mode. -/
theorem convertSchema_build_columnTable :
    ∃ schemas, (convertSchema (some columnTableDeclared)).map SchemaBuilder.build =
        some (.ok (schemas, "")) ∧
      ((schemas.get? "public").bind (·.tables.get? "orders")).map (fun t => (t.enabled, t.syncMode)) =
        some (none, none) := by
  obtain ⟨schemas, hbuild, -, hschemas⟩ := convertSchema_build columnTableDeclared rfl
  obtain ⟨built, hget, -, -, htables⟩ := hschemas "public" _ (.head _)
  refine ⟨schemas, hbuild, ?_⟩
  rw [hget, Option.some_bind, htables "orders" _ (.head _)]
  rfl

/-- A live schema in which `public.orders` is disabled and in history mode. -/
def columnTableLive : SchemaDetails :=
  ⟨"", "ALLOW_ALL", ⟨[("public", some ⟨some true, ⟨[("orders", some ⟨some false, some "HISTORY"⟩)],
    by decide⟩⟩)], by decide⟩⟩

/-- At a table that declares a column, applying convertSchema's request and reading the schema
back does not verify: the request leaves the table's flag and sync mode to the live values. -/
theorem convertSchema_columnTable_verify_mismatch :
    wellDeclared columnTableDeclared = true ∧ liveContains columnTableLive columnTableDeclared = true ∧
      ∃ req, (convertSchema (some columnTableDeclared)).map schemaUpdateRequest = some (.ok req) ∧
        (compareSchemaWithCR (applySchemaUpdate columnTableLive req) (some columnTableDeclared)).map
          (·.1) = .ok false :=
  ⟨rfl, rfl, _, rfl, rfl⟩

end FivetranOperator
