import FivetranOperator.Errors

/-!
# The schema update builder

`pkg/fivetran/schema_builder.go` over the SDK's schema configuration objects, whose setters
(`Enabled`, `SyncMode`, `Table`, `Column`) are field and map assignments. The builder keeps the
first error it meets and ignores every later call; `Build` reports it. `UpdateSchema`
(`schema_service.go`) turns a builder into the request sent to the provider.

`AddColumn` installs a fresh table configuration holding only the new column, as the source
does; `addColumn_table` below states what that leaves of the table.
-/

namespace FivetranOperator

/-- `connections.ConnectionSchemaConfigColumn`: unset flags are `none`. -/
structure SchemaConfigColumn where
  enabled : Option Bool
  hashed : Option Bool
  isPrimaryKey : Option Bool

/-- `connections.ConnectionSchemaConfigTable`. -/
structure SchemaConfigTable where
  enabled : Option Bool
  syncMode : Option String
  columns : GoMap SchemaConfigColumn

/-- `connections.ConnectionSchemaConfigSchema`. -/
structure SchemaConfigSchema where
  enabled : Option Bool
  tables : GoMap SchemaConfigTable

/-- `SchemaBuilder`. -/
structure SchemaBuilder where
  schemas : GoMap SchemaConfigSchema
  schemaChangeHandling : String
  err : Option GoError

/-- Go's `%q` on the builder's names, which never hold characters it would escape here. -/
def goQuote (s : String) : String := "\"" ++ s ++ "\""

namespace SchemaBuilder

/-- `NewSchemaBuilder`. -/
def new : SchemaBuilder := ⟨GoMap.empty, "", none⟩

/-- Record the first error; a builder that already failed is returned as it is. -/
def fail (b : SchemaBuilder) (e : GoError) : SchemaBuilder := { b with err := some e }

/-- `WithSchemaChangeHandling`. -/
def withSchemaChangeHandling (b : SchemaBuilder) (handling : String) : SchemaBuilder :=
  if b.err.isSome then b else { b with schemaChangeHandling := handling }

/-- `AddSchema`: a fresh schema entry carrying only its enabled flag. -/
def addSchema (b : SchemaBuilder) (name : String) (enabled : Bool) : SchemaBuilder :=
  if b.err.isSome then b
  else if name = "" then b.fail (.text "schema name cannot be empty")
  else { b with schemas := b.schemas.insert name ⟨some enabled, GoMap.empty⟩ }

/-- `AddTable`: the table's enabled flag, and its sync mode when one is given. -/
def addTable (b : SchemaBuilder) (schema table : String) (enabled : Bool) (syncMode : String) :
    SchemaBuilder :=
  if b.err.isSome then b
  else if schema = "" ∨ table = "" then b.fail (.text "schema and table names cannot be empty")
  else match b.schemas.get? schema with
    | none => b.fail (.text ("schema " ++ goQuote schema ++ " not found"))
    | some s =>
      let tableConfig : SchemaConfigTable :=
        ⟨some enabled, if syncMode ≠ "" then some syncMode else none, GoMap.empty⟩
      { b with schemas := b.schemas.insert schema { s with tables := s.tables.insert table tableConfig } }

/-- `AddColumn`: installs a new table configuration that holds only this column. -/
def addColumn (b : SchemaBuilder) (schema table column : String)
    (enabled hashed isPrimaryKey : Bool) : SchemaBuilder :=
  if b.err.isSome then b
  else if schema = "" ∨ table = "" ∨ column = "" then
    b.fail (.text "schema, table, and column names cannot be empty")
  else match b.schemas.get? schema with
    | none => b.fail (.text ("schema " ++ goQuote schema ++ " not found"))
    | some s =>
      let columnConfig : SchemaConfigColumn := ⟨some enabled, some hashed, some isPrimaryKey⟩
      let tableConfig : SchemaConfigTable :=
        ⟨none, none, GoMap.empty.insert column columnConfig⟩
      { b with schemas := b.schemas.insert schema { s with tables := s.tables.insert table tableConfig } }

/-- `Build`. -/
def build (b : SchemaBuilder) : Except GoError (GoMap SchemaConfigSchema × String) :=
  match b.err with
  | some e => .error e
  | none => .ok (b.schemas, b.schemaChangeHandling)

/-- After `AddColumn` succeeds the table has no enabled flag, no sync mode and one column. -/
theorem addColumn_table (b : SchemaBuilder) (schema table column : String)
    (enabled hashed isPrimaryKey : Bool) (s : SchemaConfigSchema)
    (herr : b.err = none) (hnames : schema ≠ "" ∧ table ≠ "" ∧ column ≠ "")
    (hs : b.schemas.get? schema = some s) :
    ((b.addColumn schema table column enabled hashed isPrimaryKey).schemas.get? schema).map
        (·.tables.get? table) =
      some (some ⟨none, none, GoMap.empty.insert column ⟨some enabled, some hashed, some isPrimaryKey⟩⟩) := by
  simp [addColumn, herr, hnames, hs]

/-- A second `AddColumn` on one table replaces the configuration the first installed. -/
theorem addColumn_addColumn (b : SchemaBuilder) (schema table column column' : String)
    (enabled hashed isPrimaryKey enabled' hashed' isPrimaryKey' : Bool) (herr : b.err = none)
    (hnames : schema ≠ "" ∧ table ≠ "" ∧ column ≠ "" ∧ column' ≠ "")
    (hs : (b.schemas.get? schema).isSome) :
    (b.addColumn schema table column enabled hashed isPrimaryKey).addColumn schema table column'
        enabled' hashed' isPrimaryKey' =
      b.addColumn schema table column' enabled' hashed' isPrimaryKey' := by
  obtain ⟨s, hs⟩ := Option.isSome_iff_exists.mp hs
  simp [addColumn, herr, hnames, hs]

/-- `AddColumn` after `AddTable` on the same table discards everything `AddTable` set. -/
theorem addColumn_addTable (b : SchemaBuilder) (schema table column : String) (tableEnabled : Bool)
    (syncMode : String) (enabled hashed isPrimaryKey : Bool) (herr : b.err = none)
    (hnames : schema ≠ "" ∧ table ≠ "" ∧ column ≠ "") (hs : (b.schemas.get? schema).isSome) :
    (b.addTable schema table tableEnabled syncMode).addColumn schema table column enabled hashed
        isPrimaryKey =
      b.addColumn schema table column enabled hashed isPrimaryKey := by
  obtain ⟨s, hs⟩ := Option.isSome_iff_exists.mp hs
  simp [addTable, addColumn, herr, hnames, hs]

/-- Every error the builder holds is a text error. -/
def TextErr (b : SchemaBuilder) : Prop := ∀ e, b.err = some e → ∃ msg, e = .text msg

/-- A new builder holds no error. -/
theorem textErr_new : new.TextErr := fun _ h => nomatch h

/-- A failure with a text error keeps every error text. -/
theorem textErr_fail (b : SchemaBuilder) (msg : String) : (b.fail (.text msg)).TextErr :=
  fun _ h => ⟨msg, (Option.some.inj h).symm⟩

section TextErr

variable {b : SchemaBuilder} (h : b.TextErr)
include h

/-- Setting the policy keeps every error text. -/
theorem TextErr.withSchemaChangeHandling (handling : String) :
    (b.withSchemaChangeHandling handling).TextErr := by
  unfold SchemaBuilder.withSchemaChangeHandling
  split_ifs
  exacts [h, h]

/-- Adding a schema keeps every error text. -/
theorem TextErr.addSchema (name : String) (enabled : Bool) : (b.addSchema name enabled).TextErr := by
  unfold SchemaBuilder.addSchema
  split_ifs
  exacts [h, textErr_fail _ _, h]

/-- Adding a table keeps every error text. -/
theorem TextErr.addTable (schema table : String) (enabled : Bool) (syncMode : String) :
    (b.addTable schema table enabled syncMode).TextErr := by
  unfold SchemaBuilder.addTable
  split
  · exact h
  split
  · exact textErr_fail _ _
  split
  exacts [textErr_fail _ _, h]

/-- Adding a column keeps every error text. -/
theorem TextErr.addColumn (schema table column : String) (enabled hashed isPrimaryKey : Bool) :
    (b.addColumn schema table column enabled hashed isPrimaryKey).TextErr := by
  unfold SchemaBuilder.addColumn
  split
  · exact h
  split
  · exact textErr_fail _ _
  split
  exacts [textErr_fail _ _, h]

end TextErr

end SchemaBuilder

/-- The body of the schema update request: the policy when set, and the schema map. -/
structure SchemaUpdateRequest where
  schemaChangeHandling : Option String
  schemas : GoMap SchemaConfigSchema

/-- The request `UpdateSchema` sends for a builder, or the build error it returns instead. -/
def schemaUpdateRequest (b : SchemaBuilder) : Except GoError SchemaUpdateRequest :=
  match b.build with
  | .error e => .error (.wrap "failed to build schema config: " e "")
  | .ok (schemas, handling) => .ok ⟨if handling ≠ "" then some handling else none, schemas⟩

end FivetranOperator
