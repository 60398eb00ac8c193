import FivetranOperator.Api.Types

/-!
# The structural schema comparator

`CompareSchemaWithCR` and `compareTablesWithFivetran` (`pkg/fivetran/interfaces.go`) over the
live schema details the provider returns. Schema and table flags are judged only when the live
value is set; sync modes only when one is declared; columns never. A nil pointer read in the
source is a panic here, reported as `Except.error` with the runtime's message.

Both loops run over the declared maps in their enumeration order, and the report's maps are
filled in that order.
-/

namespace FivetranOperator

/-- `connections.ConnectionSchemaConfigTableResponse`; the comparator reads no column data. -/
structure TableResponse where
  enabled : Option Bool
  syncMode : Option String

/-- `connections.ConnectionSchemaConfigSchemaResponse`; entries may be nil pointers. -/
structure SchemaResponse where
  enabled : Option Bool
  tables : GoMap (Option TableResponse)

/-- `connections.ConnectionSchemaDetailsResponse`: the response code and the live data. -/
structure SchemaDetails where
  code : String
  schemaChangeHandling : String
  schemas : GoMap (Option SchemaResponse)

/-- The runtime's message for reading through a nil pointer. -/
def nilDereference : String := "runtime error: invalid memory address or nil pointer dereference"

/-- Read through a pointer, panicking on nil. -/
def deref {α : Type} : Option α → Except String α
  | some a => .ok a
  | none => .error nilDereference

/-- `SchemaMismatch`. -/
structure SchemaMismatch where
  hasMismatch : Bool
  schemaChangeHandling : Option String
  missingSchemas : List String
  schemaMismatches : GoMap String
  tableMismatches : GoMap (List String)

/-- The report `CompareSchemaWithCR` starts from. -/
def SchemaMismatch.empty : SchemaMismatch := ⟨false, none, [], GoMap.empty, GoMap.empty⟩

/-- `(*SchemaMismatch).String`, with the maps enumerated in their entry order. -/
def SchemaMismatch.string (sm : SchemaMismatch) : String :=
  if !sm.hasMismatch then "No schema mismatches found"
  else String.intercalate "; " <|
    (match sm.schemaChangeHandling with
      | some reason => ["Schema Change Handling: " ++ reason]
      | none => []) ++
    (if sm.missingSchemas.isEmpty then []
      else ["Missing Schemas: " ++ String.intercalate ", " sm.missingSchemas]) ++
    sm.schemaMismatches.entries.map (fun e => "Schema " ++ e.1 ++ ": " ++ e.2) ++
    sm.tableMismatches.entries.map (fun e => "Schema " ++ e.1 ++ " tables: " ++ String.intercalate ", " e.2)

/-- The issues one live table has against its declaration. -/
def tableIssues (live : TableResponse) (cr : TableObject) : List String :=
  (match live.enabled with
    | some e =>
      if e ≠ cr.enabled then
        ["enabled state mismatch: expected " ++ toString cr.enabled ++ ", got " ++ toString e]
      else []
    | none => []) ++
  (if cr.syncMode ≠ "" then
    match live.syncMode with
    | none => ["sync mode mismatch: expected " ++ cr.syncMode ++ ", got nil"]
    | some m =>
      if m ≠ cr.syncMode then ["sync mode mismatch: expected " ++ cr.syncMode ++ ", got " ++ m]
      else []
  else [])

/-- One iteration of `compareTablesWithFivetran`'s loop. -/
def compareTable (fivetranTables : GoMap (Option TableResponse)) (acc : List String)
    (crTableName : String) (crTableObj : Option TableObject) : Except String (List String) :=
  match fivetranTables.get? crTableName with
  | none => .ok (acc ++ ["table " ++ crTableName ++ " not found in source"])
  | some liveObj => do
    let live ← deref liveObj
    let cr ← deref crTableObj
    let issues := tableIssues live cr
    pure (if issues.isEmpty then acc
      else acc ++ ["table " ++ crTableName ++ ": " ++ String.intercalate ", " issues])

/-- `compareTablesWithFivetran`'s loop from a given accumulator. -/
def compareTables (fivetranTables : GoMap (Option TableResponse)) :
    List String → List (String × Option TableObject) → Except String (List String)
  | acc, [] => .ok acc
  | acc, (name, crTableObj) :: rest => do
    let acc ← compareTable fivetranTables acc name crTableObj
    compareTables fivetranTables acc rest

/-- `compareTablesWithFivetran`. -/
def compareTablesWithFivetran (fivetranTables : GoMap (Option TableResponse))
    (crTables : GoMap (Option TableObject)) : Except String (List String) :=
  compareTables fivetranTables [] crTables.entries

/-- One iteration of `CompareSchemaWithCR`'s loop over the declared schemas. -/
def compareSchema (live : SchemaDetails) (m : SchemaMismatch) (crSchemaName : String)
    (crSchemaObj : Option SchemaObject) : Except String SchemaMismatch :=
  match live.schemas.get? crSchemaName with
  | none => .ok { m with hasMismatch := true, missingSchemas := m.missingSchemas ++ [crSchemaName] }
  | some liveObj => do
    let l ← deref liveObj
    let cr ← deref crSchemaObj
    let m := match l.enabled with
      | some e =>
        if e ≠ cr.enabled then
          { m with
            hasMismatch := true
            schemaMismatches := m.schemaMismatches.insert crSchemaName
              ("enabled state mismatch: expected " ++ toString cr.enabled ++ ", got " ++ toString e) }
        else m
      | none => m
    match cr.tables with
    | none => pure m
    | some tables => do
      let tableMismatches ← compareTablesWithFivetran l.tables tables
      pure (if tableMismatches.isEmpty then m
        else { m with
          hasMismatch := true
          tableMismatches := m.tableMismatches.insert crSchemaName tableMismatches })

/-- `CompareSchemaWithCR`'s loop from a given report. -/
def compareSchemas (live : SchemaDetails) :
    SchemaMismatch → List (String × Option SchemaObject) → Except String SchemaMismatch
  | m, [] => .ok m
  | m, (name, crSchemaObj) :: rest => do
    let m ← compareSchema live m name crSchemaObj
    compareSchemas live m rest

/-- `CompareSchemaWithCR`: whether the declared configuration is applied, and the report. -/
def compareSchemaWithCR (fivetranSchema : SchemaDetails) (crSchema : Option ConnectorSchemaConfig) :
    Except String (Bool × SchemaMismatch) :=
  match crSchema with
  | none => .ok (true, SchemaMismatch.empty)
  | some cr => do
    let m :=
      if cr.schemaChangeHandling ≠ "" ∧ fivetranSchema.schemaChangeHandling ≠ cr.schemaChangeHandling then
        { SchemaMismatch.empty with
          hasMismatch := true
          schemaChangeHandling := some
            ("expected " ++ cr.schemaChangeHandling ++ ", got " ++ fivetranSchema.schemaChangeHandling) }
      else SchemaMismatch.empty
    let m ← compareSchemas fivetranSchema m cr.schemas.entries
    pure (!m.hasMismatch, m)

/-- Two declared schemas, `sales` enumerated first. -/
def salesFirst : GoMap (Option SchemaObject) :=
  ⟨[("sales", some ⟨true, none⟩), ("billing", some ⟨true, none⟩)], by decide⟩

/-- The same two schemas, `billing` enumerated first. -/
def billingFirst : GoMap (Option SchemaObject) :=
  ⟨[("billing", some ⟨true, none⟩), ("sales", some ⟨true, none⟩)], by decide⟩

/-- A live response with no schemas. -/
def noLiveSchemas : SchemaDetails := ⟨"", "", GoMap.empty⟩

/-- The report lists missing schemas in the order the declared map is enumerated, so one
declaration renders as two strings under two enumeration orders. -/
theorem mismatch_rendering_follows_enumeration :
    salesFirst.entries.Perm billingFirst.entries ∧
      (compareSchemaWithCR noLiveSchemas (some ⟨salesFirst, ""⟩)).map (·.2.string) =
        .ok "Missing Schemas: sales, billing" ∧
      (compareSchemaWithCR noLiveSchemas (some ⟨billingFirst, ""⟩)).map (·.2.string) =
        .ok "Missing Schemas: billing, sales" :=
  ⟨List.Perm.swap _ _ _, rfl, rfl⟩

end FivetranOperator
