import FivetranOperator.Api.Types
import Mathlib.Data.List.Sort

/-!
# The JSON encoding of the spec

`json.Marshal` on the two halves of the spec, as the fingerprints feed them to MD5: struct
fields in declaration order with their `omitempty` rules, map keys sorted, strings escaped with
the HTML-safe escapes, and a `RawExtension` emitted as its document verbatim, entries in their
own order and numbers in their own spelling.
-/

namespace FivetranOperator

/-- Four hex digits of a code point below `0x10000`. -/
def hex4 (n : Nat) : String :=
  let digit (d : Nat) : Char := if d < 10 then Char.ofNat (48 + d) else Char.ofNat (87 + d)
  ⟨[digit (n / 4096 % 16), digit (n / 256 % 16), digit (n / 16 % 16), digit (n % 16)]⟩

/-- One character as `encoding/json` writes it inside a string. -/
def escapeChar (c : Char) : String :=
  match c with
  | '"' => "\\\""
  | '\\' => "\\\\"
  | '\n' => "\\n"
  | '\r' => "\\r"
  | '\t' => "\\t"
  | '<' | '>' | '&' => "\\u" ++ hex4 c.toNat
  | c =>
    if c.toNat < 0x20 ∨ c.toNat = 0x2028 ∨ c.toNat = 0x2029 then "\\u" ++ hex4 c.toNat
    else c.toString

/-- A JSON string literal. -/
def jsonString (s : String) : String := "\"" ++ String.join (s.data.map escapeChar) ++ "\""

/-- One object member. -/
def jsonMember (name value : String) : String := jsonString name ++ ":" ++ value

/-- An object from its members. -/
def jsonObject (members : List String) : String := "\x7b" ++ String.intercalate "," members ++ "\x7d"

mutual
/-- A document as a `RawExtension` emits it: verbatim, compacted. -/
def renderJson : JsonValue → String
  | .null => "null"
  | .bool b => toString b
  | .number text => text
  | .string s => jsonString s
  | .array items => "[" ++ String.intercalate "," (renderItems items) ++ "]"
  | .object entries => jsonObject (renderMembers entries)
/-- The rendered items of an array. -/
def renderItems : List JsonValue → List String
  | [] => []
  | v :: rest => renderJson v :: renderItems rest
/-- The rendered members of an object, in their order. -/
def renderMembers : List (String × JsonValue) → List String
  | [] => []
  | (k, v) :: rest => jsonMember k (renderJson v) :: renderMembers rest
end

/-- `(RawExtension).MarshalJSON`. -/
def marshalRawExtension (re : RawExtension) : String :=
  match re.raw with
  | none => "null"
  | some doc => renderJson doc

/-- A `*bool`. -/
def marshalOptBool : Option Bool → String
  | none => "null"
  | some b => toString b

/-- A string member with `omitempty`. -/
def omitEmptyString (name value : String) : List String :=
  if value = "" then [] else [jsonMember name (jsonString value)]

/-- An int member with `omitempty`. -/
def omitEmptyInt (name : String) (value : Int) : List String :=
  if value = 0 then [] else [jsonMember name (toString value)]

/-- A `*bool` member with `omitempty`. -/
def omitNilBool (name : String) (value : Option Bool) : List String :=
  match value with
  | none => []
  | some b => [jsonMember name (toString b)]

/-- `json.Marshal(spec.Connector)`. -/
def marshalConnector (c : Connector) : String :=
  jsonObject <|
    [jsonMember "group_id" (jsonString c.groupID), jsonMember "service" (jsonString c.service)] ++
    (match c.auth with
      | none => []
      | some a => [jsonMember "auth" (marshalRawExtension a)]) ++
    [jsonMember "config" (match c.config with
      | none => "null"
      | some r => marshalRawExtension r)] ++
    omitEmptyString "daily_sync_time" c.dailySyncTime ++
    omitEmptyInt "sync_frequency" c.syncFrequency ++
    omitEmptyString "schedule_type" c.scheduleType ++
    [jsonMember "paused" (marshalOptBool c.paused)] ++
    omitNilBool "run_setup_tests" c.runSetupTests ++
    omitNilBool "pause_after_trial" c.pauseAfterTrial ++
    omitNilBool "trust_certificates" c.trustCertificates ++
    omitNilBool "trust_fingerprints" c.trustFingerprints ++
    omitEmptyString "data_delay_sensitivity" c.dataDelaySensitivity ++
    omitEmptyInt "data_delay_threshold" c.dataDelayThreshold ++
    omitEmptyString "networking_method" c.networkingMethod ++
    omitEmptyString "proxy_agent_id" c.proxyAgentID ++
    omitEmptyString "private_link_id" c.privateLinkID ++
    omitEmptyString "hybrid_deployment_agent_id" c.hybridDeploymentAgentID

/-- A map of pointers, keys sorted as `encoding/json` sorts them. -/
def marshalMap {α : Type} (f : α → String) (m : GoMap (Option α)) : String :=
  jsonObject <| (m.entries.mergeSort fun a b => @decide _ (String.decLt a.1 b.1)).map fun e =>
    jsonMember e.1 (match e.2 with
      | none => "null"
      | some a => f a)

/-- A map member with `omitempty`: nil and empty maps are left out. -/
def omitEmptyMap {α : Type} (name : String) (f : α → String) (m : GoMap (Option α)) : List String :=
  if m.entries.isEmpty then [] else [jsonMember name (marshalMap f m)]

/-- `json.Marshal` of a `ColumnObject`. -/
def marshalColumn (c : ColumnObject) : String :=
  jsonObject <|
    [jsonMember "enabled" (toString c.enabled), jsonMember "hashed" (toString c.hashed),
      jsonMember "is_primary_key" (toString c.isPrimaryKey)] ++
    omitEmptyString "masking_algorithm" c.maskingAlgorithm

/-- `json.Marshal` of a `TableObject`. -/
def marshalTable (t : TableObject) : String :=
  jsonObject <|
    [jsonMember "enabled" (toString t.enabled)] ++ omitEmptyMap "columns" marshalColumn t.columns ++
      omitEmptyString "sync_mode" t.syncMode

/-- `json.Marshal` of a `SchemaObject`. -/
def marshalSchema (s : SchemaObject) : String :=
  jsonObject <|
    [jsonMember "enabled" (toString s.enabled)] ++
    omitEmptyMap "tables" marshalTable (s.tables.getD GoMap.empty)

/-- `json.Marshal(spec.ConnectorSchemas)` for a non-nil configuration. -/
def marshalSchemaConfig (cfg : ConnectorSchemaConfig) : String :=
  jsonObject <|
    omitEmptyMap "schemas" marshalSchema cfg.schemas ++
      omitEmptyString "schema_change_handling" cfg.schemaChangeHandling

end FivetranOperator
