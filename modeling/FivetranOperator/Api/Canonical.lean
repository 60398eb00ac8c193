import FivetranOperator.Api.Unambiguous
import FivetranOperator.Fivetran.WrapError

/-!
# The fingerprint bytes name the spec's JSON value

The two fingerprints hash `json.Marshal` of the two halves of the spec. `connectorJson` and
`schemaConfigJson` are the JSON values of those halves: the members `json.Marshal` writes, in
declaration order, each map in the order `json.Marshal` writes it. `marshalConnector` and
`marshalSchemaConfig` encode exactly these values (`marshalConnector_eq_renderJson`,
`marshalSchemaConfig_eq_renderJson`).

The connector half reaches the operator as the API server stores it: each document decoded and
encoded again, keys once and sorted (`Connector.stored`). Numbers are compared by their text,
which the API server writes in one spelling per value. Two JSON values are equal up to key order
when their normal forms are equal (`JsonValue.normalize`).

The result (`fingerprintBytes_eq_iff`): the bytes fed to MD5 are equal exactly when the two
halves are equal as JSON values up to key order. It rests on three facts: the encoding names one
document (`renderJson_injective`), a struct's members stand in one fixed order
(`normalize_fields_iff`), and a map's entries are written sorted with each key once
(`normalize_sorted_inj`).
-/

namespace FivetranOperator

section Sorting

variable {α : Type}

/-- Core's order on strings, by code point, by which `marshalMap` sorts map keys: stated without
the `<` notation, which the library also declares on `String` with another meaning. -/
abbrev CodePointLt (a b : String) : Prop := @LT.lt String String.instLT a b

/-- The code point order is transitive. -/
theorem string_lt_trans {a b c : String} (hab : CodePointLt a b) (hbc : CodePointLt b c) :
    CodePointLt a c :=
  List.lt_trans (α := Char) Nat.lt_trans
    (fun h₁ h₂ => Nat.not_lt.2 <| Nat.le_trans (Nat.not_lt.1 h₂) (Nat.not_lt.1 h₁)) hab hbc

/-- Two strings each at most the other are equal. -/
theorem string_lt_antisymm {a b : String} (h₁ : String.le b a) (h₂ : String.le a b) : a = b :=
  String.ext <| List.lt_antisymm (α := Char) (fun h₁ h₂ =>
    Char.eq_of_val_eq (UInt32.eq_of_val_eq (Fin.ext (Nat.le_antisymm (Nat.not_lt.1 h₂) (Nat.not_lt.1 h₁)))))
    h₁ h₂

/-- A string before another is at most it. -/
theorem string_lt_asymm {a b : String} (hab : CodePointLt a b) : String.le a b :=
  fun hba => String.lt_irrefl a (string_lt_trans hab hba)

/-- The order on strings is total. -/
theorem string_le_total (a b : String) : String.le a b ∨ String.le b a :=
  (Decidable.em (CodePointLt b a)).elim (fun h => .inr (string_lt_asymm h)) .inl

/-- The order on strings is transitive. -/
theorem string_le_trans {a b c : String} (hab : String.le a b) (hbc : String.le b c) :
    String.le a c := fun hca => by
  by_cases h : CodePointLt a b
  · exact hbc (string_lt_trans hca h)
  · exact hbc (string_lt_antisymm h hab ▸ hca)

/-- On two different strings, the strict and the weak order agree. -/
theorem string_lt_iff_le {a b : String} (hne : a ≠ b) : CodePointLt a b ↔ String.le a b :=
  ⟨string_lt_asymm, fun hba => Decidable.by_contra fun hab => hne (string_lt_antisymm hab hba)⟩

/-- Merging by key with the strict and with the weak order agree when no key stands in both
halves. -/
theorem merge_lt_eq_le {l₁ l₂ : List (String × α)} (h : ∀ x ∈ l₁, ∀ y ∈ l₂, x.1 ≠ y.1) :
    l₁.merge l₂ (fun a b => @decide _ (String.decLt a.1 b.1)) =
      l₁.merge l₂ (fun a b => decide (String.le a.1 b.1)) := by
  simpa only [List.map_id] using
    @List.map_merge _ _ id (fun a b => @decide _ (String.decLt a.1 b.1))
      (fun a b => decide (String.le a.1 b.1)) l₁ l₂
      fun x hx y hy => by simpa only [id, decide_eq_decide] using string_lt_iff_le (h x hx y hy)

/-- Sorting by key with the strict order, as `marshalMap` does, and with the weak one agree on
entries whose keys are distinct: the merge only ever compares entries of the two halves, never
two of one key. -/
theorem mergeSort_lt_eq_le : ∀ (l : List (String × α)), (l.map Prod.fst).Nodup →
    l.mergeSort (fun a b => @decide _ (String.decLt a.1 b.1)) =
      l.mergeSort (fun a b => decide (String.le a.1 b.1))
  | [], _ => by simp
  | [_], _ => by simp
  | a :: b :: l, hl => by
    have hsplit := List.take_append_drop ((l.length + 2 + 1) / 2) (a :: b :: l)
    have hdisjoint : ∀ x ∈ (a :: b :: l).take ((l.length + 2 + 1) / 2),
        ∀ y ∈ (a :: b :: l).drop ((l.length + 2 + 1) / 2), x.1 ≠ y.1 := by
      rw [← hsplit, List.map_append, List.nodup_append] at hl
      exact fun x hx y hy hxy => hl.2.2 (List.mem_map_of_mem _ hx) (hxy ▸ List.mem_map_of_mem _ hy)
    have htake : (((a :: b :: l).take ((l.length + 2 + 1) / 2)).map Prod.fst).Nodup :=
      (List.Sublist.map _ (List.take_sublist _ _)).nodup hl
    have hdrop : (((a :: b :: l).drop ((l.length + 2 + 1) / 2)).map Prod.fst).Nodup :=
      (List.Sublist.map _ (List.drop_sublist _ _)).nodup hl
    rw [List.mergeSort, List.mergeSort]
    simp only [List.splitInTwo_fst, List.splitInTwo_snd, List.length_cons]
    rw [mergeSort_lt_eq_le _ htake, mergeSort_lt_eq_le _ hdrop]
    exact merge_lt_eq_le fun x hx y hy =>
      hdisjoint x (List.mem_mergeSort.mp hx) y (List.mem_mergeSort.mp hy)
  termination_by l => l.length
  decreasing_by all_goals simp only [List.length_take, List.length_drop, List.length_cons]; omega

/-- `marshalMap` writes a map's entries in key order. -/
theorem mergeSort_sorted (l : List (String × α)) (hl : (l.map Prod.fst).Nodup) :
    (l.mergeSort fun a b => @decide _ (String.decLt a.1 b.1)).Pairwise fun a b => String.le a.1 b.1 := by
  rw [mergeSort_lt_eq_le l hl]
  have hsorted : (l.mergeSort fun a b => decide (String.le a.1 b.1)).Pairwise
      fun a b => decide (String.le a.1 b.1) := by
    refine List.sorted_mergeSort (fun _ _ _ h₁ h₂ => ?_) (fun a b => ?_) l
    · exact decide_eq_true (string_le_trans (of_decide_eq_true h₁) (of_decide_eq_true h₂))
    · simpa using string_le_total a.1 b.1
  exact hsorted.imp fun h => of_decide_eq_true h

/-- Entries already in key order are left as they are. -/
theorem sortByKey_eq_self {l : List (String × α)} (h : l.Pairwise fun a b => String.le a.1 b.1) :
    sortByKey l = l :=
  List.Sorted.insertionSort_eq h

/-- In a list without repeats, each element stands after those before it. -/
theorem pairwise_indexOf_lt : ∀ {K : List String}, K.Nodup →
    K.Pairwise fun a b => K.indexOf a < K.indexOf b
  | [], _ => List.Pairwise.nil
  | k :: K, hK => by
    rw [List.nodup_cons] at hK
    have hne : ∀ x ∈ K, x ≠ k := fun x hx h => hK.1 (h ▸ hx)
    refine List.Pairwise.cons (fun b hb => ?_) ((pairwise_indexOf_lt hK.2).imp_of_mem ?_)
    · rw [List.indexOf_cons_self, List.indexOf_cons_ne _ (hne b hb).symm]
      exact Nat.succ_pos _
    · intro x y hx hy hxy
      rw [List.indexOf_cons_ne _ (hne x hx).symm, List.indexOf_cons_ne _ (hne y hy).symm]
      exact Nat.succ_lt_succ hxy

/-- Entries whose keys come from one list without repeats, in its order, are recovered from
their sorted form. -/
theorem sortByKey_inj {K : List String} (hK : K.Nodup) {l₁ l₂ : List (String × α)}
    (h₁ : (l₁.map Prod.fst).Sublist K) (h₂ : (l₂.map Prod.fst).Sublist K)
    (h : sortByKey l₁ = sortByKey l₂) : l₁ = l₂ := by
  let before : String × α → String × α → Prop := fun a b => K.indexOf a.1 < K.indexOf b.1
  haveI : IsAntisymm (String × α) before := ⟨fun _ _ hab hba => absurd (hab.trans hba) (lt_irrefl _)⟩
  have hperm : l₁.Perm l₂ := by
    have hsorted₁ : (sortByKey l₁).Perm l₁ := List.perm_insertionSort _ l₁
    have hsorted₂ : (sortByKey l₂).Perm l₂ := List.perm_insertionSort _ l₂
    rw [h] at hsorted₁
    exact hsorted₁.symm.trans hsorted₂
  exact List.eq_of_perm_of_sorted hperm
    ((List.pairwise_map (R := fun a b => K.indexOf a < K.indexOf b) (f := Prod.fst)).mp
      ((pairwise_indexOf_lt hK).sublist h₁))
    ((List.pairwise_map (R := fun a b => K.indexOf a < K.indexOf b) (f := Prod.fst)).mp
      ((pairwise_indexOf_lt hK).sublist h₂))

end Sorting

section NormalForms

variable {α : Type}

/-- `normalizeMembers` normalizes each value. -/
theorem normalizeMembers_eq_map : ∀ entries : List (String × JsonValue),
    normalizeMembers entries = entries.map fun e => (e.1, e.2.normalize)
  | [] => rfl
  | (k, v) :: rest => by rw [normalizeMembers, normalizeMembers_eq_map rest, List.map_cons]

/-- An object with each key once normalizes to its members normalized, sorted by key. -/
theorem normalize_object {entries : List (String × JsonValue)} (h : (entries.map Prod.fst).Nodup) :
    (JsonValue.object entries).normalize =
      .object (sortByKey (entries.map fun e => (e.1, e.2.normalize))) := by
  have hkeys : ((normalizeMembers entries).map Prod.fst).Nodup := by
    rw [normalizeMembers_eq_map, List.map_map]
    exact h
  rw [JsonValue.normalize, GoMap.entries_insertAll GoMap.empty _ hkeys (fun _ _ => rfl), normalizeMembers_eq_map]
  rfl

/-- Two objects whose keys strictly increase and whose values are recovered from their normal
forms are recovered from their own normal forms. -/
theorem normalize_sorted_inj {l₁ l₂ : List (String × JsonValue)}
    (h₁ : l₁.Pairwise fun a b => String.le a.1 b.1) (h₂ : l₂.Pairwise fun a b => String.le a.1 b.1)
    (hkeys₁ : (l₁.map Prod.fst).Nodup) (hkeys₂ : (l₂.map Prod.fst).Nodup)
    (hvalues : ∀ a ∈ l₁, ∀ b ∈ l₂, a.2.normalize = b.2.normalize → a.2 = b.2)
    (h : (JsonValue.object l₁).normalize = (JsonValue.object l₂).normalize) : l₁ = l₂ := by
  have hsorted : ∀ {l : List (String × JsonValue)}, (l.Pairwise fun a b => String.le a.1 b.1) →
      (l.map Prod.fst).Nodup →
      (JsonValue.object l).normalize = .object (l.map fun e => (e.1, e.2.normalize)) := fun {l} hl hk => by
    rw [normalize_object hk, sortByKey_eq_self (l := l.map fun e => (e.1, e.2.normalize))
      (List.pairwise_map.mpr hl)]
  rw [hsorted h₁ hkeys₁, hsorted h₂ hkeys₂, JsonValue.object.injEq] at h
  clear h₁ h₂ hkeys₁ hkeys₂ hsorted
  induction l₁ generalizing l₂ with
  | nil => exact (List.map_eq_nil_iff.mp h.symm).symm
  | cons a l₁ ih =>
    rcases l₂ with _ | ⟨b, l₂⟩
    · simp at h
    simp only [List.map_cons, List.cons.injEq, Prod.mk.injEq] at h
    have hab := hvalues a (.head _) b (.head _) h.1.2
    rw [ih (fun x hx y hy => hvalues x (.tail _ hx) y (.tail _ hy)) h.2, Prod.ext h.1.1 hab]

end NormalForms

section Fields

/-- The members of an object built from fields, each left out where it is `none`, as `omitempty`
leaves a member out. -/
def presentMembers (fields : List (String × Option JsonValue)) : List (String × JsonValue) :=
  fields.filterMap fun f => f.2.map (f.1, ·)

/-- A field with its value normalized. -/
def normalizeField (f : String × Option JsonValue) : String × Option JsonValue :=
  (f.1, f.2.map JsonValue.normalize)

/-- No field, no member. -/
@[simp] theorem presentMembers_nil : presentMembers [] = [] := rfl

/-- A field is a member when it is present. -/
@[simp] theorem presentMembers_cons (k : String) (o : Option JsonValue)
    (rest : List (String × Option JsonValue)) :
    presentMembers ((k, o) :: rest) = (o.map fun v => (k, v)).toList ++ presentMembers rest := by
  cases o <;> rfl

/-- The keys of the present members are among the fields' keys, in order. -/
theorem keys_presentMembers_sublist : ∀ fields : List (String × Option JsonValue),
    ((presentMembers fields).map Prod.fst).Sublist (fields.map Prod.fst)
  | [] => .slnil
  | (k, none) :: rest => (keys_presentMembers_sublist rest).cons k
  | (k, some _) :: rest => (keys_presentMembers_sublist rest).cons₂ k

/-- Normalizing the present members is normalizing the fields first. -/
theorem presentMembers_map_normalize : ∀ fields : List (String × Option JsonValue),
    (presentMembers fields).map (fun e => (e.1, e.2.normalize)) =
      presentMembers (fields.map normalizeField)
  | [] => rfl
  | (_, none) :: rest => presentMembers_map_normalize rest
  | (k, some v) :: rest => congrArg ((k, v.normalize) :: ·) (presentMembers_map_normalize rest)

/-- Normalizing the fields keeps their keys. -/
theorem keys_map_normalizeField (fields : List (String × Option JsonValue)) :
    (fields.map normalizeField).map Prod.fst = fields.map Prod.fst := by
  rw [List.map_map]
  rfl

/-- Fields over the same keys, each key once, are recovered from the members they write. -/
theorem presentMembers_inj : ∀ {F₁ F₂ : List (String × Option JsonValue)},
    F₁.map Prod.fst = F₂.map Prod.fst → (F₁.map Prod.fst).Nodup →
    presentMembers F₁ = presentMembers F₂ → F₁ = F₂
  | [], [], _, _, _ => rfl
  | [], _ :: _, hk, _, _ => by simp at hk
  | _ :: _, [], hk, _, _ => by simp at hk
  | (k₁, o₁) :: F₁, (k₂, o₂) :: F₂, hk, hnd, h => by
    simp only [List.map_cons, List.cons.injEq] at hk
    obtain ⟨rfl, hk⟩ := hk
    rw [List.map_cons, List.nodup_cons] at hnd
    have hfresh : ∀ {F : List (String × Option JsonValue)}, F.map Prod.fst = F₁.map Prod.fst →
        ∀ v, (k₁, v) ∉ presentMembers F := fun hF v hv =>
      hnd.1 (hF ▸ (keys_presentMembers_sublist _).subset (List.mem_map_of_mem Prod.fst hv))
    cases o₁ <;> cases o₂ <;>
      simp only [presentMembers_cons, Option.map_none', Option.map_some', Option.toList,
        List.nil_append, List.singleton_append] at h
    · rw [presentMembers_inj hk hnd.2 h]
    · exact absurd (h ▸ List.mem_cons_self _ _) (hfresh rfl _)
    · exact absurd (h ▸ List.mem_cons_self _ _) (hfresh hk.symm _)
    · obtain ⟨hv, h⟩ := List.cons.inj h
      rw [(Prod.mk.inj hv).2, presentMembers_inj hk hnd.2 h]

/-- Two objects built from fields over the same keys, each key once, have the same normal form
exactly when their fields are normalized alike: the members of a struct stand in one order. -/
theorem normalize_fields_iff {F₁ F₂ : List (String × Option JsonValue)}
    (hkeys : F₁.map Prod.fst = F₂.map Prod.fst) (hnodup : (F₁.map Prod.fst).Nodup) :
    (JsonValue.object (presentMembers F₁)).normalize = (JsonValue.object (presentMembers F₂)).normalize ↔
      F₁.map normalizeField = F₂.map normalizeField := by
  have hnormal : ∀ F : List (String × Option JsonValue), (F.map Prod.fst).Nodup →
      (JsonValue.object (presentMembers F)).normalize =
        .object (sortByKey (presentMembers (F.map normalizeField))) := fun F hF => by
    rw [normalize_object ((keys_presentMembers_sublist F).nodup hF), presentMembers_map_normalize]
  have hsub : ∀ F : List (String × Option JsonValue),
      ((presentMembers (F.map normalizeField)).map Prod.fst).Sublist (F.map Prod.fst) := fun F =>
    keys_map_normalizeField F ▸ keys_presentMembers_sublist _
  rw [hnormal F₁ hnodup, hnormal F₂ (hkeys ▸ hnodup), JsonValue.object.injEq]
  constructor
  · intro h
    refine presentMembers_inj (by rw [keys_map_normalizeField, keys_map_normalizeField, hkeys])
      (by rw [keys_map_normalizeField]; exact hnodup) ?_
    exact sortByKey_inj hnodup (hsub F₁) (hkeys ▸ hsub F₂) h
  · intro h
    rw [h]

end Fields

section Views

variable {α : Type}

/-- The value a `*RawExtension` field stands for: its document, `null` where `Raw` is nil. -/
def RawExtension.json (re : RawExtension) : JsonValue := re.raw.getD .null

/-- A string field with `omitempty`. -/
def stringField (s : String) : Option JsonValue := if s = "" then none else some (.string s)

/-- An int field with `omitempty`. -/
def intField (n : Int) : Option JsonValue := if n = 0 then none else some (.number (toString n))

/-- The fields of `spec.Connector` in declaration order, each `none` where `json.Marshal` leaves
it out. -/
def connectorFields (c : Connector) : List (String × Option JsonValue) :=
  [("group_id", some (.string c.groupID)), ("service", some (.string c.service)),
    ("auth", c.auth.map RawExtension.json),
    ("config", some ((c.config.map RawExtension.json).getD .null)),
    ("daily_sync_time", stringField c.dailySyncTime), ("sync_frequency", intField c.syncFrequency),
    ("schedule_type", stringField c.scheduleType),
    ("paused", some ((c.paused.map JsonValue.bool).getD .null)),
    ("run_setup_tests", c.runSetupTests.map .bool), ("pause_after_trial", c.pauseAfterTrial.map .bool),
    ("trust_certificates", c.trustCertificates.map .bool),
    ("trust_fingerprints", c.trustFingerprints.map .bool),
    ("data_delay_sensitivity", stringField c.dataDelaySensitivity),
    ("data_delay_threshold", intField c.dataDelayThreshold),
    ("networking_method", stringField c.networkingMethod), ("proxy_agent_id", stringField c.proxyAgentID),
    ("private_link_id", stringField c.privateLinkID),
    ("hybrid_deployment_agent_id", stringField c.hybridDeploymentAgentID)]

/-- `spec.Connector` as a JSON value. -/
def connectorJson (c : Connector) : JsonValue := .object (presentMembers (connectorFields c))

/-- A map of pointers as a JSON value, entries in the key order `json.Marshal` writes them in, a
nil pointer as `null`. -/
def mapJson (f : α → JsonValue) (m : GoMap (Option α)) : JsonValue :=
  .object ((m.entries.mergeSort fun a b => @decide _ (String.decLt a.1 b.1)).map
    fun e => (e.1, (e.2.map f).getD .null))

/-- A map field with `omitempty`: a nil or empty map is left out. -/
def mapField (f : α → JsonValue) (m : GoMap (Option α)) : Option JsonValue :=
  if m.entries.isEmpty then none else some (mapJson f m)

/-- The fields of a `ColumnObject`. -/
def columnFields (c : ColumnObject) : List (String × Option JsonValue) :=
  [("enabled", some (.bool c.enabled)), ("hashed", some (.bool c.hashed)),
    ("is_primary_key", some (.bool c.isPrimaryKey)), ("masking_algorithm", stringField c.maskingAlgorithm)]

/-- A `ColumnObject` as a JSON value. -/
def columnJson (c : ColumnObject) : JsonValue := .object (presentMembers (columnFields c))

/-- The fields of a `TableObject`. -/
def tableFields (t : TableObject) : List (String × Option JsonValue) :=
  [("enabled", some (.bool t.enabled)), ("columns", mapField columnJson t.columns),
    ("sync_mode", stringField t.syncMode)]

/-- A `TableObject` as a JSON value. -/
def tableJson (t : TableObject) : JsonValue := .object (presentMembers (tableFields t))

/-- The fields of a `SchemaObject`. -/
def schemaFields (s : SchemaObject) : List (String × Option JsonValue) :=
  [("enabled", some (.bool s.enabled)), ("tables", mapField tableJson (s.tables.getD GoMap.empty))]

/-- A `SchemaObject` as a JSON value. -/
def schemaJson (s : SchemaObject) : JsonValue := .object (presentMembers (schemaFields s))

/-- The fields of a `ConnectorSchemaConfig`. -/
def schemaConfigFields (cfg : ConnectorSchemaConfig) : List (String × Option JsonValue) :=
  [("schemas", mapField schemaJson cfg.schemas),
    ("schema_change_handling", stringField cfg.schemaChangeHandling)]

/-- `spec.ConnectorSchemas` as a JSON value. -/
def schemaConfigJson (cfg : ConnectorSchemaConfig) : JsonValue :=
  .object (presentMembers (schemaConfigFields cfg))

/-- The members written of fields: one for each field that is not left out. -/
theorem renderMembers_presentMembers : ∀ fields : List (String × Option JsonValue),
    renderMembers (presentMembers fields) =
      (fields.map fun f => (f.2.map fun v => jsonMember f.1 (renderJson v)).toList).flatten
  | [] => rfl
  | (_, none) :: rest => renderMembers_presentMembers rest
  | (k, some v) :: rest => by
    rw [presentMembers_cons, Option.map_some', Option.toList, List.singleton_append, renderMembers,
      renderMembers_presentMembers rest]
    rfl

/-- `omitEmptyString` writes the member of a non-empty string. -/
theorem omitEmptyString_eq (name value : String) :
    omitEmptyString name value = ((stringField value).map fun v => jsonMember name (renderJson v)).toList := by
  unfold omitEmptyString stringField
  split <;> rfl

/-- `omitEmptyInt` writes the member of a non-zero number. -/
theorem omitEmptyInt_eq (name : String) (value : Int) :
    omitEmptyInt name value = ((intField value).map fun v => jsonMember name (renderJson v)).toList := by
  unfold omitEmptyInt intField
  split <;> rfl

/-- `omitNilBool` writes the member of a set flag. -/
theorem omitNilBool_eq (name : String) (value : Option Bool) :
    omitNilBool name value = ((value.map JsonValue.bool).map fun v => jsonMember name (renderJson v)).toList := by
  cases value <;> rfl

/-- A raw extension is written as its document. -/
theorem marshalRawExtension_eq (re : RawExtension) : marshalRawExtension re = renderJson re.json := by
  unfold marshalRawExtension RawExtension.json
  cases re.raw <;> rfl

/-- A `*bool` is written as its JSON value, `null` when nil. -/
theorem marshalOptBool_eq (o : Option Bool) :
    marshalOptBool o = renderJson ((o.map JsonValue.bool).getD .null) := by
  cases o <;> rfl

/-- `json.Marshal(spec.Connector)` encodes the connector's JSON value. -/
theorem marshalConnector_eq_renderJson (c : Connector) : marshalConnector c = renderJson (connectorJson c) := by
  rw [connectorJson, renderJson, renderMembers_presentMembers]
  unfold marshalConnector connectorFields
  simp only [List.map_cons, List.map_nil, List.flatten_cons, List.flatten_nil, omitEmptyString_eq,
    omitEmptyInt_eq, omitNilBool_eq, List.append_assoc, List.append_nil, marshalRawExtension_eq,
    marshalOptBool_eq, Option.toList, List.singleton_append, List.cons_append, List.nil_append]
  rcases c.auth with _ | auth <;> rcases c.config with _ | config <;> rfl

/-- `marshalMap` encodes the map's JSON value. -/
theorem marshalMap_eq {f : α → String} {g : α → JsonValue} (hf : ∀ a, f a = renderJson (g a))
    (m : GoMap (Option α)) : marshalMap f m = renderJson (mapJson g m) := by
  rw [marshalMap, mapJson, renderJson, renderMembers_eq_map, List.map_map]
  refine congrArg jsonObject (List.map_congr_left fun e _ => ?_)
  rcases e with ⟨k, _ | a⟩
  · rfl
  · exact congrArg (jsonMember k) (hf a)

/-- `omitEmptyMap` writes the member of a non-empty map. -/
theorem omitEmptyMap_eq {f : α → String} {g : α → JsonValue} (hf : ∀ a, f a = renderJson (g a))
    (name : String) (m : GoMap (Option α)) :
    omitEmptyMap name f m = ((mapField g m).map fun v => jsonMember name (renderJson v)).toList := by
  unfold omitEmptyMap mapField
  split
  · rfl
  · rw [marshalMap_eq hf]
    rfl

/-- `marshalColumn` writes the column's JSON value. -/
theorem marshalColumn_eq (c : ColumnObject) : marshalColumn c = renderJson (columnJson c) := by
  rw [columnJson, renderJson, renderMembers_presentMembers]
  simp only [marshalColumn, columnFields, List.map_cons, List.map_nil, List.flatten_cons,
    List.flatten_nil, omitEmptyString_eq, Option.map_some', Option.toList, List.singleton_append,
    List.cons_append, List.append_nil]
  rfl

/-- `marshalTable` writes the table's JSON value. -/
theorem marshalTable_eq (t : TableObject) : marshalTable t = renderJson (tableJson t) := by
  rw [tableJson, renderJson, renderMembers_presentMembers]
  simp only [marshalTable, tableFields, List.map_cons, List.map_nil, List.flatten_cons,
    List.flatten_nil, omitEmptyString_eq, omitEmptyMap_eq marshalColumn_eq, Option.map_some',
    Option.toList, List.singleton_append, List.cons_append, List.append_nil, List.append_assoc]
  rfl

/-- `marshalSchema` writes the schema's JSON value. -/
theorem marshalSchema_eq (s : SchemaObject) : marshalSchema s = renderJson (schemaJson s) := by
  rw [schemaJson, renderJson, renderMembers_presentMembers]
  simp only [marshalSchema, schemaFields, List.map_cons, List.map_nil, List.flatten_cons,
    List.flatten_nil, omitEmptyMap_eq marshalTable_eq, Option.map_some', Option.toList,
    List.singleton_append, List.cons_append, List.append_nil]
  rfl

/-- `json.Marshal(spec.ConnectorSchemas)` encodes the configuration's JSON value. -/
theorem marshalSchemaConfig_eq_renderJson (cfg : ConnectorSchemaConfig) :
    marshalSchemaConfig cfg = renderJson (schemaConfigJson cfg) := by
  rw [schemaConfigJson, renderJson, renderMembers_presentMembers]
  simp only [marshalSchemaConfig, schemaConfigFields, List.map_cons, List.map_nil, List.flatten_cons,
    List.flatten_nil, omitEmptyString_eq, omitEmptyMap_eq marshalSchema_eq, List.append_nil]

end Views

section Storage

/-- A document as the API server stores it: decoded and encoded again, each key once and sorted. -/
def RawExtension.stored (re : RawExtension) : RawExtension := ⟨re.raw.map JsonValue.normalize⟩

/-- The connector half of a spec as the API server stores it and the operator reads it. -/
def Connector.stored (c : Connector) : Connector :=
  { c with auth := c.auth.map RawExtension.stored, config := c.config.map RawExtension.stored }

/-- A stored document is the normal form of the document. -/
@[simp] theorem RawExtension.json_stored (re : RawExtension) : re.stored.json = re.json.normalize := by
  rcases re with ⟨_ | v⟩ <;> rfl

/-- A string field is its own normal form. -/
@[simp] theorem stringField_map_normalize (s : String) :
    (stringField s).map JsonValue.normalize = stringField s := by
  unfold stringField
  split <;> rfl

/-- A number field is its own normal form. -/
@[simp] theorem intField_map_normalize (n : Int) : (intField n).map JsonValue.normalize = intField n := by
  unfold intField
  split <;> rfl

/-- A flag is its own normal form. -/
@[simp] theorem boolField_map_normalize (b : Option Bool) :
    (b.map JsonValue.bool).map JsonValue.normalize = b.map JsonValue.bool := by
  cases b <;> rfl

/-- Storing the connector normalizes its documents and leaves its other fields. -/
theorem connectorFields_stored (c : Connector) :
    connectorFields c.stored = (connectorFields c).map normalizeField := by
  have hdoc : ∀ o : Option RawExtension,
      (o.map RawExtension.stored).map RawExtension.json = (o.map RawExtension.json).map JsonValue.normalize :=
    fun o => by cases o <;> simp
  have hconfig : ∀ o : Option JsonValue, (o.map JsonValue.normalize).getD .null = (o.getD .null).normalize :=
    fun o => by cases o <;> rfl
  have hstring : ∀ s, (JsonValue.string s).normalize = .string s := fun _ => rfl
  have hpaused : ∀ o : Option Bool,
      ((o.map JsonValue.bool).getD .null).normalize = (o.map JsonValue.bool).getD .null := fun o => by
    cases o <;> rfl
  simp only [connectorFields, Connector.stored, List.map_cons, List.map_nil, normalizeField,
    Option.map_some', hdoc, hconfig, hpaused, hstring, stringField_map_normalize,
    intField_map_normalize, boolField_map_normalize]

end Storage

section Spelling

variable {α : Type}

instance (text : String) : Decidable (NumberText text) := inferInstanceAs (Decidable (_ ∧ _))

instance (v : JsonValue) : Decidable v.Spelled :=
  inferInstanceAs (Decidable (∀ t ∈ v.numbers, NumberText t))

/-- The numbers of both documents are spelled as numbers, as every number of the JSON grammar is
(`numberText_of_parseNumber`). -/
def Connector.DocumentsSpelled (c : Connector) : Prop :=
  (∀ re ∈ c.config, re.json.Spelled) ∧ (∀ re ∈ c.auth, re.json.Spelled)

instance (c : Connector) : Decidable c.DocumentsSpelled := inferInstanceAs (Decidable (_ ∧ _))

/-- `%d` of an int is spelled as a number. -/
theorem numberText_toString (n : Int) : NumberText (toString n) := by
  cases n with
  | ofNat m =>
    have hm := Fmt.toDigits_decimal m
    exact ⟨hm.ne_nil, fun c hc => by simp [isNumberChar, hm.digits c hc]⟩
  | negSucc m =>
    have hm := Fmt.toDigits_decimal (m + 1)
    refine ⟨List.cons_ne_nil _ _, fun c hc => ?_⟩
    rcases List.mem_cons.mp hc with rfl | hc
    · rfl
    · simp [isNumberChar, hm.digits c hc]

/-- Normalizing keeps every number spelled as one. -/
theorem spelled_normalize {v : JsonValue} (h : v.Spelled) : v.normalize.Spelled :=
  fun t ht => h t (mem_numbers_normalize v ht)

/-- An object whose field values are spelled is spelled. -/
theorem spelled_presentMembers {fields : List (String × Option JsonValue)}
    (h : ∀ f ∈ fields, ∀ v ∈ f.2, JsonValue.Spelled v) : (JsonValue.object (presentMembers fields)).Spelled :=
  fun t ht => by
    obtain ⟨e, he, ht⟩ := mem_memberNumbers.mp ht
    obtain ⟨f, hf, hfe⟩ := List.mem_filterMap.mp he
    obtain ⟨v, hv, rfl⟩ := Option.map_eq_some'.mp hfe
    exact h f hf v hv t ht

/-- A map whose values are spelled is spelled. -/
theorem spelled_mapJson {f : α → JsonValue} (hf : ∀ a, (f a).Spelled) (m : GoMap (Option α)) :
    (mapJson f m).Spelled := fun t ht => by
  obtain ⟨e, he, ht⟩ := mem_memberNumbers.mp ht
  obtain ⟨⟨k, o⟩, -, rfl⟩ := List.mem_map.mp he
  cases o with
  | none => exact absurd ht (List.not_mem_nil t)
  | some a => exact hf a t ht


/-- A map of values whose numbers are spelled has its numbers spelled. -/
theorem spelled_mapField {f : α → JsonValue} (hf : ∀ a, (f a).Spelled) (m : GoMap (Option α)) :
    ∀ v ∈ mapField f m, JsonValue.Spelled v := by
  unfold mapField
  split
  · exact fun _ h => nomatch h
  · rintro v ⟨⟩
    exact spelled_mapJson hf m

/-- A present value with spelled numbers. -/
theorem spelled_some {v : JsonValue} (h : v.Spelled) : ∀ w ∈ some v, JsonValue.Spelled w :=
  fun _ hw => by
    cases hw
    exact h

/-- A value with no number, array or object has no number to spell. -/
theorem spelled_scalar : ∀ v : JsonValue, (∀ t, v ≠ .number t) → (∀ l, v ≠ .array l) →
    (∀ l, v ≠ .object l) → v.Spelled
  | .number t, h, _, _ => absurd rfl (h t)
  | .array l, _, h, _ => absurd rfl (h l)
  | .object l, _, _, h => absurd rfl (h l)
  | .null, _, _, _ | .bool _, _, _, _ | .string _, _, _, _ => fun t ht => absurd ht (List.not_mem_nil t)

/-- A flag has no number. -/
theorem spelled_bool (b : Bool) : (JsonValue.bool b).Spelled :=
  spelled_scalar _ (fun _ => nofun) (fun _ => nofun) (fun _ => nofun)

/-- `null` has no number. -/
theorem spelled_null : JsonValue.null.Spelled :=
  spelled_scalar _ (fun _ => nofun) (fun _ => nofun) (fun _ => nofun)

/-- A string has no number. -/
theorem spelled_string (s : String) : (JsonValue.string s).Spelled :=
  spelled_scalar _ (fun _ => nofun) (fun _ => nofun) (fun _ => nofun)

/-- A string field has no number. -/
theorem spelled_stringField {s : String} : ∀ v ∈ stringField s, JsonValue.Spelled v := by
  unfold stringField
  split
  · exact fun _ h => nomatch h
  · exact spelled_some (spelled_string s)

/-- A number field is spelled as `strconv` writes an integer. -/
theorem spelled_intField {n : Int} : ∀ v ∈ intField n, JsonValue.Spelled v := by
  unfold intField
  split
  · exact fun _ h => nomatch h
  · refine spelled_some fun t ht => ?_
    rw [List.mem_singleton.mp ht]
    exact numberText_toString n

/-- A flag field has no number. -/
theorem spelled_boolField (b : Option Bool) : ∀ v ∈ b.map JsonValue.bool, JsonValue.Spelled v := by
  cases b
  · exact fun _ h => nomatch h
  · exact spelled_some (spelled_bool _)

/-- A map entry, `null` when absent, keeps its value's spelling. -/
theorem spelled_getD {o : Option JsonValue} (h : ∀ v ∈ o, JsonValue.Spelled v) :
    ∀ w ∈ some (o.getD .null), JsonValue.Spelled w := by
  cases o
  · exact spelled_some spelled_null
  · exact spelled_some (h _ rfl)

/-- A column's numbers are spelled. -/
theorem columnJson_spelled (c : ColumnObject) : (columnJson c).Spelled := by
  refine spelled_presentMembers fun f hf => ?_
  simp only [columnFields, List.mem_cons, List.not_mem_nil, or_false] at hf
  rcases hf with rfl | rfl | rfl | rfl
  · exact spelled_some (spelled_bool _)
  · exact spelled_some (spelled_bool _)
  · exact spelled_some (spelled_bool _)
  · exact spelled_stringField

/-- A table's numbers are spelled. -/
theorem tableJson_spelled (t : TableObject) : (tableJson t).Spelled := by
  refine spelled_presentMembers fun f hf => ?_
  simp only [tableFields, List.mem_cons, List.not_mem_nil, or_false] at hf
  rcases hf with rfl | rfl | rfl
  · exact spelled_some (spelled_bool _)
  · exact spelled_mapField columnJson_spelled _
  · exact spelled_stringField

/-- A schema's numbers are spelled. -/
theorem schemaJson_spelled (s : SchemaObject) : (schemaJson s).Spelled := by
  refine spelled_presentMembers fun f hf => ?_
  simp only [schemaFields, List.mem_cons, List.not_mem_nil, or_false] at hf
  rcases hf with rfl | rfl
  · exact spelled_some (spelled_bool _)
  · exact spelled_mapField tableJson_spelled _

/-- A schema configuration's numbers are spelled. -/
theorem schemaConfigJson_spelled (cfg : ConnectorSchemaConfig) : (schemaConfigJson cfg).Spelled := by
  refine spelled_presentMembers fun f hf => ?_
  simp only [schemaConfigFields, List.mem_cons, List.not_mem_nil, or_false] at hf
  rcases hf with rfl | rfl
  · exact spelled_mapField schemaJson_spelled _
  · exact spelled_stringField

/-- Every field of a connector whose documents are spelled is spelled. -/
theorem connectorFields_spelled {c : Connector} (hc : c.DocumentsSpelled) :
    ∀ f ∈ connectorFields c, ∀ v ∈ f.2, JsonValue.Spelled v := by
  have hauth : ∀ v ∈ c.auth.map RawExtension.json, JsonValue.Spelled v := fun v hv => by
    obtain ⟨re, hre, rfl⟩ := Option.map_eq_some'.mp hv
    exact hc.2 re hre
  have hconfig : ∀ v ∈ c.config.map RawExtension.json, JsonValue.Spelled v := fun v hv => by
    obtain ⟨re, hre, rfl⟩ := Option.map_eq_some'.mp hv
    exact hc.1 re hre
  intro f hf
  simp only [connectorFields, List.mem_cons, List.not_mem_nil, or_false] at hf
  rcases hf with rfl | rfl | rfl | rfl | rfl | rfl | rfl | rfl | rfl | rfl | rfl | rfl | rfl | rfl |
    rfl | rfl | rfl | rfl
  · exact spelled_some (spelled_string _)
  · exact spelled_some (spelled_string _)
  · exact hauth
  · exact spelled_getD hconfig
  · exact spelled_stringField
  · exact spelled_intField
  · exact spelled_stringField
  · exact spelled_getD (spelled_boolField _)
  · exact spelled_boolField _
  · exact spelled_boolField _
  · exact spelled_boolField _
  · exact spelled_boolField _
  · exact spelled_stringField
  · exact spelled_intField
  · exact spelled_stringField
  · exact spelled_stringField
  · exact spelled_stringField
  · exact spelled_stringField

/-- A stored connector whose documents are spelled is spelled. -/
theorem connectorJson_stored_spelled {c : Connector} (hc : c.DocumentsSpelled) :
    (connectorJson c.stored).Spelled := by
  refine spelled_presentMembers ?_
  rw [connectorFields_stored]
  intro f hf v hv
  obtain ⟨f, hf', rfl⟩ := List.mem_map.mp hf
  obtain ⟨w, hw, rfl⟩ := Option.map_eq_some'.mp hv
  exact spelled_normalize (connectorFields_spelled hc f hf' w hw)

end Spelling

section Fingerprint

variable {α : Type}

/-- A flag is its own normal form. -/
@[simp] theorem normalize_bool (b : Bool) : (JsonValue.bool b).normalize = .bool b := rfl

/-- A value written for an optional map entry, the entry's object or `null`, is recovered from
its normal form. -/
theorem entryValue_normalize_inj {f : α → JsonValue} (hobj : ∀ a, ∃ l, f a = .object l)
    (hf : ∀ a b, (f a).normalize = (f b).normalize → f a = f b) :
    ∀ o₁ o₂ : Option α, ((o₁.map f).getD .null).normalize = ((o₂.map f).getD .null).normalize →
      (o₁.map f).getD .null = (o₂.map f).getD .null
  | none, none, _ => rfl
  | some a, some b, h => hf a b h
  | some a, none, h => by
    obtain ⟨l, hl⟩ := hobj a
    simp only [Option.map_some', Option.getD_some, Option.map_none', Option.getD_none, hl] at h
    rw [JsonValue.normalize] at h
    cases h
  | none, some b, h => by
    obtain ⟨l, hl⟩ := hobj b
    simp only [Option.map_some', Option.getD_some, Option.map_none', Option.getD_none, hl] at h
    rw [JsonValue.normalize] at h
    cases h

/-- A map whose values are objects recovered from their normal forms is recovered from its own:
its entries stand in key order, each key once. -/
theorem mapJson_normalize_inj {f : α → JsonValue} (hobj : ∀ a, ∃ l, f a = .object l)
    (hf : ∀ a b, (f a).normalize = (f b).normalize → f a = f b) {m₁ m₂ : GoMap (Option α)}
    (h : (mapJson f m₁).normalize = (mapJson f m₂).normalize) : mapJson f m₁ = mapJson f m₂ := by
  have hsorted : ∀ m : GoMap (Option α),
      ((m.entries.mergeSort fun a b => @decide _ (String.decLt a.1 b.1)).map
        fun e => (e.1, (e.2.map f).getD .null)).Pairwise fun a b => String.le a.1 b.1 :=
    fun m => List.pairwise_map.mpr (mergeSort_sorted m.entries m.nodup)
  have hkeys : ∀ m : GoMap (Option α),
      (((m.entries.mergeSort fun a b => @decide _ (String.decLt a.1 b.1)).map
        fun e => (e.1, (e.2.map f).getD .null)).map Prod.fst).Nodup := fun m => by
    rw [List.map_map]
    exact ((List.mergeSort_perm _ _).map Prod.fst).nodup_iff.mpr m.nodup
  unfold mapJson at h ⊢
  rw [normalize_sorted_inj (hsorted m₁) (hsorted m₂) (hkeys m₁) (hkeys m₂) ?_ h]
  intro a ha b hb
  obtain ⟨e₁, -, rfl⟩ := List.mem_map.mp ha
  obtain ⟨e₂, -, rfl⟩ := List.mem_map.mp hb
  exact entryValue_normalize_inj hobj hf e₁.2 e₂.2

/-- A map field whose values are objects recovered from their normal forms is recovered from its
own. -/
theorem mapField_normalize_inj {f : α → JsonValue} (hobj : ∀ a, ∃ l, f a = .object l)
    (hf : ∀ a b, (f a).normalize = (f b).normalize → f a = f b) {m₁ m₂ : GoMap (Option α)}
    (h : (mapField f m₁).map JsonValue.normalize = (mapField f m₂).map JsonValue.normalize) :
    mapField f m₁ = mapField f m₂ := by
  unfold mapField at h ⊢
  by_cases h₁ : m₁.entries.isEmpty <;> by_cases h₂ : m₂.entries.isEmpty <;>
    simp only [h₁, h₂, ↓reduceIte, Option.map_some', Option.map_none', Option.some.injEq, reduceCtorEq] at h ⊢
  exact mapJson_normalize_inj hobj hf h

/-- A column's JSON value is recovered from its normal form. -/
theorem columnJson_normalize_inj {c₁ c₂ : ColumnObject}
    (h : (columnJson c₁).normalize = (columnJson c₂).normalize) : columnJson c₁ = columnJson c₂ := by
  rw [columnJson, columnJson,
    @normalize_fields_iff (columnFields c₁) (columnFields c₂) rfl
      (show List.Nodup ["enabled", "hashed", "is_primary_key", "masking_algorithm"] by decide)] at h
  simp only [columnFields, List.map_cons, List.map_nil, normalizeField, Option.map_some', normalize_bool,
    stringField_map_normalize] at h
  rw [columnJson, columnJson, columnFields, columnFields, h]

/-- A table's JSON value is recovered from its normal form. -/
theorem tableJson_normalize_inj {t₁ t₂ : TableObject}
    (h : (tableJson t₁).normalize = (tableJson t₂).normalize) : tableJson t₁ = tableJson t₂ := by
  rw [tableJson, tableJson,
    @normalize_fields_iff (tableFields t₁) (tableFields t₂) rfl
      (show List.Nodup ["enabled", "columns", "sync_mode"] by decide)] at h
  simp only [tableFields, List.map_cons, List.map_nil, normalizeField, Option.map_some', normalize_bool,
    stringField_map_normalize, List.cons.injEq, Prod.mk.injEq, true_and, and_true] at h
  obtain ⟨henabled, hcolumns, hmode⟩ := h
  rw [tableJson, tableJson, tableFields, tableFields, henabled, hmode,
    mapField_normalize_inj (f := columnJson) (fun _ => ⟨_, rfl⟩) (fun _ _ => columnJson_normalize_inj) hcolumns]

/-- A schema's JSON value is recovered from its normal form. -/
theorem schemaJson_normalize_inj {s₁ s₂ : SchemaObject}
    (h : (schemaJson s₁).normalize = (schemaJson s₂).normalize) : schemaJson s₁ = schemaJson s₂ := by
  rw [schemaJson, schemaJson,
    @normalize_fields_iff (schemaFields s₁) (schemaFields s₂) rfl
      (show List.Nodup ["enabled", "tables"] by decide)] at h
  simp only [schemaFields, List.map_cons, List.map_nil, normalizeField, Option.map_some', normalize_bool,
    List.cons.injEq, Prod.mk.injEq, true_and, and_true] at h
  obtain ⟨henabled, htables⟩ := h
  rw [schemaJson, schemaJson, schemaFields, schemaFields, henabled,
    mapField_normalize_inj (f := tableJson) (fun _ => ⟨_, rfl⟩) (fun _ _ => tableJson_normalize_inj) htables]

/-- A schema configuration's JSON value is recovered from its normal form. -/
theorem schemaConfigJson_normalize_inj {cfg₁ cfg₂ : ConnectorSchemaConfig}
    (h : (schemaConfigJson cfg₁).normalize = (schemaConfigJson cfg₂).normalize) :
    schemaConfigJson cfg₁ = schemaConfigJson cfg₂ := by
  rw [schemaConfigJson, schemaConfigJson,
    @normalize_fields_iff (schemaConfigFields cfg₁) (schemaConfigFields cfg₂) rfl
      (show List.Nodup ["schemas", "schema_change_handling"] by decide)] at h
  simp only [schemaConfigFields, List.map_cons, List.map_nil, normalizeField, stringField_map_normalize,
    List.cons.injEq, Prod.mk.injEq, true_and, and_true] at h
  obtain ⟨hschemas, hhandling⟩ := h
  rw [schemaConfigJson, schemaConfigJson, schemaConfigFields, schemaConfigFields, hhandling,
    mapField_normalize_inj (f := schemaJson) (fun _ => ⟨_, rfl⟩) (fun _ _ => schemaJson_normalize_inj) hschemas]

/-- The connector's keys are distinct. -/
theorem connectorKeys_nodup (c : Connector) : ((connectorFields c).map Prod.fst).Nodup :=
  show List.Nodup ["group_id", "service", "auth", "config", "daily_sync_time", "sync_frequency",
    "schedule_type", "paused", "run_setup_tests", "pause_after_trial", "trust_certificates",
    "trust_fingerprints", "data_delay_sensitivity", "data_delay_threshold", "networking_method",
    "proxy_agent_id", "private_link_id", "hybrid_deployment_agent_id"] by decide

/-- A postgres connector whose config is the object with these members, in this order. -/
def configuredConnector (members : List (String × JsonValue)) : Connector :=
  { groupID := "warehouse", service := "postgres", auth := none,
    config := some ⟨some (.object members)⟩, dailySyncTime := "", syncFrequency := 0,
    scheduleType := "manual", paused := some false, runSetupTests := some false,
    pauseAfterTrial := none, trustCertificates := none, trustFingerprints := none,
    dataDelaySensitivity := "", dataDelayThreshold := 0, networkingMethod := "", proxyAgentID := "",
    privateLinkID := "", hybridDeploymentAgentID := "" }

/-- One config document in two key orders. -/
def hostPortMembers : List (String × JsonValue) := [("host", .string "db"), ("port", .number "5432")]

/-- A schema configuration with no schemas and no policy. -/
def emptySchemaConfig : ConnectorSchemaConfig := ⟨GoMap.empty, ""⟩

/-- Stored, the host/port document hashes the same in either key order. -/
example : marshalConnector (configuredConnector hostPortMembers).stored =
    marshalConnector (configuredConnector hostPortMembers.reverse).stored := by rfl

end Fingerprint

end FivetranOperator
