import Mathlib.Data.List.Nodup

/-!
# The FivetranConnector resource

The v1alpha1 types the operator reconciles, with the two value shapes the Go code ranges over.
A Go map is modelled by its entries in the order one `range` enumerates them, each key once, so
a statement over every `GoMap` covers every enumeration order. Decoded JSON documents (`config`,
`auth`, secret data) keep their object entries in that same order.

The metadata is the part of `metav1.ObjectMeta` the reconciler reads or writes: labels,
annotations, finalizers and the deletion timestamp. Nil and empty maps behave alike in every
modelled function, so both are the empty `GoMap`.
-/

namespace FivetranOperator

/-- A Go `map[string]α`: its entries in one enumeration order, each key once. -/
structure GoMap (α : Type) where
  entries : List (String × α)
  nodup : (entries.map Prod.fst).Nodup

namespace GoMap

variable {α : Type}

/-- The empty map; Go's nil map reads the same way everywhere it is used. -/
def empty : GoMap α := ⟨[], List.nodup_nil⟩

/-- The keys in enumeration order. -/
def keys (m : GoMap α) : List String := m.entries.map Prod.fst

/-- The first value stored under `k` in an entry list. -/
def lookupEntry (k : String) : List (String × α) → Option α
  | [] => none
  | e :: rest => if e.1 = k then some e.2 else lookupEntry k rest

/-- The lookup `m[k]` with its presence flag. -/
def get? (m : GoMap α) (k : String) : Option α := lookupEntry k m.entries

/-- A key absent from the entries has no value. -/
theorem lookupEntry_eq_none {k : String} {entries : List (String × α)}
    (h : k ∉ entries.map Prod.fst) : lookupEntry k entries = none := by
  induction entries with
  | nil => rfl
  | cons e rest ih =>
    simp only [List.map_cons, List.mem_cons, not_or] at h
    simp [lookupEntry, Ne.symm h.1, ih h.2]

/-- `delete(m, k)`. -/
def erase (m : GoMap α) (k : String) : GoMap α :=
  ⟨m.entries.filter (·.1 != k), m.nodup.sublist ((List.filter_sublist _).map _)⟩

/-- The assignment `m[k] = v`; the assigned key is enumerated last. -/
def insert (m : GoMap α) (k : String) (v : α) : GoMap α :=
  ⟨(m.erase k).entries ++ [(k, v)], by
    have hk : k ∉ (m.erase k).entries.map Prod.fst := by simp [erase]
    simpa [List.nodup_append] using And.intro (m.erase k).nodup hk⟩

/-- The empty map holds no key. -/
@[simp] theorem get?_empty (k : String) : (empty : GoMap α).get? k = none := rfl

/-- Looking a key up in entries with one more at the end: the earlier entries first. -/
theorem lookupEntry_append (entries : List (String × α)) (k j : String) (v : α) :
    lookupEntry j (entries ++ [(k, v)]) = (lookupEntry j entries).or (lookupEntry j [(k, v)]) := by
  induction entries with
  | nil => rfl
  | cons e rest ih => by_cases h : e.1 = j <;> simp [lookupEntry, h, ih]

/-- Deleting a key removes its value. -/
@[simp] theorem get?_erase_self (m : GoMap α) (k : String) : (m.erase k).get? k = none :=
  lookupEntry_eq_none (by simp [erase])

/-- Dropping the entries of another key leaves the lookup of a key as it was. -/
theorem lookupEntry_filter_ne (entries : List (String × α)) {k j : String} (h : j ≠ k) :
    lookupEntry j (entries.filter (·.1 != k)) = lookupEntry j entries := by
  induction entries with
  | nil => rfl
  | cons e rest ih =>
    by_cases hj : e.1 = j
    · subst hj; simp [lookupEntry, List.filter_cons, h]
    · by_cases hk : e.1 = k <;> simp_all [lookupEntry, List.filter_cons]

/-- Deleting a key leaves every other key's value alone. -/
@[simp] theorem get?_erase_ne (m : GoMap α) {k j : String} (h : j ≠ k) :
    (m.erase k).get? j = m.get? j :=
  lookupEntry_filter_ne m.entries h

/-- Reading the key just assigned gives the assigned value. -/
@[simp] theorem get?_insert_self (m : GoMap α) (k : String) (v : α) :
    (m.insert k v).get? k = some v := by
  have h := get?_erase_self m k
  simp only [get?] at h
  simp [insert, get?, lookupEntry_append, h, lookupEntry]

/-- An assignment leaves every other key's value alone. -/
@[simp] theorem get?_insert_ne (m : GoMap α) {k j : String} (v : α) (h : j ≠ k) :
    (m.insert k v).get? j = m.get? j := by
  have he := get?_erase_ne m (k := k) h
  simp only [get?] at he
  simp only [insert, get?, lookupEntry_append, he]
  cases lookupEntry j m.entries <;> simp [lookupEntry, Ne.symm h]

/-- Maps with the same entries are equal. -/
theorem ext {m m' : GoMap α} (h : m.entries = m'.entries) : m = m' := by
  cases m; cases m'; cases h; rfl

/-- Assigning a key twice leaves the second assignment alone. -/
@[simp] theorem insert_insert (m : GoMap α) (k : String) (v w : α) :
    (m.insert k v).insert k w = m.insert k w :=
  ext (by simp [insert, erase, List.filter_append, List.filter_filter])

/-- A key is in the entries exactly when it has a value. -/
theorem mem_map_fst_iff_lookupEntry (k : String) :
    ∀ entries : List (String × α), k ∈ entries.map Prod.fst ↔ (lookupEntry k entries).isSome
  | [] => by simp [lookupEntry]
  | e :: rest => by
    by_cases h : e.1 = k <;> simp [lookupEntry, h, mem_map_fst_iff_lookupEntry k rest, Ne.symm]

/-- A key is enumerated exactly when it has a value. -/
theorem mem_keys_iff (m : GoMap α) (k : String) : k ∈ m.keys ↔ (m.get? k).isSome :=
  mem_map_fst_iff_lookupEntry k m.entries

/-- Assign the entries of a list in turn. -/
def insertAll (m : GoMap α) : List (String × α) → GoMap α
  | [] => m
  | (k, v) :: rest => (m.insert k v).insertAll rest

/-- Keys the list does not assign keep their value. -/
theorem get?_insertAll_of_not_mem (k : String) :
    ∀ (m : GoMap α) (l : List (String × α)), k ∉ l.map Prod.fst → (m.insertAll l).get? k = m.get? k
  | _, [], _ => rfl
  | m, (j, v) :: rest, h => by
    simp only [List.map_cons, List.mem_cons, not_or] at h
    rw [insertAll, get?_insertAll_of_not_mem k _ rest h.2, get?_insert_ne _ _ h.1]

/-- Each entry of a list with distinct keys is found after assigning them all. -/
theorem get?_insertAll_of_mem {k : String} {v : α} :
    ∀ (m : GoMap α) (l : List (String × α)), (l.map Prod.fst).Nodup → (k, v) ∈ l →
      (m.insertAll l).get? k = some v
  | _, [], _, h => nomatch h
  | m, (j, w) :: rest, hnodup, h => by
    rw [List.map_cons, List.nodup_cons] at hnodup
    rw [insertAll]
    rcases List.mem_cons.mp h with h | h
    · cases h
      rw [get?_insertAll_of_not_mem k _ rest hnodup.1, get?_insert_self]
    · exact get?_insertAll_of_mem _ rest hnodup.2 h

/-- Assigning a key the map does not hold appends its entry. -/
theorem insert_entries_of_get?_eq_none {m : GoMap α} {k : String} (h : m.get? k = none) (v : α) :
    (m.insert k v).entries = m.entries ++ [(k, v)] := by
  have hk : k ∉ m.keys := by simp [mem_keys_iff, h]
  simp only [insert, erase, List.append_left_inj]
  refine List.filter_eq_self.mpr fun e he => ?_
  simpa using fun heq : e.1 = k => hk (heq ▸ List.mem_map_of_mem _ he)

/-- Assigning distinct keys the map does not hold appends them in order. -/
theorem entries_insertAll : ∀ (m : GoMap α) (l : List (String × α)), (l.map Prod.fst).Nodup →
    (∀ k ∈ l.map Prod.fst, m.get? k = none) → (m.insertAll l).entries = m.entries ++ l
  | _, [], _, _ => (List.append_nil _).symm
  | m, (k, v) :: rest, hnodup, hfresh => by
    rw [List.map_cons, List.nodup_cons] at hnodup
    have hrest : ∀ j ∈ rest.map Prod.fst, (m.insert k v).get? j = none := fun j hj => by
      rw [get?_insert_ne _ _ fun h : j = k => hnodup.1 (h ▸ hj)]
      exact hfresh j (.tail _ hj)
    rw [insertAll, entries_insertAll _ rest hnodup.2 hrest,
      insert_entries_of_get?_eq_none (hfresh k (.head _)), List.append_assoc]
    rfl

/-- An entry after assigning a list is an old entry or one of the list's. -/
theorem mem_entries_insertAll {e : String × α} : ∀ (m : GoMap α) (l : List (String × α)),
    e ∈ (m.insertAll l).entries → e ∈ m.entries ∨ e ∈ l
  | _, [], h => .inl h
  | m, (k, v) :: rest, h => by
    rcases mem_entries_insertAll _ rest h with h | h
    · simp only [insert, erase, List.mem_append, List.mem_filter, List.mem_singleton] at h
      rcases h with ⟨h, -⟩ | rfl
      exacts [.inl h, .inr (.head _)]
    · exact .inr (.tail _ h)

/-- After assigning a list, the keys are the old ones and the list's. -/
theorem mem_keys_insertAll (k : String) :
    ∀ (m : GoMap α) (l : List (String × α)), k ∈ (m.insertAll l).keys ↔ k ∈ m.keys ∨ k ∈ l.map Prod.fst
  | _, [] => by simp [insertAll]
  | m, (j, v) :: rest => by
    rw [insertAll, mem_keys_insertAll k _ rest, mem_keys_iff, mem_keys_iff]
    by_cases h : k = j
    · subst h; simp
    · simp [h]

end GoMap

/-- A decoded JSON value; object entries keep their enumeration order and numbers their text. -/
inductive JsonValue where
  | null
  | bool (b : Bool)
  | number (text : String)
  | string (s : String)
  | array (items : List JsonValue)
  | object (entries : List (String × JsonValue))
  deriving Inhabited

/-- `runtime.RawExtension`: the embedded document, `none` when `Raw` is nil. -/
structure RawExtension where
  raw : Option JsonValue

/-- `ColumnObject`: per-column flags, validated by the provider and never drift-checked. -/
structure ColumnObject where
  enabled : Bool
  hashed : Bool
  isPrimaryKey : Bool
  maskingAlgorithm : String

/-- `TableObject`. -/
structure TableObject where
  enabled : Bool
  columns : GoMap (Option ColumnObject)
  syncMode : String

/-- `SchemaObject`; `tables` is `none` when the map is nil, which the comparator tells apart. -/
structure SchemaObject where
  enabled : Bool
  tables : Option (GoMap (Option TableObject))

/-- `ConnectorSchemaConfig`: the declared schema tree and the change-handling policy. -/
structure ConnectorSchemaConfig where
  schemas : GoMap (Option SchemaObject)
  schemaChangeHandling : String

/-- `Connector`, the connector half of the spec. -/
structure Connector where
  groupID : String
  service : String
  auth : Option RawExtension
  config : Option RawExtension
  dailySyncTime : String
  syncFrequency : Int
  scheduleType : String
  paused : Option Bool
  runSetupTests : Option Bool
  pauseAfterTrial : Option Bool
  trustCertificates : Option Bool
  trustFingerprints : Option Bool
  dataDelaySensitivity : String
  dataDelayThreshold : Int
  networkingMethod : String
  proxyAgentID : String
  privateLinkID : String
  hybridDeploymentAgentID : String

/-- `FivetranConnectorSpec`. -/
structure FivetranConnectorSpec where
  connector : Connector
  connectorSchemas : Option ConnectorSchemaConfig

/-- `metav1.ConditionStatus`. -/
inductive ConditionStatus where
  | conditionTrue
  | conditionFalse
  | conditionUnknown
  deriving DecidableEq, Repr

/-- `metav1.Condition`, without the observed generation nothing here sets. -/
structure Condition where
  type : String
  status : ConditionStatus
  reason : String
  message : String
  lastTransitionTime : Nat
  deriving DecidableEq, Repr

/-- `FivetranConnectorStatus`. -/
structure FivetranConnectorStatus where
  connectorURL : String
  connectorID : String
  conditions : List Condition
  deriving DecidableEq, Repr

/-- The metadata the reconciler reads and writes. -/
structure ObjectMeta where
  labels : GoMap String
  annotations : GoMap String
  finalizers : List String
  deletionTimestamp : Option Nat

/-- `FivetranConnector`. -/
structure FivetranConnector where
  metadata : ObjectMeta
  spec : FivetranConnectorSpec
  status : FivetranConnectorStatus

end FivetranOperator
