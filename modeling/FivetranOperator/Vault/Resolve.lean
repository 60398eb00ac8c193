import FivetranOperator.Errors

/-!
# The secret resolver

`ResolveSecrets` and its helpers (`pkg/fivetran/vault/interfaces.go`). The secret store is a
function from a KV v2 path to what a `Get` there returns; the resolver walks the decoded
document depth-first, replaces each `vault:path#key` string by the value stored under `key`,
and memoizes fetched paths for the length of one call. The first error ends the walk and leaves
the document as it was.

Each `Get` the walk issues is logged in the resolver state next to the cache. The document is
modelled as already decoded (`RawExtension.raw`), so `json.Unmarshal` and `json.Marshal` are
the identity and cannot fail.
-/

namespace FivetranOperator

/-- What a KV v2 `Get` at one path gives the resolver. -/
inductive SecretFetch where
  /-- The client call failed. -/
  | apiError (err : GoError)
  /-- A nil secret or nil `Data`. -/
  | noData
  /-- `Data["data"]` is missing or not a map. -/
  | notKV
  /-- The secret's key/value map. -/
  | data (values : GoMap JsonValue)

/-- A secret store: the answer of a `Get` at each path. -/
abbrev SecretStore := String → SecretFetch

/-- Go's `%v` of a `[]string`. -/
def formatStrings (xs : List String) : String := "[" ++ String.intercalate " " xs ++ "]"

/-- `NewInvalidReferenceError`. -/
def newInvalidReferenceError (keyPath vaultRef details : String) : GoError :=
  .vault (.wrap "" (.sentinel .invalidVaultReference) (": " ++ details)) false keyPath vaultRef

/-- `NewKeyNotFoundError`. -/
def newKeyNotFoundError (keyPath key path : String) (availableKeys : List String) : GoError :=
  .vault (.wrap "" (.sentinel .keyNotFound)
      (" '" ++ key ++ "' at path '" ++ path ++ "' (available keys: " ++ formatStrings availableKeys ++ ")"))
    false keyPath ("vault:" ++ path ++ "#" ++ key)

/-- `NewSecretNotFoundError`. -/
def newSecretNotFoundError (keyPath vaultRef path : String) : GoError :=
  .vault (.wrap "" (.sentinel .secretNotFound) (" '" ++ path ++ "'")) false keyPath vaultRef

/-- `NewSecretDataNilError`. -/
def newSecretDataNilError (keyPath vaultRef : String) : GoError :=
  .vault (.sentinel .secretDataNil) false keyPath vaultRef

/-- `NewVaultAPIError`: the only retryable resolver error. -/
def newVaultAPIError (keyPath vaultRef : String) (err : GoError) : GoError :=
  .vault (.wrap "failed to read vault secret: " err "") true keyPath vaultRef

/-- `strings.HasPrefix`. -/
def hasPrefix (s p : String) : Bool := p.data.isPrefixOf s.data

/-- `strings.TrimPrefix`. -/
def trimPrefix (s p : String) : String := if hasPrefix s p then ⟨s.data.drop p.length⟩ else s

/-- `strings.SplitN(s, sep, 2)` for a one-character separator. -/
def splitN2 (s : String) (sep : Char) : List String :=
  match s.data.span (· ≠ sep) with
  | (before, []) => [⟨before⟩]
  | (before, _ :: after) => [⟨before⟩, ⟨after⟩]

/-- `parseVaultReference`: the path and key of `vault:<path>#<key>`. -/
def parseVaultReference (value : String) : Except GoError (String × String) :=
  match splitN2 (trimPrefix value "vault:") '#' with
  | [path, key] =>
    if path = "" ∨ key = "" then
      .error (.wrap "" (.sentinel .invalidVaultReference) (": '" ++ value ++ "'"))
    else .ok (path, key)
  | _ => .error (.wrap "" (.sentinel .invalidVaultReference) (": '" ++ value ++ "'"))

/-- `buildKeyPath`: the dotted document path used in error messages. -/
def buildKeyPath (parent child : String) : String :=
  if parent = "" then child else parent ++ "." ++ child

/-- The resolver's per-call state: the path cache and the log of `Get` calls. -/
structure ResolverState where
  cache : GoMap (GoMap JsonValue)
  gets : List String

/-- The state a call starts from. -/
def ResolverState.empty : ResolverState := ⟨GoMap.empty, []⟩

/-- The resolver's effects: the per-call state survives an error. -/
abbrev ResolveM := EStateM GoError ResolverState

/-- `getPathData`: the cached map, or one `Get` whose map is cached on success. -/
def getPathData (store : SecretStore) (path keyPath vaultRef : String) : ResolveM (GoMap JsonValue) :=
  fun st =>
    match st.cache.get? path with
    | some data => .ok data st
    | none =>
      let st := { st with gets := st.gets ++ [path] }
      match store path with
      | .apiError err => .error (newVaultAPIError keyPath vaultRef err) st
      | .noData => .error (newSecretDataNilError keyPath vaultRef) st
      | .notKV => .error (newSecretNotFoundError keyPath vaultRef path) st
      | .data d => .ok d { st with cache := st.cache.insert path d }

/-- `resolveString`: a `vault:` string becomes the value stored under its key. -/
def resolveString (store : SecretStore) (value keyPath : String) : ResolveM JsonValue :=
  if !hasPrefix value "vault:" then pure (.string value)
  else match parseVaultReference value with
    | .error err => throw (newInvalidReferenceError keyPath value err.error)
    | .ok (path, key) => do
      let secretData ← getPathData store path keyPath value
      match secretData.get? key with
      | some secretValue => pure secretValue
      | none => throw (newKeyNotFoundError keyPath key path secretData.keys)

mutual
/-- `resolveValue`. -/
def resolveValue (store : SecretStore) : JsonValue → String → ResolveM JsonValue
  | .object entries, keyPath => .object <$> resolveMap store entries keyPath
  | .array items, keyPath => .array <$> resolveSlice store items keyPath 0
  | .string s, keyPath => resolveString store s keyPath
  | v, _ => pure v
/-- `resolveMap`, over the entries in enumeration order. -/
def resolveMap (store : SecretStore) :
    List (String × JsonValue) → String → ResolveM (List (String × JsonValue))
  | [], _ => pure []
  | (key, value) :: rest, keyPath => do
    let resolved ← resolveValue store value (buildKeyPath keyPath key)
    let others ← resolveMap store rest keyPath
    pure ((key, resolved) :: others)
/-- `resolveSlice`, from index `i`. -/
def resolveSlice (store : SecretStore) :
    List JsonValue → String → Nat → ResolveM (List JsonValue)
  | [], _, _ => pure []
  | item :: rest, keyPath, i => do
    let resolved ← resolveValue store item (keyPath ++ "[" ++ toString i ++ "]")
    let others ← resolveSlice store rest keyPath (i + 1)
    pure (resolved :: others)
end

/-- What one `ResolveSecrets` call leaves: the extension, the error, and the `Get` calls. -/
structure ResolveOutcome where
  rawConfig : Option RawExtension
  err : Option GoError
  gets : List String

/-- `ResolveSecrets`: `Raw` is replaced only when the whole document resolved. -/
def resolveSecrets (store : SecretStore) (rawConfig : Option RawExtension) : ResolveOutcome :=
  match rawConfig with
  | none => ⟨none, none, []⟩
  | some ext =>
    match ext.raw with
    | none => ⟨some ext, none, []⟩
    | some data =>
      match (resolveValue store data "").run ResolverState.empty with
      | .ok resolved st => ⟨some ⟨some resolved⟩, none, st.gets⟩
      | .error err st => ⟨some ext, some err, st.gets⟩

end FivetranOperator
