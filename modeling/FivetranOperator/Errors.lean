import FivetranOperator.Api.Types

/-!
# Errors and their classification

Go errors as the reconciler builds them: sentinels from `errors.New`, the provider's
`*APIError` (`pkg/fivetran/errors.go`), the resolver's `*VaultError`, plain texts, and the two
wrapping forms, `fmt.Errorf` with one `%w` and the multi-error of `errors.Join` or of
`fmt.Errorf("%w: %w", ...)`. `errors.Is` and `errors.As` walk this tree as the standard library
does: a single cause is followed, a multi-error is searched depth-first in order, and a
`*VaultError` is a leaf because it declares no `Unwrap`. A `%v` argument is flattened into the
text and so is not part of the tree.
-/

namespace FivetranOperator

/-- `APIError`: the provider's status code and its reported code and message. -/
structure APIError where
  statusCode : Int
  code : String
  message : String
  rawError : String
  deriving DecidableEq, Repr

namespace APIError

/-- `(*APIError).Error`. -/
def error (e : APIError) : String :=
  "fivetran api error (status " ++ toString e.statusCode ++ "): " ++ e.code ++ " - " ++ e.message

/-- `(*APIError).IsRetryable`: 429 and 5xx retry, other 4xx do not, anything else does. -/
def isRetryable (e : APIError) : Bool :=
  match e.statusCode with
  | 429 => true
  | 500 | 502 | 503 | 504 => true
  | c => decide (c < 400) || decide (500 ≤ c)

/-- Retryability is decided by the status code alone: exactly the non-4xx codes and 429. -/
theorem isRetryable_iff (e : APIError) :
    e.isRetryable = true ↔ e.statusCode = 429 ∨ e.statusCode < 400 ∨ 500 ≤ e.statusCode := by
  unfold isRetryable
  split <;> simp_all

end APIError

/-- The `errors.New` values the code compares against. -/
inductive Sentinel where
  | fivetranClientNotInitialized
  | vaultClientInitializationFailed
  | schemaMismatchAfterRetry
  | setupTestsFailed
  | connectorValidationFailed
  | invalidVaultReference
  | secretDataNil
  | secretNotFound
  | keyNotFound
  deriving DecidableEq, Repr

/-- The text of each sentinel.

Modelled from the spec: `ErrConnectorValidationFailed` is declared outside the sources; its
text here follows the spec's "validation errors". -/
def Sentinel.text : Sentinel → String
  | .fivetranClientNotInitialized => "fivetran client is not initialized"
  | .vaultClientInitializationFailed => "failed to initialize vault client"
  | .schemaMismatchAfterRetry => "schema still mismatches CR after retry; possible schema config issue"
  | .setupTestsFailed => "setup tests failed"
  | .connectorValidationFailed => "connector validation failed"
  | .invalidVaultReference => "invalid vault reference format (expected format: vault:path#key)"
  | .secretDataNil => "secret data is nil"
  | .secretNotFound => "secret not found at path"
  | .keyNotFound => "key not found in vault secret"

/-- A Go `error` value. -/
inductive GoError where
  | sentinel (s : Sentinel)
  | api (e : APIError)
  /-- `*VaultError{Err, Retryable, KeyPath, VaultRef}`. -/
  | vault (err : GoError) (retryable : Bool) (keyPath vaultRef : String)
  | text (msg : String)
  /-- `fmt.Errorf(pre + "%w" + post, cause)`. -/
  | wrap (pre : String) (cause : GoError) (post : String)
  /-- `errors.Join` (separator "\n") or `fmt.Errorf` with several `%w` verbs. -/
  | join (sep : String) (causes : List GoError)
  deriving Inhabited

namespace GoError

mutual
/-- `err.Error()`. -/
def error : GoError → String
  | .sentinel s => s.text
  | .api e => e.error
  | .vault err _ keyPath vaultRef =>
    if keyPath ≠ "" ∧ vaultRef ≠ "" then
      keyPath ++ ": vault reference '" ++ vaultRef ++ "': " ++ err.error
    else err.error
  | .text msg => msg
  | .wrap pre cause post => pre ++ cause.error ++ post
  | .join sep causes => String.intercalate sep (errorList causes)
/-- The texts of a multi-error's causes. -/
def errorList : List GoError → List String
  | [] => []
  | e :: rest => e.error :: errorList rest
end

mutual
/-- `errors.Is(err, target)` for a sentinel target. -/
def is : GoError → Sentinel → Bool
  | .sentinel s, t => s == t
  | .wrap _ cause _, t => cause.is t
  | .join _ causes, t => isAny causes t
  | _, _ => false
/-- Some cause of a multi-error matches. -/
def isAny : List GoError → Sentinel → Bool
  | [], _ => false
  | e :: rest, t => e.is t || isAny rest t
end

mutual
/-- `errors.As(err, &vaultErr)`, keeping the `Retryable` field of the first match. -/
def asVault : GoError → Option Bool
  | .vault _ retryable _ _ => some retryable
  | .wrap _ cause _ => cause.asVault
  | .join _ causes => asVaultList causes
  | _ => none
/-- The first cause of a multi-error that holds a `*VaultError`. -/
def asVaultList : List GoError → Option Bool
  | [] => none
  | e :: rest => e.asVault.or (asVaultList rest)
end

mutual
/-- `errors.As(err, &fivetranErr)`: the first `*APIError` in the tree. -/
def asAPI : GoError → Option APIError
  | .api e => some e
  | .wrap _ cause _ => cause.asAPI
  | .join _ causes => asAPIList causes
  | _ => none
/-- The first cause of a multi-error that holds an `*APIError`. -/
def asAPIList : List GoError → Option APIError
  | [] => none
  | e :: rest => e.asAPI.or (asAPIList rest)
end

/-- `errors.Is` sees through a wrap. -/
@[simp] theorem is_wrap (pre post : String) (cause : GoError) (t : Sentinel) :
    (wrap pre cause post).is t = cause.is t := rfl

/-- The vault error of a wrap is its cause's. -/
@[simp] theorem asVault_wrap (pre post : String) (cause : GoError) :
    (wrap pre cause post).asVault = cause.asVault := rfl

/-- The API error of a wrap is its cause's. -/
@[simp] theorem asAPI_wrap (pre post : String) (cause : GoError) :
    (wrap pre cause post).asAPI = cause.asAPI := rfl

/-- A text error is no sentinel. -/
@[simp] theorem is_text (msg : String) (t : Sentinel) : (text msg).is t = false := rfl

/-- A text error is no vault error. -/
@[simp] theorem asVault_text (msg : String) : (text msg).asVault = none := rfl

/-- A text error is no API error. -/
@[simp] theorem asAPI_text (msg : String) : (text msg).asAPI = none := rfl

/-- An API error is no sentinel. -/
@[simp] theorem is_api (e : APIError) (t : Sentinel) : (api e).is t = false := rfl

/-- An API error is no vault error. -/
@[simp] theorem asVault_api (e : APIError) : (api e).asVault = none := rfl

/-- An API error is itself. -/
@[simp] theorem asAPI_api (e : APIError) : (api e).asAPI = some e := rfl

/-- A sentinel is itself alone. -/
@[simp] theorem is_sentinel (s t : Sentinel) : (sentinel s).is t = (s == t) := rfl

/-- A sentinel is no vault error. -/
@[simp] theorem asVault_sentinel (s : Sentinel) : (sentinel s).asVault = none := rfl

/-- A sentinel is no API error. -/
@[simp] theorem asAPI_sentinel (s : Sentinel) : (sentinel s).asAPI = none := rfl

/-- A vault error stops `errors.Is`. -/
@[simp] theorem is_vault (err : GoError) (r : Bool) (k v : String) (t : Sentinel) :
    (vault err r k v).is t = false := rfl

/-- A vault error carries its retry flag. -/
@[simp] theorem asVault_vault (err : GoError) (r : Bool) (k v : String) :
    (vault err r k v).asVault = some r := rfl

/-- A vault error is no API error. -/
@[simp] theorem asAPI_vault (err : GoError) (r : Bool) (k v : String) :
    (vault err r k v).asAPI = none := rfl

end GoError

end FivetranOperator
