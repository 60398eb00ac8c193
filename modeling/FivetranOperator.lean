import FivetranOperator.Api.Canonical
import FivetranOperator.Api.Decode
import FivetranOperator.Api.Marshal
import FivetranOperator.Api.Types
import FivetranOperator.Api.Unambiguous
import FivetranOperator.Controller.ApplyVerify
import FivetranOperator.Controller.Completion
import FivetranOperator.Controller.Conditions
import FivetranOperator.Controller.Connector
import FivetranOperator.Controller.Constants
import FivetranOperator.Controller.ConvertSchema
import FivetranOperator.Controller.Drift
import FivetranOperator.Controller.Effects
import FivetranOperator.Controller.FinalizerGuard
import FivetranOperator.Controller.Fingerprint
import FivetranOperator.Controller.Footprint
import FivetranOperator.Controller.Frame
import FivetranOperator.Controller.Identity
import FivetranOperator.Controller.Invariants
import FivetranOperator.Controller.Invocation
import FivetranOperator.Controller.Noninterference
import FivetranOperator.Controller.Quiescence
import FivetranOperator.Controller.Reconcile
import FivetranOperator.Controller.Reporting
import FivetranOperator.Controller.Safety
import FivetranOperator.Controller.Schema
import FivetranOperator.Controller.Status
import FivetranOperator.Errors
import FivetranOperator.Fivetran.Compare
import FivetranOperator.Fivetran.CompareSpec
import FivetranOperator.Fivetran.SchemaBuilder
import FivetranOperator.Fivetran.WrapError
import FivetranOperator.Hash.Md5
import FivetranOperator.Kube.Metadata
import FivetranOperator.Vault.Fetches
import FivetranOperator.Vault.Grammar
import FivetranOperator.Vault.Noninterference
import FivetranOperator.Vault.Reference
import FivetranOperator.Vault.Resolve
