import ControlPlane.Access.Review
import ControlPlane.Access.Role
import ControlPlane.Access.Subject
import ControlPlane.Access.Viewer
import ControlPlane.ApiResource
import ControlPlane.Binary64.Basic
import ControlPlane.Binary64.PowerOfTen
import ControlPlane.Binary64.Rounding
import ControlPlane.Binary64.Shortest
import ControlPlane.Cluster.Answer
import ControlPlane.Cluster.Basic
import ControlPlane.Cluster.Call
import ControlPlane.Codec.Basic
import ControlPlane.Codec.Record
import ControlPlane.Condition
import ControlPlane.Controller.Arbitration
import ControlPlane.Controller.Basic
import ControlPlane.Controller.Dispatch
import ControlPlane.Controller.Facade
import ControlPlane.Controller.Gate
import ControlPlane.Controller.Grants
import ControlPlane.Controller.Memory
import ControlPlane.Controller.ProviderLookup
import ControlPlane.Dict
import ControlPlane.Duration
import ControlPlane.Error
import ControlPlane.Facade.Backend
import ControlPlane.Facade.Connection
import ControlPlane.Facade.DbInstance
import ControlPlane.Facade.Dependents
import ControlPlane.Facade.Inventory
import ControlPlane.Facade.Kind
import ControlPlane.GenericObject
import ControlPlane.Http.Calls
import ControlPlane.Http.Client
import ControlPlane.Http.Discovery
import ControlPlane.Http.Message
import ControlPlane.Http.Script
import ControlPlane.Http.Server
import ControlPlane.Json.Basic
import ControlPlane.Json.Document
import ControlPlane.Json.MergePatch
import ControlPlane.Json.Pointer
import ControlPlane.Json.Printer
import ControlPlane.Json.Reader
import ControlPlane.Main
import ControlPlane.Manifest.Basic
import ControlPlane.Manifest.Install
import ControlPlane.Manifest.Yaml
import ControlPlane.Metadata
import ControlPlane.Object
import ControlPlane.ObjectStore
import ControlPlane.Operator
import ControlPlane.Policy.Basic
import ControlPlane.Policy.Governing
import ControlPlane.Program
import ControlPlane.Proofs.Cluster.Store
import ControlPlane.Proofs.Codec.Laws
import ControlPlane.Proofs.Codec.Merge
import ControlPlane.Proofs.Codec.Record
import ControlPlane.Proofs.Condition
import ControlPlane.Proofs.Controller.Arbitration
import ControlPlane.Proofs.Controller.Basic
import ControlPlane.Proofs.Controller.Facade
import ControlPlane.Proofs.Controller.Gate
import ControlPlane.Proofs.Controller.System
import ControlPlane.Proofs.Dict
import ControlPlane.Proofs.Except
import ControlPlane.Proofs.Facade.Backend
import ControlPlane.Proofs.Facade.Spec
import ControlPlane.Proofs.Facade.Status
import ControlPlane.Proofs.Facade.StatusPatch
import ControlPlane.Proofs.Facade.Stored
import ControlPlane.Proofs.GenericObject
import ControlPlane.Proofs.Json.Equality
import ControlPlane.Proofs.Json.MergePatch
import ControlPlane.Proofs.Metadata
import ControlPlane.Proofs.Object
import ControlPlane.Proofs.Policy.Effective
import ControlPlane.Proofs.Policy.Governing
import ControlPlane.Proofs.Policy.Stored
import ControlPlane.Proofs.Program
import ControlPlane.Proofs.Time.Calendar
import ControlPlane.Proofs.Time.Rfc3339
import ControlPlane.Provider
import ControlPlane.Reference
import ControlPlane.Retry
import ControlPlane.Selector
import ControlPlane.Settings.Basic
import ControlPlane.Settings.LogFormat
import ControlPlane.Simulation
import ControlPlane.Tenant
import ControlPlane.Text.Blank
import ControlPlane.Text.CaseTable
import ControlPlane.Text.Lowercase
import ControlPlane.Text.Printable
import ControlPlane.Text.Quoted
import ControlPlane.Time.Calendar
import ControlPlane.Time.Instant
import ControlPlane.Time.Rfc3339
import ControlPlane.Watch.Registry
import ControlPlane.Watch.Stream
import ControlPlane.Proofs.History
import ControlPlane.Proofs.Access.Viewer
import ControlPlane.Proofs.Controller.Viewer
import ControlPlane.Proofs.Controller.Privileges
import ControlPlane.Proofs.Access.Role
import ControlPlane.Proofs.Cluster.Access
import ControlPlane.Proofs.Controller.Convergence
import ControlPlane.Proofs.Policy.Listed
import ControlPlane.Proofs.Controller.Verdicts
import ControlPlane.Proofs.Cluster.Backends
import ControlPlane.Proofs.Controller.BackendWrites
import ControlPlane.Proofs.Controller.Ownership
import ControlPlane.Proofs.Controller.Operation
import ControlPlane.Proofs.Cluster.Difference
import ControlPlane.Proofs.Controller.GateTriggers
import ControlPlane.Proofs.Watch.Registry
import ControlPlane.Proofs.Facade.Dependents
import ControlPlane.Proofs.Controller.GrantTriggers
import ControlPlane.Proofs.Controller.Failures
import ControlPlane.Proofs.Controller.PartialGrants
import ControlPlane.Proofs.Codec.Lossless
import ControlPlane.Proofs.Controller.Provisioning
import ControlPlane.Proofs.Controller.Sharing
import ControlPlane.Proofs.Controller.ContestedGrants
import ControlPlane.Proofs.Controller.HiddenConflicts
import ControlPlane.Proofs.Controller.KnownKinds
import ControlPlane.Proofs.Controller.Conflicts
import ControlPlane.Proofs.Cluster.Versions
import ControlPlane.Proofs.Controller.Sources
import ControlPlane.Proofs.Controller.LostUpdates
import ControlPlane.Proofs.Controller.Servers
import ControlPlane.Proofs.Json.MinimalPatch
import ControlPlane.Proofs.Facade.DerivedStatus
import ControlPlane.Proofs.Facade.TransitionTimes
import ControlPlane.Proofs.Controller.Stages
import ControlPlane.Proofs.Controller.StatusReports
import ControlPlane.Proofs.Policy.Choice
import ControlPlane.Proofs.Controller.Resolution
import ControlPlane.Proofs.Watch.Requested
import ControlPlane.Proofs.Access.Subject
import ControlPlane.Proofs.Controller.GrantSubjects
import ControlPlane.Proofs.Controller.NamespaceAccess
import ControlPlane.Proofs.Access.Identity
import ControlPlane.Proofs.Access.Construction
import ControlPlane.Proofs.Retry
import ControlPlane.Proofs.Text.Split
import ControlPlane.Proofs.Controller.Attempts
import ControlPlane.Proofs.Controller.Delays
import ControlPlane.Proofs.Facade.Owning
import ControlPlane.Proofs.Backoff
import ControlPlane.Proofs.Manifest.Install
import ControlPlane.Proofs.Http.TenantListing
