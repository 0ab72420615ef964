import Tenancy.Backend.Memory
import Tenancy.Json.Reader
import Tenancy.Proofs.Backend.Batches
import Tenancy.Proofs.Backend.Claim
import Tenancy.Proofs.Backend.Ids
import Tenancy.Proofs.Backend.Isolation
import Tenancy.Proofs.Backend.Keys
import Tenancy.Proofs.Backend.Paging
import Tenancy.Proofs.Backend.Places
import Tenancy.Proofs.Backend.Tracking
import Tenancy.Proofs.Backend.Update
import Tenancy.Proofs.Commands
import Tenancy.Proofs.Confinement
import Tenancy.Proofs.Equality
import Tenancy.Proofs.Exchanges
import Tenancy.Proofs.Failures
import Tenancy.Proofs.Interference
import Tenancy.Proofs.Isolation
import Tenancy.Proofs.Kinds
import Tenancy.Proofs.Naming
import Tenancy.Proofs.Number.Rounding
import Tenancy.Proofs.Operation
import Tenancy.Proofs.Order
import Tenancy.Proofs.Own
import Tenancy.Proofs.Patch
import Tenancy.Proofs.Queue.Accounts
import Tenancy.Proofs.Queue.Attempts
import Tenancy.Proofs.Queue.Backoff
import Tenancy.Proofs.Queue.Conservation
import Tenancy.Proofs.Queue.Effects
import Tenancy.Proofs.Queue.Exclusivity
import Tenancy.Proofs.Queue.Handover
import Tenancy.Proofs.Queue.Ownership
import Tenancy.Proofs.Queue.Retry
import Tenancy.Proofs.Queue.Sweep
import Tenancy.Proofs.Queue.Team
import Tenancy.Proofs.Queue.Terminal
import Tenancy.Proofs.Queue.TimeRange
import Tenancy.Proofs.Queue.WriteBack
import Tenancy.Proofs.Renaming
import Tenancy.Proofs.Runs
import Tenancy.Proofs.Schema
import Tenancy.Proofs.Scoping
import Tenancy.Proofs.Sql.Batch
import Tenancy.Proofs.Sql.ClaimOrder
import Tenancy.Proofs.Sql.Range
import Tenancy.Proofs.Sql.Requests
import Tenancy.Proofs.Sql.Scoped
import Tenancy.Proofs.Store.Assigned
import Tenancy.Proofs.Store.Declared
import Tenancy.Proofs.Store.HeldKey
import Tenancy.Proofs.Store.Idempotence
import Tenancy.Proofs.Store.ReadBack
import Tenancy.Proofs.Store.Readers
import Tenancy.Proofs.Store.SoftDelete
import Tenancy.Proofs.Store.Visibility
import Tenancy.Proofs.Store.Writer
import Tenancy.Proofs.Terms
import Tenancy.Proofs.Time.Calendar
import Tenancy.Proofs.Time.Instant
import Tenancy.Proofs.Time.Rfc3339
import Tenancy.Proofs.Transitivity
import Tenancy.Proofs.Turns
import Tenancy.Proofs.Uuid
import Tenancy.Proofs.Value.Comparison
import Tenancy.Proofs.Value.Conversion
import Tenancy.Queue.Worker
import Tenancy.Settings.Connection
import Tenancy.Settings.LogFormat
import Tenancy.Settings.Worker
import Tenancy.Sql.Exchange
import Tenancy.Store.Idempotence
import Tenancy.Store.SqlQuery
