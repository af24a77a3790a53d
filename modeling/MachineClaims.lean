import MachineClaims.Binding
import MachineClaims.Call
import MachineClaims.Capacity
import MachineClaims.CapacityClass
import MachineClaims.Claim
import MachineClaims.Command
import MachineClaims.Command.Apply
import MachineClaims.Command.Error
import MachineClaims.Command.Run
import MachineClaims.Connection
import MachineClaims.Constraints
import MachineClaims.Demand
import MachineClaims.Failure
import MachineClaims.Failure.Json
import MachineClaims.Header
import MachineClaims.Json
import MachineClaims.Json.Decoder
import MachineClaims.Json.Reader
import MachineClaims.Json.Writer
import MachineClaims.Kind
import MachineClaims.Machine
import MachineClaims.MachineGroup
import MachineClaims.MachineType
import MachineClaims.MachineType.Json
import MachineClaims.Main
import MachineClaims.Manifest
import MachineClaims.NameMap
import MachineClaims.NameSet
import MachineClaims.Objects.Decode
import MachineClaims.Objects.Encode
import MachineClaims.Poll
import MachineClaims.Program
import MachineClaims.Propagation
import MachineClaims.Provider
import MachineClaims.Provider.Create
import MachineClaims.Provider.Delete
import MachineClaims.Provider.Snapshot
import MachineClaims.Quantity
import MachineClaims.Readiness
import MachineClaims.Reservation
import MachineClaims.Selector
import MachineClaims.Settings
import MachineClaims.Settings.Flags
import MachineClaims.Simulation.Cancellation
import MachineClaims.Simulation.Job
import MachineClaims.Simulation.Mutation
import MachineClaims.Simulation.Overview
import MachineClaims.Simulation.Pool
import MachineClaims.Simulation.World
import MachineClaims.Store
import MachineClaims.Store.Error
import MachineClaims.Store.Operation
import MachineClaims.Text.Blank
import MachineClaims.Text.Decimal
import MachineClaims.Text.Duration
import MachineClaims.Text.Lower
import MachineClaims.Text.Lower.Cased
import MachineClaims.Text.Lower.Runs
import MachineClaims.Text.Quoted
import MachineClaims.Text.Quoted.Escaped
import MachineClaims.Toml
import MachineClaims.ValueSet
import MachineClaims.Proofs.Ensures
import MachineClaims.Proofs.Keys
import MachineClaims.Proofs.Keyed
import MachineClaims.Proofs.Calls
import MachineClaims.Proofs.CreateOutline
import MachineClaims.Proofs.Compensation
import MachineClaims.Proofs.Scaling
import MachineClaims.Proofs.Copies
import MachineClaims.Proofs.Stage
import MachineClaims.Proofs.DeleteOutline
import MachineClaims.Proofs.Bindings
import MachineClaims.Proofs.Fair
import MachineClaims.Proofs.Rivals
import MachineClaims.Proofs.Releases
import MachineClaims.Proofs.Surplus
import MachineClaims.Proofs.Condemned
import MachineClaims.Proofs.Ledger
import MachineClaims.Proofs.Ranking
import MachineClaims.Proofs.Undisturbed
import MachineClaims.Proofs.Readback
import MachineClaims.Proofs.Amounts
import MachineClaims.Proofs.Reentry
import MachineClaims.Proofs.Requests
import MachineClaims.Proofs.Selection
import MachineClaims.Proofs.Reversal
import MachineClaims.Proofs.Changes
import MachineClaims.Proofs.Decoded
import MachineClaims.Proofs.Legible
import MachineClaims.Proofs.Sessions
import MachineClaims.Proofs.Freshness
import MachineClaims.Proofs.Identities
import MachineClaims.Proofs.Members
import MachineClaims.Proofs.Eligibility
import MachineClaims.Proofs.Literals
import MachineClaims.Proofs.Numerals
import MachineClaims.Proofs.Magnitudes
import MachineClaims.Proofs.Canonical
import MachineClaims.Proofs.Demands
import MachineClaims.Proofs.Timeline
import MachineClaims.Proofs.Discovery
import MachineClaims.Proofs.Cardinality
import MachineClaims.Proofs.Compatibility
import MachineClaims.Proofs.Narrowing
import MachineClaims.Proofs.Allocatable
import MachineClaims.Proofs.NodeLabels
import MachineClaims.Proofs.Declared
import MachineClaims.Proofs.Readying
import MachineClaims.Proofs.Snapshots
import MachineClaims.Proofs.Statuses
import MachineClaims.Proofs.Upserts
