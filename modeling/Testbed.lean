import Testbed.Address
import Testbed.Block
import Testbed.Clock
import Testbed.CommandLine
import Testbed.CommandLine.Arguments
import Testbed.CommandLine.Host
import Testbed.CommandLine.Invocation
import Testbed.Config
import Testbed.Container
import Testbed.Deployment
import Testbed.Deployment.Backend
import Testbed.Deployment.Backend.Memory
import Testbed.Deployment.Backend.Script
import Testbed.Deployment.Error
import Testbed.Deployment.Readiness
import Testbed.Deployment.Reconciler
import Testbed.Deployment.Resource
import Testbed.Document
import Testbed.Document.Json
import Testbed.Document.Record
import Testbed.Document.Toml.Printer
import Testbed.Document.Toml.Reader
import Testbed.Document.Toml.Scalar
import Testbed.Document.Toml.Tree
import Testbed.Duration
import Testbed.Hardware
import Testbed.Identity
import Testbed.Lock
import Testbed.Main
import Testbed.Network
import Testbed.Network.Allocation
import Testbed.Network.Pool
import Testbed.Placement.Error
import Testbed.Placement.Intent
import Testbed.Placement.Item
import Testbed.Placement.Picodata
import Testbed.Placement.Postgres
import Testbed.Proofs.Block
import Testbed.Proofs.ByteOrder
import Testbed.Proofs.CounterKeys
import Testbed.Proofs.Counters
import Testbed.Proofs.Deployment.Creation
import Testbed.Proofs.Deployment.Latch
import Testbed.Proofs.Deployment.Masking
import Testbed.Proofs.Deployment.Memory
import Testbed.Proofs.Deployment.Overdue
import Testbed.Proofs.Deployment.Pass
import Testbed.Proofs.Deployment.Polling
import Testbed.Proofs.Deployment.Readiness
import Testbed.Proofs.Deployment.Reconciler
import Testbed.Proofs.Deployment.Retry
import Testbed.Proofs.Deployment.Rounds
import Testbed.Proofs.Deployment.SelfHealing
import Testbed.Proofs.Deployment.Startup
import Testbed.Proofs.Deployment.Status
import Testbed.Proofs.Deployment.Visit
import Testbed.Proofs.Document
import Testbed.Proofs.Duration
import Testbed.Proofs.Identity
import Testbed.Proofs.Lease
import Testbed.Proofs.Ledger
import Testbed.Proofs.Network.Allocation
import Testbed.Proofs.Network.AtOnce
import Testbed.Proofs.Network.Call
import Testbed.Proofs.Network.Contention
import Testbed.Proofs.Network.Course
import Testbed.Proofs.Network.Exclusion
import Testbed.Proofs.Network.FirstFree
import Testbed.Proofs.Network.Pool
import Testbed.Proofs.Network.PoolHistory
import Testbed.Proofs.Network.Reuse
import Testbed.Proofs.Network.Search
import Testbed.Proofs.Network.Serial
import Testbed.Proofs.Placement.Acceptance
import Testbed.Proofs.Placement.Availability
import Testbed.Proofs.Placement.Cluster
import Testbed.Proofs.Placement.Decision
import Testbed.Proofs.Placement.Document
import Testbed.Proofs.Placement.Endpoints
import Testbed.Proofs.Placement.Intent
import Testbed.Proofs.Placement.Item
import Testbed.Proofs.Placement.Layout
import Testbed.Proofs.Placement.Overrides
import Testbed.Proofs.Placement.Peers
import Testbed.Proofs.Placement.Plan
import Testbed.Proofs.Placement.Posts
import Testbed.Proofs.Placement.Rewiring
import Testbed.Proofs.Placement.Sketch
import Testbed.Proofs.Placement.Staffing
import Testbed.Proofs.Placement.Supply
import Testbed.Proofs.Placement.Wire
import Testbed.Proofs.Provision.Addresses
import Testbed.Proofs.Provision.Allotments
import Testbed.Proofs.Provision.Build
import Testbed.Proofs.Provision.Compensation
import Testbed.Proofs.Provision.Destroy
import Testbed.Proofs.Provision.Document
import Testbed.Proofs.Provision.DryRun
import Testbed.Proofs.Provision.Fleet
import Testbed.Proofs.Provision.Lifecycle
import Testbed.Proofs.Provision.LiveMachines
import Testbed.Proofs.Provision.Pairing
import Testbed.Proofs.Provision.Provisioner
import Testbed.Proofs.Provision.Records
import Testbed.Proofs.Provision.Site
import Testbed.Proofs.Provision.Stake
import Testbed.Proofs.Provision.Teardown
import Testbed.Proofs.Provision.Usage
import Testbed.Proofs.Session
import Testbed.Proofs.Sets
import Testbed.Proofs.Settings
import Testbed.Proofs.Store
import Testbed.Proofs.Task
import Testbed.Proofs.Template
import Testbed.Proofs.Text
import Testbed.Proofs.Upkeep
import Testbed.Provision.Build
import Testbed.Provision.Destroy
import Testbed.Provision.DryRun
import Testbed.Provision.Error
import Testbed.Provision.Lifecycle
import Testbed.Provision.Provisioner
import Testbed.Provision.Report
import Testbed.Provision.Request
import Testbed.Provision.Rollback
import Testbed.Provision.Run
import Testbed.Provision.Settings
import Testbed.Provision.Summary
import Testbed.Quota
import Testbed.Quota.Ledger
import Testbed.Session
import Testbed.Store
import Testbed.Store.Counters
import Testbed.Store.Document
import Testbed.Store.Error
import Testbed.Store.Lease
import Testbed.Store.Members
import Testbed.Table
import Testbed.Target
import Testbed.Task
import Testbed.Template
import Testbed.Template.Backup
import Testbed.Template.Picodata
import Testbed.Template.Postgres
import Testbed.Text.Blank
import Testbed.Text.Combining
import Testbed.Text.Decimal
import Testbed.Text.Quoted
import Testbed.Text.Split
import Testbed.Text.Unprintable
import Testbed.Worker
