import Testbed.Text.Quoted

/-!
What can be wrong with a template, and the shortage of addresses that a good template can meet.  None of
these errors goes away by trying again.
-/

namespace Testbed

/-- The addons of a Postgres cluster. -/
inductive Addon where
  | etcd
  | pgbouncer
  | backup
deriving Repr, Inhabited, DecidableEq

/-- The name of an addon. -/
def Addon.name : Addon → String
  | .etcd => "etcd"
  | .pgbouncer => "pgbouncer"
  | .backup => "backup"

/-- The database families. -/
inductive Family where
  | postgres
  | picodata
deriving Repr, Inhabited, DecidableEq

namespace Family

/-- The name of a family. -/
def name : Family → String
  | .postgres => "postgres"
  | .picodata => "picodata"

/-- What the nodes are called that overrides are about. -/
def memberName : Family → String
  | .postgres => "replica"
  | .picodata => "node"

end Family

/-- What is wrong with a template, or with items that should have come from one. -/
inductive Defect where
  | hardwareMissing (item : String)
  | itemUnbound (item : String)
  | noItems
  | topologyMissing (family : Family)
  | overrideOutOfRange (family : Family) (index count : Nat)
  | overrideRepeated (family : Family) (index : Nat)
  | duplicateSidecar (container : String)
  | duplicateNodeExporter
  | placementMissing (addon : Addon)
  | placementEmpty (addon : Addon)
  | noInstances (addon : Addon)
  | dedicatedExists (item : String)
  | targetMissing (addon : Addon) (item : String)
  | replicaIndexMissing (addon : Addon)
  | replicaIndexOutOfRange (addon : Addon) (index count : Nat)
  | etcdSizeMismatch (size members : Nat)
  | backupConfigMissing
  | backupScopeMissing
  | nodeIndexMissing
  | nodeIndexOutOfRange (index count : Nat)
  | noNodes
  | masterNotFound
  | nodeNotFound
  | patroniWithoutEtcd (container : String)
  /-- A defect somebody else described. -/
  | described (what : String)
deriving Repr, Inhabited, DecidableEq

/-- The wording of a defect. -/
def Defect.message : Defect → String
  | .hardwareMissing item => s!"hardware is required for item {Text.quote item}"
  | .itemUnbound item => s!"item {Text.quote item} has no bound address"
  | .noItems => "placement has no items"
  | .topologyMissing family => s!"{family.name} cluster topology is required"
  | .overrideOutOfRange family index count =>
    let what := family.memberName
    s!"{what} override index {index} is out of range for {count} {what}s"
  | .overrideRepeated family index => s!"duplicate {family.memberName} override for index {index}"
  | .duplicateSidecar container => s!"duplicate sidecar {Text.quote container}"
  | .duplicateNodeExporter => "duplicate node exporter sidecar"
  | .placementMissing addon => s!"{addon.name} placement mode is not set"
  | .placementEmpty addon => s!"{addon.name} placement resolves to no nodes"
  | .noInstances addon => s!"{addon.name} dedicated placement needs at least one instance"
  | .dedicatedExists item => s!"dedicated item {Text.quote item} already exists"
  | .targetMissing addon item => s!"{addon.name} target {Text.quote item} does not exist"
  | .replicaIndexMissing addon =>
    s!"{addon.name} is scoped to one replica but no replica_index is set"
  | .replicaIndexOutOfRange addon index count =>
    s!"{addon.name} replica_index {index} is out of range for {count} replicas"
  | .etcdSizeMismatch size members =>
    s!"etcd size {size} does not match the {members} nodes its placement resolves to"
  | .backupConfigMissing => "backup addon is enabled but has no config"
  | .backupScopeMissing => "backup addon is enabled but has no scope"
  | .nodeIndexMissing => "backup is scoped to one node but no node_index is set"
  | .nodeIndexOutOfRange index count =>
    s!"backup node_index {index} is out of range for {count} nodes"
  | .noNodes => "picodata cluster needs at least one node"
  | .masterNotFound => "postgres master not found in placement items"
  | .nodeNotFound => "picodata node not found in placement items"
  | .patroniWithoutEtcd container =>
    s!"patroni is enabled on {Text.quote container} but no etcd members are placed"
  | .described what => what

/-- An error of placing a database. -/
inductive PlacementError where
  | configurationInvalid (defect : Defect)
  /-- The network has fewer addresses than there are items. -/
  | allocationExhausted (required available : Nat)
deriving Repr, Inhabited, DecidableEq

/-- The short name of an error. -/
def PlacementError.code : PlacementError → String
  | .configurationInvalid _ => "ConfigurationInvalid"
  | .allocationExhausted .. => "AllocationExhausted"

/-- The wording of an error. -/
def PlacementError.message : PlacementError → String
  | .configurationInvalid defect => s!"invalid configuration: {defect.message}"
  | .allocationExhausted required available =>
    s!"network has {available} addresses, but {required} items are required"

/-- Fail because of a defect. -/
def defect {α : Type} (d : Defect) : Except PlacementError α := .error (.configurationInvalid d)

end Testbed
