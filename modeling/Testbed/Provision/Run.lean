import Testbed.Deployment
import Testbed.Provision.Request
import Testbed.Worker

/-!
What the provisioner makes of a run: first a `Placement`, in which every item has its worker and the
template of its machine; then a `DeployedPlacement`, in which every item has its machine; and in the end a
`ProvisionedRun`, which remembers what of it was given back.
-/

namespace Testbed

/-- An item with its worker and the template of its machine. -/
structure PlacedItem where
  name : String
  containers : List Container
  vmTemplate : VmTemplate
  worker : Worker
  metadata : Table String
deriving Repr, DecidableEq

namespace PlacedItem

/-- The role of an item in its run. -/
def role? (i : PlacedItem) : Option String := i.metadata.get? Worker.roleLabel

/-- Whether the database runs on the item. -/
def isDatabase (i : PlacedItem) : Bool := i.role? = some Worker.databaseRole

/-- Whether the item generates load. -/
def isLoad (i : PlacedItem) : Bool := i.role? = some Worker.loadRole

def toDocument (i : PlacedItem) : Document :=
  .table [("name", .text i.name), ("containers", .list (i.containers.map Container.toDocument)),
    ("vm_template", i.vmTemplate.toDocument), ("worker", i.worker.toDocument),
    ("metadata", i.metadata.toDocument)]

def ofDocument? : Document → Option PlacedItem := Document.record? do
  let name ← Record.field "name" Document.text?
  let containers ← Record.field "containers" (Document.list? Container.ofDocument?)
  let vmTemplate ← Record.field "vm_template" VmTemplate.ofDocument?
  let worker ← Record.field "worker" Worker.ofDocument?
  let metadata ← Record.field "metadata" (Document.entries? Document.text?)
  pure { name, containers, vmTemplate, worker, metadata }

end PlacedItem

/-- A run that can be deployed. -/
structure Placement where
  network : Network
  connectionString : String
  deployment : DeploymentTemplate
  /-- The items of the database in their order, then the one that generates load. -/
  items : List PlacedItem
deriving Repr, DecidableEq

namespace Placement

/-- The items that the database runs on. -/
def databaseItems (p : Placement) : List PlacedItem := p.items.filter PlacedItem.isDatabase

/-- The item that generates load. -/
def loadItem? (p : Placement) : Option PlacedItem := p.items.find? PlacedItem.isLoad

def toDocument (p : Placement) : Document :=
  .table [("network", p.network.toDocument), ("connection_string", .text p.connectionString),
    ("deployment_template", p.deployment.toDocument),
    ("items", .list (p.items.map PlacedItem.toDocument))]

end Placement

/-- An item with its machine. -/
structure DeployedItem where
  item : PlacedItem
  vm : Vm
deriving Repr, DecidableEq

namespace DeployedItem

def toDocument (i : DeployedItem) : Document :=
  .table [("item", i.item.toDocument), ("vm", i.vm.toDocument)]

def ofDocument? : Document → Option DeployedItem := Document.record? do
  let item ← Record.field "item" PlacedItem.ofDocument?
  let vm ← Record.field "vm" Vm.ofDocument?
  pure { item, vm }

/-- The item with its machine as it is in a deployment, if it is there. -/
def refresh (d : Deployment) (i : DeployedItem) : DeployedItem :=
  match d.vm? i.vm.template.identifier.id with
  | some vm => { i with vm }
  | none => i

end DeployedItem

/-- A run that was deployed. -/
structure DeployedPlacement where
  items : List DeployedItem
  deployment : Deployment
  network : Network
  connectionString : String
deriving Repr, DecidableEq

namespace DeployedPlacement

/-- The items that the database runs on. -/
def databaseItems (p : DeployedPlacement) : List DeployedItem := p.items.filter (·.item.isDatabase)

/-- The item that generates load. -/
def loadItem? (p : DeployedPlacement) : Option DeployedItem := p.items.find? (·.item.isLoad)

/-- The same run with a newer state of its deployment. -/
def refresh (p : DeployedPlacement) (d : Deployment) : DeployedPlacement :=
  { p with items := p.items.map (.refresh d), deployment := d }

def toDocument (p : DeployedPlacement) : Document :=
  .table [("items", .list (p.items.map DeployedItem.toDocument)),
    ("deployment", p.deployment.toDocument), ("network", p.network.toDocument),
    ("connection_string", .text p.connectionString)]

def ofDocument? : Document → Option DeployedPlacement := Document.record? do
  let items ← Record.field "items" (Document.list? DeployedItem.ofDocument?)
  let deployment ← Record.field "deployment" Deployment.ofDocument?
  let network ← Record.field "network" Network.ofDocument?
  let connectionString ← Record.field "connection_string" Document.text?
  pure { items, deployment, network, connectionString }

end DeployedPlacement

/-- A run that has all it needs, and what of it was given back. -/
structure ProvisionedRun where
  run : RunContext
  quotas : List Quota
  placement : DeployedPlacement
  destroyed : Bool
  networkFreed : Bool
  quotasFreed : Bool
deriving Repr, DecidableEq

namespace ProvisionedRun

/-- A run of which nothing was given back. -/
def new (run : RunContext) (quotas : List Quota) (placement : DeployedPlacement) : ProvisionedRun :=
  ⟨run, quotas, placement, false, false, false⟩

/-- Whether everything was given back. -/
def isReleased (r : ProvisionedRun) : Bool := r.destroyed && r.networkFreed && r.quotasFreed

def toDocument (r : ProvisionedRun) : Document :=
  .table [("run", r.run.toDocument), ("quotas", .list (r.quotas.map Quota.toDocument)),
    ("placement", r.placement.toDocument), ("destroyed", .bool r.destroyed),
    ("network_freed", .bool r.networkFreed), ("quotas_freed", .bool r.quotasFreed)]

def ofDocument? : Document → Option ProvisionedRun := Document.record? do
  let run ← Record.field "run" RunContext.ofDocument?
  let quotas ← Record.field "quotas" (Document.list? Quota.ofDocument?)
  let placement ← Record.field "placement" DeployedPlacement.ofDocument?
  let destroyed ← Record.field "destroyed" Document.bool?
  let networkFreed ← Record.field "network_freed" Document.bool?
  let quotasFreed ← Record.field "quotas_freed" Document.bool?
  pure { run, quotas, placement, destroyed, networkFreed, quotasFreed }

end ProvisionedRun

end Testbed
