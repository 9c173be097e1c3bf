import Testbed.Network.Allocation
import Testbed.Provision.Error
import Testbed.Provision.Run
import Testbed.Provision.Settings

/-!
From placed items to machines: every item of a database gets a worker and the template of its machine, and
one more machine, on the first address that is still free, generates load.

Building draws tokens for tasks, machines and the deployment; it is given how many were drawn before and
says how many are drawn after it.
-/

namespace Testbed

/-- The name of the one deployment that holds all machines of a run. -/
def deploymentName : String := "stroppy-test-run-deployment"

/-- What the worker of a database item can do: set up its containers, if it has any, and take part in
the run. -/
def databaseTaskKinds (containers : List Container) : List TaskKind :=
  if containers.isEmpty then [.runStroppy] else [.setupContainers, .runStroppy]

namespace ProvisionSettings

/-- Whether the machines of a target get public addresses. -/
def publicOn (s : ProvisionSettings) (target : Target) : Bool :=
  s.machines.publicAddress && !target.isLocal

/-- The machine of a worker. -/
def vmTemplate (s : ProvisionSettings) (run : RunContext) (worker : Worker) (hardware : Hardware)
    (address : Address) (id : String) : VmTemplate where
  identifier := { id, name := worker.name, target := run.target }
  hardware := hardware
  baseImageId := s.machines.baseImageId
  hasPublicAddress := s.publicOn run.target
  user := s.machines.user
  address := address
  environment := worker.environment s.orchestration
  labels := worker.metadata

/-- Give an item with an address a worker that can do tasks of some kinds, and a machine. -/
def placedItem (s : ProvisionSettings) (run : RunContext) (name : String)
    (containers : List Container) (kinds : List TaskKind) (metadata : Table String)
    (hardware : Hardware) (address : Address) (tokens : Nat) : PlacedItem × Nat :=
  let worker := Worker.new (tokens + 1) run.runId name kinds metadata
  let tokens := tokens + kinds.length + 1
  let vmTemplate := s.vmTemplate run worker hardware address (token tokens)
  (⟨name, containers, vmTemplate, worker, metadata⟩, tokens)

/-- Give an item of the database a worker and a machine. -/
def databaseItem (s : ProvisionSettings) (run : RunContext) (item : Item) (tokens : Nat) :
    Except ProvisionError (PlacedItem × Nat) :=
  match item.address with
  | none => .error (.config (.itemWithoutAddress item.name))
  | some address =>
    let metadata := item.metadata.insertAll (Worker.roleLabels run.runId Worker.databaseRole)
    .ok (s.placedItem run item.name item.containers (databaseTaskKinds item.containers) metadata
      item.hardware address tokens)

/-- Give all items of the database workers and machines. -/
def databaseItems (s : ProvisionSettings) (run : RunContext) :
    List Item → Nat → Except ProvisionError (List PlacedItem × Nat)
  | [], tokens => .ok ([], tokens)
  | item :: rest, tokens => do
    let (placed, tokens) ← s.databaseItem run item tokens
    let (rest, tokens) ← databaseItems s run rest tokens
    pure (placed :: rest, tokens)

/-- What tells how the load generator's machine is doing. -/
def loadExporter (address : Address) : Container :=
  let exporter := Container.nodeExporter Worker.loadRole none
  let labels := [(Label.address, address.text), (Label.item, Worker.loadRole),
    (Label.logicalName, exporter.name)]
  { exporter with metadata := exporter.metadata.insertAll labels }

/-- The item that generates load. -/
def loadItem (s : ProvisionSettings) (run : RunContext) (hardware : Hardware) (address : Address)
    (tokens : Nat) : PlacedItem × Nat :=
  s.placedItem run Worker.loadRole [loadExporter address] TaskKind.all
    (.ofList (Worker.roleLabels run.runId Worker.loadRole)) hardware address tokens

/-- The address of the load generator: the first free one of the network. -/
def loadAddress (padding : Nat) (network : Network) (used : List Address) :
    Except ProvisionError Address :=
  match Allocation.firstFree padding network.cidr (used.map Address.text) with
  | .error error => .error (.network error)
  | .ok address =>
    if network.ips.contains address then .ok address
    else .error (.config (.outsideReserved address network.cidr))

/-- Give every item a worker and a machine, and add the load generator. -/
def build (s : ProvisionSettings) (padding : Nat) (run : RunContext) (intent : PlacementIntent)
    (loadHardware : Hardware) (tokens : Nat) : Except ProvisionError (Placement × Nat) := do
  let (items, tokens) ← s.databaseItems run intent.items tokens
  let address ← loadAddress padding intent.network (items.map (·.vmTemplate.address))
  let (load, tokens) := s.loadItem run loadHardware address tokens
  let items := items ++ [load]
  let deployment : DeploymentTemplate := {
    identifier := { id := token (tokens + 1), name := deploymentName, target := run.target }
    network := intent.network
    vms := items.map (·.vmTemplate)
    metadata := load.metadata }
  pure (⟨intent.network, intent.connectionString, deployment, items⟩, tokens + 1)

end ProvisionSettings

end Testbed
