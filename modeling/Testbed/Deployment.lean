import Testbed.Config
import Testbed.Deployment.Resource
import Testbed.Hardware
import Testbed.Network

/-!
Deployments.  A `DeploymentTemplate` says which network and which machines are wanted; a `Deployment` is
what a backend has made of it, one resource for the network and one for each machine.
-/

namespace Testbed

/-- The machine that is wanted. -/
structure VmTemplate where
  identifier : Identifier
  hardware : Hardware
  baseImageId : String
  hasPublicAddress : Bool
  user : Config.MachineUser
  address : Address
  /-- The environment that the machine is started with. -/
  environment : Table String
  labels : Table String
deriving Repr, DecidableEq

namespace VmTemplate

def toDocument (t : VmTemplate) : Document :=
  .table [("identifier", t.identifier.toDocument), ("hardware", t.hardware.toDocument),
    ("base_image_id", .text t.baseImageId), ("has_public_ip", .bool t.hasPublicAddress),
    ("vm_user", t.user.toDocument), ("internal_ip", t.address.toDocument),
    ("cloud_init_env", t.environment.toDocument), ("labels", t.labels.toDocument)]

def ofDocument? : Document → Option VmTemplate := Document.record? do
  let identifier ← Record.field "identifier" Identifier.ofDocument?
  let hardware ← Record.field "hardware" Hardware.ofDocument?
  let baseImageId ← Record.field "base_image_id" Document.text?
  let hasPublicAddress ← Record.field "has_public_ip" Document.bool?
  let user ← Record.field "vm_user" Config.MachineUser.ofDocument?
  let address ← Record.field "internal_ip" Address.ofDocument?
  let environment ← Record.field "cloud_init_env" (Document.entries? Document.text?)
  let labels ← Record.field "labels" (Document.entries? Document.text?)
  pure { identifier, hardware, baseImageId, hasPublicAddress, user, address, environment, labels }

end VmTemplate

/-- The network and the machines that are wanted. -/
structure DeploymentTemplate where
  identifier : Identifier
  network : Network
  vms : List VmTemplate
  metadata : Table String
deriving Repr, DecidableEq

namespace DeploymentTemplate

def toDocument (t : DeploymentTemplate) : Document :=
  .table [("identifier", t.identifier.toDocument), ("network", t.network.toDocument),
    ("vm_templates", .list (t.vms.map VmTemplate.toDocument)), ("metadata", t.metadata.toDocument)]

def ofDocument? : Document → Option DeploymentTemplate := Document.record? do
  let identifier ← Record.field "identifier" Identifier.ofDocument?
  let network ← Record.field "network" Network.ofDocument?
  let vms ← Record.field "vm_templates" (Document.list? VmTemplate.ofDocument?)
  let metadata ← Record.field "metadata" (Document.entries? Document.text?)
  pure { identifier, network, vms, metadata }

end DeploymentTemplate

/-- A machine of a deployment. -/
structure Vm where
  template : VmTemplate
  resource : Resource
deriving Repr, DecidableEq

namespace Vm

def toDocument (v : Vm) : Document :=
  .table [("template", v.template.toDocument), ("resource", v.resource.toDocument)]

def ofDocument? : Document → Option Vm := Document.record? do
  let template ← Record.field "template" VmTemplate.ofDocument?
  let resource ← Record.field "resource" Resource.ofDocument?
  pure { template, resource }

end Vm

/-- What a backend has made of a template. -/
structure Deployment where
  template : DeploymentTemplate
  network : Resource
  vms : List Vm
deriving Repr, DecidableEq

namespace Deployment

/-- The deployment of a template whose creation begins.  Each resource is stamped with a reading of its
own. -/
def new (t : DeploymentTemplate) (stamps : Stamps) : Deployment where
  template := t
  network := .new t.network.identifier.id s!"network-{t.network.identifier.name}" (stamps.nth 0)
  vms := t.vms.mapIdx fun i vm => ⟨vm, .new vm.identifier.id vm.identifier.name (stamps.nth (i + 1))⟩

/-- The identifier of a deployment. -/
def id (d : Deployment) : String := d.template.identifier.id

/-- All resources: the network, then the machines in order. -/
def resources (d : Deployment) : List Resource := d.network :: d.vms.map Vm.resource

/-- Whether every resource is ready. -/
def isReady (d : Deployment) : Bool := d.resources.all (·.status = .ready)

/-- Whether every resource is destroyed. -/
def isDestroyed (d : Deployment) : Bool := d.resources.all (·.status = .destroyed)

/-- The first degraded resource. -/
def degraded? (d : Deployment) : Option Resource := d.resources.find? (·.status = .degraded)

/-- The machine of a template identifier. -/
def vm? (d : Deployment) (templateId : String) : Option Vm :=
  d.vms.find? (·.template.identifier.id = templateId)

/-- Change the resources of machines one after the other, passing a state along.  The first machine is at the
position `i`. -/
def visitVms {σ : Type} (change : Nat → Resource → σ → Resource × σ) (i : Nat) : List Vm → σ → List Vm × σ
  | [], s => ([], s)
  | vm :: rest, s =>
    let (resource, s) := change i vm.resource s
    let (rest, s) := visitVms change (i + 1) rest s
    ({ vm with resource } :: rest, s)

/-- Change all resources one after the other, passing a state along.  The network is at position zero. -/
def visit {σ : Type} (change : Nat → Resource → σ → Resource × σ) (d : Deployment) (s : σ) :
    Deployment × σ :=
  let (network, s) := change 0 d.network s
  let (vms, s) := visitVms change 1 d.vms s
  ({ d with network, vms }, s)

/-- Change the resource at a position. -/
def modify (d : Deployment) (position : Nat) (change : Resource → Resource) : Deployment :=
  (d.visit (fun i r s => (if i = position then change r else r, s)) ()).1

def toDocument (d : Deployment) : Document :=
  .table [("template", d.template.toDocument), ("network", d.network.toDocument),
    ("vms", .list (d.vms.map Vm.toDocument))]

def ofDocument? : Document → Option Deployment := Document.record? do
  let template ← Record.field "template" DeploymentTemplate.ofDocument?
  let network ← Record.field "network" Resource.ofDocument?
  let vms ← Record.field "vms" (Document.list? Vm.ofDocument?)
  pure { template, network, vms }

end Deployment

end Testbed
