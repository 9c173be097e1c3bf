import Testbed.Network.Pool
import Testbed.Provision.Build
import Testbed.Provision.Destroy
import Testbed.Quota.Ledger

/-!
The provisioner and its single steps: reserving a network, planning, building, deploying, and taking a
deployment down.
-/

namespace Testbed

/-- A provisioner over machines with states in `σ`. -/
structure Provisioner (σ : Type) where
  locks : LockOptions
  padding : Nat
  /-- The deployment service of each target that has one. -/
  services : ByTarget (DeploymentService σ)
  settings : ProvisionSettings

namespace Provisioner

variable {σ : Type}

/-- A provisioner with given settings, and the store with the counters that it needs. -/
def ofConfig (c : Config) (services : ByTarget (DeploymentService σ)) (s : Store) :
    Except Config.Error (Provisioner σ × Store) := do
  let locks ← LockOptions.ofConfig c.lock
  let s := Ledger.init c.quotas.toLimits s
  let settings ← ProvisionSettings.ofConfig c
  pure (⟨locks, c.allocator.padding.toNat, services, settings⟩, s)

/-- The targets that have a deployment service. -/
def targets (p : Provisioner σ) : List Target :=
  Target.all.filter fun target => (p.services.get? target).isSome

/-- The deployment service of a target. -/
def service (p : Provisioner σ) (target : Target) : Except DeployError (DeploymentService σ) :=
  match p.services.get? target with
  | some service => .ok service
  | none => .error (.unsupportedTarget target)

/-! ### Networks and quotas -/

/-- How many machines a run has: those of its database, and the one that generates load. -/
def vmCount (database : Database) : Nat := database.vmCount + 1

/-- What a run takes of the quotas of its target. -/
def runQuotas (p : Provisioner σ) (run : RunContext) (database : Database) : List Quota :=
  let vms := Int64.ofNat (vmCount database)
  let quota (kind : QuotaKind) (amount : Int64) : Quota := ⟨run.target, kind, amount⟩
  [quota .vm vms, quota .subnet 1] ++
    (if p.settings.publicOn run.target then [quota .publicAddress vms] else [])

/-- What is asked of the pool of a target for a run. -/
def subnetRequest (p : Provisioner σ) (run : RunContext) (database : Database) (id : String) :
    SubnetRequest :=
  let range := p.settings.network.rangeFor run.target
  { identifier := { id, name := range.name, target := run.target }
    base := range.baseCidr
    length := range.subnetLength.toNat
    count := vmCount database }

/-- Reserve a network that has an address for every machine of a run. -/
def acquireNetwork (p : Provisioner σ) (run : RunContext) (database : Database) (signal : Signal)
    (w : World σ) : Except ProvisionError Network × World σ :=
  let (id, session) := w.session.newToken
  match session.reserveNetwork p.locks p.padding (p.subnetRequest run database id) signal with
  | (.ok network, session) => (.ok network, { w with session })
  | (.error error, session) => (.error (.network error), { w with session })

/-- Give a network back. -/
def freeNetwork (network : Network) (w : World σ) : World σ := w.setStore (network.giveBack w.store)

/-- Give quotas back. -/
def freeQuotas (quotas : List Quota) (w : World σ) : World σ :=
  w.setStore (Ledger.free quotas w.store)

/-! ### Planning and building -/

/-- Items need a subnet and addresses. -/
def validateNetwork (network : Network) : Except ProvisionError Unit :=
  if network.cidr.isEmpty then .error (.config .noCidr)
  else if network.ips.isEmpty then .error (.config (.noAddresses network.cidr))
  else .ok ()

/-- Place a template on a network. -/
def planTemplate (template : DatabaseTemplate) (network : Network) :
    Except ProvisionError PlacementIntent := do
  validateNetwork network
  match template.place network with
  | .ok intent => pure intent
  | .error error => throw (.placement error)

/-- Place a database on a network; one that exists already has no items. -/
def plan (database : Database) (network : Network) : Except ProvisionError PlacementIntent :=
  match database with
  | .placed template => planTemplate template network
  | .existing connectionString => do
    validateNetwork network
    pure { items := [], network, connectionString }

/-- Give every item a worker and a machine, and add the load generator. -/
def build (p : Provisioner σ) (run : RunContext) (intent : PlacementIntent) (loadHardware : Hardware)
    (w : World σ) : Except ProvisionError Placement × World σ :=
  match p.settings.build p.padding run intent loadHardware w.session.tokens with
  | .ok (placement, tokens) => (.ok placement, { w with session := { w.session with tokens } })
  | .error error => (.error error, w)

/-! ### Deploying -/

/-- Pair every item with the machine that was made from its template, or name the first template without
a machine. -/
def pairItems (d : Deployment) : List PlacedItem → Except String (List DeployedItem)
  | [] => .ok []
  | item :: rest =>
    match d.vm? item.vmTemplate.identifier.id with
    | none => .error item.vmTemplate.identifier.id
    | some vm => do
      let rest ← pairItems d rest
      pure (⟨item, vm⟩ :: rest)

/-- Create the deployment of a placement.  When a machine is missing, the deployment is taken down again,
and the error says whether that has failed. -/
def deploy (p : Provisioner σ) (placement : Placement) (w : World σ) :
    Except ProvisionError DeployedPlacement × World σ :=
  match p.service placement.deployment.identifier.target with
  | .error error => (.error (.deploy error), w)
  | .ok service =>
    match service.create placement.deployment w.clock.stamp w.machines with
    | (.error error, machines) => (.error (.deploy error), { w with machines })
    | (.ok deployment, machines) =>
      let w := { w with machines }
      match pairItems deployment placement.items with
      | .ok items =>
        (.ok ⟨items, deployment, placement.network, placement.connectionString⟩, w)
      | .error template =>
        let missing := ProvisionError.vmNotFound template
        match Destroying.destroyAndConfirm service p.settings.wait .never deployment w with
        | (.ok (), _, w) => (.error missing, w)
        | (.error error, _, w) => (.error (.compensation missing [.deploy error]), w)

/-- Take a deployment down, and wait until it is gone. -/
def destroy (p : Provisioner σ) (signal : Signal) (d : Deployment) (w : World σ) :
    Except ProvisionError Deployment × World σ :=
  match p.service d.template.identifier.target with
  | .error error => (.error (.deploy error), w)
  | .ok service =>
    match Destroying.destroyAndConfirm service p.settings.wait signal d w with
    | (.ok (), d, w) => (.ok d, w)
    | (.error error, _, w) => (.error (.deploy error), w)

/-- Take down the deployment of a placement and give its network back. -/
def destroyPlacement (p : Provisioner σ) (signal : Signal) (deployed : DeployedPlacement)
    (w : World σ) : Except ProvisionError Unit × DeployedPlacement × World σ :=
  match p.destroy signal deployed.deployment w with
  | (.ok deployment, w) =>
    (.ok (), { deployed with deployment }, freeNetwork deployed.network w)
  | (.error error, w) => (.error error, deployed, w)

/-- Wait until a deployment is ready. -/
def awaitReady (p : Provisioner σ) (service : DeploymentService σ) (signal : Signal)
    (d : Deployment) (w : World σ) : Except ProvisionError (List Deployment) × World σ :=
  let (result, clock, machines) :=
    Readiness.await service p.settings.wait signal [d] w.clock w.machines
  let w := { w.pauseUntil clock.timer with machines }
  match result with
  | .ok ready => (.ok ready, w)
  | .error error => (.error (.deploy error), w)

end Provisioner

end Testbed
