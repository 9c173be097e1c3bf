import Testbed.Proofs.Provision.Fleet

/-!
Histories in which networks are reserved and placements are deployed and destroyed one by one, beside the
runs of a fleet.

Whoever works without a run reserves an `Allotment`, deploys placements on it, and destroys them.  The
first destruction that succeeds gives the network back; nothing keeps anybody from destroying the
placement again.
-/

namespace Testbed

variable {σ : Type}

/-- A network that was reserved for itself. -/
structure Allotment where
  network : Network
  /-- Whether it was given back. -/
  released : Bool
deriving DecidableEq

/-- A placement that was deployed for itself, as the last call on it has left it. -/
structure Installation where
  /-- The allotment that it was deployed on, if it was deployed on one. -/
  allotment : Option Nat
  placement : DeployedPlacement
deriving DecidableEq

/-- A fleet, and what was reserved and deployed beside it. -/
structure Site (σ : Type) where
  fleet : Fleet σ
  /-- In the order in which they were reserved. -/
  allotments : List Allotment
  /-- In the order in which they were deployed. -/
  installations : List Installation

/-- A call of somebody on a site, or something that happens to it. -/
inductive SiteCall (σ : Type) where
  | reserve (run : RunContext) (database : Database) (signal : Signal)
  | deploy (allotment : Option Nat) (placement : Placement)
  | destroy (index : Nat) (signal : Signal)
  /-- Something is done to the runs. -/
  | fleet (call : FleetCall σ)

/-- Reserve a network, and deploy what a request asks for on it, without a run. -/
def Provisioner.install? (p : Provisioner σ) (run : RunContext) (request : ProvisionRequest)
    (w : World σ) : Option (DeployedPlacement × World σ) := do
  let (.ok network, w) := p.acquireNetwork run request.database .never w | none
  let .ok intent := plan request.database network | none
  let (.ok placement, w) := p.build run intent request.loadHardware w | none
  let (.ok deployed, w) := p.deploy placement w | none
  some (deployed, w)

namespace Site

/-- The world of a site. -/
def world (t : Site σ) : World σ := t.fleet.world

/-- The site in another world. -/
def setWorld (t : Site σ) (world : World σ) : Site σ := { t with fleet := { t.fleet with world } }

/-- A site with a fleet that has no runs, and nothing beside it. -/
def start (w : World σ) : Site σ := ⟨.start w, [], []⟩

/-- Whether a network is the one of an allotment; where there is no allotment, any network will do. -/
def admits (t : Site σ) (network : Network) : Option Nat → Bool
  | some index => t.allotments[index]?.any (·.network = network)
  | none => true

/-- Whether an allotment is open: it was reserved, and not given back. -/
def isOpen (t : Site σ) : Option Nat → Bool
  | some index => t.allotments[index]?.any (!·.released)
  | none => false

/-- Mark an allotment as given back. -/
def close (allotments : List Allotment) : Option Nat → List Allotment
  | some index => allotments.modify index fun a => { a with released := true }
  | none => allotments

/-- The site after a call.  A call on what does not exist changes nothing, nor does a placement for another
network than that of its allotment. -/
def call (p : Provisioner σ) (t : Site σ) : SiteCall σ → Site σ
  | .reserve run database signal =>
    match p.acquireNetwork run database signal t.world with
    | (.ok network, world) =>
      { t.setWorld world with allotments := t.allotments ++ [⟨network, false⟩] }
    | (.error _, world) => t.setWorld world
  | .deploy allotment placement =>
    if t.admits placement.network allotment then
      match p.deploy placement t.world with
      | (.ok placement, world) =>
        { t.setWorld world with installations := t.installations ++ [⟨allotment, placement⟩] }
      | (.error _, world) => t.setWorld world
    else t
  | .destroy index signal =>
    match t.installations[index]? with
    | some x =>
      match p.destroyPlacement signal x.placement t.world with
      | (.ok (), placement, world) =>
        { t.setWorld world with
          allotments := close t.allotments x.allotment
          installations := t.installations.set index { x with placement } }
      | (.error _, placement, world) =>
        { t.setWorld world with installations := t.installations.set index { x with placement } }
    | none => t
  | .fleet c => { t with fleet := t.fleet.call p c }

/-- The site after several calls. -/
def after (p : Provisioner σ) (calls : List (SiteCall σ)) (t : Site σ) : Site σ := calls.foldl (call p) t

end Site

end Testbed
