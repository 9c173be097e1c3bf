import Testbed.Provision.Provisioner
import Testbed.Provision.Rollback

/-!
The life of a run: it is provisioned as a whole or not at all, and taken down in the end.

Quotas are taken first, then a network, then machines; a run that cannot be provisioned gives them back in
the opposite order.  Quotas and network are given back only when the machines are known to be gone.  Where
that is not known they are kept, and the error says so.
-/

namespace Testbed

/-- The world while an attempt to provision a run is undone. -/
structure Undoing (σ : Type) where
  world : World σ
  /-- Whether machines of the run may outlive the attempt. -/
  mayBeLive : Bool

namespace Provisioner

variable {σ : Type}

/-! ### Compensations -/

/-- Give something back, unless machines may still use it. -/
def unlessLive (what : String) (release : World σ → World σ) : Action (Undoing σ) := fun u =>
  if u.mayBeLive then (.error (.retained what), u)
  else (.ok (), { u with world := release u.world })

/-- Give the quotas of a run back. -/
def returnQuotas (quotas : List Quota) : Action (Undoing σ) := unlessLive "quotas" (freeQuotas quotas)

/-- Give the network of a run back. -/
def returnNetwork (network : Network) : Action (Undoing σ) :=
  unlessLive s!"network {network.cidr}" (freeNetwork network)

/-- Take the machines of a run down.  If that fails, they may live on. -/
def removeMachines (p : Provisioner σ) (service : DeploymentService σ) (d : Deployment) :
    Action (Undoing σ) := fun u =>
  match Destroying.destroyAndConfirm service p.settings.wait .never d u.world with
  | (.ok (), _, world) => (.ok (), { u with world })
  | (.error error, _, world) => (.error (.deploy error), ⟨world, true⟩)

/-! ### Provisioning -/

/-- How the steps of an attempt end: with a result, or with an error and what may live on. -/
structure Outcome (σ : Type) where
  result : Except ProvisionError DeployedPlacement
  rollback : Rollback (Undoing σ)
  state : Undoing σ

/-- End an attempt because of an error. -/
def Outcome.failed (rollback : Rollback (Undoing σ)) (error : ProvisionError) (w : World σ)
    (mayBeLive : Bool) : Outcome σ := ⟨.error error, rollback, ⟨w, mayBeLive⟩⟩

/-- The last step: wait until the machines of a run are ready. -/
def settle (p : Provisioner σ) (run : RunContext) (signal : Signal) (deployed : DeployedPlacement)
    (rollback : Rollback (Undoing σ)) (w : World σ) : Outcome σ :=
  match p.service run.target with
  | .error error => .failed rollback (.deploy error) w false
  | .ok service =>
    let rollback := rollback.register "destroy deployment"
      (p.removeMachines service deployed.deployment)
    match p.awaitReady service signal deployed.deployment w with
    | (.error error, w) => .failed rollback error w false
    | (.ok ready, w) =>
      let deployed := match ready with
        | d :: _ => deployed.refresh d
        | [] => deployed
      ⟨.ok deployed, rollback, ⟨w, false⟩⟩

/-- Plan, build and deploy a run on its network. -/
def raise (p : Provisioner σ) (run : RunContext) (request : ProvisionRequest) (signal : Signal)
    (network : Network) (rollback : Rollback (Undoing σ)) (w : World σ) : Outcome σ :=
  match plan request.database network with
  | .error error => .failed rollback error w false
  | .ok intent =>
    match p.build run intent request.loadHardware w with
    | (.error error, w) => .failed rollback error w false
    | (.ok placement, w) =>
      match p.deploy placement w with
      | (.error error, w) => .failed rollback error w error.isCompensation
      | (.ok deployed, w) => p.settle run signal deployed rollback w

/-- All steps of an attempt. -/
def attempt (p : Provisioner σ) (run : RunContext) (request : ProvisionRequest) (signal : Signal)
    (w : World σ) : Outcome σ :=
  let quotas := p.runQuotas run request.database
  match Ledger.reserve quotas w.store with
  | (.error error, _) => .failed .empty (.store error) w false
  | (.ok (), store) =>
    let rollback := Rollback.empty.register "free quotas" (returnQuotas quotas)
    match p.acquireNetwork run request.database signal (w.setStore store) with
    | (.error error, w) => .failed rollback error w false
    | (.ok network, w) =>
      p.raise run request signal network (rollback.register "free network" (returnNetwork network)) w

/-- Provision a run, or undo what was done for it. -/
def provision (p : Provisioner σ) (run : RunContext) (request : ProvisionRequest) (signal : Signal)
    (w : World σ) : Except ProvisionError ProvisionedRun × World σ :=
  let outcome := p.attempt run request signal w
  match outcome.result with
  | .ok placement =>
    (.ok (.new run (p.runQuotas run request.database) placement), outcome.state.world)
  | .error error =>
    let (error, state) := outcome.rollback.run error outcome.state
    (.error error, state.world)

/-! ### Taking down -/

/-- Try something, and `left` times more with a pause before each, as long as trying again can help. -/
def withRetries {α : Type} (backoff : Duration)
    (action : World σ → Except ProvisionError α × World σ) :
    Nat → World σ → Except ProvisionError α × World σ
  | 0, w => action w
  | left + 1, w =>
    match action w with
    | (.ok a, w) => (.ok a, w)
    | (.error error, w) =>
      if error.isRetryable then withRetries backoff action left (w.pause backoff.ms)
      else (.error error, w)

/-- Take the machines of a run down, unless they are gone. -/
def destroyRun (p : Provisioner σ) (signal : Signal) (run : ProvisionedRun) (w : World σ) :
    Except ProvisionError Unit × ProvisionedRun × World σ :=
  if run.destroyed then (.ok (), run, w)
  else
    match withRetries p.settings.cleanupBackoff (p.destroy signal run.placement.deployment)
      (p.settings.cleanupAttempts - 1) w with
    | (.ok d, w) =>
      (.ok (), { run with placement := run.placement.refresh d, destroyed := true }, w)
    | (.error error, w) => (.error error, run, w)

/-- Give back the network and the quotas of a run whose machines are gone, unless that was done. -/
def releaseRun (run : ProvisionedRun) (w : World σ) : ProvisionedRun × World σ :=
  let w := if run.networkFreed then w else freeNetwork run.placement.network w
  let w := if run.quotasFreed then w else freeQuotas run.quotas w
  ({ run with networkFreed := true, quotasFreed := true }, w)

/-- Take a run down.  What was done by an earlier call is not done again. -/
def teardown (p : Provisioner σ) (signal : Signal) (run : ProvisionedRun) (w : World σ) :
    Except ProvisionError Unit × ProvisionedRun × World σ :=
  match p.destroyRun signal run w with
  | (.ok (), run, w) =>
    let (run, w) := releaseRun run w
    (.ok (), run, w)
  | (.error error, run, w) => (.error (.teardown [error]), run, w)

/-- What went wrong, with what went wrong while taking the run down. -/
def abandonment (primary : ProvisionError) : Except ProvisionError Unit → ProvisionError
  | .ok () => primary
  | .error (.teardown cleanup) => .compensation primary cleanup
  | .error other => .compensation primary [other]

/-- Take down a run that has failed. -/
def abandon (p : Provisioner σ) (primary : ProvisionError) (run : ProvisionedRun) (w : World σ) :
    ProvisionError × ProvisionedRun × World σ :=
  let (result, run, w) := p.teardown .never run w
  (abandonment primary result, run, w)

end Provisioner

end Testbed
