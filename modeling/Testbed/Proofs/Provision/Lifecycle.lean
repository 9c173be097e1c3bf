import Testbed.Proofs.Provision.Provisioner
import Testbed.Provision.Lifecycle

/-!
The life of a run, seen through its stake: the subnet and the quotas that its attempt takes.

`equip?` is the part of an attempt that takes the stake, `order?` the part that decides which machines are
asked for.  `Ending` lists the ways in which an attempt with an order ends.  In each of them the rollback
either puts the stake back as a whole or says that it keeps it.
-/

namespace Testbed

namespace Provisioner

variable {σ : Type} {p : Provisioner σ} {run : RunContext} {request : ProvisionRequest}
  {signal : Signal}

/-! ### Taking the stake -/

/-- The network of an attempt and the world in which quotas and network are taken, if they can be. -/
def equip? (p : Provisioner σ) (run : RunContext) (request : ProvisionRequest) (signal : Signal)
    (w : World σ) : Option (Network × World σ) :=
  match Ledger.reserve (p.runQuotas run request.database) w.store with
  | (.ok (), store) =>
    match p.acquireNetwork run request.database signal (w.setStore store) with
    | (.ok network, w) => some (network, w)
    | (.error _, _) => none
  | (.error _, _) => none

/-- What a run takes of the shared store with a network. -/
def stakeOf (p : Provisioner σ) (run : RunContext) (request : ProvisionRequest) (network : Network) :
    Stake := ⟨network, p.runQuotas run request.database⟩

/-- A run holds no less than nothing. -/
theorem fair_stakeOf (p : Provisioner σ) (run : RunContext) (request : ProvisionRequest)
    (network : Network) : ∀ q ∈ (p.stakeOf run request network).quotas, 0 ≤ q.amount.toInt :=
  fun q mem => (p.runQuotas_positive run request.database q mem).le

/-- The compensations of an attempt that has its stake. -/
def returning (stake : Stake) : Rollback (Undoing σ) :=
  (Rollback.empty.register "free quotas" (returnQuotas stake.quotas)).register "free network"
    (returnNetwork stake.network)

/-- An attempt that can be equipped takes its stake, draws two tokens and does nothing to machines. -/
theorem equip?_eq_some {w v : World σ} {network : Network}
    (h : p.equip? run request signal w = some (network, v)) :
    (p.stakeOf run request network).Taken w.store v.store ∧ v.machines = w.machines ∧
      v.session.tokens = w.session.tokens + 2 ∧
      network.identifier.id = token (w.session.tokens + 1) := by
  rw [equip?] at h
  cases reserved : Ledger.reserve (p.runQuotas run request.database) w.store with
  | mk outcome store =>
      cases outcome with
      | error error => simp [reserved] at h
      | ok _ =>
          rcases p.acquireNetwork_cases run request.database signal (w.setStore store) with
            ⟨error, session, acquired, -⟩ | ⟨n, base, subnet, session, acquired, grant, gains, tokens⟩
          · simp [reserved, acquired] at h
          · obtain ⟨rfl, rfl⟩ : n = network ∧ ({ w.setStore store with session } : World σ) = v := by
              simpa [reserved, acquired] using h
            have named : n.cidr.isEmpty = false := by
              rw [grant.cidr]
              exact subnet.text_ne_empty
            exact ⟨Stake.Taken.of_steps (p.runQuotas_positive run request.database) reserved named
              grant.fresh gains, rfl, tokens, by rw [grant.identifier]; rfl⟩

/-- An attempt that cannot be equipped fails and leaves the stock and the machines as they are. -/
theorem provision_of_equip?_none {w : World σ} (h : p.equip? run request signal w = none) :
    ∃ error session, p.provision run request signal w = (.error error, { w with session }) ∧
      error.isCompensation = false ∧ w.store.SameStock session.store ∧
      w.session.tokens ≤ session.tokens := by
  rw [provision, attempt]
  cases reserved : Ledger.reserve (p.runQuotas run request.database) w.store with
  | mk outcome store =>
      cases outcome with
      | error error =>
          exact ⟨.store error, w.session, rfl, rfl, .refl _, Nat.le_refl _⟩
      | ok _ =>
          rcases p.acquireNetwork_cases run request.database signal (w.setStore store) with
            ⟨error, session, acquired, waited, tokens⟩ | ⟨n, base, subnet, session, acquired, -⟩
          · obtain ⟨known, lowered, kept⟩ :=
              Ledger.counter?_of_reserve reserved (p.runQuotas_positive run request.database)
            let quotas := p.runQuotas run request.database
            refine ⟨.network error, { session with store := Ledger.free quotas session.store }, ?_, rfl,
              ⟨fun key => ?_, fun key => ?_⟩, Nat.le.intro tokens.symm⟩
            · simp only [acquired]
              rfl
            · rw [Ledger.members_free, waited.members]
              exact kept key
            · refine Ledger.counter?_free_of_lowered known (fun key => ?_) key
              rw [waited.counter?]
              exact lowered key
          · simp [equip?, reserved, acquired] at h

/-- An attempt that is equipped goes on to raise its machines. -/
theorem provision_of_equip?_some {w v : World σ} {network : Network}
    (h : p.equip? run request signal w = some (network, v)) :
    p.provision run request signal w =
      let stake := p.stakeOf run request network
      let outcome := p.raise run request signal network (returning stake) v
      match outcome.result with
      | .ok placement => (.ok (.new run stake.quotas placement), outcome.state.world)
      | .error error =>
        let (error, state) := outcome.rollback.run error outcome.state
        (.error error, state.world) := by
  rw [equip?] at h
  rw [provision, attempt]
  cases reserved : Ledger.reserve (p.runQuotas run request.database) w.store with
  | mk outcome store =>
      cases outcome with
      | error error => simp [reserved] at h
      | ok _ =>
          cases acquired : p.acquireNetwork run request.database signal (w.setStore store) with
          | mk outcome after =>
              cases outcome with
              | error error => simp [reserved, acquired] at h
              | ok n =>
                  obtain ⟨rfl, rfl⟩ : n = network ∧ after = v := by simpa [reserved, acquired] using h
                  simp only [acquired]
                  rfl

/-! ### Raising the machines -/

/-- The machines that an attempt asks for on its network, and how many tokens are drawn then, if planning
and building succeed. -/
def order? (p : Provisioner σ) (run : RunContext) (request : ProvisionRequest) (network : Network)
    (tokens : Nat) : Option (Placement × Nat) :=
  match plan request.database network with
  | .ok intent => (p.settings.build p.padding run intent request.loadHardware tokens).toOption
  | .error _ => none

/-- An order is planned on its network and built from the tokens that were drawn before. -/
theorem order?_eq_some {network : Network} {tokens drawn : Nat} {placement : Placement}
    (h : p.order? run request network tokens = some (placement, drawn)) :
    ∃ intent, plan request.database network = .ok intent ∧
      p.settings.build p.padding run intent request.loadHardware tokens = .ok (placement, drawn) := by
  rw [order?] at h
  cases planned : plan request.database network with
  | error error => simp [planned] at h
  | ok intent =>
      cases built : p.settings.build p.padding run intent request.loadHardware tokens with
      | error error => simp [planned, built, Except.toOption] at h
      | ok pair =>
          obtain rfl : pair = (placement, drawn) := by simpa [planned, built, Except.toOption] using h
          exact ⟨intent, rfl, built⟩

variable {network : Network}

/-- An order is on the network of the attempt and for the target of the run. -/
theorem order?_placed {tokens drawn : Nat} {placement : Placement}
    (h : p.order? run request network tokens = some (placement, drawn)) :
    placement.network = network ∧ placement.deployment.identifier.target = run.target := by
  obtain ⟨intent, planned, built⟩ := order?_eq_some h
  obtain ⟨kept, -, target, -⟩ := ProvisionSettings.build_eq_ok built
  exact ⟨kept.trans (network_of_plan planned), target⟩

/-- Without an order nothing is asked of the backend. -/
theorem raise_of_order?_none {w : World σ}
    (h : p.order? run request network w.session.tokens = none) (signal : Signal)
    (rollback : Rollback (Undoing σ)) :
    ∃ error, p.raise run request signal network rollback w = .failed rollback error w false ∧
      error.isCompensation = false := by
  rw [raise]
  rw [order?] at h
  cases planned : plan request.database network with
  | error error => exact ⟨error, rfl, plan_error planned⟩
  | ok intent =>
      rcases p.build_cases run intent request.loadHardware w with
        ⟨error, built, plain⟩ | ⟨placement, tokens, built, -⟩
      · exact ⟨error, by simp only [built], plain⟩
      · simp [planned, built, Except.toOption] at h

/-- Deploy the machines of an order and wait for them. -/
def deployOrder (p : Provisioner σ) (run : RunContext) (signal : Signal) (placement : Placement)
    (rollback : Rollback (Undoing σ)) (w : World σ) : Outcome σ :=
  match p.deploy placement w with
  | (.error error, w) => .failed rollback error w error.isCompensation
  | (.ok deployed, w) => p.settle run signal deployed rollback w

/-- With an order the machines are deployed and waited for. -/
theorem raise_of_order?_some {w : World σ} {placement : Placement} {tokens : Nat}
    (h : p.order? run request network w.session.tokens = some (placement, tokens)) (signal : Signal)
    (rollback : Rollback (Undoing σ)) :
    p.raise run request signal network rollback w =
      p.deployOrder run signal placement rollback { w with session := { w.session with tokens } } := by
  obtain ⟨intent, planned, built⟩ := order?_eq_some h
  simp only [raise, planned, build, built]
  rfl

/-- All ways in which the last step ends: nobody can watch the machines, they do not become ready, or
they do. -/
theorem settle_cases (p : Provisioner σ) (run : RunContext) (signal : Signal)
    (deployed : DeployedPlacement) (rollback : Rollback (Undoing σ)) (w : World σ) :
    (∃ error, p.service run.target = .error error ∧
      p.settle run signal deployed rollback w = .failed rollback (.deploy error) w false) ∨
    ∃ service, p.service run.target = .ok service ∧
      ((∃ error v, p.awaitReady service signal deployed.deployment w = (.error error, v) ∧
          error.isCompensation = false ∧
          p.settle run signal deployed rollback w =
            .failed (rollback.register "destroy deployment"
              (p.removeMachines service deployed.deployment)) error v false) ∨
        ∃ ready v rollback' settled, p.awaitReady service signal deployed.deployment w = (.ok ready, v) ∧
          p.settle run signal deployed rollback w = ⟨.ok settled, rollback', ⟨v, false⟩⟩ ∧
          settled.network = deployed.network ∧
          (settled.deployment ∈ ready ∨ settled.deployment = deployed.deployment)) := by
  rw [settle]
  cases supported : p.service run.target with
  | error error => exact .inl ⟨error, rfl, rfl⟩
  | ok service =>
      refine .inr ⟨service, rfl, ?_⟩
      cases awaited : p.awaitReady service signal deployed.deployment w with
      | mk result v =>
          cases result with
          | error error =>
              refine .inl ⟨error, v, rfl, ?_, by simp only [awaited]⟩
              obtain ⟨failure, rfl⟩ := awaitReady_error (congrArg Prod.fst awaited)
              rfl
          | ok ready =>
              refine .inr ⟨ready, v, _, _, rfl, by simp only [awaited]; rfl, ?_⟩
              cases ready with
              | nil => exact ⟨rfl, .inr rfl⟩
              | cons d rest => exact ⟨rfl, .inl (List.mem_cons_self ..)⟩

/-! ### Undoing -/

/-- The stake is put back as a whole, unless machines may be live; then it is kept, and the error says
so. -/
theorem run_returning (stake : Stake) (error : ProvisionError) (u : Undoing σ) :
    (u.mayBeLive = false ∧ (returning stake).run error u =
      (error, { u with world := u.world.setStore (stake.giveBack u.world.store) })) ∨
    (u.mayBeLive = true ∧ ∃ cleanup,
      (returning stake).run error u = (.compensation error cleanup, u)) := by
  obtain ⟨world, mayBeLive⟩ := u
  cases mayBeLive
  · exact .inl ⟨rfl, rfl⟩
  · exact .inr ⟨rfl, _, rfl⟩

/-- The machines are taken down first; if that fails, the stake is kept. -/
theorem run_removing (stake : Stake) (error : ProvisionError) (service : DeploymentService σ)
    (d : Deployment) (w : World σ) :
    let result := Destroying.destroyAndConfirm service p.settings.wait .never d w
    let rollback :=
      (returning stake).register "destroy deployment" (p.removeMachines service d)
    (result.1 = .ok () ∧ rollback.run error ⟨w, false⟩ =
      (error, ⟨result.2.2.setStore (stake.giveBack result.2.2.store), false⟩)) ∨
    (result.1 ≠ .ok () ∧ ∃ cleanup,
      rollback.run error ⟨w, false⟩ = (.compensation error cleanup, ⟨result.2.2, true⟩)) := by
  intro result rollback
  rcases taken : result with ⟨_ | _, d', v⟩
  · next failure =>
      have removed : p.removeMachines service d ⟨w, false⟩ = (.error (.deploy failure), ⟨v, true⟩) := by
        rw [removeMachines, show Destroying.destroyAndConfirm _ _ _ _ w = _ from taken]
      refine .inr ⟨by simp, ?_⟩
      simp only [rollback, Rollback.run, Rollback.register, Rollback.runAll, removed]
      exact ⟨_, rfl⟩
  · have removed : p.removeMachines service d ⟨w, false⟩ = (.ok (), ⟨v, false⟩) := by
      rw [removeMachines, show Destroying.destroyAndConfirm _ _ _ _ w = _ from taken]
    refine .inl ⟨rfl, ?_⟩
    simp only [rollback, Rollback.run, Rollback.register, Rollback.runAll, removed]
    rfl

/-! ### From the ending of an attempt to the ending of provisioning -/

section Endings

variable {u v : World σ} {error : ProvisionError}
  (equipped : p.equip? run request signal u = some (network, v))

include equipped

/-- An attempt that fails before there are machines to wait for. -/
theorem provision_of_failed {w : World σ} {mayBeLive : Bool}
    (raised : p.raise run request signal network (returning (p.stakeOf run request network)) v =
      .failed (returning (p.stakeOf run request network)) error w mayBeLive) :
    (mayBeLive = false ∧ p.provision run request signal u =
      (.error error, w.setStore ((p.stakeOf run request network).giveBack w.store))) ∨
    (mayBeLive = true ∧ ∃ cleanup,
      p.provision run request signal u = (.error (.compensation error cleanup), w)) := by
  rw [provision_of_equip?_some equipped]
  simp only [raised, Outcome.failed]
  rcases run_returning (p.stakeOf run request network) error ⟨w, mayBeLive⟩ with
    ⟨gone, undone⟩ | ⟨live, cleanup, undone⟩
  · exact .inl ⟨gone, by rw [undone]⟩
  · exact .inr ⟨live, cleanup, by rw [undone]⟩

/-- An attempt whose machines do not become ready. -/
theorem provision_of_unready {w : World σ} {service : DeploymentService σ} {d : Deployment}
    (raised : p.raise run request signal network (returning (p.stakeOf run request network)) v =
      .failed ((returning (p.stakeOf run request network)).register "destroy deployment"
        (p.removeMachines service d)) error w false) :
    let result := Destroying.destroyAndConfirm service p.settings.wait .never d w
    (result.1 = .ok () ∧ p.provision run request signal u = (.error error,
      result.2.2.setStore ((p.stakeOf run request network).giveBack result.2.2.store))) ∨
    (result.1 ≠ .ok () ∧ ∃ cleanup,
      p.provision run request signal u = (.error (.compensation error cleanup), result.2.2)) := by
  intro result
  rw [provision_of_equip?_some equipped]
  simp only [raised, Outcome.failed]
  rcases run_removing (p := p) (p.stakeOf run request network) error service d w with
    ⟨gone, undone⟩ | ⟨live, cleanup, undone⟩
  · exact .inl ⟨gone, by rw [undone]⟩
  · exact .inr ⟨live, cleanup, by rw [undone]⟩

/-- An attempt that succeeds. -/
theorem provision_of_raised {deployed : DeployedPlacement} {rollback : Rollback (Undoing σ)}
    {w : World σ}
    (raised : p.raise run request signal network (returning (p.stakeOf run request network)) v =
      ⟨.ok deployed, rollback, ⟨w, false⟩⟩) :
    p.provision run request signal u =
      (.ok (.new run (p.runQuotas run request.database) deployed), w) := by
  rw [provision_of_equip?_some equipped]
  simp only [raised]
  rfl

end Endings

/-! ### How an attempt ends -/

/-- How an attempt ends that has its stake and deploys `placement` in the world `start`: what it returns,
and the world after it. -/
inductive Ending (p : Provisioner σ) (run : RunContext) (signal : Signal) (stake : Stake)
    (placement : Placement) (start : World σ) :
    Except ProvisionError ProvisionedRun × World σ → Prop where
  /-- The machines are not deployed. -/
  | undeployed {error v} (deployment : p.deploy placement start = (.error error, v))
      (plain : error.isCompensation = false) :
      Ending p run signal stake placement start (.error error, v.setStore (stake.giveBack v.store))
  /-- The machines are not deployed as they should be, and not taken down either. -/
  | stranded {error v} (deployment : p.deploy placement start = (.error error, v))
      (said : error.isCompensation = true) (cleanup) :
      Ending p run signal stake placement start (.error (.compensation error cleanup), v)
  /-- Nobody can watch the machines. -/
  | unwatched {deployed v error} (deployment : p.deploy placement start = (.ok deployed, v))
      (unsupported : p.service run.target = .error error) :
      Ending p run signal stake placement start
        (.error (.deploy error), v.setStore (stake.giveBack v.store))
  /-- The machines do not become ready and are taken down. -/
  | unready {deployed v service error u d x} (deployment : p.deploy placement start = (.ok deployed, v))
      (supported : p.service run.target = .ok service)
      (awaited : p.awaitReady service signal deployed.deployment v = (.error error, u))
      (plain : error.isCompensation = false)
      (down : Destroying.destroyAndConfirm service p.settings.wait .never deployed.deployment u =
        (.ok (), d, x)) :
      Ending p run signal stake placement start (.error error, x.setStore (stake.giveBack x.store))
  /-- The machines do not become ready, and are not taken down. -/
  | abandoned {deployed v service error u failure d x}
      (deployment : p.deploy placement start = (.ok deployed, v))
      (supported : p.service run.target = .ok service)
      (awaited : p.awaitReady service signal deployed.deployment v = (.error error, u))
      (standing : Destroying.destroyAndConfirm service p.settings.wait .never deployed.deployment u =
        (.error failure, d, x))
      (cleanup) :
      Ending p run signal stake placement start (.error (.compensation error cleanup), x)
  /-- The machines are ready. -/
  | ready {deployed v service found u settled}
      (deployment : p.deploy placement start = (.ok deployed, v))
      (supported : p.service run.target = .ok service)
      (awaited : p.awaitReady service signal deployed.deployment v = (.ok found, u))
      (same : settled.network = deployed.network)
      (seen : settled.deployment ∈ found ∨ settled.deployment = deployed.deployment) :
      Ending p run signal stake placement start (.ok (.new run stake.quotas settled), u)

/-- Deploying, waiting and taking down take time only.  So the stake is put back as a whole, or the error
says that cleaning up has failed and the stake is kept, or the run holds it. -/
theorem Ending.stock {stake : Stake} {placement : Placement} {start : World σ}
    {outcome : Except ProvisionError ProvisionedRun × World σ}
    (ending : p.Ending run signal stake placement start outcome) {before : Store}
    (taken : stake.Taken before start.store) :
    (∃ error v, outcome = (.error error, v) ∧ error.isCompensation = false ∧
      before.SameStock v.store) ∨
    (∃ error v, outcome = (.error error, v) ∧ error.isCompensation = true ∧
      stake.Taken before v.store) ∨
    ∃ settled v, outcome = (.ok (.new run stake.quotas settled), v) ∧
      settled.network = placement.network ∧ stake.Taken before v.store := by
  have stands : ∀ {result v}, p.deploy placement start = (result, v) → stake.Taken before v.store :=
    fun deployment => taken.trans_same (passes_of_deploy deployment).stock
  cases ending with
  | undeployed deployment plain => exact .inl ⟨_, _, rfl, plain, (stands deployment).giveBack⟩
  | stranded deployment said cleanup => exact .inr (.inl ⟨_, _, rfl, rfl, stands deployment⟩)
  | unwatched deployment unsupported => exact .inl ⟨_, _, rfl, rfl, (stands deployment).giveBack⟩
  | unready deployment supported awaited plain down =>
      have taken := (stands deployment).trans_same (passes_of_awaitReady awaited).stock
      have passes := Destroying.passes_of_destroyAndConfirm down
      exact .inl ⟨_, _, rfl, plain, (taken.trans_same passes.stock).giveBack⟩
  | abandoned deployment supported awaited standing cleanup =>
      have taken := (stands deployment).trans_same (passes_of_awaitReady awaited).stock
      have passes := Destroying.passes_of_destroyAndConfirm standing
      exact .inr (.inl ⟨_, _, rfl, rfl, taken.trans_same passes.stock⟩)
  | ready deployment supported awaited same seen =>
      have taken := (stands deployment).trans_same (passes_of_awaitReady awaited).stock
      exact .inr (.inr ⟨_, _, rfl, same.trans (network_of_deploy deployment), taken⟩)

/-- An attempt that orders machines ends in one of these ways. -/
theorem provision_ending {w u : World σ} {placement : Placement} {tokens : Nat}
    (equipped : p.equip? run request signal w = some (network, u))
    (ordered : p.order? run request network u.session.tokens = some (placement, tokens)) :
    p.Ending run signal (p.stakeOf run request network) placement
      { u with session := { u.session with tokens } } (p.provision run request signal w) := by
  have raised := raise_of_order?_some ordered signal (returning (p.stakeOf run request network))
  rw [deployOrder] at raised
  cases deployment : p.deploy placement { u with session := { u.session with tokens } } with
  | mk result v =>
      rw [deployment] at raised
      cases result with
      | error error =>
          rcases provision_of_failed equipped raised with ⟨plain, failed⟩ | ⟨said, cleanup, failed⟩
          · rw [failed]
            exact .undeployed deployment plain
          · rw [failed]
            exact .stranded deployment said cleanup
      | ok deployed =>
          rcases p.settle_cases run signal deployed (returning (p.stakeOf run request network)) v with
            ⟨error, unsupported, settled⟩ | ⟨service, supported, ⟨error, x, awaited, plain, settled⟩ |
              ⟨found, x, rollback, final, awaited, settled, same, seen⟩⟩
          · rcases provision_of_failed equipped (raised.trans settled) with
              ⟨-, failed⟩ | ⟨impossible, -⟩
            · rw [failed]
              exact .unwatched deployment unsupported
            · cases impossible
          · have undone := provision_of_unready equipped (raised.trans settled)
            cases down : Destroying.destroyAndConfirm service p.settings.wait .never
                deployed.deployment x with
            | mk result rest =>
                rw [down] at undone
                rcases undone with ⟨gone, failed⟩ | ⟨standing, cleanup, failed⟩
                · rw [failed]
                  obtain rfl : result = .ok () := gone
                  exact .unready deployment supported awaited plain down
                · rw [failed]
                  cases result with
                  | ok _ => exact absurd rfl standing
                  | error failure => exact .abandoned deployment supported awaited down cleanup
          · rw [provision_of_raised equipped (raised.trans settled)]
            exact .ready deployment supported awaited same seen

/-- An attempt that orders nothing fails, and gives its stake back. -/
theorem provision_of_order?_none {w u : World σ}
    (equipped : p.equip? run request signal w = some (network, u))
    (ordered : p.order? run request network u.session.tokens = none) :
    ∃ error, p.provision run request signal w =
        (.error error, u.setStore ((p.stakeOf run request network).giveBack u.store)) ∧
      error.isCompensation = false := by
  obtain ⟨error, raised, plain⟩ :=
    raise_of_order?_none ordered signal (returning (p.stakeOf run request network))
  rcases provision_of_failed equipped raised with ⟨-, failed⟩ | ⟨impossible, -⟩
  · exact ⟨error, failed, plain⟩
  · cases impossible

/-! ### Provisioning -/

/-- All ways in which provisioning ends.  It fails without a trace, it fails and keeps its stake, or it
succeeds and holds its stake. -/
theorem provision_cases (p : Provisioner σ) (run : RunContext) (request : ProvisionRequest)
    (signal : Signal) (w : World σ) :
    (∃ error v, p.provision run request signal w = (.error error, v) ∧
      error.isCompensation = false ∧ w.store.SameStock v.store) ∨
    (∃ error v network u, p.provision run request signal w = (.error error, v) ∧
      error.isCompensation = true ∧ p.equip? run request signal w = some (network, u) ∧
      (p.stakeOf run request network).Taken w.store v.store) ∨
    ∃ placement v network u, p.provision run request signal w =
        (.ok (.new run (p.runQuotas run request.database) placement), v) ∧
      p.equip? run request signal w = some (network, u) ∧ placement.network = network ∧
      (p.stakeOf run request network).Taken w.store v.store := by
  cases equipped : p.equip? run request signal w with
  | none =>
      obtain ⟨error, session, provisioned, plain, stock, -⟩ := provision_of_equip?_none equipped
      exact .inl ⟨error, _, provisioned, plain, stock⟩
  | some equipment =>
      obtain ⟨network, u⟩ := equipment
      obtain ⟨taken, -⟩ := equip?_eq_some equipped
      cases ordered : p.order? run request network u.session.tokens with
      | none =>
          obtain ⟨error, failed, plain⟩ := provision_of_order?_none equipped ordered
          exact .inl ⟨error, _, failed, plain, taken.giveBack⟩
      | some order =>
          obtain ⟨placement, tokens⟩ := order
          rcases (provision_ending equipped ordered).stock taken with
            ⟨error, v, failed, plain, stock⟩ | ⟨error, v, failed, said, kept⟩ |
              ⟨settled, v, provisioned, same, held⟩
          · exact .inl ⟨error, v, failed, plain, stock⟩
          · exact .inr (.inl ⟨error, v, network, u, failed, said, rfl, kept⟩)
          · exact .inr (.inr ⟨settled, v, network, u, provisioned, rfl,
              same.trans (order?_placed ordered).1, held⟩)

/-- Provisioning is all or nothing for the shared store.  If it fails, either the error is no failed
cleaning up and all sets and counters are as before, or it is one and the whole stake of the run, its
subnet and its quotas, is still taken.  If it succeeds, the run holds its stake. -/
theorem provision_all_or_nothing (p : Provisioner σ) (run : RunContext) (request : ProvisionRequest)
    (signal : Signal) (w : World σ) :
    match p.provision run request signal w with
    | (.error error, v) =>
      (error.isCompensation = false ∧ w.store.SameStock v.store) ∨
      (error.isCompensation = true ∧ ∃ network u,
        p.equip? run request signal w = some (network, u) ∧
          (p.stakeOf run request network).Taken w.store v.store)
    | (.ok provisioned, v) => ∃ network u,
        p.equip? run request signal w = some (network, u) ∧
          provisioned.placement.network = network ∧
          provisioned.quotas = p.runQuotas run request.database ∧
          (p.stakeOf run request network).Taken w.store v.store := by
  rcases p.provision_cases run request signal w with
    ⟨error, v, provisioned, plain, stock⟩ | ⟨error, v, network, u, provisioned, failed, equipped, taken⟩ |
      ⟨placement, v, network, u, provisioned, equipped, same, taken⟩
  · rw [provisioned]
    exact .inl ⟨plain, stock⟩
  · rw [provisioned]
    exact .inr ⟨failed, network, u, equipped, taken⟩
  · rw [provisioned]
    exact ⟨network, u, equipped, same, rfl, taken⟩

end Provisioner

end Testbed
