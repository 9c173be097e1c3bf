import Testbed.Proofs.Placement.Intent
import Testbed.Proofs.Provision.Build
import Testbed.Proofs.Provision.Destroy
import Testbed.Proofs.Provision.Stake
import Testbed.Provision.Provisioner

/-!
What the single steps of a provisioner do: what each of them returns, and what it leaves of the world.

Only reserving a network changes stock, and only creating, polling and taking down a deployment changes
what the backend keeps.
-/

namespace Testbed

namespace Provisioner

variable {σ : Type} {p : Provisioner σ} {run : RunContext} {w : World σ}

/-! ### Quotas and networks -/

/-- The number of machines of a database fits in 63 bits. -/
theorem vmCount_lt (database : Database) : vmCount database < 2 ^ 63 := by
  -- No count in a template exceeds 32 bits, and at most three of them are added up.
  have dedicated : ∀ a : Option AddonPlacement, AddonPlacement.dedicatedCount a < 2 ^ 32 := by
    intro a
    cases a with
    | none => exact Nat.two_pow_pos 32
    | some placement =>
        cases placement with
        | colocate scope replicaIndex => exact Nat.two_pow_pos 32
        | dedicated count hardware => exact count.toNat_lt
  have needed : ∀ t : DatabaseTemplate, t.requiredAddresses < 2 ^ 35 := by
    intro t
    cases t with
    | postgresInstance t => simp [DatabaseTemplate.requiredAddresses]
    | picodataInstance t => simp [DatabaseTemplate.requiredAddresses]
    | postgresCluster t =>
        rw [DatabaseTemplate.requiredAddresses, PostgresCluster.requiredAddresses]
        cases t.topology with
        | none => exact Nat.two_pow_pos 35
        | some topology =>
            have replicas := topology.replicasCount.toNat_lt
            have etcd := fun a : EtcdAddon => dedicated a.placement
            have pgbouncer := fun a : PgbouncerAddon => dedicated a.placement
            simp only
            split <;> split <;> try split
            all_goals grind
    | picodataCluster t =>
        rw [DatabaseTemplate.requiredAddresses]
        split
        · next topology _ =>
            have := topology.nodesCount.toNat_lt
            omega
        · decide
  cases database with
  | placed template =>
      have := needed template
      simp only [vmCount, Database.vmCount]
      omega
  | existing text => exact Nat.lt_of_sub_eq_succ rfl

/-- A run asks for something of every quota that it asks for. -/
theorem runQuotas_positive (p : Provisioner σ) (run : RunContext) (database : Database) :
    ∀ q ∈ p.runQuotas run database, 0 < q.amount.toInt := by
  have machines : 0 < (Int64.ofNat (vmCount database)).toInt := by
    rw [Int64.toInt_ofNat_of_lt (vmCount_lt database), vmCount]
    omega
  intro q mem
  simp only [runQuotas, List.mem_append, List.mem_cons, List.not_mem_nil, or_false] at mem
  rcases mem with (rfl | rfl) | mem
  · exact machines
  · exact Int64.toInt_ofNat_of_lt (by decide : 1 < 2 ^ 63) ▸ Int.one_pos
  · split at mem
    · obtain rfl := List.mem_singleton.1 mem
      exact machines
    · cases mem

/-- Reserving a network draws two tokens.  It adds a subnet to the pool of the run, or changes no stock. -/
theorem acquireNetwork_cases (p : Provisioner σ) (run : RunContext) (database : Database)
    (signal : Signal) (w : World σ) :
    (∃ error session, p.acquireNetwork run database signal w =
        (.error (.network error), { w with session }) ∧ w.store.SameStock session.store ∧
      session.tokens = w.session.tokens + 2) ∨
    ∃ n base subnet session, p.acquireNetwork run database signal w = (.ok n, { w with session }) ∧
      (p.subnetRequest run database (token (w.session.tokens + 1))).Grant p.padding
        (n.pool.reserved w.store) n base subnet ∧
      w.store.Gains session.store n.pool.setKey n.cidr ∧
      session.tokens = w.session.tokens + 2 := by
  rw [acquireNetwork, Session.newToken]
  rcases Session.reserveNetwork_cases p.locks p.padding
      (p.subnetRequest run database (token (w.session.tokens + 1))) signal
      { w.session with tokens := w.session.tokens + 1 } with
    ⟨error, t, reserved, -, stock, tokens⟩ | ⟨n, base, subnet, t, reserved, grant, gains, tokens⟩
  · exact .inl ⟨error, t, by simp only [reserved], stock, tokens⟩
  · rw [← grant.pool] at grant gains
    exact .inr ⟨n, base, subnet, t, by simp only [reserved], grant, gains, tokens⟩

/-! ### Planning and building -/

/-- A network that is refused is refused as a setting. -/
theorem validateNetwork_error {network : Network} {error : ProvisionError}
    (h : validateNetwork network = .error error) : ∃ m, error = .config m := by
  rw [validateNetwork] at h
  split at h
  · exact ⟨_, (Except.error.inj h).symm⟩
  · split at h
    · exact ⟨_, (Except.error.inj h).symm⟩
    · cases h

/-- A run that was planned has its template placed on the network, or needs no items. -/
theorem plan_eq_ok {database : Database} {network : Network} {intent : PlacementIntent}
    (h : plan database network = .ok intent) :
    (∃ template, database = .placed template ∧ template.place network = .ok intent) ∨
      ∃ text, database = .existing text ∧ intent = ⟨[], network, text⟩ := by
  cases valid : validateNetwork network with
  | error invalid => cases database <;> simp [plan, planTemplate, valid, bind, Except.bind] at h
  | ok _ =>
      cases database with
      | placed template =>
          simp only [plan, planTemplate, valid, bind, Except.bind] at h
          split at h
          · next placed =>
              obtain rfl := Except.ok.inj h
              exact .inl ⟨template, rfl, placed⟩
          · cases h
      | existing text =>
          simp only [plan, valid, bind, Except.bind, pure, Except.pure] at h
          exact .inr ⟨text, rfl, (Except.ok.inj h).symm⟩

/-- A run cannot be planned because of its network, or because its template cannot be placed. -/
theorem plan_eq_error {database : Database} {network : Network} {error : ProvisionError}
    (h : plan database network = .error error) :
    (∃ m, error = .config m) ∨ ∃ template failure, database = .placed template ∧
      template.place network = .error failure ∧ error = .placement failure := by
  cases valid : validateNetwork network with
  | error invalid =>
      have same : invalid = error := by
        cases database <;> simpa [plan, planTemplate, valid, bind, Except.bind] using h
      exact .inl (same ▸ validateNetwork_error valid)
  | ok _ =>
      cases database with
      | placed template =>
          simp only [plan, planTemplate, valid, bind, Except.bind] at h
          split at h
          · cases h
          · next failure failed =>
              exact .inr ⟨template, failure, rfl, failed, (Except.error.inj h).symm⟩
      | existing text => simp [plan, valid, bind, Except.bind, pure, Except.pure] at h

/-- An error in planning a database is not one of compensation. -/
theorem plan_error {database : Database} {network : Network} {error : ProvisionError}
    (h : plan database network = .error error) : error.isCompensation = false := by
  rcases plan_eq_error h with ⟨m, rfl⟩ | ⟨template, failure, -, -, rfl⟩
  · rfl
  · rfl

/-- A run is planned on its network. -/
theorem network_of_plan {database : Database} {network : Network} {intent : PlacementIntent}
    (h : plan database network = .ok intent) : intent.network = network := by
  rcases plan_eq_ok h with ⟨template, -, placed⟩ | ⟨text, -, rfl⟩
  · exact (DatabaseTemplate.placed_of_place placed).onNetwork
  · rfl

/-- Building draws tokens, and fails without a trace. -/
theorem build_cases (p : Provisioner σ) (run : RunContext) (intent : PlacementIntent)
    (hardware : Hardware) (w : World σ) :
    (∃ error, p.build run intent hardware w = (.error error, w) ∧ error.isCompensation = false) ∨
    ∃ placement tokens,
      p.settings.build p.padding run intent hardware w.session.tokens = .ok (placement, tokens) ∧
      p.build run intent hardware w =
        (.ok placement, { w with session := { w.session with tokens } }) := by
  rw [build]
  cases built : p.settings.build p.padding run intent hardware w.session.tokens with
  | error error => exact .inl ⟨error, rfl, ProvisionSettings.build_error built⟩
  | ok pair => exact .inr ⟨pair.1, pair.2, rfl, rfl⟩

/-! ### Deploying -/

/-- All ways in which deploying ends: nobody can create the deployment, creating it fails, it is created
with all its machines, or it is created without some and taken down again. -/
theorem deploy_cases (p : Provisioner σ) (placement : Placement) (w : World σ) :
    (∃ error, p.service placement.deployment.identifier.target = .error error ∧
      p.deploy placement w = (.error (.deploy error), w)) ∨
    ∃ service, p.service placement.deployment.identifier.target = .ok service ∧
      ((∃ error machines,
          service.create placement.deployment w.clock.stamp w.machines = (.error error, machines) ∧
          p.deploy placement w = (.error (.deploy error), { w with machines })) ∨
        ∃ d machines,
          service.create placement.deployment w.clock.stamp w.machines = (.ok d, machines) ∧
          ((∃ items, p.deploy placement w =
              (.ok ⟨items, d, placement.network, placement.connectionString⟩,
                { w with machines })) ∨
            ∃ error result, p.deploy placement w = (.error error, result.2.2) ∧
              Destroying.destroyAndConfirm service p.settings.wait .never d { w with machines } =
                result ∧
              (error.isCompensation = false ↔ result.1 = .ok ()))) := by
  rw [deploy]
  cases supported : p.service placement.deployment.identifier.target with
  | error error => exact .inl ⟨error, rfl, rfl⟩
  | ok service =>
      refine .inr ⟨service, rfl, ?_⟩
      cases created : service.create placement.deployment w.clock.stamp w.machines with
      | mk outcome machines =>
          cases outcome with
          | error error => exact .inl ⟨error, machines, rfl, by simp only [created]⟩
          | ok d =>
              refine .inr ⟨d, machines, rfl, ?_⟩
              simp only [created]
              cases pairItems d placement.items with
              | ok items => exact .inl ⟨items, rfl⟩
              | error template =>
                  apply Or.inr
                  cases down : Destroying.destroyAndConfirm service p.settings.wait .never d
                      { w with machines } with
                  | mk result rest =>
                      cases result with
                      | ok _ =>
                          exact ⟨_, (.ok (), rest), rfl, rfl,
                            by simp [ProvisionError.isCompensation]⟩
                      | error error =>
                          exact ⟨_, (.error error, rest), rfl, rfl,
                            by simp [ProvisionError.isCompensation]⟩

section Equations

variable {placement : Placement} {service : DeploymentService σ} {signal : Signal} {d : Deployment}
  {v : World σ}

/-- Deploying takes time only, as far as the session is concerned. -/
theorem passes_of_deploy {result : Except ProvisionError DeployedPlacement}
    (h : p.deploy placement w = (result, v)) : w.session.Passes v.session := by
  have after : ∀ {outcome : Except ProvisionError DeployedPlacement × World σ},
      p.deploy placement w = outcome → outcome.2 = v := fun same => by rw [← same, h]
  rcases p.deploy_cases placement w with
    ⟨error, -, same⟩ | ⟨service, -, ⟨error, machines, -, same⟩ |
      ⟨d, machines, -, ⟨items, same⟩ | ⟨error, result, same, down, -⟩⟩⟩
  · obtain rfl := after same
    exact .refl _
  · obtain rfl := after same
    exact .refl _
  · obtain rfl := after same
    exact .refl _
  · obtain rfl := after same
    have passes := Destroying.passes_of_destroyAndConfirm down
    exact passes

/-- What was deployed was created, and its items were paired with its machines. -/
theorem created_of_deploy {deployed : DeployedPlacement} (h : p.deploy placement w = (.ok deployed, v)) :
    ∃ service machines, p.service placement.deployment.identifier.target = .ok service ∧
      service.create placement.deployment w.clock.stamp w.machines = (.ok deployed.deployment, machines) ∧
      pairItems deployed.deployment placement.items = .ok deployed.items := by
  rw [deploy] at h
  split at h
  · cases h
  · next service supported =>
      split at h
      · cases h
      · next d machines created =>
          dsimp only at h
          split at h
          · next items paired =>
              obtain ⟨same, -⟩ := Prod.mk.inj h
              obtain rfl := Except.ok.inj same
              exact ⟨service, machines, supported, created, paired⟩
          · split at h <;> cases h

/-- What is deployed is deployed on the network of its placement. -/
theorem network_of_deploy {deployed : DeployedPlacement}
    (h : p.deploy placement w = (.ok deployed, v)) : deployed.network = placement.network := by
  rcases p.deploy_cases placement w with
    ⟨error, -, same⟩ | ⟨service, -, ⟨error, machines, -, same⟩ |
      ⟨d, machines, -, ⟨items, same⟩ | ⟨error, result, same, -⟩⟩⟩
  · simp [same] at h
  · simp [same] at h
  · obtain ⟨rfl, -⟩ : _ = deployed ∧ _ = v := by simpa [same] using h
    rfl
  · simp [same] at h

/-- Waiting for machines takes time only, as far as the session is concerned. -/
theorem passes_of_awaitReady {result : Except ProvisionError (List Deployment)}
    (h : p.awaitReady service signal d w = (result, v)) : w.session.Passes v.session := by
  rw [awaitReady] at h
  generalize Readiness.await service p.settings.wait signal [d] w.clock w.machines = outcome at h
  obtain ⟨outcome, clock, machines⟩ := outcome
  cases outcome with
  | ok ready =>
      obtain ⟨rfl, rfl⟩ := Prod.mk.inj h
      exact w.session.passes_pauseUntil _
  | error error =>
      obtain ⟨rfl, rfl⟩ := Prod.mk.inj h
      exact w.session.passes_pauseUntil _

/-- Waiting for machines keeps what their service keeps, whether they become ready or not. -/
theorem awaitReady_keeps {Good : Deployment → σ → Prop} {Later : σ → σ → Prop}
    {result : Except ProvisionError (List Deployment)} (keeps : service.Keeps Good Later)
    (h : p.awaitReady service signal d w = (result, v)) (good : Good d w.machines) :
    Good d v.machines ∧ Later w.machines v.machines ∧
      ∀ found, result = .ok found → ∀ seen ∈ found, Good seen v.machines := by
  have only : ∀ seen ∈ [d], Good seen w.machines := by simpa using good
  obtain ⟨goods, later⟩ := Readiness.await_keeps keeps p.settings.wait signal w.clock only
  rw [awaitReady] at h
  generalize Readiness.await service p.settings.wait signal [d] w.clock w.machines = outcome
    at goods later h
  obtain ⟨outcome, clock, machines⟩ := outcome
  cases outcome with
  | ok ready =>
      obtain ⟨rfl, rfl⟩ := Prod.mk.inj h
      refine ⟨keeps.stable good later, later, fun found same seen mem => ?_⟩
      obtain rfl : ready = found := by simpa using same
      exact goods ready rfl seen mem
  | error error =>
      obtain ⟨rfl, rfl⟩ := Prod.mk.inj h
      exact ⟨keeps.stable good later, later, nofun⟩

end Equations

/-- Waiting for a deployment fails by an error of the deployment. -/
theorem awaitReady_error {service : DeploymentService σ} {signal : Signal} {d : Deployment}
    {error : ProvisionError} (h : (p.awaitReady service signal d w).1 = .error error) :
    ∃ failure, error = .deploy failure := by
  rw [awaitReady] at h
  dsimp only at h
  split at h
  · cases h
  · exact ⟨_, (Except.error.inj h).symm⟩

end Provisioner

end Testbed
