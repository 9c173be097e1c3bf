import Testbed.Proofs.Deployment.Startup
import Testbed.Proofs.Network.AtOnce
import Testbed.Proofs.Provision.Usage
import Testbed.Proofs.Settings
import Testbed.Provision.DryRun

/-!
A dry plan and the run that follows it.

`dryPlan` chooses a subnet and places a database on it without the store, the lock and the machines that
provisioning goes through.  Both come to the same when nothing is in the way of the run
(`Provisioner.Unhindered`): then reserving a network is nothing but choosing one in an empty pool, and from
there on all that can still fail is placing the template.
-/

namespace Testbed

variable {σ : Type}

/-! ### The items of the database -/

namespace ProvisionSettings

/-- The load generator is no database. -/
theorem isDatabase_loadItem (s : ProvisionSettings) (run : RunContext) (hardware : Hardware)
    (address : Address) (tokens : Nat) :
    (s.loadItem run hardware address tokens).1.isDatabase = false := by
  have role : (s.loadItem run hardware address tokens).1.role? = some Worker.loadRole :=
    get?_roleLabels .empty run.runId Worker.loadRole
  rw [PlacedItem.isDatabase, role]
  decide

/-- Building keeps the connection string, and of the items of the database it keeps what a plan shows. -/
theorem build_database {s : ProvisionSettings} {run : RunContext} {padding : Nat}
    {intent : PlacementIntent} {hardware : Hardware} {tokens last : Nat} {placement : Placement}
    (h : s.build padding run intent hardware tokens = .ok (placement, last)) :
    placement.connectionString = intent.connectionString ∧
      List.Forall₂ (s.Houses run) intent.items (placement.items.filter PlacedItem.isDatabase) := by
  obtain ⟨⟨placed, next⟩, made, h⟩ := exists_ok_of_bind h
  obtain ⟨address, -, h⟩ := exists_ok_of_bind h
  obtain ⟨rfl, -⟩ := Prod.mk.inj (Except.ok.inj h)
  obtain ⟨houses, roles⟩ := houses_of_databaseItems made
  refine ⟨rfl, ?_⟩
  have others : (placed ++ [(s.loadItem run hardware address next).1]).filter PlacedItem.isDatabase =
      placed := by
    rw [List.filter_append, List.filter_eq_self.2 roles,
      List.filter_cons_of_neg (by rw [isDatabase_loadItem]; exact Bool.false_ne_true), List.filter_nil,
      List.append_nil]
  exact others.symm ▸ houses

end ProvisionSettings

/-- A run has what a plan shows: its network, its connection string, and item by item the names, addresses,
hardware and containers of its database. -/
structure ProvisionedRun.Follows (r : ProvisionedRun) (intent : PlacementIntent) : Prop where
  cidr : r.placement.network.cidr = intent.network.cidr
  addresses : r.placement.network.ips = intent.network.ips
  connectionString : r.placement.connectionString = intent.connectionString
  items : r.placement.databaseItems.map (fun i =>
      (i.item.name, some i.item.vmTemplate.address, i.item.vmTemplate.hardware, i.item.containers)) =
    intent.items.map fun i => (i.name, i.address, i.hardware, i.containers)

/-- A dry plan and a run agree: both succeed, and the run follows the plan; or both fail for want of the same
thing, of a network or of a placement. -/
inductive Agree : Except ProvisionError PlacementIntent → Except ProvisionError ProvisionedRun → Prop where
  | success {intent : PlacementIntent} {r : ProvisionedRun} (follows : r.Follows intent) :
      Agree (.ok intent) (.ok r)
  | noNetwork (error : NetworkError) : Agree (.error (.network error)) (.error (.network error))
  | noPlacement (error : PlacementError) : Agree (.error (.placement error)) (.error (.placement error))

/-- Writing the records of the machines again leaves the items as they are. -/
theorem DeployedPlacement.items_refresh (x : DeployedPlacement) (d : Deployment) :
    (x.refresh d).items.map DeployedItem.item = x.items.map DeployedItem.item := by
  rw [refresh, List.map_map]
  refine List.map_congr_left fun i _ => ?_
  rw [Function.comp_apply, DeployedItem.refresh]
  split <;> rfl

namespace Provisioner

/-- Accepted settings make a provisioner. -/
theorem exists_ofConfig {c : Config} (valid : c.validate = .ok ())
    (services : ByTarget (DeploymentService σ)) (s : Store) :
    ∃ locks settings, LockOptions.ofConfig c.lock = .ok locks ∧
      ProvisionSettings.ofConfig c = .ok settings ∧ settings.network = c.network ∧
      ofConfig c services s = .ok (⟨locks, c.allocator.padding.toNat, services, settings⟩,
        Ledger.init c.quotas.toLimits s) := by
  obtain ⟨r, -, -⟩ := Config.validate_eq_ok.1 valid
  obtain ⟨network, -⟩ := ProvisionSettings.ofConfig_eq_ok.1 r.settings_read
  refine ⟨r.locks, r.settings, r.locks_read, r.settings_read, network, ?_⟩
  simp [ofConfig, r.locks_read, r.settings_read, bind, Except.bind, pure, Except.pure]

/-! ### Choosing and placing -/

/-- A dry plan chooses as a run with the same settings does in an empty pool, and places the template. -/
theorem dryPlan_eq {c : Config} {p : Provisioner σ} (network : p.settings.network = c.network)
    (padding : p.padding = c.allocator.padding.toNat) (run : RunContext) (template : DatabaseTemplate)
    (id : String) :
    dryPlan c template run.target id =
      match (p.subnetRequest run (.placed template) id).choose p.padding [] with
      | .error error => .error (.network error)
      | .ok n => (template.place n).mapError .placement := by
  have count : (p.subnetRequest run (.placed template) id).addressCount =
      template.requiredAddresses + 1 := rfl
  rw [dryPlan, SubnetRequest.choose_eq_map, count, subnetRequest, network, padding]
  cases Allocation.nextSubnet c.allocator.padding.toNat (c.network.rangeFor run.target).baseCidr
      (c.network.rangeFor run.target).subnetLength.toNat [] (template.requiredAddresses + 1) with
  | error error => rfl
  | ok choice =>
      simp only [Except.map]
      split <;> simp only [*, Except.mapError]

/-- A network is chosen without regard to how it will be identified. -/
theorem choose_congr (p : Provisioner σ) (run : RunContext) (database : Database) (padding : Nat)
    (inUse : List String) (id other : String) :
    (p.subnetRequest run database id).choose padding inUse =
      ((p.subnetRequest run database other).choose padding inUse).map fun n =>
        { n with identifier := { n.identifier with id } } := by
  let r := p.subnetRequest run database other
  have same : (p.subnetRequest run database id).addressCount = r.addressCount := rfl
  rw [SubnetRequest.choose_eq_map, SubnetRequest.choose_eq_map, same]
  change (Allocation.nextSubnet padding r.base r.length inUse r.addressCount).map _ =
    ((Allocation.nextSubnet padding r.base r.length inUse r.addressCount).map _).map _
  cases Allocation.nextSubnet padding r.base r.length inUse r.addressCount with
  | error error => rfl
  | ok choice => rfl

/-- On a network that was chosen for a run, planning is placing. -/
theorem plan_of_choose {p : Provisioner σ} {run : RunContext} {template : DatabaseTemplate} {id : String}
    {inUse : List String} {n : Network}
    (chosen : (p.subnetRequest run (.placed template) id).choose p.padding inUse = .ok n) :
    plan (.placed template) n = (template.place n).mapError .placement := by
  obtain ⟨subnet, cidr, listed⟩ := SubnetRequest.filled_of_choose chosen
  have count : n.ips.length = template.requiredAddresses + 1 := (Allocation.addresses_eq_ok listed).1
  have named : n.cidr.isEmpty = false := by
    rw [cidr]
    exact subnet.text_ne_empty
  have filled : n.ips.isEmpty = false := by
    cases ips : n.ips with
    | nil => simp [ips] at count
    | cons address rest => rfl
  simp only [plan, planTemplate, validateNetwork, named, filled, bind, Except.bind]
  cases template.place n with
  | error error => rfl
  | ok intent => rfl

/-! ### A run with nothing in its way -/

variable {p : Provisioner σ} {run : RunContext} {template : DatabaseTemplate} {signal : Signal}
  {w : World σ}

/-- The pool that the subnet of a run comes from. -/
def poolOf (p : Provisioner σ) (run : RunContext) : Pool :=
  ⟨run.target, (p.settings.network.rangeFor run.target).name⟩

/-- Nothing is in the way of a run. -/
structure Unhindered (p : Provisioner σ) (run : RunContext) (template : DatabaseTemplate)
    (signal : Signal) (w : World σ) : Prop where
  /-- No subnet of the pool is in use. -/
  empty : (p.poolOf run).reserved w.store = []
  /-- Nobody has the lock of the pool, or has it any more. -/
  unlocked : ∀ lease, w.store.lease? (p.locks.keyLead ++ (p.poolOf run).lockName) = some lease →
    lease.isExpired w.clock.wall = true
  /-- There is enough of every quota. -/
  affordable : ∀ q ∈ p.runQuotas run (.placed template), ∃ held,
    w.store.counter? q.key = some held ∧ q.amount.toInt ≤ held
  /-- The machines that are asked for come up before the deadline. -/
  prompt : ∃ service, p.service run.target = .ok service ∧
    service.BringsUp p.settings.wait w.clock w.machines
  /-- Nobody calls the run off before the deadline. -/
  wanted : signal.interrupts (w.clock.timer + p.settings.wait.deadline.ms) = none

/-- A run asks for each quota once. -/
theorem nodup_runQuotas (p : Provisioner σ) (run : RunContext) (database : Database) :
    ((p.runQuotas run database).map Quota.key).Nodup := by
  have keys : (p.runQuotas run database).map Quota.key =
      ((p.runQuotas run database).map Quota.kind).map (quotaKey run.target) := by
    rw [runQuotas]
    split <;> rfl
  rw [keys]
  refine List.Nodup.map (fun _ _ => quotaKey_injective) ?_
  rw [runQuotas]
  split
  · exact (by decide : [QuotaKind.vm, .subnet, .publicAddress].Nodup)
  · exact (by decide : [QuotaKind.vm, .subnet].Nodup)

/-- Such a run takes its quotas, and reserving its network is choosing one in an empty pool. -/
theorem Unhindered.acquire (h : p.Unhindered run template signal w) :
    ∃ store session, Ledger.reserve (p.runQuotas run (.placed template)) w.store = (.ok (), store) ∧
      session.clock = w.clock ∧
      p.acquireNetwork run (.placed template) signal (w.setStore store) =
        (((p.subnetRequest run (.placed template) (token (w.session.tokens + 1))).choose p.padding
          []).mapError .network, { w with session }) := by
  obtain ⟨counters, taken⟩ :=
    Ledger.reserve_of_enough (p.nodup_runQuotas run (.placed template)) h.affordable
  let store : Store := { w.store with counters }
  let started : Session := { w.session with store, tokens := w.session.tokens + 1 }
  let r := p.subnetRequest run (.placed template) (token (w.session.tokens + 1))
  obtain ⟨after, reserved⟩ :=
    Session.reserveNetwork_of_idle p.locks p.padding r signal (s := started) h.unlocked
  have empty : r.pool.reserved started.store = [] := h.empty
  rw [empty] at reserved
  have asked : (w.setStore store).session.newToken.2.reserveNetwork p.locks p.padding
      (p.subnetRequest run (.placed template) (w.setStore store).session.newToken.1) signal =
      (r.choose p.padding [], { started with tokens := started.tokens + 1, store := after }) := reserved
  refine ⟨store, { started with tokens := started.tokens + 1, store := after }, taken, rfl, ?_⟩
  simp only [acquireNetwork, asked]
  cases r.choose p.padding [] with
  | error error => rfl
  | ok n => rfl

/-- A run that gets no subnet fails for that reason alone. -/
theorem Unhindered.provision_of_no_subnet (h : p.Unhindered run template signal w) (hardware : Hardware)
    {error : NetworkError}
    (unchosen : (p.subnetRequest run (.placed template) (token (w.session.tokens + 1))).choose
      p.padding [] = .error error) :
    ∃ v, p.provision run ⟨.placed template, hardware⟩ signal w = (.error (.network error), v) := by
  obtain ⟨store, session, taken, -, acquired⟩ := h.acquire
  rw [unchosen] at acquired
  simp only [provision, attempt, taken, acquired, Except.mapError]
  exact ⟨_, rfl⟩

/-- A run that gets a subnet is equipped with it, in no time. -/
theorem Unhindered.equip (h : p.Unhindered run template signal w) (hardware : Hardware) {n : Network}
    (chosen : (p.subnetRequest run (.placed template) (token (w.session.tokens + 1))).choose
      p.padding [] = .ok n) :
    ∃ u, p.equip? run ⟨.placed template, hardware⟩ signal w = some (n, u) ∧ u.clock = w.clock ∧
      u.machines = w.machines := by
  obtain ⟨store, session, taken, time, acquired⟩ := h.acquire
  rw [chosen] at acquired
  refine ⟨{ w with session }, ?_, time, rfl⟩
  simp only [equip?, taken, acquired, Except.mapError]

/-- A run whose database cannot be placed fails for that reason alone. -/
theorem provision_of_unplaced {hardware : Hardware} {u : World σ} {n : Network} {error : PlacementError}
    (equipped : p.equip? run ⟨.placed template, hardware⟩ signal w = some (n, u))
    (unplanned : plan (.placed template) n = .error (.placement error)) :
    ∃ v, p.provision run ⟨.placed template, hardware⟩ signal w = (.error (.placement error), v) := by
  have raised : p.raise run ⟨.placed template, hardware⟩ signal n
      (returning (p.stakeOf run ⟨.placed template, hardware⟩ n)) u =
      .failed (returning (p.stakeOf run ⟨.placed template, hardware⟩ n)) (.placement error) u false := by
    simp only [raise, unplanned]
  rcases provision_of_failed equipped raised with ⟨-, failed⟩ | ⟨impossible, -⟩
  · exact ⟨_, failed⟩
  · cases impossible

/-! ### Raising the machines -/

/-- Items are paired with the machines of a deployment that has one for each of them. -/
theorem exists_pairItems {d : Deployment} {items : List PlacedItem}
    (there : ∀ i ∈ items, ∃ vm, d.vm? i.vmTemplate.identifier.id = some vm) :
    ∃ paired, pairItems d items = .ok paired ∧ paired.map DeployedItem.item = items := by
  induction items with
  | nil => exact ⟨[], rfl, rfl⟩
  | cons item rest ih =>
      obtain ⟨⟨vm, found⟩, others⟩ := List.forall_mem_cons.1 there
      obtain ⟨paired, made, same⟩ := ih others
      refine ⟨⟨item, vm⟩ :: paired, ?_, by rw [List.map_cons, same]⟩
      simp only [pairItems, found, made, bind, Except.bind, pure, Except.pure]

/-- A placement is deployed when its deployment is created with all its machines. -/
theorem deploy_of_created {placement : Placement} {service : DeploymentService σ} {d : Deployment}
    {machines : σ} (supported : p.service placement.deployment.identifier.target = .ok service)
    (created : service.create placement.deployment w.clock.stamp w.machines = (.ok d, machines))
    (there : ∀ i ∈ placement.items, ∃ vm, d.vm? i.vmTemplate.identifier.id = some vm) :
    ∃ items, p.deploy placement w =
        (.ok ⟨items, d, placement.network, placement.connectionString⟩, { w with machines }) ∧
      items.map DeployedItem.item = placement.items := by
  obtain ⟨items, paired, same⟩ := exists_pairItems there
  exact ⟨items, by simp only [deploy, supported, created, paired], same⟩

/-- What was deployed has settled when its deployment is ready. -/
theorem settle_of_ready (deployed : DeployedPlacement) {service : DeploymentService σ} {d : Deployment}
    {clock : Clock} {machines : σ} (supported : p.service run.target = .ok service)
    (awaited : Readiness.await service p.settings.wait signal [deployed.deployment] w.clock w.machines =
      (.ok [d], clock, machines)) (rollback : Rollback (Undoing σ)) :
    ∃ rollback' v, p.settle run signal deployed rollback w =
      ⟨.ok (deployed.refresh d), rollback', ⟨v, false⟩⟩ := by
  simp only [settle, supported, awaitReady, awaited]
  exact ⟨_, _, rfl⟩

/-- A run whose machines are ordered and come up is provisioned with what was ordered. -/
theorem provision_of_ordered {request : ProvisionRequest} {network : Network} {placement : Placement}
    {last : Nat} {service : DeploymentService σ} {u : World σ}
    (equipped : p.equip? run request signal w = some (network, u))
    (ordered : p.order? run request network u.session.tokens = some (placement, last))
    (vms : placement.deployment.vms = placement.items.map PlacedItem.vmTemplate)
    (supported : p.service run.target = .ok service)
    (prompt : service.BringsUp p.settings.wait u.clock u.machines)
    (wanted : signal.interrupts (u.clock.timer + p.settings.wait.deadline.ms) = none) :
    ∃ r v, p.provision run request signal w = (.ok r, v) ∧ r.placement.network = placement.network ∧
      r.placement.connectionString = placement.connectionString ∧
      r.placement.items.map DeployedItem.item = placement.items := by
  have target := (order?_placed ordered).2
  obtain ⟨d, machines, n, created, complete, ready, soon⟩ :=
    prompt placement.deployment (order?_names equipped ordered).1
  have there : ∀ i ∈ placement.items, ∃ vm, d.vm? i.vmTemplate.identifier.id = some vm := fun i mem =>
    complete i.vmTemplate (vms ▸ List.mem_map_of_mem mem)
  let building : World σ := { u with session := { u.session with tokens := last } }
  obtain ⟨items, deployment, same⟩ :=
    deploy_of_created (w := building) (target ▸ supported) created there
  obtain ⟨d', clock, machines', awaited⟩ := Readiness.await_of_readyAfter ready soon wanted
  obtain ⟨rollback, v, settled⟩ := settle_of_ready (w := { building with machines })
    ⟨items, d, placement.network, placement.connectionString⟩ supported awaited
    (returning (p.stakeOf run request network))
  have raised := raise_of_order?_some ordered signal (returning (p.stakeOf run request network))
  rw [deployOrder, deployment] at raised
  exact ⟨_, v, provision_of_raised equipped (raised.trans settled), rfl, rfl,
    (DeployedPlacement.items_refresh _ d').trans same⟩

/-- A run whose database is placed is provisioned, and follows the plan. -/
theorem Unhindered.provision_of_placed {hardware : Hardware} (h : p.Unhindered run template signal w)
    {n : Network} {u : World σ} {intent : PlacementIntent}
    (equipped : p.equip? run ⟨.placed template, hardware⟩ signal w = some (n, u))
    (time : u.clock = w.clock) (machines : u.machines = w.machines)
    (planned : plan (.placed template) n = .ok intent) :
    ∃ r v, p.provision run ⟨.placed template, hardware⟩ signal w = (.ok r, v) ∧ r.Follows intent := by
  obtain ⟨service, supported, prompt⟩ := h.prompt
  obtain ⟨start, acquired⟩ := acquired_of_equip? equipped
  obtain ⟨placement, after, built, -⟩ := exists_build acquired (planned_of_plan planned) hardware u
  rcases p.build_cases run intent hardware u with
    ⟨error, failed, -⟩ | ⟨placement', last, made, -⟩
  · cases built.symm.trans failed
  · have ordered : p.order? run ⟨.placed template, hardware⟩ n u.session.tokens =
        some (placement', last) := by
      simp only [order?, planned, made, Except.toOption]
    obtain ⟨network, -, -, vms⟩ := ProvisionSettings.build_eq_ok made
    obtain ⟨connectionString, houses⟩ := ProvisionSettings.build_database made
    obtain ⟨r, v, provisioned, onNetwork, connection, items⟩ :=
      provision_of_ordered equipped ordered vms supported (time ▸ machines ▸ prompt) (time ▸ h.wanted)
    refine ⟨r, v, provisioned, ?_, ?_, connection.trans connectionString, ?_⟩
    · rw [onNetwork, network]
    · rw [onNetwork, network]
    · have database : r.placement.databaseItems.map DeployedItem.item =
          placement'.items.filter PlacedItem.isDatabase := by
        rw [← items, List.filter_map]
        rfl
      let shown (i : PlacedItem) := (i.name, some i.vmTemplate.address, i.vmTemplate.hardware, i.containers)
      have kept : (r.placement.databaseItems.map DeployedItem.item).map shown =
          intent.items.map fun i => (i.name, i.address, i.hardware, i.containers) := by
        rw [database]
        exact (map_eq_map_of_forall₂ houses fun item placed house => by
          simp only [shown, house.name, house.containers, house.address, house.hardware]).symm
      rwa [List.map_map] at kept

/-! ### Agreement -/

/-- A dry plan and a run with the same settings agree, when nothing is in the way of the run. -/
theorem Unhindered.agree {c : Config} (network : p.settings.network = c.network)
    (padding : p.padding = c.allocator.padding.toNat) (h : p.Unhindered run template signal w)
    (hardware : Hardware) (id : String) :
    Agree (dryPlan c template run.target id)
      (p.provision run ⟨.placed template, hardware⟩ signal w).1 := by
  rw [dryPlan_eq network padding, choose_congr p run _ _ [] id (token (w.session.tokens + 1))]
  cases chosen : (p.subnetRequest run (.placed template) (token (w.session.tokens + 1))).choose
      p.padding [] with
  | error error =>
      obtain ⟨v, failed⟩ := h.provision_of_no_subnet hardware chosen
      rw [failed]
      exact .noNetwork error
  | ok n =>
      obtain ⟨u, equipped, time, machines⟩ := h.equip hardware chosen
      have planned := plan_of_choose chosen
      have placed := template.place_congr (n := n)
        (m := { n with identifier := { n.identifier with id } }) rfl
      simp only [Except.map, placed]
      cases there : template.place n with
      | error error =>
          rw [there] at planned
          obtain ⟨v, failed⟩ := provision_of_unplaced equipped planned
          rw [failed]
          exact .noPlacement error
      | ok intent =>
          rw [there] at planned
          obtain ⟨r, v, provisioned, follows⟩ :=
            h.provision_of_placed equipped time machines planned
          have onNetwork : intent.network = n := network_of_plan planned
          rw [provisioned]
          exact .success ⟨onNetwork ▸ follows.cidr, onNetwork ▸ follows.addresses,
            follows.connectionString, follows.items⟩

/-- A dry plan and the run agree, whatever settings are accepted and whatever is to be placed where, when
nothing is in the way of the run. -/
theorem dry_plan_agrees_with_run (c : Config) (services : ByTarget (DeploymentService σ)) (s : Store)
    (valid : c.validate = .ok ()) :
    ∃ p s', Provisioner.ofConfig c services s = .ok (p, s') ∧
      ∀ (run : RunContext) (template : DatabaseTemplate) (hardware : Hardware) (signal : Signal)
        (w : World σ) (id : String), p.Unhindered run template signal w →
        Agree (dryPlan c template run.target id)
          (p.provision run ⟨.placed template, hardware⟩ signal w).1 := by
  obtain ⟨locks, settings, -, -, network, made⟩ := exists_ofConfig valid services s
  exact ⟨_, _, made, fun run template hardware signal w id h => h.agree network rfl hardware id⟩

/-- A reconciler on remembered machines, on the local host. -/
def localMemory : ByTarget (DeploymentService Memory) :=
  ⟨some (Reconciler.service Memory.backend 600000), none⟩

/-- The provisioner that the default settings make of it. -/
def localProvisioner : Provisioner Memory where
  locks := ⟨"lock:", ⟨5000⟩, ⟨1000⟩, ⟨50⟩, ⟨1000⟩, ⟨30000⟩⟩
  padding := 3
  services := localMemory
  settings := {
    network := .default
    machines := .default
    orchestration := .default
    cleanupAttempts := 3
    cleanupBackoff := ⟨2000⟩
    wait := ⟨⟨5000⟩, ⟨1800000⟩, 8⟩ }

/-- A world without runs, in which machines are running at the third poll. -/
def slowWorld : World Memory :=
  ⟨.start ⟨0, 0, true⟩ (Ledger.init Config.default.quotas.toLimits .empty), Memory.new (some 3)⟩

/-- A cluster of five items on the first subnet of the default range, as it was planned. -/
theorem sampleCluster_follows_its_plan :
    ∃ p s' intent r v, Provisioner.ofConfig Config.default localMemory .empty = .ok (p, s') ∧
      dryPlan Config.default DatabaseTemplate.sampleCluster .docker "plan" = .ok intent ∧
      p.provision ⟨"run1", .docker⟩ ⟨.placed DatabaseTemplate.sampleCluster, ⟨2, 4, 20⟩⟩ .never
        slowWorld = (.ok r, v) ∧
      r.Follows intent ∧ r.placement.network.cidr = "172.28.0.0/24" ∧
      r.placement.databaseItems.length = 5 := by
  obtain ⟨p, s', made, agree⟩ :=
    dry_plan_agrees_with_run Config.default localMemory .empty (by decide +kernel)
  have settings : Provisioner.ofConfig Config.default localMemory .empty =
      .ok (localProvisioner, Ledger.init Config.default.quotas.toLimits .empty) := rfl
  obtain ⟨rfl, -⟩ := Prod.mk.inj (Except.ok.inj (made.symm.trans settings))
  have agreed := agree ⟨"run1", .docker⟩ DatabaseTemplate.sampleCluster ⟨2, 4, 20⟩ .never slowWorld "plan"
    { empty := by decide +kernel
      unlocked := fun lease found => by cases found
      affordable := by
        intro q mem
        rcases List.mem_cons.1 mem with rfl | mem
        · exact ⟨64, by decide +kernel, by decide +kernel⟩
        · obtain rfl := List.mem_singleton.1 mem
          exact ⟨32, by decide +kernel, by decide +kernel⟩
      prompt := ⟨_, rfl, Reconciler.bringsUp_of_delivers (Memory.delivers 3) ⟨rfl, rfl, rfl⟩ (by decide)
        (by decide +kernel)⟩
      wanted := rfl }
  have shown : (dryPlan Config.default DatabaseTemplate.sampleCluster .docker "plan").toOption.map
      (fun intent => (intent.network.cidr, intent.items.length)) = some ("172.28.0.0/24", 5) := by
    decide +kernel
  cases planned : dryPlan Config.default DatabaseTemplate.sampleCluster .docker "plan" with
  | error error =>
      rw [planned] at shown
      cases shown
  | ok intent =>
      rw [planned] at shown agreed
      obtain ⟨cidr, count⟩ := Prod.mk.inj (Option.some.inj shown)
      cases provisioned : localProvisioner.provision ⟨"run1", .docker⟩
          ⟨.placed DatabaseTemplate.sampleCluster, ⟨2, 4, 20⟩⟩ .never slowWorld with
      | mk result v =>
          rw [provisioned] at agreed
          cases agreed with
          | @success intent r follows =>
              have items := congrArg List.length follows.items
              rw [List.length_map, List.length_map, count] at items
              exact ⟨localProvisioner, s', intent, r, v, made, rfl, provisioned, follows,
                follows.cidr.trans cidr, items⟩

end Provisioner

end Testbed
