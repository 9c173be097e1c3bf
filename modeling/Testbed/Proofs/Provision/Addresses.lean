import Testbed.Proofs.Placement.Intent
import Testbed.Proofs.Provision.LiveMachines

/-!
What becomes of the addresses of a run.

A run reserves one address more than its database needs.  Binding gives the first addresses to the items
of the database in order, and the load generator searches the subnet for the first address that is free.
The reserved addresses are the first usable ones of the subnet, so the search ends at the one that binding
has left over: the run uses the addresses that it reserved, each of them once.
-/

namespace Testbed

/-! ### Building -/

namespace ProvisionSettings

/-- A machine for an item: under the name of the item, with its containers, address and hardware. -/
structure Houses (s : ProvisionSettings) (run : RunContext) (item : Item) (placed : PlacedItem) :
    Prop where
  name : placed.name = item.name
  containers : placed.containers = item.containers
  address : item.address = some placed.vmTemplate.address
  hardware : placed.vmTemplate.hardware = item.hardware
  publicAddress : placed.vmTemplate.hasPublicAddress = s.publicOn run.target

/-- The label of a role says which one it is. -/
theorem get?_roleLabels (metadata : Table String) (runId role : String) :
    (metadata.insertAll (Worker.roleLabels runId role)).get? Worker.roleLabel = some role :=
  Table.get?_insertAll_of_mem metadata (by decide : [Worker.roleLabel, "METADATA_RUN_ID"].Nodup)
    List.mem_cons_self

/-- A database item is housed in the machine that is made for it. -/
theorem houses_of_databaseItem {s : ProvisionSettings} {run : RunContext} {item : Item}
    {placed : PlacedItem} {tokens last : Nat} (h : s.databaseItem run item tokens = .ok (placed, last)) :
    s.Houses run item placed ∧ placed.isDatabase = true := by
  rw [databaseItem] at h
  split at h
  · cases h
  · next address bound =>
      obtain ⟨rfl, -⟩ := Prod.mk.inj (Except.ok.inj h)
      exact ⟨⟨rfl, rfl, bound, rfl, rfl⟩,
        decide_eq_true (get?_roleLabels item.metadata run.runId Worker.databaseRole)⟩

/-- The machines of a database are for its items, in order. -/
theorem houses_of_databaseItems {s : ProvisionSettings} {run : RunContext} {items : List Item}
    {placed : List PlacedItem} {tokens last : Nat}
    (h : s.databaseItems run items tokens = .ok (placed, last)) :
    List.Forall₂ (s.Houses run) items placed ∧ ∀ i ∈ placed, i.isDatabase = true := by
  induction items generalizing tokens placed with
  | nil =>
      obtain ⟨rfl, -⟩ := Prod.mk.inj (Except.ok.inj h)
      exact ⟨.nil, List.forall_mem_nil _⟩
  | cons item rest ih =>
      obtain ⟨⟨first, next⟩, made, h⟩ := exists_ok_of_bind h
      obtain ⟨⟨others, final⟩, more, h⟩ := exists_ok_of_bind h
      obtain ⟨rfl, rfl⟩ := Prod.mk.inj (Except.ok.inj h)
      obtain ⟨house, role⟩ := houses_of_databaseItem made
      obtain ⟨houses, roles⟩ := ih more
      exact ⟨.cons house houses, List.forall_mem_cons.2 ⟨role, roles⟩⟩

/-- Items that have addresses get machines. -/
theorem exists_databaseItems (s : ProvisionSettings) (run : RunContext) {items : List Item}
    (bound : ∀ item ∈ items, ∃ address, item.address = some address) (tokens : Nat) :
    ∃ placed last, s.databaseItems run items tokens = .ok (placed, last) := by
  induction items generalizing tokens with
  | nil => exact ⟨[], tokens, rfl⟩
  | cons item rest ih =>
      obtain ⟨⟨address, at_address⟩, others⟩ := List.forall_mem_cons.1 bound
      obtain ⟨placed, next, first⟩ :
          ∃ placed next, s.databaseItem run item tokens = .ok (placed, next) := by
        rw [databaseItem, at_address]
        exact ⟨_, _, rfl⟩
      obtain ⟨more, last, rest⟩ := ih others next
      refine ⟨placed :: more, last, ?_⟩
      simp only [databaseItems, first, rest, bind, Except.bind, pure, Except.pure]

/-- The load generator, as an item like those of the database. -/
def generator (run : RunContext) (hardware : Hardware) (address : Address) : Item where
  name := Worker.loadRole
  hardware := hardware
  address := some address
  containers := [loadExporter address]
  metadata := .ofList (Worker.roleLabels run.runId Worker.loadRole)

/-- The load generator is housed in the machine that is made for it. -/
theorem loadItem_houses (s : ProvisionSettings) (run : RunContext) (hardware : Hardware)
    (address : Address) (tokens : Nat) :
    s.Houses run (generator run hardware address) (s.loadItem run hardware address tokens).1 :=
  ⟨rfl, rfl, rfl, rfl, rfl⟩

/-- The load generator gets the first of the reserved addresses that the database has left over. -/
theorem loadAddress_take {padding count : Nat} {network : Network} (filled : network.Filled padding count)
    {n : Nat} {address : Address} (next : network.ips[n]? = some address) :
    loadAddress padding network (network.ips.take n) = .ok address := by
  obtain ⟨subnet, cidr, listed⟩ := filled
  have reserved : network.ips.contains address = true :=
    List.contains_iff_mem.2 (List.mem_of_getElem? next)
  rw [loadAddress, cidr, Allocation.firstFree_take listed next]
  simp only [reserved, if_true]

end ProvisionSettings

/-! ### Shortages -/

namespace ProvisionError

/-- What went wrong first, before any cleaning up. -/
def root : ProvisionError → ProvisionError
  | .compensation primary _ => primary.root
  | error => error

/-- Whether a network had too few addresses for the items that were placed on it. -/
def IsShortage (error : ProvisionError) : Prop :=
  ∃ required available, error.root = .placement (.allocationExhausted required available)

/-- What went wrong first stays so, whatever goes wrong while cleaning up. -/
theorem root_withCleanup (error : ProvisionError) (cleanup : List ProvisionError) :
    (error.withCleanup cleanup).root = error.root := by
  rw [withCleanup]
  split
  · rfl
  · rfl

end ProvisionError

namespace Provisioner

variable {σ : Type} {p : Provisioner σ} {run : RunContext} {database : Database} {signal : Signal}
  {w v : World σ} {network : Network} {intent : PlacementIntent}

/-- The network of a run holds the first usable addresses of its subnet, one for each machine. -/
theorem filled_of_acquireNetwork
    (h : p.acquireNetwork run database signal w = (.ok network, v)) :
    network.Filled p.padding (vmCount database) := by
  rw [acquireNetwork] at h
  cases reserved : w.session.newToken.2.reserveNetwork p.locks p.padding
      (p.subnetRequest run database w.session.newToken.1) signal with
  | mk outcome session =>
      cases outcome with
      | error error => simp [reserved] at h
      | ok found =>
          obtain rfl : found = network := by
            simp only [reserved] at h
            exact Except.ok.inj (congrArg Prod.fst h)
          exact Session.filled_of_reserveNetwork reserved

/-- A run acquires as many addresses as it has machines. -/
theorem length_of_acquireNetwork
    (h : p.acquireNetwork run database signal w = (.ok network, v)) :
    network.ips.length = vmCount database := by
  obtain ⟨subnet, -, listed⟩ := filled_of_acquireNetwork h
  exact (Allocation.addresses_eq_ok listed).1

/-- No address is reserved twice. -/
theorem nodup_of_acquireNetwork
    (h : p.acquireNetwork run database signal w = (.ok network, v)) : network.ips.Nodup := by
  obtain ⟨subnet, -, listed⟩ := filled_of_acquireNetwork h
  have ascending := (Allocation.addresses_eq_ok listed).2.1
  exact ascending.imp fun before same => Nat.ne_of_lt before (congrArg Address.toNat same)

/-! ### Planning -/

/-- The items of a database, planned on a network: as many as it needs addresses, each with the address
at its own place. -/
structure Planned (database : Database) (network : Network) (intent : PlacementIntent) : Prop where
  onNetwork : intent.network = network
  count : intent.items.length = database.vmCount
  addresses : intent.items.map Item.address = (network.ips.take intent.items.length).map some

/-- What is planned for a network is planned as it should be. -/
theorem planned_of_plan (h : plan database network = .ok intent) :
    Planned database network intent := by
  rcases plan_eq_ok h with ⟨template, rfl, placed⟩ | ⟨text, rfl, rfl⟩
  · have placed := DatabaseTemplate.placed_of_place placed
    constructor
    · exact placed.onNetwork
    · rw [← List.length_map Item.name, placed.names, DatabaseTemplate.length_roster]
      rfl
    · exact map_eq_map_of_forall₂ (forall₂_take_of_getElem? placed.bound) fun _ _ bound => bound.bound
  · exact ⟨rfl, rfl, rfl⟩

/-- A placement of the items of a run on its network: a machine for each of them and for the load
generator, which together have the addresses of the network in order. -/
structure Built (p : Provisioner σ) (run : RunContext) (network : Network) (intent : PlacementIntent)
    (hardware : Hardware) (placement : Placement) : Prop where
  items : ∃ address, network.ips.getLast? = some address ∧
    List.Forall₂ (p.settings.Houses run)
      (intent.items ++ [ProvisionSettings.generator run hardware address]) placement.items
  addresses : placement.items.map (·.vmTemplate.address) = network.ips
  vms : placement.deployment.vms = placement.items.map PlacedItem.vmTemplate

/-- A run whose network was reserved for it and on which it was planned can be built. -/
theorem exists_build (acquired : p.acquireNetwork run database signal w = (.ok network, v))
    (planned : Planned database network intent) (hardware : Hardware) (u : World σ) :
    ∃ placement after, p.build run intent hardware u = (.ok placement, after) ∧
      p.Built run network intent hardware placement := by
  have length : network.ips.length = intent.items.length + 1 := by
    rw [length_of_acquireNetwork acquired, planned.count, vmCount]
  have bound : ∀ item ∈ intent.items, ∃ address, item.address = some address := by
    intro item mem
    have at_item : item.address ∈ intent.items.map Item.address := List.mem_map_of_mem mem
    rw [planned.addresses] at at_item
    obtain ⟨address, -, same⟩ := List.mem_map.1 at_item
    exact ⟨address, same.symm⟩
  obtain ⟨placed, next, built⟩ := p.settings.exists_databaseItems run bound u.session.tokens
  obtain ⟨houses, -⟩ := ProvisionSettings.houses_of_databaseItems built
  -- The database uses the addresses in front, so the next one is the first that is free.
  have used : placed.map (·.vmTemplate.address) = network.ips.take intent.items.length := by
    apply List.map_injective_iff.2 (Option.some_injective Address)
    rw [← planned.addresses, List.map_map]
    exact (map_eq_map_of_forall₂ houses fun _ _ house => house.address).symm
  obtain ⟨address, left_over⟩ : ∃ address, network.ips[intent.items.length]? = some address :=
    ⟨_, List.getElem?_eq_getElem (by omega)⟩
  have generator : ProvisionSettings.loadAddress p.padding intent.network
      (placed.map (·.vmTemplate.address)) = .ok address := by
    rw [planned.onNetwork, used]
    exact ProvisionSettings.loadAddress_take (filled_of_acquireNetwork acquired) left_over
  have whole : network.ips.take intent.items.length ++ [address] = network.ips := by
    have joined := List.take_add_one (l := network.ips) (i := intent.items.length)
    rw [left_over, List.take_of_length_le (Nat.le_of_eq length)] at joined
    exact joined.symm
  have last : network.ips.getLast? = some address := by
    rw [← whole, List.getLast?_concat]
  simp only [build, ProvisionSettings.build, built, generator, bind, Except.bind, pure, Except.pure]
  refine ⟨_, _, rfl, ⟨address, last, ?_⟩, ?_, rfl⟩
  · apply List.rel_append houses
    exact .cons (p.settings.loadItem_houses run hardware address next) .nil
  · rw [List.map_append, used]
    exact whole

/-- A run uses the addresses that it reserved, in order and each of them once.  Building a planned run
succeeds; its items are those of the database, with their addresses and hardware, and the load generator,
which has the last address. -/
theorem build_uses_reserved_addresses
    (acquired : p.acquireNetwork run database signal w = (.ok network, v))
    (planned : plan database network = .ok intent) (hardware : Hardware) (u : World σ) :
    network.ips.Nodup ∧ ∃ placement after, p.build run intent hardware u = (.ok placement, after) ∧
      placement.items.length = intent.items.length + 1 ∧
      placement.items.map PlacedItem.name = intent.items.map Item.name ++ [Worker.loadRole] ∧
      placement.items.map (·.vmTemplate.address) = network.ips ∧
      placement.deployment.vms = placement.items.map PlacedItem.vmTemplate ∧
      placement.deployment.vms.map (fun vm => (some vm.address, vm.hardware)) =
        intent.items.map (fun item => (item.address, item.hardware)) ++
          [(network.ips.getLast?, hardware)] := by
  obtain ⟨placement, after, run_built, built⟩ :=
    exists_build acquired (planned_of_plan planned) hardware u
  obtain ⟨address, last, houses⟩ := built.items
  refine ⟨nodup_of_acquireNetwork acquired, placement, after, run_built, ?_, ?_, built.addresses,
    built.vms, ?_⟩
  · rw [← houses.length_eq, List.length_append, List.length_singleton]
  · rw [← map_eq_map_of_forall₂ houses fun _ _ house => house.name.symm, List.map_append]
    rfl
  · rw [built.vms, List.map_map, last,
      ← map_eq_map_of_forall₂ (f := fun item => (item.address, item.hardware)) houses
        fun _ _ house => Prod.ext house.address house.hardware.symm, List.map_append]
    rfl

/-- A world without runs, in which machines are running after one poll. -/
def idleWorld : World Memory :=
  ⟨.start ⟨0, 0, true⟩ (Ledger.init Config.default.quotas.toLimits .empty), Memory.new (some 1)⟩

/-- The machines of a cluster of five items, and of the load generator. -/
theorem sampleCluster_uses_reserved_addresses :
    ∃ network v intent placement after,
      sample.acquireNetwork ⟨"run1", .docker⟩ (.placed DatabaseTemplate.sampleCluster) .never
        idleWorld = (.ok network, v) ∧
      plan (.placed DatabaseTemplate.sampleCluster) network = .ok intent ∧
      sample.build ⟨"run1", .docker⟩ intent ⟨2, 4, 20⟩ v = (.ok placement, after) ∧
      placement.items.length = 6 ∧ placement.items.map (·.vmTemplate.address) = network.ips := by
  let database := Database.placed DatabaseTemplate.sampleCluster
  have possible : (match sample.acquireNetwork ⟨"run1", .docker⟩ database .never idleWorld with
      | (.ok network, _) => (plan database network).toOption.map (·.items.length)
      | (.error _, _) => none) = some 5 := by decide +kernel
  split at possible
  · next network v acquired =>
    cases planned : plan database network with
    | error error =>
        rw [planned] at possible
        cases possible
    | ok intent =>
        have five : intent.items.length = 5 := by simpa [planned, Except.toOption] using possible
        obtain ⟨-, placement, after, built, count, -, addresses, -⟩ :=
          build_uses_reserved_addresses acquired planned ⟨2, 4, 20⟩ v
        refine ⟨network, v, intent, placement, after, acquired, planned, built, ?_, addresses⟩
        rw [count, five]
  · cases possible

/-! ### What provisioning does not fail of -/

/-- Planning does not run short on a network that was reserved for the run. -/
theorem plan_not_shortage (acquired : p.acquireNetwork run database signal w = (.ok network, v))
    {error : ProvisionError} (h : plan database network = .error error) : ¬ error.IsShortage := by
  rintro ⟨required, available, root⟩
  rcases plan_eq_error h with ⟨m, rfl⟩ | ⟨template, failure, rfl, failed, rfl⟩
  · cases root
  · have enough : template.requiredAddresses ≤ network.ips.length := by
      rw [length_of_acquireNetwork acquired, vmCount, Database.vmCount]
      exact Nat.le_succ _
    obtain ⟨d, rfl⟩ := (DatabaseTemplate.place_of_enough enough).of_error failed
    cases root

/-- Deploying never runs out of addresses or quotas. -/
theorem deploy_not_shortage {placement : Placement} {error : ProvisionError}
    (h : (p.deploy placement w).1 = .error error) : ¬ error.IsShortage := by
  rintro ⟨required, available, root⟩
  rw [deploy] at h
  split at h
  · obtain rfl := Except.error.inj h
    cases root
  · split at h
    · obtain rfl := Except.error.inj h
      cases root
    · dsimp only at h
      split at h
      · cases h
      · split at h
        · obtain rfl := Except.error.inj h
          cases root
        · obtain rfl := Except.error.inj h
          cases root

/-- Waiting for machines and collecting them never runs out of addresses or quotas. -/
theorem settle_not_shortage {deployed : DeployedPlacement} {rollback : Rollback (Undoing σ)}
    {error : ProvisionError} (h : (p.settle run signal deployed rollback w).result = .error error) :
    ¬ error.IsShortage := by
  rcases p.settle_cases run signal deployed rollback w with
    ⟨failure, -, settled⟩ | ⟨service, -, ⟨failure, u, awaited, -, settled⟩ |
      ⟨ready, u, rollback', final, -, settled, -⟩⟩
  · rw [settled] at h
    obtain rfl := Except.error.inj h
    rintro ⟨required, available, root⟩
    cases root
  · rw [settled] at h
    obtain rfl := Except.error.inj h
    obtain ⟨reason, rfl⟩ := awaitReady_error (congrArg Prod.fst awaited)
    rintro ⟨required, available, root⟩
    cases root
  · rw [settled] at h
    cases h

/-- Raising the machines of a run on the network that was reserved for it. -/
theorem raise_not_shortage {request : ProvisionRequest} {rollback : Rollback (Undoing σ)}
    (acquired : p.acquireNetwork run request.database signal w = (.ok network, v))
    {error : ProvisionError} {u : World σ}
    (h : (p.raise run request signal network rollback u).result = .error error) :
    ¬ error.IsShortage := by
  rw [raise] at h
  cases planned : plan request.database network with
  | error failure =>
      simp only [planned] at h
      obtain rfl := Except.error.inj h
      exact plan_not_shortage acquired planned
  | ok intent =>
      obtain ⟨placement, after, built, -⟩ := exists_build acquired
        (planned_of_plan planned) request.loadHardware u
      simp only [planned, built] at h
      cases deployment : p.deploy placement after with
      | mk result rest =>
          cases result with
          | error failure =>
              simp only [deployment] at h
              obtain rfl := Except.error.inj h
              exact deploy_not_shortage (congrArg Prod.fst deployment)
          | ok deployed =>
              simp only [deployment] at h
              exact settle_not_shortage h

/-- What comes after the acquisitions of a run never runs out of addresses or quotas. -/
theorem attempt_not_shortage {request : ProvisionRequest} {error : ProvisionError}
    (h : (p.attempt run request signal w).result = .error error) : ¬ error.IsShortage := by
  rw [attempt] at h
  cases reserved : Ledger.reserve (p.runQuotas run request.database) w.store with
  | mk outcome store =>
      cases outcome with
      | error failure =>
          simp only [reserved] at h
          obtain rfl := Except.error.inj h
          rintro ⟨required, available, root⟩
          cases root
      | ok _ =>
          simp only [reserved] at h
          rcases p.acquireNetwork_cases run request.database signal (w.setStore store) with
            ⟨failure, session, acquired, -⟩ | ⟨network, base, subnet, session, acquired, -⟩
          · simp only [acquired] at h
            obtain rfl := Except.error.inj h
            rintro ⟨required, available, root⟩
            cases root
          · simp only [acquired] at h
            exact raise_not_shortage acquired h

/-- Provisioning a run never runs short of addresses for the items of the run. -/
theorem provision_not_shortage {request : ProvisionRequest} {error : ProvisionError}
    (h : p.provision run request signal w = (.error error, v)) : ¬ error.IsShortage := by
  rw [provision] at h
  cases failed : (p.attempt run request signal w).result with
  | ok placement => simp [failed] at h
  | error primary =>
      simp only [failed, Rollback.run] at h
      obtain rfl := Except.error.inj (congrArg Prod.fst h)
      have plain := attempt_not_shortage failed
      rwa [ProvisionError.IsShortage, ProvisionError.root_withCleanup]

/-- The number of addresses that is computed before any network is reserved is the number of items.  A
template that can be planned has as many items as it asks for addresses.  So placing it runs short exactly
on a network with fewer addresses, and says how many there are and how many it takes; but not on the
network that is reserved for a run, and provisioning never fails of that. -/
theorem required_addresses_suffice (p : Provisioner σ) (t : DatabaseTemplate) :
    (∀ items, t.plan = .ok items → items.size = t.requiredAddresses) ∧
      (∀ network required available,
        t.place network = .error (.allocationExhausted required available) ↔
          (∃ items, t.plan = .ok items) ∧ network.ips.length < t.requiredAddresses ∧
            required = t.requiredAddresses ∧ available = network.ips.length) ∧
      (∀ run signal w network v, p.acquireNetwork run (.placed t) signal w = (.ok network, v) →
        network.ips.length = t.requiredAddresses + 1 ∧
          ∀ required available,
            t.place network ≠ .error (.allocationExhausted required available)) ∧
      ∀ run request signal w error v, p.provision run request signal w = (.error error, v) →
        ¬ error.IsShortage := by
  refine ⟨fun _ => DatabaseTemplate.size_of_plan, fun _ _ _ => DatabaseTemplate.place_eq_shortage_iff,
    ?_, fun _ _ _ _ _ _ => provision_not_shortage⟩
  intro run signal w network v acquired
  have length : network.ips.length = t.requiredAddresses + 1 := length_of_acquireNetwork acquired
  refine ⟨length, ?_⟩
  intro required available short
  obtain ⟨-, fewer, -⟩ := DatabaseTemplate.place_eq_shortage_iff.1 short
  omega

/-- A cluster of five items, on a network of two addresses, on the network of a run, and in a world in
which its machines cannot all be created. -/
theorem sampleCluster_required_addresses_suffice :
    (∃ items, DatabaseTemplate.sampleCluster.plan = .ok items ∧ items.size = 5) ∧
      DatabaseTemplate.sampleCluster.place ⟨⟨token 1, "net", .docker⟩, "10.0.0.0/29",
        [.ofNat 1, .ofNat 2]⟩ = .error (.allocationExhausted 5 2) ∧
      (∃ network v, sample.acquireNetwork ⟨"run1", .docker⟩ (.placed DatabaseTemplate.sampleCluster)
        .never idleWorld = (.ok network, v) ∧ network.ips.length = 6) ∧
      ∃ error v, (sample.onMemory sampleSetups).provision ⟨"run1", .docker⟩
        ⟨.placed DatabaseTemplate.sampleCluster, ⟨2, 4, 20⟩⟩ .never haltingWorld = (.error error, v) ∧
        ¬ error.IsShortage := by
  obtain ⟨size, shortage, reserved, -⟩ :=
    required_addresses_suffice sample DatabaseTemplate.sampleCluster
  obtain ⟨-, -, -, provisioned⟩ :=
    required_addresses_suffice (sample.onMemory sampleSetups) DatabaseTemplate.sampleCluster
  have five : DatabaseTemplate.sampleCluster.requiredAddresses = 5 := by decide
  obtain ⟨items, planned⟩ := exists_ok_of_isOk
    (show DatabaseTemplate.sampleCluster.plan.isOk = true by decide +kernel)
  obtain ⟨network, acquired⟩ := exists_ok_of_isOk
    (show (sample.acquireNetwork ⟨"run1", .docker⟩ (.placed DatabaseTemplate.sampleCluster) .never
      idleWorld).1.isOk = true by decide +kernel)
  obtain ⟨error, failed⟩ := exists_error_of_isOk
    (show ((sample.onMemory sampleSetups).provision ⟨"run1", .docker⟩
      ⟨.placed DatabaseTemplate.sampleCluster, ⟨2, 4, 20⟩⟩ .never haltingWorld).1.isOk = false by
        decide +kernel)
  refine ⟨⟨items, planned, (size items planned).trans five⟩, ?_, ?_, ?_⟩
  · exact (shortage _ 5 2).2 ⟨⟨items, planned⟩, by decide, five.symm, rfl⟩
  · refine ⟨network, _, Prod.ext acquired rfl, ?_⟩
    rw [(reserved _ _ _ network _ (Prod.ext acquired rfl)).1, five]
  · exact ⟨error, _, Prod.ext failed rfl, provisioned _ _ _ _ error _ (Prod.ext failed rfl)⟩

end Provisioner

end Testbed
