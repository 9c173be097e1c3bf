import Testbed.Proofs.Provision.Addresses

/-!
What a run takes of the quotas of its target, and what it uses.

The amounts are computed before anything is placed, from the number of addresses that the database asks for
and from the settings.  The machines come later, from planning, building and deploying, and the backend has
its part in the deployment that is kept in the end.  That the two agree is a consequence of what each of
these steps says about the number of machines.
-/

namespace Testbed

variable {σ τ : Type}

/-! ### The shape of a deployment -/

/-- A deployment of a template, with one machine for each machine that is wanted. -/
structure Deployment.Complete (t : DeploymentTemplate) (d : Deployment) : Prop where
  template : d.template = t
  count : d.vms.length = t.vms.length

namespace Deployment

/-- A new deployment is complete. -/
theorem complete_new (t : DeploymentTemplate) (stamps : Stamps) : (new t stamps).Complete t := by
  constructor
  · rfl
  · exact List.length_mapIdx

/-- Labels do not make a deployment less complete. -/
theorem Complete.relabel {t : DeploymentTemplate} {d : Deployment} (h : d.Complete t)
    (f : VmTemplate → VmTemplate) : (d.relabel f).Complete t := by
  constructor
  · exact h.template
  · exact (List.length_map ..).trans h.count

/-- Changing the resources of a deployment leaves its template and its machines. -/
theorem Complete.visit {t : DeploymentTemplate} {d : Deployment} (h : d.Complete t)
    (change : Nat → Resource → τ → Resource × τ) (state : τ) : (d.visit change state).1.Complete t := by
  constructor
  · exact h.template
  · have same := congrArg List.length (vmTemplates_visit change d state)
    rw [List.length_map, List.length_map] at same
    exact same.trans h.count

end Deployment

namespace Provider

/-- A provider creates a deployment with all its machines, or none. -/
theorem complete_of_create {provider : Provider σ} {t : DeploymentTemplate} {stamps : Stamps} {s u : σ}
    {d : Deployment} (h : provider.service.create t stamps s = (.ok d, u)) : d.Complete t := by
  have created : (provider.service.create t stamps s).1 =
      (Reconciler.create provider.backend t stamps s).1.map (Deployment.relabel provider.relabel) := rfl
  rw [h, Reconciler.create] at created
  dsimp only at created
  split at created
  · obtain rfl := Except.ok.inj created
    exact (Deployment.complete_new t stamps).relabel provider.relabel
  · cases created

/-- Whatever its backend answers, a provider leaves a deployment its machines. -/
theorem keeps_complete (provider : Provider σ) (t : DeploymentTemplate) :
    provider.service.Keeps (fun d _ => d.Complete t) (fun _ _ => True) where
  refl _ := trivial
  trans _ _ := trivial
  stable complete _ := complete
  process {_ s} stamps complete :=
    ⟨complete.visit (Reconciler.passOver provider.backend provider.interval stamps) (none, s), trivial⟩
  destroy {_ s} stamps complete :=
    ⟨complete.visit (Reconciler.takeDown provider.backend stamps) (none, s), trivial⟩

end Provider

/-- How much of each kind a deployed run uses: its machines, its subnet, and the machines among those that
were wanted which have public addresses. -/
def DeployedPlacement.uses (placement : DeployedPlacement) : QuotaKind → Nat
  | .vm => placement.deployment.vms.length
  | .subnet => 1
  | .publicAddress => placement.deployment.template.vms.countP (·.hasPublicAddress)

/-! ### Amounts -/

/-- Within a target, quotas are told apart by their keys. -/
theorem quotaKey_injective {scope : Target} {k l : QuotaKind}
    (h : quotaKey scope k = quotaKey scope l) : k = l := by
  apply QuotaKind.name_injective
  simpa [quotaKey] using h

namespace Ledger

/-- An empty list has nothing of any key. -/
theorem amountOf_nil (key : String) : amountOf key [] = 0 := rfl

/-- One more quota counts for its own key. -/
theorem amountOf_cons (key : String) (q : Quota) (rest : List Quota) :
    amountOf key (q :: rest) = (if q.key = key then q.amount.toInt else 0) + amountOf key rest :=
  Counters.total_cons ..

end Ledger

namespace Provisioner

variable {p : Provisioner σ} {run : RunContext} {request : ProvisionRequest} {signal : Signal}
  {w v : World σ} {network : Network}

/-- How much of each kind is taken for a run. -/
theorem amountOf_runQuotas (p : Provisioner σ) (run : RunContext) (database : Database)
    (kind : QuotaKind) :
    Ledger.amountOf (quotaKey run.target kind) (p.runQuotas run database) =
      match kind with
      | .vm => (vmCount database : Int)
      | .subnet => 1
      | .publicAddress => if p.settings.publicOn run.target then (vmCount database : Int) else 0 := by
  have same : ∀ k l amount, (Quota.mk run.target k amount).key = quotaKey run.target l ↔ k = l :=
    fun k l _ => ⟨quotaKey_injective, congrArg (quotaKey run.target)⟩
  have machines : (Int64.ofNat (vmCount database)).toInt = vmCount database :=
    Int64.toInt_ofNat_of_lt (vmCount_lt database)
  have one : (1 : Int64).toInt = 1 := rfl
  rw [runQuotas]
  by_cases wanted : p.settings.publicOn run.target
  · simp only [if_pos wanted, List.cons_append, List.nil_append, Ledger.amountOf_cons,
      Ledger.amountOf_nil, same, machines, one]
    cases kind with
    | vm => simp
    | subnet => simp
    | publicAddress => simp
  · simp only [if_neg wanted, List.append_nil, Ledger.amountOf_cons, Ledger.amountOf_nil, same,
      machines, one]
    cases kind with
    | vm => simp
    | subnet => simp
    | publicAddress => simp

/-! ### What a provisioned run is -/

/-- The network of an attempt that is equipped was reserved for it. -/
theorem acquired_of_equip? {u : World σ}
    (h : p.equip? run request signal w = some (network, u)) :
    ∃ start, p.acquireNetwork run request.database signal start = (.ok network, u) := by
  rw [equip?] at h
  split at h
  · next store _ =>
      refine ⟨w.setStore store, ?_⟩
      split at h
      · next n after acquired =>
          obtain ⟨rfl, rfl⟩ : n = network ∧ after = u := by simpa using h
          exact acquired
      · cases h
  · cases h

/-- An order has the machines that are built for the run. -/
theorem built_of_order? {u start : World σ} {placement : Placement} {tokens drawn : Nat}
    (acquired : p.acquireNetwork run request.database signal start = (.ok network, u))
    (h : p.order? run request network tokens = some (placement, drawn)) :
    ∃ intent, p.Built run network intent request.loadHardware placement := by
  obtain ⟨intent, planned, built⟩ := order?_eq_some h
  obtain ⟨placement', after, ran, done⟩ := exists_build acquired (planned_of_plan planned)
    request.loadHardware { u with session := { u.session with tokens } }
  rw [build] at ran
  dsimp only at ran
  rw [built] at ran
  obtain rfl : placement = placement' := Except.ok.inj (congrArg Prod.fst ran)
  exact ⟨intent, done⟩

/-- The machines of a placement have public addresses if the target is one where they get them. -/
theorem Built.publicAddress {intent : PlacementIntent} {hardware : Hardware} {placement : Placement}
    (built : p.Built run network intent hardware placement) :
    ∀ vm ∈ placement.deployment.vms, vm.hasPublicAddress = p.settings.publicOn run.target := by
  intro vm mem
  rw [built.vms] at mem
  obtain ⟨item, listed, rfl⟩ := List.mem_map.1 mem
  obtain ⟨i, at_i⟩ := List.mem_iff_getElem?.1 listed
  obtain ⟨address, -, houses⟩ := built.items
  obtain ⟨_, -, house⟩ := exists_getElem?_of_forall₂ houses at_i
  exact house.publicAddress

/-- A built placement has a machine for every address. -/
theorem Built.length {intent : PlacementIntent} {hardware : Hardware} {placement : Placement}
    (built : p.Built run network intent hardware placement) :
    placement.deployment.vms.length = network.ips.length := by
  rw [built.vms, List.length_map, ← built.addresses, List.length_map]

section Providers

variable {providers : ByTarget (Provider σ)}

/-- A deployment that was created has the machines of its placement. -/
theorem complete_of_deploy {placement : Placement} {deployed : DeployedPlacement}
    (h : (p.withProviders providers).deploy placement w = (.ok deployed, v)) :
    deployed.deployment.Complete placement.deployment := by
  obtain ⟨service, machines, supported, created, -⟩ := created_of_deploy h
  obtain ⟨provider, rfl⟩ := provider_of_service supported
  exact Provider.complete_of_create created

/-- What a run is that was provisioned: it holds the quotas and the subnet that its attempt took, and its
deployment has the machines that were built on that network. -/
structure Settled (p : Provisioner σ) (run : RunContext) (request : ProvisionRequest)
    (before after : Store) (provisioned : ProvisionedRun) : Prop where
  quotas : provisioned.quotas = p.runQuotas run request.database
  taken : (p.stakeOf run request provisioned.placement.network).Taken before after
  addresses : provisioned.placement.network.ips.length = vmCount request.database
  built : ∃ intent placement,
    p.Built run provisioned.placement.network intent request.loadHardware placement ∧
      provisioned.placement.deployment.Complete placement.deployment

/-- A run that is provisioned has been settled. -/
theorem settled_of_provision {provisioned : ProvisionedRun}
    (h : (p.withProviders providers).provision run request signal w = (.ok provisioned, v)) :
    (p.withProviders providers).Settled run request w.store v.store provisioned := by
  cases equipped : (p.withProviders providers).equip? run request signal w with
  | none =>
      obtain ⟨error, session, failed, -⟩ := provision_of_equip?_none equipped
      simp [failed] at h
  | some equipment =>
      obtain ⟨network, u⟩ := equipment
      obtain ⟨taken, -⟩ := equip?_eq_some equipped
      obtain ⟨start, acquired⟩ := acquired_of_equip? equipped
      cases ordered : (p.withProviders providers).order? run request network u.session.tokens with
      | none =>
          obtain ⟨error, failed, -⟩ := provision_of_order?_none equipped ordered
          simp [failed] at h
      | some order =>
          obtain ⟨placement, tokens⟩ := order
          obtain ⟨intent, built⟩ := built_of_order? acquired ordered
          have ending := provision_ending equipped ordered
          rw [h] at ending
          have stock := ending.stock taken
          cases ending with
          | @ready deployed x service found u' settled deployment supported awaited same seen =>
              obtain rfl : settled.network = network :=
                same.trans ((network_of_deploy deployment).trans (order?_placed ordered).1)
              have complete := complete_of_deploy deployment
              obtain ⟨provider, rfl⟩ := provider_of_service supported
              obtain ⟨-, -, all⟩ :=
                awaitReady_keeps (provider.keeps_complete placement.deployment) awaited complete
              have held : ((p.withProviders providers).stakeOf run request settled.network).Taken
                  w.store v.store := by
                rcases stock with ⟨_, _, failed, -⟩ | ⟨_, _, failed, -⟩ | ⟨_, _, ready, -, held⟩
                · simp at failed
                · simp at failed
                · obtain ⟨-, rfl⟩ := Prod.mk.inj ready
                  exact held
              refine ⟨rfl, held, length_of_acquireNetwork acquired, intent, placement, built, ?_⟩
              rcases seen with listed | unchanged
              · exact all found rfl _ listed
              · exact unchanged.symm ▸ complete

end Providers

/-- A run uses what its quotas take. -/
theorem Settled.amountOf {before after : Store} {provisioned : ProvisionedRun}
    (settled : p.Settled run request before after provisioned) (kind : QuotaKind) :
    Ledger.amountOf (quotaKey run.target kind) provisioned.quotas =
      provisioned.placement.uses kind := by
  obtain ⟨intent, placement, built, complete⟩ := settled.built
  have wanted : placement.deployment.vms.length = vmCount request.database :=
    built.length.trans settled.addresses
  rw [settled.quotas, amountOf_runQuotas]
  cases kind with
  | vm => rw [DeployedPlacement.uses, complete.count, wanted]
  | subnet => rfl
  | publicAddress =>
      rw [DeployedPlacement.uses, complete.template]
      by_cases given : p.settings.publicOn run.target
      · have all : placement.deployment.vms.countP (·.hasPublicAddress) =
            placement.deployment.vms.length :=
          List.countP_eq_length.2 fun vm mem => (built.publicAddress vm mem).trans given
        rw [if_pos given, all, wanted]
      · have none : placement.deployment.vms.countP (·.hasPublicAddress) = 0 :=
          List.countP_eq_zero.2 fun vm mem => (built.publicAddress vm mem) ▸ given
        rw [if_neg given, none]
        rfl

/-- The quotas of a provisioned run are what it uses, of each kind: the machines of its deployment, as many
as there are reserved addresses and machines wanted; its one subnet; and the machines that are wanted with
public addresses, none where no public addresses are asked for.  The counters of the target are down by
these amounts. -/
theorem provisioned_run_uses_its_quotas (p : Provisioner σ) (providers : ByTarget (Provider σ))
    (run : RunContext) (request : ProvisionRequest) (signal : Signal) (w v : World σ)
    (provisioned : ProvisionedRun)
    (h : (p.withProviders providers).provision run request signal w = (.ok provisioned, v)) :
    (∀ kind, Ledger.amountOf (quotaKey run.target kind) provisioned.quotas =
        provisioned.placement.uses kind) ∧
      (∀ kind, v.store.counter? (quotaKey run.target kind) =
        (w.store.counter? (quotaKey run.target kind)).map (· - (provisioned.placement.uses kind : Int))) ∧
      provisioned.placement.network.ips.length = provisioned.placement.uses .vm ∧
      provisioned.placement.deployment.template.vms.length = provisioned.placement.uses .vm := by
  have settled := settled_of_provision h
  obtain ⟨intent, placement, built, complete⟩ := settled.built
  refine ⟨settled.amountOf, ?_, ?_, ?_⟩
  · intro kind
    rw [settled.taken.counter?, Stake.amountOf, stakeOf, ← settled.quotas, settled.amountOf]
  · rw [DeployedPlacement.uses, complete.count, built.length]
  · rw [DeployedPlacement.uses, complete.count, complete.template]

/-- A provisioner that asks for public addresses. -/
def publicSample : Provisioner Memory :=
  { sample with settings := { sample.settings with machines.publicAddress := true } }

/-- A world without runs, with room for twenty machines and as many public addresses. -/
def roomyWorld : World Memory :=
  ⟨.start ⟨0, 0, true⟩ (Ledger.init [⟨.yandexCloud, .vm, 20⟩, ⟨.yandexCloud, .subnet, 10⟩,
    ⟨.yandexCloud, .publicAddress, 20⟩] .empty), Memory.new (some 1)⟩

/-- A cluster of five items and the load generator, all with public addresses. -/
theorem sampleCluster_uses_its_quotas :
    ∃ provisioned v, (publicSample.withProviders ⟨none, some (Memory.provider (300000, id))⟩).provision
        ⟨"run1", .yandexCloud⟩ ⟨.placed DatabaseTemplate.sampleCluster, ⟨2, 4, 20⟩⟩ .never roomyWorld =
          (.ok provisioned, v) ∧
      provisioned.placement.uses .vm = 6 ∧ provisioned.placement.uses .publicAddress = 6 ∧
      v.store.counter? (quotaKey .yandexCloud .publicAddress) = some 14 := by
  let providers : ByTarget (Provider Memory) := ⟨none, some (Memory.provider (300000, id))⟩
  have possible : ((publicSample.withProviders providers).provision ⟨"run1", .yandexCloud⟩
      ⟨.placed DatabaseTemplate.sampleCluster, ⟨2, 4, 20⟩⟩ .never roomyWorld).1.toOption.map
        ProvisionedRun.quotas = some [⟨.yandexCloud, .vm, 6⟩, ⟨.yandexCloud, .subnet, 1⟩,
          ⟨.yandexCloud, .publicAddress, 6⟩] := by decide +kernel
  cases h : (publicSample.withProviders providers).provision ⟨"run1", .yandexCloud⟩
      ⟨.placed DatabaseTemplate.sampleCluster, ⟨2, 4, 20⟩⟩ .never roomyWorld with
  | mk outcome v =>
      rw [h] at possible
      cases outcome with
      | error error => cases possible
      | ok provisioned =>
          have quotas := Option.some.inj possible
          obtain ⟨amounts, counters, -, -⟩ := provisioned_run_uses_its_quotas publicSample providers
            ⟨"run1", .yandexCloud⟩ ⟨.placed DatabaseTemplate.sampleCluster, ⟨2, 4, 20⟩⟩ .never
            roomyWorld v provisioned h
          have machines := amounts .vm
          have addresses := amounts .publicAddress
          dsimp only at quotas machines addresses
          rw [quotas] at machines addresses
          have six : provisioned.placement.uses .vm = 6 :=
            Int.ofNat.inj (machines.symm.trans (by decide))
          have all_six : provisioned.placement.uses .publicAddress = 6 :=
            Int.ofNat.inj (addresses.symm.trans (by decide))
          refine ⟨provisioned, v, rfl, six, all_six, ?_⟩
          rw [counters .publicAddress, all_six]
          decide +kernel

end Provisioner

end Testbed
