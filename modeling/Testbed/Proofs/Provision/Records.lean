import Testbed.Proofs.Deployment.Visit
import Testbed.Proofs.Provision.Addresses
import Testbed.Proofs.Provision.Site

/-!
The two records of a machine.

What was deployed keeps the record of each machine twice: in its deployment, and with the item that runs on
it.  Whoever goes on with a deployment has to write the second record again (`DeployedPlacement.refresh`).
Provisioning and taking down a run do so.  Destroying a placement does not: after a success its items keep
the records that they were deployed with.
-/

namespace Testbed

variable {σ : Type}

/-! ### Records that agree -/

/-- Every item has the record that the deployment has of its machine. -/
def DeployedPlacement.Agrees (x : DeployedPlacement) : Prop :=
  ∀ i ∈ x.items, x.deployment.vm? i.vm.template.identifier.id = some i.vm

instance (x : DeployedPlacement) : Decidable x.Agrees :=
  inferInstanceAs (Decidable (∀ i ∈ x.items, _ = _))

/-- The machine of an item is destroyed, and the item has the record of its creation. -/
def DeployedItem.Outdated (d : Deployment) (i : DeployedItem) : Prop :=
  i.vm.resource.status = .creating ∧ ∃ vm, d.vm? i.vm.template.identifier.id = some vm ∧
    vm.template = i.vm.template ∧ vm.resource.status = .destroyed

namespace Deployment

variable {d d' : Deployment} {id : String} {vm : Vm}

/-- A machine that is found is one of the deployment. -/
theorem mem_of_vm? (found : d.vm? id = some vm) : vm ∈ d.vms := List.mem_of_find?_eq_some found

/-- A machine that is found has the id that was looked for. -/
theorem id_of_vm? (found : d.vm? id = some vm) : vm.template.identifier.id = id := by
  simpa using List.find?_some found

/-- Deployments with the same templates have the same machines, but for their resources. -/
theorem exists_vm? (same : d'.vms.map Vm.template = d.vms.map Vm.template) (found : d.vm? id = some vm) :
    ∃ vm', d'.vm? id = some vm' ∧ vm'.template = vm.template := by
  have templates : ∀ d : Deployment, (d.vm? id).map Vm.template =
      (d.vms.map Vm.template).find? (·.identifier.id = id) := fun d => by
    rw [List.find?_map]
    rfl
  have found' := templates d'
  rw [same, ← templates d, found] at found'
  exact Option.map_eq_some_iff.1 found'

end Deployment

namespace DeployedPlacement

variable {x : DeployedPlacement} {d : Deployment}

/-- A deployed item finds its machine in every deployment with the same templates. -/
theorem Agrees.exists_vm? (agrees : x.Agrees)
    (same : d.vms.map Vm.template = x.deployment.vms.map Vm.template) {i : DeployedItem}
    (mem : i ∈ x.items) :
    ∃ vm, d.vm? i.vm.template.identifier.id = some vm ∧ vm.template = i.vm.template :=
  Deployment.exists_vm? same (agrees i mem)

/-- Writing the records again makes them agree, when the deployment still has the machines. -/
theorem Agrees.refresh (agrees : x.Agrees)
    (same : d.vms.map Vm.template = x.deployment.vms.map Vm.template) : (x.refresh d).Agrees := by
  intro i mem
  obtain ⟨i, listed, rfl⟩ := List.mem_map.1 mem
  obtain ⟨vm, found, template⟩ := agrees.exists_vm? same listed
  have written : i.refresh d = { i with vm } := by rw [DeployedItem.refresh, found]
  rw [written]
  exact template ▸ found

end DeployedPlacement

/-! ### What calls write -/

namespace Provider

/-- A provider leaves a deployment its machines. -/
theorem keeps_templates (provider : Provider σ) (templates : List VmTemplate) :
    provider.service.Keeps (fun d _ => d.vms.map Vm.template = templates) (fun _ _ => True) where
  refl _ := trivial
  trans _ _ := trivial
  stable same _ := same
  process _ same := ⟨(Deployment.vmTemplates_visit _ _ _).trans same, trivial⟩
  destroy _ same := ⟨(Deployment.vmTemplates_visit _ _ _).trans same, trivial⟩

/-- What a provider has created is being created. -/
theorem creating_of_create {provider : Provider σ} {t : DeploymentTemplate} {stamps : Stamps} {s u : σ}
    {d : Deployment} (h : provider.service.create t stamps s = (.ok d, u)) :
    ∀ r ∈ d.resources, r.status = .creating := by
  have created : (provider.service.create t stamps s).1 =
      (Reconciler.create provider.backend t stamps s).1.map (Deployment.relabel provider.relabel) := rfl
  rw [h, Reconciler.create] at created
  dsimp only at created
  split at created
  · obtain rfl := Except.ok.inj created
    intro r mem
    rw [Deployment.resources_relabel] at mem
    exact (Deployment.creating_new mem).1
  · cases created

end Provider

namespace Provisioner

variable {p : Provisioner σ} {providers : ByTarget (Provider σ)} {signal : Signal} {w v : World σ}

/-- Items are paired with the machines that are found by their ids. -/
theorem mem_pairItems {d : Deployment} {items : List PlacedItem} {paired : List DeployedItem}
    (h : pairItems d items = .ok paired) :
    ∀ i ∈ paired, d.vm? i.vm.template.identifier.id = some i.vm := by
  induction items generalizing paired with
  | nil =>
      obtain rfl := Except.ok.inj h
      exact List.forall_mem_nil _
  | cons item rest ih =>
      rw [pairItems] at h
      split at h
      · cases h
      · next vm found =>
          obtain ⟨others, made, h⟩ := exists_ok_of_bind h
          obtain rfl := Except.ok.inj h
          refine List.forall_mem_cons.2 ⟨?_, ih made⟩
          rwa [Deployment.id_of_vm? found]

section Providers

variable {service : DeploymentService σ} {target : Target}

/-- A service over recorded providers keeps the templates of the machines. -/
theorem keeps_templates (supported : (p.withProviders providers).service target = .ok service)
    (templates : List VmTemplate) :
    service.Keeps (fun d _ => d.vms.map Vm.template = templates) (fun _ _ => True) := by
  obtain ⟨provider, rfl⟩ := provider_of_service supported
  exact provider.keeps_templates templates

end Providers

/-- What was deployed is being created, and its records agree. -/
theorem agrees_of_deploy {placement : Placement} {deployed : DeployedPlacement}
    (h : (p.withProviders providers).deploy placement w = (.ok deployed, v)) :
    deployed.Agrees ∧ ∀ r ∈ deployed.deployment.resources, r.status = .creating := by
  obtain ⟨service, machines, supported, created, paired⟩ := created_of_deploy h
  obtain ⟨provider, rfl⟩ := provider_of_service supported
  exact ⟨mem_pairItems paired, Provider.creating_of_create created⟩

/-- What has settled has the records of a deployment that was seen ready. -/
theorem settled_of_settle {run : RunContext} {deployed settled : DeployedPlacement}
    {rollback : Rollback (Undoing σ)}
    (h : (p.settle run signal deployed rollback w).result = .ok settled) :
    ∃ service ready u, p.service run.target = .ok service ∧
      p.awaitReady service signal deployed.deployment w = (.ok ready, u) ∧
      (settled = deployed ∨ ∃ d ∈ ready, settled = deployed.refresh d) := by
  rw [settle] at h
  split at h
  · cases h
  · next service supported =>
      dsimp only at h
      split at h
      · cases h
      · next ready u awaited =>
          refine ⟨service, ready, u, supported, awaited, ?_⟩
          cases ready with
          | nil => exact .inl (Except.ok.inj h).symm
          | cons d rest => exact .inr ⟨d, List.mem_cons_self, (Except.ok.inj h).symm⟩

/-- A run that was provisioned was deployed and has settled. -/
theorem deployed_of_provision {run : RunContext} {request : ProvisionRequest} {r : ProvisionedRun}
    (h : p.provision run request signal w = (.ok r, v)) :
    ∃ placement u u' deployed rollback, p.deploy placement u = (.ok deployed, u') ∧
      (p.settle run signal deployed rollback u').result = .ok r.placement := by
  cases equipped : p.equip? run request signal w with
  | none =>
      obtain ⟨error, session, failed, -⟩ := provision_of_equip?_none equipped
      rw [failed] at h
      cases h
  | some equipment =>
      obtain ⟨network, u⟩ := equipment
      rw [provision_of_equip?_some equipped] at h
      cases ordered : p.order? run request network u.session.tokens with
      | none =>
          obtain ⟨error, raised, -⟩ :=
            raise_of_order?_none ordered signal (returning (p.stakeOf run request network))
          simp only [raised, Outcome.failed] at h
          cases h
      | some order =>
          obtain ⟨placement, tokens⟩ := order
          have raised := raise_of_order?_some ordered signal (returning (p.stakeOf run request network))
          rw [deployOrder] at raised
          dsimp only at h
          cases deployment : p.deploy placement { u with session := { u.session with tokens } } with
          | mk result u' =>
              rw [deployment] at raised
              cases result with
              | error error =>
                  simp only [raised, Outcome.failed] at h
                  cases h
              | ok deployed =>
                  dsimp only at raised
                  rw [raised] at h
                  split at h
                  · next settled succeeded =>
                      obtain ⟨same, -⟩ := Prod.mk.inj h
                      obtain rfl := Except.ok.inj same
                      exact ⟨placement, _, u', deployed, _, deployment, succeeded⟩
                  · cases h

/-- The records of a run that was provisioned agree. -/
theorem agrees_of_provision {run : RunContext} {request : ProvisionRequest} {r : ProvisionedRun}
    (h : (p.withProviders providers).provision run request signal w = (.ok r, v)) :
    r.placement.Agrees := by
  obtain ⟨placement, u, u', deployed, rollback, deployment, succeeded⟩ := deployed_of_provision h
  obtain ⟨agrees, -⟩ := agrees_of_deploy deployment
  obtain ⟨service, ready, x, supported, awaited, rfl | ⟨d, mem, same⟩⟩ := settled_of_settle succeeded
  · exact agrees
  · rw [same]
    exact agrees.refresh ((awaitReady_keeps (keeps_templates supported _) awaited rfl).2.2 ready rfl d mem)

/-- A deployment that was taken down has its machines still, all of them destroyed. -/
theorem templates_of_destroy {d d' : Deployment}
    (h : (p.withProviders providers).destroy signal d w = (.ok d', v)) :
    d'.vms.map Vm.template = d.vms.map Vm.template ∧ d'.isDestroyed = true := by
  cases supported : (p.withProviders providers).service d.template.identifier.target with
  | error error =>
      rw [destroy, supported] at h
      cases h
  | ok service =>
      have downed := destroy_downed (keeps_templates supported (d.vms.map Vm.template)) supported signal
        (w := w) rfl
      rw [h] at downed
      exact downed.gone d' rfl

/-- A teardown leaves the records of a run, or writes them again. -/
theorem agrees_of_teardown {r : ProvisionedRun} (agrees : r.placement.Agrees) (signal : Signal)
    (w : World σ) : ((p.withProviders providers).teardown signal r w).2.1.placement.Agrees := by
  rw [teardown, destroyRun]
  by_cases destroyed : r.destroyed = true
  · rw [if_pos destroyed]
    exact agrees
  · rw [if_neg destroyed]
    cases supported : (p.withProviders providers).service
        r.placement.deployment.template.identifier.target with
    | error error =>
        rw [withRetries_unsupported supported]
        exact agrees
    | ok service =>
        have downed := withRetries_downed (keeps_templates supported
          (r.placement.deployment.vms.map Vm.template)) supported signal
          (p.withProviders providers).settings.cleanupBackoff
          ((p.withProviders providers).settings.cleanupAttempts - 1) (w := w) rfl
        revert downed
        generalize withRetries _ _ _ w = outcome
        obtain ⟨result, u⟩ := outcome
        intro downed
        cases result with
        | error error => exact agrees
        | ok d => exact agrees.refresh (downed.gone d rfl).1

end Provisioner

/-! ### Histories -/

/-- The records of what was deployed for itself agree, until it is destroyed.  From then on every item has
the record with which its machine was created. -/
structure DeployedPlacement.Recorded (x : DeployedPlacement) : Prop where
  created : ∀ i ∈ x.items, i.vm.resource.status = .creating
  standing : x.deployment.isDestroyed = false → x.Agrees
  gone : x.deployment.isDestroyed = true → ∀ i ∈ x.items, i.Outdated x.deployment

namespace DeployedPlacement.Recorded

variable {p : Provisioner σ} {providers : ByTarget (Provider σ)} {x : DeployedPlacement} {w v : World σ}

/-- A recorded item finds its own machine. -/
theorem exists_vm? (h : x.Recorded) {i : DeployedItem} (mem : i ∈ x.items) :
    ∃ vm, x.deployment.vm? i.vm.template.identifier.id = some vm ∧ vm.template = i.vm.template := by
  cases gone : x.deployment.isDestroyed with
  | false => exact ⟨_, h.standing gone i mem, rfl⟩
  | true =>
      obtain ⟨-, vm, found, template, -⟩ := h.gone gone i mem
      exact ⟨vm, found, template⟩

/-- What is deployed is recorded. -/
theorem of_deploy {placement : Placement}
    (h : (p.withProviders providers).deploy placement w = (.ok x, v)) : x.Recorded := by
  obtain ⟨agrees, creating⟩ := Provisioner.agrees_of_deploy h
  have network : x.deployment.network.status = .creating := creating _ List.mem_cons_self
  refine ⟨fun i mem => creating _ ?_, fun _ => agrees, fun gone => ?_⟩
  · exact List.mem_cons_of_mem _ (List.mem_map_of_mem (Deployment.mem_of_vm? (agrees i mem)))
  · simp [Deployment.isDestroyed, Deployment.resources, network] at gone

/-- The items of a placement that is destroyed keep their records. -/
theorem destroyed (h : x.Recorded) {d : Deployment}
    (same : d.vms.map Vm.template = x.deployment.vms.map Vm.template) (gone : d.isDestroyed = true) :
    Recorded { x with deployment := d } := by
  refine ⟨h.created, fun standing => (Bool.eq_false_iff.1 standing gone).elim, fun _ i mem => ?_⟩
  obtain ⟨vm, found, template⟩ := h.exists_vm? mem
  obtain ⟨vm', found', template'⟩ := Deployment.exists_vm? same found
  refine ⟨h.created i mem, vm', found', template'.trans template, ?_⟩
  simp only [Deployment.isDestroyed, List.all_eq_true, decide_eq_true_eq] at gone
  exact gone _ (List.mem_cons_of_mem _ (List.mem_map_of_mem (Deployment.mem_of_vm? found')))

end DeployedPlacement.Recorded

namespace Site

variable {p : Provisioner σ} {providers : ByTarget (Provider σ)} {t : Site σ}

/-- What holds of the records of a site. -/
structure Recorded (t : Site σ) : Prop where
  runs : ∀ r ∈ t.fleet.runs, r.placement.Agrees
  installations : ∀ x ∈ t.installations, x.placement.Recorded

/-- Nothing is deployed at the beginning, so all of it is recorded. -/
theorem recorded_start (w : World σ) : (start w).Recorded :=
  ⟨List.forall_mem_nil _, List.forall_mem_nil _⟩

/-- Runs that are provisioned or taken down have records that agree. -/
theorem agrees_fleet (h : ∀ r ∈ t.fleet.runs, r.placement.Agrees) (c : FleetCall σ) :
    ∀ r ∈ (t.fleet.call (p.withProviders providers) c).runs, r.placement.Agrees := by
  have down : ∀ (index : Nat) (signal : Signal),
      ∀ r ∈ (t.fleet.call (p.withProviders providers) (.teardown index signal)).runs,
        r.placement.Agrees := by
    intro index signal
    rw [Fleet.call]
    split
    · next r found =>
        intro other mem
        rcases List.mem_or_eq_of_mem_set mem with mem | rfl
        · exact h other mem
        · exact Provisioner.agrees_of_teardown (h r (List.mem_of_getElem? found)) signal _
    · exact h
  cases c with
  | provision run request signal =>
      rw [Fleet.call]
      split
      · next r world provisioned =>
          exact List.forall_mem_append.2
            ⟨h, List.forall_mem_singleton.2 (Provisioner.agrees_of_provision provisioned)⟩
      · exact h
  | teardown index signal => exact down index signal
  | abandon index primary =>
      rw [Fleet.call_abandon]
      exact down index .never
  | elapse ms => exact h
  | disturb machines => exact h

/-- A destruction leaves a placement as it is, or its deployment is destroyed and its items are left. -/
theorem recorded_destroyPlacement (p : Provisioner σ) (providers : ByTarget (Provider σ))
    {x : DeployedPlacement} (h : x.Recorded) (signal : Signal) (w : World σ) :
    let outcome := (p.withProviders providers).destroyPlacement signal x w
    outcome.2.1.Recorded ∧
      (outcome.1 = .ok () → outcome.2.1.deployment.isDestroyed = true ∧ outcome.2.1.items = x.items) ∧
      (outcome.1 ≠ .ok () → outcome.2.1 = x) := by
  intro outcome
  simp only [outcome, Provisioner.destroyPlacement]
  split
  · next d v destroyed =>
      obtain ⟨same, gone⟩ := Provisioner.templates_of_destroy destroyed
      exact ⟨h.destroyed same gone, fun _ => ⟨gone, rfl⟩, fun other => absurd rfl other⟩
  · exact ⟨h, fun other => (by cases other), fun _ => rfl⟩

/-- Every call leaves what is deployed recorded. -/
theorem recorded_call (h : t.Recorded) (c : SiteCall σ) :
    (t.call (p.withProviders providers) c).Recorded := by
  cases c with
  | reserve run database signal =>
      rw [call]
      split <;> exact ⟨h.runs, h.installations⟩
  | deploy allotment placement =>
      rw [call]
      split
      · split
        · next deployed world deployment =>
            exact ⟨h.runs, List.forall_mem_append.2
              ⟨h.installations, List.forall_mem_singleton.2 (.of_deploy deployment)⟩⟩
        · exact ⟨h.runs, h.installations⟩
      · exact h
  | destroy index signal =>
      rw [call]
      split
      · next x found =>
          have own := h.installations x (List.mem_of_getElem? found)
          have after := (recorded_destroyPlacement p providers own signal t.world).1
          have put : ∀ placement : DeployedPlacement, placement.Recorded →
              ∀ y ∈ t.installations.set index { x with placement }, y.placement.Recorded := by
            intro placement recorded y mem
            rcases List.mem_or_eq_of_mem_set mem with mem | rfl
            · exact h.installations y mem
            · exact recorded
          split
          · next placement world outcome =>
              rw [outcome] at after
              exact ⟨h.runs, put placement after⟩
          · next error placement world outcome =>
              rw [outcome] at after
              exact ⟨h.runs, put placement after⟩
      · exact h
  | fleet c => exact ⟨agrees_fleet h.runs c, h.installations⟩

/-- What is deployed is recorded after any calls. -/
theorem recorded_after (h : t.Recorded) (calls : List (SiteCall σ)) :
    (after (p.withProviders providers) calls t).Recorded := by
  induction calls generalizing t with
  | nil => exact h
  | cons c rest ih => exact ih (recorded_call h c)

/-- Whatever was called, and whatever backends answer: the items of every run have the records of its
deployment.  So have the items of a placement that was deployed for itself, as long as it is not destroyed;
but the destruction of a placement leaves every item with the record of its creation. -/
theorem records_agree_until_destroyed (p : Provisioner σ) (providers : ByTarget (Provider σ)) (w : World σ)
    (calls : List (SiteCall σ)) :
    let q := p.withProviders providers
    let t := after q calls (start w)
    (∀ r ∈ t.fleet.runs, r.placement.Agrees) ∧
      ∀ x ∈ t.installations,
        (x.placement.deployment.isDestroyed = false → x.placement.Agrees) ∧
        (x.placement.deployment.isDestroyed = true →
          ∀ i ∈ x.placement.items, i.Outdated x.placement.deployment) ∧
        ∀ signal,
          let outcome := q.destroyPlacement signal x.placement t.world
          (outcome.1 = .ok () → outcome.2.1.deployment.isDestroyed = true ∧
            outcome.2.1.items = x.placement.items ∧
            ∀ i ∈ x.placement.items, i.Outdated outcome.2.1.deployment) ∧
          (outcome.1 ≠ .ok () → outcome.2.1 = x.placement) := by
  intro q t
  have recorded : t.Recorded := recorded_after (recorded_start w) calls
  refine ⟨recorded.runs, fun x mem => ?_⟩
  have own := recorded.installations x mem
  refine ⟨own.standing, own.gone, fun signal => ?_⟩
  obtain ⟨after, done, failed⟩ := recorded_destroyPlacement p providers own signal t.world
  refine ⟨fun succeeded => ?_, failed⟩
  obtain ⟨gone, same⟩ := done succeeded
  exact ⟨gone, same, same ▸ after.gone gone⟩

end Site

/-- The load generator of a placement that was deployed and destroyed: its machine is destroyed, and the item
has the record that it is being created. -/
theorem Provisioner.item_outdated_by_destruction :
    let q := sample.onMemory sampleSetups
    ∃ deployed w after v, q.install? ⟨"run1", .docker⟩ sampleRequest idleWorld = some (deployed, w) ∧
      q.destroyPlacement .never deployed w = (.ok (), after, v) ∧
      after.deployment.vms.map (·.resource.status) = [.destroyed] ∧
      after.items.map (·.vm.resource.status) = [.creating] ∧ ¬ after.Agrees := by
  intro q
  have destroyed : (q.install? ⟨"run1", .docker⟩ sampleRequest idleWorld).map (fun installed =>
      let outcome := q.destroyPlacement .never installed.1 installed.2
      (outcome.1.isOk, outcome.2.1.deployment.vms.map (·.resource.status),
        outcome.2.1.items.map (·.vm.resource.status), decide outcome.2.1.Agrees)) =
      some (true, [.destroyed], [.creating], false) := by
    decide +kernel
  obtain ⟨⟨deployed, w⟩, installed, outcome⟩ := Option.map_eq_some_iff.1 destroyed
  obtain ⟨succeeded, machines, items, disagrees⟩ := by simpa only [Prod.mk.injEq] using outcome
  obtain ⟨_, ok⟩ := exists_ok_of_isOk succeeded
  exact ⟨deployed, w, _, _, installed, Prod.ext ok rfl, machines, items, of_decide_eq_false disagrees⟩

end Testbed
