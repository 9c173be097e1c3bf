import Testbed.Proofs.Deployment.Status
import Testbed.Proofs.Provision.Records

/-!
Items and machines, when a placement is deployed.

A service may return the machines of a deployment in any order, without some, or with others than it was
asked for.  No item is dropped over it: every item gets a machine that was made from its template, or the
deployment is taken down again, and the error tells whether that is known to have succeeded.
-/

namespace Testbed

variable {σ : Type}

/-- A machine of a deployment was made from the template of an item. -/
def PlacedItem.HousedIn (d : Deployment) (item : PlacedItem) : Prop :=
  ∃ vm ∈ d.vms, vm.template.identifier.id = item.vmTemplate.identifier.id

/-- An item and a machine of a deployment that was made from its template. -/
structure DeployedItem.Pairs (d : Deployment) (item : PlacedItem) (i : DeployedItem) : Prop where
  same : i.item = item
  machine : i.vm ∈ d.vms
  template : i.vm.template.identifier.id = item.vmTemplate.identifier.id

/-- The first of some items for which a deployment has no machine. -/
def Deployment.FirstMissing (d : Deployment) (items : List PlacedItem) (item : PlacedItem) : Prop :=
  ∃ earlier later, items = earlier ++ item :: later ∧ (∀ i ∈ earlier, i.HousedIn d) ∧ ¬ item.HousedIn d

/-- A service works on the resources of a deployment in their places: it neither adds any nor leaves any
out. -/
def DeploymentService.InPlace (svc : DeploymentService σ) : Prop :=
  ∀ (d : Deployment) (stamps : Stamps) (s : σ),
    (svc.process d stamps s).2.1.resourceIds = d.resourceIds ∧
      (svc.destroy d stamps s).2.1.resourceIds = d.resourceIds

namespace DeploymentService.InPlace

variable {svc : DeploymentService σ}

/-- A service that works in place keeps the resources of a deployment. -/
theorem keeps (h : svc.InPlace) (ids : List String) :
    svc.Keeps (fun d _ => d.resourceIds = ids) (fun _ _ => True) where
  refl _ := trivial
  trans _ _ := trivial
  stable same _ := same
  process stamps same := ⟨(h _ stamps _).1.trans same, trivial⟩
  destroy stamps same := ⟨(h _ stamps _).2.trans same, trivial⟩

end DeploymentService.InPlace

/-- Reconcilers work in place, whatever their backends answer. -/
theorem Provider.inPlace (provider : Provider σ) : provider.service.InPlace := fun d stamps s =>
  have keeps := provider.keeps_resourceIds d.resourceIds
  ⟨(keeps.process stamps (s := s) rfl).1, (keeps.destroy stamps (s := s) rfl).1⟩

namespace Deployment

variable {d : Deployment} {item : PlacedItem}

/-- An item has no machine in a deployment exactly if it is not housed there. -/
theorem vm?_eq_none : d.vm? item.vmTemplate.identifier.id = none ↔ ¬ item.HousedIn d := by
  simp [vm?, PlacedItem.HousedIn]

namespace FirstMissing

variable {items : List PlacedItem} {first : PlacedItem}

/-- An item that is housed leaves the first missing one as it is. -/
theorem cons (housed : first.HousedIn d) (h : d.FirstMissing items item) :
    d.FirstMissing (first :: items) item := by
  obtain ⟨earlier, later, rfl, before, missing⟩ := h
  exact ⟨first :: earlier, later, rfl, List.forall_mem_cons.2 ⟨housed, before⟩, missing⟩

/-- If some item is missing, not all of them are housed. -/
theorem not_all (h : d.FirstMissing items item) : ¬ ∀ i ∈ items, i.HousedIn d := by
  obtain ⟨earlier, later, rfl, -, missing⟩ := h
  exact fun all => missing (all item (List.mem_append_right _ List.mem_cons_self))

end FirstMissing

end Deployment

namespace Provisioner

variable {p : Provisioner σ} {placement : Placement} {w : World σ} {service : DeploymentService σ}
  {d : Deployment} {machines : σ}

/-- Items are paired in their order, up to the first for which there is no machine. -/
theorem pairItems_cases (d : Deployment) (items : List PlacedItem) :
    (∃ paired, pairItems d items = .ok paired ∧ List.Forall₂ (DeployedItem.Pairs d) items paired) ∨
      ∃ item, pairItems d items = .error item.vmTemplate.identifier.id ∧ d.FirstMissing items item := by
  induction items with
  | nil => exact .inl ⟨[], rfl, .nil⟩
  | cons item rest ih =>
      rw [pairItems]
      cases found : d.vm? item.vmTemplate.identifier.id with
      | none =>
          have missing := Deployment.vm?_eq_none.1 found
          exact .inr ⟨item, rfl, [], rest, rfl, List.forall_mem_nil _, missing⟩
      | some vm =>
          have listed := Deployment.mem_of_vm? found
          have template := Deployment.id_of_vm? found
          rcases ih with ⟨paired, made, pairs⟩ | ⟨other, failed, missing⟩
          · refine .inl ⟨⟨item, vm⟩ :: paired, ?_, .cons ⟨rfl, listed, template⟩ pairs⟩
            simp only [made]
            rfl
          · refine .inr ⟨other, ?_, missing.cons ⟨vm, listed, template⟩⟩
            simp only [failed]
            rfl

/-- Items that are paired have machines to be paired with. -/
theorem housed_of_pairs {items : List PlacedItem} {paired : List DeployedItem}
    (pairs : List.Forall₂ (DeployedItem.Pairs d) items paired) : ∀ item ∈ items, item.HousedIn d := by
  induction pairs with
  | nil => exact List.forall_mem_nil _
  | cons head _ ih => exact List.forall_mem_cons.2 ⟨⟨_, head.machine, head.template⟩, ih⟩

section Created

variable (supported : p.service placement.deployment.identifier.target = .ok service)
  (created : service.create placement.deployment w.clock.stamp w.machines = (.ok d, machines))

include supported created

/-- A placement whose items are all housed is deployed, with each item beside its machine. -/
theorem deploy_of_paired {paired : List DeployedItem} (made : pairItems d placement.items = .ok paired) :
    p.deploy placement w =
      (.ok ⟨paired, d, placement.network, placement.connectionString⟩, { w with machines }) := by
  simp only [deploy, supported, created, made]

/-- A placement with an item that is missing is deleted again, and the error tells which. -/
theorem deploy_of_missing {template : String} {result : Except DeployError Unit} {d' : Deployment}
    {v : World σ} (failed : pairItems d placement.items = .error template)
    (down : Destroying.destroyAndConfirm service p.settings.wait .never d { w with machines } =
      (result, d', v)) :
    p.deploy placement w = (match result with
      | .ok () => .error (.vmNotFound template)
      | .error error => .error (.compensation (.vmNotFound template) [.deploy error]), v) := by
  simp only [deploy, supported, created, failed, down]
  cases result <;> rfl

/-- Once a service has created a deployment, deploying succeeds exactly if the deployment has a machine for
every item.  It returns all items then, in their order, each with a machine that was made from its template.

Otherwise the deployment is taken down, and the error is about the first item without a machine.  It is
`vmNotFound` alone only if every resource of the deployment was then seen destroyed; in every other case it
is a compensation that holds, next to `vmNotFound`, why the deployment could not be taken down. -/
theorem deploy_drops_no_item :
    let outcome := p.deploy placement w
    let down := Destroying.destroyAndConfirm service p.settings.wait .never d { w with machines }
    ((∃ deployed, outcome.1 = .ok deployed) ↔ ∀ item ∈ placement.items, item.HousedIn d) ∧
      (∀ deployed, outcome.1 = .ok deployed →
        deployed.deployment = d ∧ outcome.2 = { w with machines } ∧
          List.Forall₂ (DeployedItem.Pairs d) placement.items deployed.items) ∧
      ∀ error, outcome.1 = .error error → outcome.2 = down.2.2 ∧
        ∃ item, d.FirstMissing placement.items item ∧
          let missing := ProvisionError.vmNotFound item.vmTemplate.identifier.id
          (error = missing ∧ (∀ r ∈ down.2.1.resources, r.status = .destroyed) ∧
              (service.InPlace → down.2.1.resourceIds = d.resourceIds)) ∨
            ∃ failure, down.1 = .error failure ∧ error = .compensation missing [.deploy failure] := by
  rcases pairItems_cases d placement.items with ⟨paired, made, pairs⟩ | ⟨item, failed, missing⟩
  · simp only [deploy_of_paired supported created made]
    refine ⟨⟨fun _ => housed_of_pairs pairs, fun _ => ⟨_, rfl⟩⟩, ?_, nofun⟩
    rintro deployed same
    obtain rfl := Except.ok.inj same
    exact ⟨rfl, trivial, pairs⟩
  · rcases down : Destroying.destroyAndConfirm service p.settings.wait .never d { w with machines } with
      ⟨result, d', v⟩
    cases result with
    | ok _ =>
        simp only [deploy_of_missing supported created failed down]
        have gone := (Destroying.ended_of_destroyAndConfirm service.keeps_true down trivial).gone rfl
        refine ⟨⟨by simp, fun all => (missing.not_all all).elim⟩, by simp, ?_⟩
        rintro error same
        obtain rfl := Except.error.inj same
        refine ⟨trivial, item, missing, .inl ⟨rfl, ?_, fun inPlace => ?_⟩⟩
        · simpa [Deployment.isDestroyed] using gone
        · have own : d.resourceIds = d.resourceIds := rfl
          have ended := Destroying.ended_of_destroyAndConfirm (inPlace.keeps d.resourceIds) down own
          exact ended.good
    | error failure =>
        simp only [deploy_of_missing supported created failed down]
        refine ⟨⟨by simp, fun all => (missing.not_all all).elim⟩, by simp, ?_⟩
        rintro error same
        obtain rfl := Except.error.inj same
        exact ⟨trivial, item, missing, .inr ⟨failure, rfl, rfl⟩⟩

end Created

/-- Two items on the machines of a template that has one only. -/
def samplePair : Placement :=
  let item (id : String) : PlacedItem :=
    ⟨id, [], ⟨⟨id, id, .docker⟩, ⟨1, 1, 10⟩, "img", false, default, .ofNat 1, .empty, .empty⟩, default, .empty⟩
  { network := Reconciler.oneMachine.network
    connectionString := "postgres://db"
    deployment := Reconciler.oneMachine
    items := [item "d1-vm-0", item "d1-vm-1"] }

/-- The second of two items has no machine; the deployment is seen destroyed, and only then reported so. -/
theorem second_item_has_no_machine :
    let q := sample.onMemory sampleSetups
    let d := Deployment.new Reconciler.oneMachine (.still 0)
    ∃ service machines item v, q.service .docker = .ok service ∧
      service.create samplePair.deployment (.still 0) idleWorld.machines = (.ok d, machines) ∧
      d.FirstMissing samplePair.items item ∧
      q.deploy samplePair idleWorld = (.error (.vmNotFound item.vmTemplate.identifier.id), v) ∧
      v.machines.deleted = ["d1-net", "d1-vm-0"] := by
  intro q d
  let service := (Memory.provider (300000, id)).service
  have supported : q.service samplePair.deployment.identifier.target = .ok service := rfl
  let machines := (service.create samplePair.deployment (.still 0) idleWorld.machines).2
  have created : service.create samplePair.deployment idleWorld.clock.stamp idleWorld.machines =
      (.ok d, machines) := rfl
  have deployed : (q.deploy samplePair idleWorld).1.isOk = false ∧
      (q.deploy samplePair idleWorld).2.machines.deleted = ["d1-net", "d1-vm-0"] := by decide +kernel
  obtain ⟨error, failed⟩ := exists_error_of_isOk deployed.1
  obtain ⟨-, item, missing, ⟨rfl, -⟩ | ⟨failure, down, -⟩⟩ :=
    (deploy_drops_no_item supported created).2.2 error failed
  · exact ⟨service, machines, item, _, supported, created, missing, Prod.ext failed rfl, deployed.2⟩
  · have gone : (Destroying.destroyAndConfirm service q.settings.wait .never d
        { idleWorld with machines }).1.isOk = true := by decide +kernel
    rw [down] at gone
    cases gone

end Provisioner

end Testbed
