import Testbed.Proofs.Deployment.Readiness

/-!
What the reconciler keeps, whatever its backend answers, and what it keeps when the backend is honest.

A deployment has the same resources in every pass and deletion.  A backend is `Honest` about what it keeps
when only creating adds to it, and when it does not know a resource that it says it does not know.  On
such a backend a resource that is recorded as destroyed is not live any more.
-/

namespace Testbed

variable {σ τ : Type}

/-- What names the resources that a template asks for to the backend: the network and the machines. -/
def DeploymentTemplate.resourceIds (t : DeploymentTemplate) : List String :=
  t.network.identifier.id :: t.vms.map (·.identifier.id)

namespace Deployment

/-- What names the resources of a deployment to the backend. -/
def resourceIds (d : Deployment) : List String := d.resources.map Resource.id

/-- A new deployment has the resources that its template asks for. -/
theorem resourceIds_new (t : DeploymentTemplate) (stamps : Stamps) :
    (new t stamps).resourceIds = t.resourceIds := by
  have machines : ((new t stamps).vms.map Vm.resource).map Resource.id = t.vms.map (·.identifier.id) := by
    apply List.ext_getElem
    · simp [new]
    · simp [new, Resource.new]
  rw [resourceIds, resources, List.map_cons, machines]
  rfl

/-- A new deployment has a machine for each that its template asks for. -/
theorem exists_machine {t : DeploymentTemplate} (stamps : Stamps) {vm : VmTemplate} (mem : vm ∈ t.vms) :
    ∃ resource, ⟨vm, resource⟩ ∈ (new t stamps).vms := by
  obtain ⟨i, inside, rfl⟩ := List.getElem_of_mem mem
  exact ⟨_, List.mem_mapIdx.2 ⟨i, inside, rfl⟩⟩

/-- All resources of a new deployment are being created, each since a reading of the clock. -/
theorem creating_new {t : DeploymentTemplate} {stamps : Stamps} {r : Resource}
    (mem : r ∈ (new t stamps).resources) : r.status = .creating ∧ ∃ i, r.updatedAt = stamps.nth i := by
  rcases List.mem_cons.1 mem with rfl | mem
  · exact ⟨rfl, 0, rfl⟩
  · obtain ⟨vm, listed, rfl⟩ := List.mem_map.1 mem
    obtain ⟨i, _, rfl⟩ := List.mem_mapIdx.1 listed
    exact ⟨rfl, i + 1, rfl⟩

/-- A visit changes the network first and then the machines in their order. -/
theorem resources_visit (change : Nat → Resource → τ → Resource × τ) (d : Deployment) (t : τ) :
    (d.visit change t).1.resources =
      (change 0 d.network t).1 :: (visitVms change 1 d.vms (change 0 d.network t).2).1.map Vm.resource := rfl

/-- Resources keep their names when none of them is renamed. -/
theorem resourceIds_visit {change : Nat → Resource → τ → Resource × τ}
    (named : ∀ i r t, (change i r t).1.id = r.id) (d : Deployment) (t : τ) :
    (d.visit change t).1.resourceIds = d.resourceIds := by
  have machines : ∀ (vms : List Vm) (i : Nat) (t : τ),
      ((visitVms change i vms t).1.map Vm.resource).map Resource.id =
        (vms.map Vm.resource).map Resource.id := by
    intro vms
    induction vms with
    | nil => exact fun _ _ => rfl
    | cons vm rest ih =>
        intro i t
        simp only [visitVms, List.map_cons, named, ih]
  rw [resourceIds, resources_visit, resourceIds, resources, List.map_cons, List.map_cons, named,
    machines]

/-- A visit leaves the templates of the machines alone. -/
theorem vmTemplates_visit (change : Nat → Resource → τ → Resource × τ) (d : Deployment) (t : τ) :
    (d.visit change t).1.vms.map Vm.template = d.vms.map Vm.template := by
  have machines : ∀ (vms : List Vm) (i : Nat) (t : τ),
      (visitVms change i vms t).1.map Vm.template = vms.map Vm.template := by
    intro vms
    induction vms with
    | nil => exact fun _ _ => rfl
    | cons vm rest ih => exact fun i t => congrArg (vm.template :: ·) (ih _ _)
  exact machines d.vms _ _

/-- Changing resources one after the other leads all of them to where changing one of them leads it, as
long as the others do not mind. -/
theorem visit_leads (change : Nat → Resource → τ → Resource × τ) (Before After : Resource → τ → Prop)
    (Later : τ → τ → Prop) (refl : ∀ t, Later t t)
    (trans : ∀ t u v, Later t u → Later u v → Later t v)
    (waits : ∀ r t u, Before r t → Later t u → Before r u)
    (stable : ∀ r t u, After r t → Later t u → After r u)
    (leads : ∀ i r t, Before r t → After (change i r t).1 (change i r t).2 ∧ Later t (change i r t).2)
    {d : Deployment} {t : τ} (before : ∀ r ∈ d.resources, Before r t) :
    (∀ r ∈ (d.visit change t).1.resources, After r (d.visit change t).2) ∧
      Later t (d.visit change t).2 := by
  have machines : ∀ (vms : List Vm) (i : Nat) (t : τ), (∀ vm ∈ vms, Before vm.resource t) →
      (∀ vm ∈ (visitVms change i vms t).1, After vm.resource (visitVms change i vms t).2) ∧
        Later t (visitVms change i vms t).2 := by
    intro vms
    induction vms with
    | nil => exact fun i t _ => ⟨by simp [visitVms], refl t⟩
    | cons vm rest ih =>
        intro i t before
        obtain ⟨changed, first⟩ := leads i _ _ (before vm (by simp))
        obtain ⟨others, second⟩ := ih (i + 1) (change i vm.resource t).2 fun other mem =>
          waits _ _ _ (before other (by simp [mem])) first
        refine ⟨fun other mem => ?_, trans _ _ _ first second⟩
        rcases List.mem_cons.1 mem with rfl | mem
        · exact stable _ _ _ changed second
        · exact others other mem
  have listed : ∀ vm ∈ d.vms, vm.resource ∈ d.resources := fun vm mem =>
    List.mem_cons_of_mem _ (List.mem_map_of_mem mem)
  obtain ⟨changed, first⟩ := leads 0 _ _ (before d.network (List.mem_cons_self ..))
  obtain ⟨others, second⟩ := machines d.vms 1 (change 0 d.network t).2 fun vm mem =>
    waits _ _ _ (before vm.resource (listed vm mem)) first
  refine ⟨fun r mem => ?_, trans _ _ _ first second⟩
  rw [resources_visit] at mem
  rcases List.mem_cons.1 mem with rfl | mem
  · exact stable _ _ _ changed second
  · obtain ⟨vm, listed, rfl⟩ := List.mem_map.1 mem
    exact others vm listed

/-- Changing resources one after the other keeps what changing one of them keeps. -/
theorem visit_keeps (Good : Resource → τ → Prop) (Later : τ → τ → Prop)
    {change : Nat → Resource → τ → Resource × τ} (refl : ∀ t, Later t t)
    (trans : ∀ t u v, Later t u → Later u v → Later t v)
    (stable : ∀ r t u, Good r t → Later t u → Good r u)
    (keeps : ∀ i r t, Good r t → Good (change i r t).1 (change i r t).2 ∧ Later t (change i r t).2)
    {d : Deployment} {t : τ} (good : ∀ r ∈ d.resources, Good r t) :
    (∀ r ∈ (d.visit change t).1.resources, Good r (d.visit change t).2) ∧
      Later t (d.visit change t).2 :=
  visit_leads change Good Good Later refl trans stable stable keeps good

end Deployment

namespace Reconciler

variable {b : Backend σ} {interval : Nat}

/-- Giving a resource up leaves its id. -/
theorem id_giveUp (r : Resource) (stamp : UInt64) (s : σ) : (giveUp b r stamp s).2.1.id = r.id := by
  rw [giveUp]
  split <;> rfl

theorem id_advance (r : Resource) (now stamp : UInt64) (s : σ) :
    (advance b interval r now stamp s).2.1.id = r.id := by
  rw [advance]
  split
  · rfl
  · split
    · exact id_giveUp r stamp s
    · rfl

theorem id_missing (r : Resource) (stamp : UInt64) : (missing r stamp).id = r.id := by
  rw [missing]
  split <;> rfl

/-- Looking at a resource does not rename it. -/
theorem id_reconcile (b : Backend σ) (interval : Nat) (r : Resource) (now stamp : UInt64) (s : σ) :
    (reconcile b interval r now stamp s).2.1.id = r.id := by
  rw [reconcile]
  split
  · rfl
  · split
    · next o t _ => exact id_advance (observed r o) now stamp t
    · exact id_missing r stamp
    · rfl

theorem id_passOver (stamps : Stamps) (i : Nat) (r : Resource) (s : Option DeployError × σ) :
    (passOver b interval stamps i r s).1.id = r.id := by
  have same := id_reconcile b interval r (stamps.nth 0) (stamps.nth (i + 1)) s.2
  rw [passOver]
  split
  · next answer =>
      rw [answer] at same
      exact same
  · next answer =>
      rw [answer] at same
      exact same

/-- Asking for the deletion of a resource does not rename it. -/
theorem id_takeDown (stamps : Stamps) (i : Nat) (r : Resource) (s : Option DeployError × σ) :
    (takeDown b stamps i r s).1.id = r.id := by
  rw [takeDown]
  split
  · rfl
  · simp only
    split <;> rfl

end Reconciler

/-! ### Honest backends -/

/-- Only creating makes a resource live, and a resource that the backend says it does not know is not
live. -/
structure Backend.Honest (b : Backend σ) (live : String → σ → Prop) : Prop where
  observe : ∀ r s id, live id (b.observe r s).2 → live id s
  delete : ∀ r s id, live id (b.delete r s).2 → live id s
  unobserved : ∀ r s what, (b.observe r s).1 = .error (.notFound what) → ¬ live r.id (b.observe r s).2
  undeleted : ∀ r s what, (b.delete r s).1 = .error (.notFound what) → ¬ live r.id (b.delete r s).2

/-- A resource that is recorded as destroyed is not live. -/
def Resource.Accurate (live : String → σ → Prop) (r : Resource) (s : σ) : Prop :=
  r.status = .destroyed → ¬ live r.id s

/-- The record of a resource that is not destroyed promises nothing. -/
theorem Resource.accurate_of_ne {live : String → σ → Prop} {r : Resource} {s : σ}
    (standing : r.status ≠ .destroyed) : r.Accurate live s := fun destroyed => absurd destroyed standing

/-- The record of a deployment is accurate in all its resources. -/
def Deployment.Accurate (live : String → σ → Prop) (d : Deployment) (s : σ) : Prop :=
  ∀ r ∈ d.resources, r.Accurate live s

/-- The record of a new deployment is accurate, since it says that all resources are being created. -/
theorem Deployment.accurate_new (live : String → σ → Prop) (t : DeploymentTemplate) (stamps : Stamps)
    (s : σ) : (Deployment.new t stamps).Accurate live s := by
  intro r mem
  exact Resource.accurate_of_ne (by simp [(creating_new mem).1])

/-- No resource of a destroyed deployment is live. -/
theorem Deployment.Accurate.not_live {live : String → σ → Prop} {d : Deployment} {s : σ}
    (accurate : d.Accurate live s) (destroyed : d.isDestroyed = true) :
    ∀ id ∈ d.resourceIds, ¬ live id s := by
  intro id mem
  obtain ⟨r, listed, rfl⟩ := List.mem_map.1 mem
  have gone := List.all_eq_true.1 destroyed r listed
  exact accurate r listed (of_decide_eq_true gone)

namespace Reconciler

variable {b : Backend σ} {interval : Nat} {live : String → σ → Prop}

/-- Nothing becomes live. -/
def Fewer (live : String → σ → Prop) (s t : σ) : Prop := ∀ id, live id t → live id s

/-- Removing a resource leaves what deleting it leaves. -/
theorem state_remove (b : Backend σ) (r : Resource) (s : σ) : (b.remove r s).2 = (b.delete r s).2 := by
  rw [Backend.remove]
  split
  · next same => rw [same]
  · rfl

/-- Removing a resource brings nothing to life. -/
theorem remove_fewer (honest : b.Honest live) (r : Resource) (s : σ) :
    Fewer live s (b.remove r s).2 := by
  rw [state_remove]
  exact honest.delete r s

/-- Giving a resource up brings nothing to life and never says that it is destroyed while it is live. -/
theorem giveUp_keeps (honest : b.Honest live) (r : Resource) (stamp : UInt64) (s : σ) :
    (giveUp b r stamp s).2.1.Accurate live (giveUp b r stamp s).2.2 ∧
      Fewer live s (giveUp b r stamp s).2.2 := by
  rw [giveUp]
  split
  · exact ⟨Resource.accurate_of_ne nofun, remove_fewer honest _ s⟩
  · exact ⟨Resource.accurate_of_ne nofun, fun _ h => h⟩

/-- Going on with a resource brings nothing to life and leaves its record accurate. -/
theorem advance_keeps (honest : b.Honest live) (interval : Nat) {r : Resource} (now stamp : UInt64)
    {s : σ} (accurate : r.Accurate live s) :
    (advance b interval r now stamp s).2.1.Accurate live (advance b interval r now stamp s).2.2 ∧
      Fewer live s (advance b interval r now stamp s).2.2 := by
  rw [advance]
  split
  · exact ⟨Resource.accurate_of_ne nofun, fun _ h => h⟩
  · split
    · exact giveUp_keeps honest r stamp s
    · exact ⟨accurate, fun _ h => h⟩

/-- Looking at a resource keeps its record accurate, and makes nothing live. -/
theorem reconcile_keeps (honest : b.Honest live) (interval : Nat) {r : Resource} (now stamp : UInt64)
    {s : σ} (accurate : r.Accurate live s) :
    (reconcile b interval r now stamp s).2.1.Accurate live (reconcile b interval r now stamp s).2.2 ∧
      Fewer live s (reconcile b interval r now stamp s).2.2 := by
  have observed := honest.observe r s
  have unobserved := honest.unobserved r s
  rw [reconcile]
  split
  · exact ⟨accurate, fun _ h => h⟩
  · next alive =>
      split
      · next o t answer =>
          rw [answer] at observed
          obtain ⟨accurate, fewer⟩ := advance_keeps honest interval now stamp (s := t)
            (r := Reconciler.observed r o) (Resource.accurate_of_ne alive)
          exact ⟨accurate, fun id h => observed id (fewer id h)⟩
      · next what t answer =>
          rw [answer] at observed unobserved
          refine ⟨fun _ => ?_, observed⟩
          rw [id_missing]
          exact unobserved what rfl
      · next error t _ answer =>
          rw [answer] at observed
          exact ⟨Resource.accurate_of_ne alive, observed⟩

/-- Asking for the deletion of a resource keeps its record accurate, and makes nothing live. -/
theorem takeDown_keeps (honest : b.Honest live) {r : Resource} (stamps : Stamps) (i : Nat)
    {s : Option DeployError × σ} (accurate : r.Accurate live s.2) :
    (takeDown b stamps i r s).1.Accurate live (takeDown b stamps i r s).2.2 ∧
      Fewer live s.2 (takeDown b stamps i r s).2.2 := by
  have deleted := honest.delete (r.enter .destroying (stamps.nth (2 * i))) s.2
  have undeleted := honest.undeleted (r.enter .destroying (stamps.nth (2 * i))) s.2
  rw [takeDown]
  split
  · exact ⟨accurate, fun _ h => h⟩
  · simp only
    split
    · next answer =>
        rw [answer] at deleted
        exact ⟨Resource.accurate_of_ne nofun, deleted⟩
    · next what t answer =>
        rw [answer] at deleted undeleted
        exact ⟨fun _ => undeleted what rfl, deleted⟩
    · next answer =>
        rw [answer] at deleted
        exact ⟨Resource.accurate_of_ne nofun, deleted⟩

/-- Changing resources one after the other keeps records accurate when each change does. -/
theorem visit_keeps
    (change : Nat → Resource → Option DeployError × σ → Resource × Option DeployError × σ)
    (keeps : ∀ i r t, r.Accurate live t.2 →
      (change i r t).1.Accurate live (change i r t).2.2 ∧ Fewer live t.2 (change i r t).2.2)
    {d : Deployment} {s : σ} (accurate : d.Accurate live s) :
    (d.visit change (none, s)).1.Accurate live (d.visit change (none, s)).2.2 ∧
      Fewer live s (d.visit change (none, s)).2.2 :=
  Deployment.visit_keeps (fun r (t : Option DeployError × σ) => r.Accurate live t.2)
    (fun (t u : Option DeployError × σ) => Fewer live t.2 u.2)
    (fun _ _ h => h) (fun _ _ _ one two id h => one id (two id h))
    (fun _ _ _ accurate fewer gone h => accurate gone (fewer _ h)) keeps accurate

end Reconciler

/-! ### Services -/

/-- A reconciler on a backend.  It may hand deployments out with other templates of their machines than
it was asked for, so that machines seem to be missing. -/
structure Provider (σ : Type) where
  backend : Backend σ
  interval : Nat
  relabel : VmTemplate → VmTemplate

namespace Deployment

/-- A deployment with other templates of its machines. -/
def relabel (f : VmTemplate → VmTemplate) (d : Deployment) : Deployment :=
  { d with vms := d.vms.map fun vm => { vm with template := f vm.template } }

@[simp] theorem resources_relabel (f : VmTemplate → VmTemplate) (d : Deployment) :
    (d.relabel f).resources = d.resources := by
  simp [resources, relabel, Function.comp_def]

/-- Labels have no part in the accuracy of a record. -/
theorem Accurate.relabel {live : String → σ → Prop} {d : Deployment} {s : σ}
    (accurate : d.Accurate live s) (f : VmTemplate → VmTemplate) : (d.relabel f).Accurate live s := by
  rw [Accurate, resources_relabel]
  exact accurate

end Deployment

namespace Provider

/-- The service of a provider. -/
def service (provider : Provider σ) : DeploymentService σ :=
  let reconciler := Reconciler.service provider.backend provider.interval
  { reconciler with
    create := fun t stamps s =>
      let (result, s) := reconciler.create t stamps s
      (result.map (Deployment.relabel provider.relabel), s) }

/-- A provider keeps the resources of a deployment, whatever its backend answers. -/
theorem keeps_resourceIds (provider : Provider σ) (ids : List String) :
    provider.service.Keeps (fun d _ => d.resourceIds = ids) (fun _ _ => True) where
  refl _ := trivial
  trans _ _ := trivial
  stable same _ := same
  process stamps same :=
    ⟨(Deployment.resourceIds_visit (Reconciler.id_passOver stamps) _ _).trans same, trivial⟩
  destroy stamps same :=
    ⟨(Deployment.resourceIds_visit (Reconciler.id_takeDown stamps) _ _).trans same, trivial⟩

/-- A provider on an honest backend keeps records accurate, and makes nothing live but by creating. -/
theorem keeps_accurate (provider : Provider σ) {live : String → σ → Prop}
    (honest : provider.backend.Honest live) :
    provider.service.Keeps (Deployment.Accurate live) (Reconciler.Fewer live) where
  refl _ _ h := h
  trans one two id h := one id (two id h)
  stable accurate fewer r mem destroyed h := accurate r mem destroyed (fewer _ h)
  process stamps accurate := by
    refine Reconciler.visit_keeps (Reconciler.passOver provider.backend provider.interval stamps)
      (fun i r t accurate => ?_) accurate
    have after := Reconciler.reconcile_keeps honest provider.interval (stamps.nth 0) (stamps.nth (i + 1))
      accurate
    rw [Reconciler.passOver]
    split
    · next answer =>
        rw [answer] at after
        exact after
    · next answer =>
        rw [answer] at after
        exact after
  destroy stamps accurate :=
    Reconciler.visit_keeps (Reconciler.takeDown provider.backend stamps)
      (fun i _ _ accurate => Reconciler.takeDown_keeps honest stamps i accurate) accurate

end Provider

end Testbed
