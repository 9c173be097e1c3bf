import Testbed.Proofs.Deployment.Memory
import Testbed.Proofs.Provision.Teardown

/-!
Whether machines can be live whose subnet and quotas were given back.

Waiting, taking down and retrying never give a stake back before the record of the deployment says that
every resource is destroyed, and records are accurate.  There is one gap, in creating: when it stops
midway and cleaning up after it fails, resources stay live, but the error does not say so, and the stake
is given back.  `live_machines_keep_their_stake` says that this is the only one.

Resources are told apart by their names, so the names that are still to be drawn must be `Fresh` in the
backend.  They are at first, and `provision_fresh` and `Tended` say that they stay so.
-/

namespace Testbed

namespace Stake.Taken

variable {h : Stake} {s t : Store}

/-- A store from which something was taken is not as before. -/
theorem not_sameStock (taken : h.Taken s t) : ¬ s.SameStock t := by
  intro same
  apply taken.fresh
  rw [← same.members]
  exact (taken.members _ _).2 (.inl ⟨rfl, rfl⟩)

end Stake.Taken

open Memory (Live Recorded Interrupted)

/-- Nothing is live under a name that is still to be drawn. -/
def World.Fresh (w : World Memory) : Prop := ∀ n, w.session.tokens < n → ¬ Live (token n) w.machines

namespace World.Fresh

variable {v w : World Memory}

/-- All names are fresh as long as nothing was created. -/
theorem of_empty (empty : w.machines.observations = .empty) : w.Fresh := by
  intro n _ live
  rw [Live, Memory.contains, empty] at live
  cases live

/-- Names stay fresh when nothing becomes live but what was drawn in the meantime. -/
theorem later (fresh : w.Fresh) (since : w.session.tokens ≤ v.session.tokens)
    (adds : ∀ id, Live id v.machines → Live id w.machines ∨
      ∃ n ≤ v.session.tokens, id = token n) : v.Fresh := by
  intro n undrawn live
  rcases adds _ live with live | ⟨m, drawn, same⟩
  · exact fresh n (Nat.lt_of_le_of_lt since undrawn) live
  · have := token_injective same
    omega

/-- The store has no part in whether a world is fresh. -/
theorem setStore (fresh : w.Fresh) (s : Store) : (w.setStore s).Fresh := fresh

/-- Names stay fresh while time passes and nothing becomes live. -/
theorem passes (fresh : w.Fresh) (passes : w.session.Passes v.session)
    (fewer : Reconciler.Fewer Live w.machines v.machines) : v.Fresh :=
  fresh.later (Nat.le_of_eq passes.tokens.symm) fun id live => .inl (fewer id live)

end World.Fresh

namespace Provisioner

/-! ### What an attempt asks of the backend -/

/-- The network of an attempt and the deployment that it asks for, if it comes that far. -/
def asked? {σ : Type} (p : Provisioner σ) (run : RunContext) (request : ProvisionRequest)
    (signal : Signal) (w : World σ) : Option (Network × DeploymentTemplate) :=
  match p.equip? run request signal w with
  | some (network, u) =>
    (p.order? run request network u.session.tokens).map fun order => (network, order.1.deployment)
  | none => none

/-- The resources that an attempt orders have distinct names, all drawn since it began. -/
theorem order?_names {σ : Type} {p : Provisioner σ} {run : RunContext} {request : ProvisionRequest}
    {signal : Signal} {w u : World σ} {network : Network} {placement : Placement} {last : Nat}
    (equipped : p.equip? run request signal w = some (network, u))
    (ordered : p.order? run request network u.session.tokens = some (placement, last)) :
    placement.deployment.resourceIds.Nodup ∧ w.session.tokens ≤ last ∧
      ∀ id ∈ placement.deployment.resourceIds, ∃ n, w.session.tokens < n ∧ n ≤ last ∧ id = token n := by
  obtain ⟨-, -, tokens, named⟩ := equip?_eq_some equipped
  obtain ⟨intent, planned, built⟩ := order?_eq_some ordered
  obtain ⟨-, kept, -⟩ := ProvisionSettings.build_eq_ok built
  obtain ⟨since, counts, drawn⟩ := ProvisionSettings.build_drawn built
  have first : placement.deployment.network.identifier.id = token (w.session.tokens + 1) := by
    rw [kept, network_of_plan planned, named]
  -- The network has the first token of the attempt, and the machines have later ones.
  have later : ∀ n ∈ counts, w.session.tokens + 1 < n ∧ n ≤ last := by
    intro n mem
    have := drawn.between n mem
    omega
  rw [DeploymentTemplate.resourceIds, first]
  refine ⟨List.nodup_cons.2 ⟨fun mem => ?_, drawn.nodup⟩, by omega, fun id mem => ?_⟩
  · rw [drawn.names] at mem
    obtain ⟨n, listed, same⟩ := List.mem_map.1 mem
    have := later n listed
    have := token_injective same
    omega
  · rcases List.mem_cons.1 mem with rfl | mem
    · exact ⟨_, Nat.lt_succ_self _, by omega, rfl⟩
    · rw [drawn.names] at mem
      obtain ⟨n, listed, rfl⟩ := List.mem_map.1 mem
      obtain ⟨after, upTo⟩ := later n listed
      exact ⟨n, Nat.lt_of_succ_lt after, upTo, rfl⟩

/-! ### Deploying and waiting -/

variable {p : Provisioner Memory} {setups : ByTarget (Nat × (VmTemplate → VmTemplate))}

/-- The provisioner over machines that are only remembered. -/
def onMemory (p : Provisioner Memory) (setups : ByTarget (Nat × (VmTemplate → VmTemplate))) :
    Provisioner Memory :=
  p.withProviders ⟨setups.docker.map Memory.provider, setups.yandexCloud.map Memory.provider⟩

/-- A target has a service exactly if something was set up for it. -/
theorem service_onMemory (p : Provisioner Memory)
    (setups : ByTarget (Nat × (VmTemplate → VmTemplate))) (target : Target) :
    (p.onMemory setups).service target =
      match setups.get? target with
      | some setup => .ok (Memory.provider setup).service
      | none => .error (.unsupportedTarget target) := by
  rw [onMemory, service_withProviders]
  cases target
  · cases none : setups.docker <;> simp [ByTarget.get?, none]
  · cases none : setups.yandexCloud <;> simp [ByTarget.get?, none]

/-- Services on remembered machines keep records. -/
theorem keeps_of_service {target : Target} {service : DeploymentService Memory}
    (supported : (p.onMemory setups).service target = .ok service) (ids : List String) :
    service.Keeps (Recorded ids) (Reconciler.Fewer Live) := by
  rw [service_onMemory] at supported
  split at supported
  · next setup _ =>
      obtain rfl := Except.ok.inj supported
      exact Memory.keeps_recorded setup ids
  · cases supported

/-- How creating goes wrong without anybody being told: a backend is there, and it is interrupted. -/
def Gap (setups : ByTarget (Nat × (VmTemplate → VmTemplate))) (target : Target)
    (t : DeploymentTemplate) (m : Memory) : Prop :=
  (setups.get? target).isSome = true ∧ Interrupted t.resourceIds.length m

/-- Deploying ends with a record of what was created; or with an error that says that machines may be
live; or with one that does not, and then they are live exactly in the gap. -/
theorem deploy_live (p : Provisioner Memory) (setups : ByTarget (Nat × (VmTemplate → VmTemplate)))
    {placement : Placement} {w : World Memory} (distinct : placement.deployment.resourceIds.Nodup)
    (unknown : ∀ id ∈ placement.deployment.resourceIds, ¬ Live id w.machines) :
    let t := placement.deployment
    match (p.onMemory setups).deploy placement w with
    | (.ok deployed, v) => Recorded t.resourceIds deployed.deployment v.machines ∧
      (setups.get? t.identifier.target).isSome = true ∧ ¬ Gap setups t.identifier.target t w.machines
    | (.error error, v) =>
      (error.isCompensation = true ∧ ¬ Gap setups t.identifier.target t w.machines) ∨
      (error.isCompensation = false ∧ ((∃ id ∈ t.resourceIds, Live id v.machines) ↔
        Gap setups t.identifier.target t w.machines)) := by
  intro t
  rcases (p.onMemory setups).deploy_cases placement w with
    ⟨error, unsupported, same⟩ | ⟨service, supported, ending⟩
  · rw [same]
    refine .inr ⟨rfl, ?_, ?_⟩
    · rintro ⟨id, mem, live⟩
      exact absurd live (unknown id mem)
    · rintro ⟨there, -⟩
      obtain ⟨setup, found⟩ := Option.isSome_iff_exists.1 there
      simp [service_onMemory, t, found] at unsupported
  · have keeps := keeps_of_service supported t.resourceIds
    rw [service_onMemory] at supported
    split at supported
    · next setup found =>
        obtain rfl := Except.ok.inj supported
        have gap : Gap setups t.identifier.target t w.machines ↔
            Interrupted t.resourceIds.length w.machines := by simp [Gap, t, found]
        rw [gap]
        rcases Memory.create_deployment setup w.clock.stamp distinct unknown with
          ⟨d, m, created, recorded, whole⟩ | ⟨error, m, created, left⟩
        · rcases ending with ⟨error, m', failed, -⟩ | ⟨d', m', created', ending⟩
          · simp [created] at failed
          · obtain ⟨rfl, rfl⟩ : d = d' ∧ m = m' := by simpa using created.symm.trans created'
            rcases ending with ⟨items, same⟩ | ⟨error, result, same, down, plain⟩
            · rw [same]
              exact ⟨recorded, by simp [t, found], whole⟩
            · rw [same]
              have ended := Destroying.ended_of_destroyAndConfirm keeps down recorded
              cases said : error.isCompensation with
              | true => exact .inl ⟨said, whole⟩
              | false =>
                  refine .inr ⟨said, fun live => ?_, fun interrupted => absurd interrupted whole⟩
                  exact absurd live (ended.good.not_live (ended.gone (plain.1 said)))
        · rcases ending with ⟨error', m', failed, same⟩ | ⟨d', m', created', -⟩
          · obtain ⟨rfl, rfl⟩ : error = error' ∧ m = m' := by simpa using created.symm.trans failed
            rw [same]
            exact .inr ⟨rfl, left⟩
          · simp [created] at created'
    · cases supported

/-- Deploying makes nothing live but the resources of the deployment, and keeps an accurate record. -/
theorem deploy_adds {placement : Placement} {v w : World Memory}
    {result : Except ProvisionError DeployedPlacement}
    (h : (p.onMemory setups).deploy placement w = (result, v)) :
    (∀ id, Live id v.machines → id ∈ placement.deployment.resourceIds ∨ Live id w.machines) ∧
      ∀ deployed, result = .ok deployed → deployed.deployment.Accurate Live v.machines := by
  rcases (p.onMemory setups).deploy_cases placement w with
    ⟨error, -, same⟩ | ⟨service, supported, ending⟩
  · obtain ⟨rfl, rfl⟩ := Prod.mk.inj (same.symm.trans h)
    exact ⟨fun _ => .inr, by simp⟩
  · rw [service_onMemory] at supported
    split at supported
    · next setup _ =>
        obtain rfl := Except.ok.inj supported
        obtain ⟨adds, accurate⟩ :=
          Memory.create_adds setup placement.deployment w.clock.stamp w.machines
        rcases ending with ⟨error, m, failed, same⟩ | ⟨d, m, created, ending⟩
        · rw [failed] at adds
          obtain ⟨rfl, rfl⟩ := Prod.mk.inj (same.symm.trans h)
          exact ⟨adds, by simp⟩
        · rw [created] at adds accurate
          have recorded := accurate d rfl
          rcases ending with ⟨items, same⟩ | ⟨error, result, same, down, -⟩
          · obtain ⟨rfl, rfl⟩ := Prod.mk.inj (same.symm.trans h)
            refine ⟨adds, fun deployed given => ?_⟩
            obtain rfl := Except.ok.inj given
            exact recorded
          · obtain ⟨rfl, rfl⟩ := Prod.mk.inj (same.symm.trans h)
            have keeps := (Memory.provider setup).keeps_accurate Memory.honest
            have ended := Destroying.ended_of_destroyAndConfirm keeps down recorded
            exact ⟨fun id live => adds id (ended.later id live), by simp⟩
    · cases supported

end Provisioner

/-! ### Calls on one run -/

/-- What may happen to a run on remembered machines. -/
inductive RunCall where
  | teardown (signal : Signal)
  | abandon (primary : ProvisionError)
  | elapse (ms : Nat)
  /-- From now on calls fail in another way, and resources are ready at another observation. -/
  | inject (readyAfter createsLeft : Option Nat) (failingObserves failingDeletes : Nat)

namespace RunCall

/-- The run and the world after a call. -/
def perform (q : Provisioner Memory) (s : ProvisionedRun × World Memory) :
    RunCall → ProvisionedRun × World Memory
  | .teardown signal => (q.teardown signal s.1 s.2).2
  | .abandon primary => (q.abandon primary s.1 s.2).2
  | .elapse ms => (s.1, s.2.pause ms)
  | .inject readyAfter createsLeft failingObserves failingDeletes =>
    (s.1, { s.2 with machines :=
      { s.2.machines with readyAfter, createsLeft, failingObserves, failingDeletes } })

/-- The run and the world after several calls. -/
def performAll (q : Provisioner Memory) (calls : List RunCall) (s : ProvisionedRun × World Memory) :
    ProvisionedRun × World Memory := calls.foldl (perform q) s

end RunCall

/-- What holds of a run with the resources `ids`, and of the world, as long as only calls on the run are
made.  The stake was taken from the store `before`. -/
structure Tended (before : Store) (stake : Stake) (ids : List String)
    (s : ProvisionedRun × World Memory) : Prop where
  consistent : s.1.Consistent
  recorded : Recorded ids s.1.placement.deployment s.2.machines
  owned : s.1.stake = stake
  held : s.1.isReleased = false → stake.Taken before s.2.store
  fresh : s.2.Fresh

namespace Tended

variable {before : Store} {stake : Stake} {ids : List String} {s : ProvisionedRun × World Memory}

/-- As long as a resource of the run is live, its stake is taken. -/
theorem taken_of_live (tended : Tended before stake ids s) (live : ∃ id ∈ ids, Live id s.2.machines) :
    stake.Taken before s.2.store := by
  apply tended.held
  cases released : s.1.isReleased with
  | false => rfl
  | true =>
      have destroyed := tended.consistent.isReleased.symm.trans released
      exact absurd live (tended.recorded.not_live (tended.consistent.gone destroyed))

/-- Tearing down a run leaves it tended. -/
theorem teardown (tended : Tended before stake ids s) (p : Provisioner Memory)
    (setups : ByTarget (Nat × (VmTemplate → VmTemplate))) (signal : Signal) :
    Tended before stake ids ((p.onMemory setups).teardown signal s.1 s.2).2 := by
  have keeps : ∀ service, (p.onMemory setups).service
      s.1.placement.deployment.template.identifier.target = .ok service →
        service.Keeps (Recorded ids) (Reconciler.Fewer Live) :=
    fun service supported => Provisioner.keeps_of_service supported ids
  rcases Provisioner.teardown_cases tended.consistent keeps (fun _ _ live => live) signal
      tended.recorded with
    ⟨released, same⟩ | ⟨held, d, v, passes, later, recorded, gone, down⟩ |
      ⟨held, error, v, passes, later, down⟩
  · rw [same]
    exact tended
  · rw [down]
    exact ⟨.released gone, recorded, tended.owned, nofun,
      (tended.fresh.passes passes later).setStore _⟩
  · rw [down]
    refine ⟨tended.consistent, ⟨tended.recorded.names, fun r mem destroyed live => ?_⟩, tended.owned,
      fun _ => (tended.held held).trans_same passes.stock, tended.fresh.passes passes later⟩
    exact tended.recorded.accurate r mem destroyed (later _ live)

/-- Every call about a run leaves it tended. -/
theorem perform (tended : Tended before stake ids s) (p : Provisioner Memory)
    (setups : ByTarget (Nat × (VmTemplate → VmTemplate))) (c : RunCall) :
    Tended before stake ids (c.perform (p.onMemory setups) s) := by
  cases c with
  | teardown signal => exact tended.teardown p setups signal
  | abandon primary => exact tended.teardown p setups .never
  | elapse ms =>
      have passes := s.2.session.passes_pause ms
      exact ⟨tended.consistent, tended.recorded, tended.owned,
        fun h => (tended.held h).trans_same passes.stock, tended.fresh.passes passes fun _ live => live⟩
  | inject =>
      -- What is live does not depend on which calls fail.
      have accurate := fun r mem => tended.recorded.accurate r mem
      exact ⟨tended.consistent, ⟨tended.recorded.names, accurate⟩, tended.owned, tended.held,
        tended.fresh⟩

/-- A run is tended after any calls about it. -/
theorem performAll (tended : Tended before stake ids s) (p : Provisioner Memory)
    (setups : ByTarget (Nat × (VmTemplate → VmTemplate))) (calls : List RunCall) :
    Tended before stake ids (RunCall.performAll (p.onMemory setups) calls s) := by
  induction calls generalizing s with
  | nil => exact tended
  | cons c rest ih => exact ih (tended.perform p setups c)

end Tended

/-! ### Provisioning -/

namespace Provisioner

variable {p : Provisioner Memory} {setups : ByTarget (Nat × (VmTemplate → VmTemplate))}
  {run : RunContext} {request : ProvisionRequest} {signal : Signal} {w : World Memory}

namespace Ending

variable {stake : Stake} {placement : Placement} {start : World Memory}
  {outcome : Except ProvisionError ProvisionedRun × World Memory}

/-- An attempt keeps names fresh, since the machines it deploys have names that were drawn. -/
theorem fresh (ending : (p.onMemory setups).Ending run signal stake placement start outcome)
    (fresh : start.Fresh)
    (names : ∀ id ∈ placement.deployment.resourceIds, ∃ n ≤ start.session.tokens, id = token n) :
    outcome.2.Fresh := by
  have deploying : ∀ {result v}, (p.onMemory setups).deploy placement start = (result, v) →
      v.Fresh := by
    intro result v deployment
    have drawn := (passes_of_deploy deployment).tokens
    apply fresh.later (Nat.le_of_eq drawn.symm)
    intro id live
    rcases (deploy_adds deployment).1 id live with mem | live
    · exact .inr (drawn ▸ names id mem)
    · exact .inl live
  have waiting : ∀ {deployed v service result x},
      (p.onMemory setups).deploy placement start = (.ok deployed, v) →
      (p.onMemory setups).service run.target = .ok service →
      (p.onMemory setups).awaitReady service signal deployed.deployment v = (result, x) →
      x.Fresh ∧ Recorded deployed.deployment.resourceIds deployed.deployment x.machines := by
    intro deployed v service result x deployment supported awaited
    have accurate := (deploy_adds deployment).2 deployed rfl
    obtain ⟨recorded, fewer, -⟩ :=
      awaitReady_keeps (keeps_of_service supported _) awaited ⟨rfl, accurate⟩
    exact ⟨(deploying deployment).passes (passes_of_awaitReady awaited) fewer, recorded⟩
  cases ending with
  | undeployed deployment => exact (deploying deployment).setStore _
  | stranded deployment => exact deploying deployment
  | unwatched deployment => exact (deploying deployment).setStore _
  | unready deployment supported awaited plain down =>
      obtain ⟨fresh, recorded⟩ := waiting deployment supported awaited
      have ended :=
        Destroying.ended_of_destroyAndConfirm (keeps_of_service supported _) down recorded
      exact (fresh.passes ended.passes ended.later).setStore _
  | abandoned deployment supported awaited standing =>
      obtain ⟨fresh, recorded⟩ := waiting deployment supported awaited
      have ended :=
        Destroying.ended_of_destroyAndConfirm (keeps_of_service supported _) standing recorded
      exact fresh.passes ended.passes ended.later
  | ready deployment supported awaited => exact (waiting deployment supported awaited).1

/-- An attempt that deploys new machines either provides a run that holds the stake and has a record of
its resources; or it fails, and then resources are live without the stake exactly in the gap. -/
theorem live (ending : (p.onMemory setups).Ending run signal stake placement start outcome)
    (distinct : placement.deployment.resourceIds.Nodup)
    (unknown : ∀ id ∈ placement.deployment.resourceIds, ¬ Live id start.machines)
    (target : placement.deployment.identifier.target = run.target)
    (network : placement.network = stake.network) {before : Store}
    (taken : stake.Taken before start.store) :
    let t := placement.deployment
    (∃ r v, outcome = (.ok r, v) ∧ r.Consistent ∧
      Recorded t.resourceIds r.placement.deployment v.machines ∧ r.stake = stake ∧
      stake.Taken before v.store) ∨
    ∃ error v, outcome = (.error error, v) ∧
      (((∃ id ∈ t.resourceIds, Live id v.machines) ∧ ¬ stake.Taken before v.store) ↔
        Gap setups run.target t start.machines) := by
  intro t
  have live := deploy_live p setups distinct unknown
  rw [← target]
  have stands : ∀ {result v}, (p.onMemory setups).deploy placement start = (result, v) →
      stake.Taken before v.store :=
    fun deployment => taken.trans_same (passes_of_deploy deployment).stock
  cases ending with
  | @undeployed error v deployment plain =>
      rw [deployment] at live
      -- What is given back is given back into a store whose stock is the one at the taking.
      have returned : ¬ stake.Taken before (v.setStore (stake.giveBack v.store)).store :=
        fun still => still.not_sameStock (stands deployment).giveBack
      rcases live with ⟨said, -⟩ | ⟨-, left⟩
      · simp [plain] at said
      · exact .inr ⟨error, _, rfl, (and_iff_left returned).trans left⟩
  | stranded deployment said cleanup =>
      rw [deployment] at live
      refine .inr ⟨_, _, rfl, fun left => absurd (stands deployment) left.2, fun gap => ?_⟩
      rcases live with ⟨-, noGap⟩ | ⟨plain, -⟩
      · exact absurd gap noGap
      · simp [said] at plain
  | unwatched deployment unsupported =>
      rw [deployment] at live
      obtain ⟨setup, found⟩ := Option.isSome_iff_exists.1 live.2.1
      rw [target] at found
      simp [service_onMemory, found] at unsupported
  | unready deployment supported awaited plain down =>
      rw [deployment] at live
      obtain ⟨recorded, -, noGap⟩ := live
      have keeps := keeps_of_service supported t.resourceIds
      obtain ⟨still, -⟩ := awaitReady_keeps keeps awaited recorded
      have ended := Destroying.ended_of_destroyAndConfirm keeps down still
      refine .inr ⟨_, _, rfl, fun left => ?_, fun gap => absurd gap noGap⟩
      exact absurd left.1 (ended.good.not_live (ended.gone rfl))
  | abandoned deployment supported awaited standing cleanup =>
      rw [deployment] at live
      have taken := (stands deployment).trans_same (passes_of_awaitReady awaited).stock
      have taken := taken.trans_same (Destroying.passes_of_destroyAndConfirm standing).stock
      exact .inr ⟨_, _, rfl, fun left => absurd taken left.2, fun gap => absurd gap live.2.2⟩
  | ready deployment supported awaited same seen =>
      rw [deployment] at live
      obtain ⟨still, -, watched⟩ :=
        awaitReady_keeps (keeps_of_service supported t.resourceIds) awaited live.1
      refine .inl ⟨_, _, rfl, .new .., ?_, ?_, ?_⟩
      · rcases seen with mem | unseen
        · exact watched _ rfl _ mem
        · exact unseen ▸ still
      · have network := (same.trans (network_of_deploy deployment)).trans network
        simp only [ProvisionedRun.stake, ProvisionedRun.new, network]
      · exact (stands deployment).trans_same (passes_of_awaitReady awaited).stock

end Ending

/-- Provisioning keeps the names fresh that it does not draw. -/
theorem provision_fresh (p : Provisioner Memory)
    (setups : ByTarget (Nat × (VmTemplate → VmTemplate))) (run : RunContext)
    (request : ProvisionRequest) (signal : Signal) {w : World Memory} (fresh : w.Fresh) :
    ((p.onMemory setups).provision run request signal w).2.Fresh := by
  cases equipped : (p.onMemory setups).equip? run request signal w with
  | none =>
      obtain ⟨error, session, provisioned, -, -, since⟩ := provision_of_equip?_none equipped
      rw [provisioned]
      exact fresh.later since fun _ => .inl
  | some equipment =>
      obtain ⟨network, u⟩ := equipment
      obtain ⟨-, machines, tokens, -⟩ := equip?_eq_some equipped
      cases ordered : (p.onMemory setups).order? run request network u.session.tokens with
      | none =>
          obtain ⟨error, failed, -⟩ := provision_of_order?_none equipped ordered
          rw [failed]
          exact fresh.later (Nat.le.intro tokens.symm) fun id live => .inl (machines ▸ live)
      | some order =>
          obtain ⟨placement, last⟩ := order
          obtain ⟨-, since, names⟩ := order?_names equipped ordered
          apply (provision_ending equipped ordered).fresh
          · exact fresh.later since fun id live => .inl (machines ▸ live)
          · intro id mem
            obtain ⟨n, -, upTo, same⟩ := names id mem
            exact ⟨n, upTo, same⟩

/-- An attempt that asks nothing of the backend fails and leaves it as it is. -/
theorem provision_unasked {σ : Type} {p : Provisioner σ} {w : World σ}
    (h : p.asked? run request signal w = none) :
    ∃ error v, p.provision run request signal w = (.error error, v) ∧ v.machines = w.machines := by
  rw [asked?] at h
  split at h
  · next network u equipped =>
      obtain ⟨-, machines, -, -⟩ := equip?_eq_some equipped
      obtain ⟨error, failed, -⟩ := provision_of_order?_none equipped (Option.map_eq_none_iff.1 h)
      exact ⟨error, _, failed, machines⟩
  · next unequipped =>
      obtain ⟨error, session, provisioned, -⟩ := provision_of_equip?_none unequipped
      exact ⟨error, _, provisioned, rfl⟩

/-- An attempt that asks for a deployment either provides a run, which can be tended from then on; or it
fails, and then machines are live without their stake exactly in the gap. -/
theorem provision_live {network : Network} {t : DeploymentTemplate}
    (asked : (p.onMemory setups).asked? run request signal w = some (network, t))
    (fresh : w.Fresh) :
    let stake := (p.onMemory setups).stakeOf run request network
    (∃ r v, (p.onMemory setups).provision run request signal w = (.ok r, v) ∧
      Tended w.store stake t.resourceIds (r, v)) ∨
    ∃ error v, (p.onMemory setups).provision run request signal w = (.error error, v) ∧
      (((∃ id ∈ t.resourceIds, Live id v.machines) ∧ ¬ stake.Taken w.store v.store) ↔
        Gap setups run.target t w.machines) := by
  intro stake
  rw [asked?] at asked
  split at asked
  · next network' u equipped =>
      obtain ⟨⟨placement, last⟩, ordered, same⟩ := Option.map_eq_some_iff.1 asked
      obtain ⟨rfl, rfl⟩ : network' = network ∧ placement.deployment = t := by simpa using same
      obtain ⟨distinct, -, names⟩ := order?_names equipped ordered
      obtain ⟨placed, target⟩ := order?_placed ordered
      obtain ⟨taken, machines, -, -⟩ := equip?_eq_some equipped
      have unknown : ∀ id ∈ placement.deployment.resourceIds, ¬ Live id u.machines := by
        intro id mem
        obtain ⟨n, later, -, rfl⟩ := names id mem
        exact machines ▸ fresh n later
      have freshAfter := provision_fresh p setups run request signal fresh
      rcases (provision_ending equipped ordered).live distinct unknown target placed taken with
        ⟨r, v, provisioned, consistent, recorded, owned, held⟩ | ⟨error, v, failed, gap⟩
      · rw [provisioned] at freshAfter
        exact .inl ⟨r, v, provisioned, consistent, recorded, owned, fun _ => held, freshAfter⟩
      · exact .inr ⟨error, v, failed, machines ▸ gap⟩
  · cases asked

/-- While a resource of a run's deployment is live, the stake of the run is taken; with one exception.

An attempt that asks nothing of the backend fails.  If another one fails, resources are live without
their stake exactly if creating the deployment stopped midway and cleaning up after it failed.  If it
succeeds, then after any calls on the run, with whatever failures of the backend, the stake is taken as
long as a resource is live. -/
theorem live_machines_keep_their_stake (p : Provisioner Memory)
    (setups : ByTarget (Nat × (VmTemplate → VmTemplate))) (run : RunContext)
    (request : ProvisionRequest) (signal : Signal) (w : World Memory)
    (fresh : w.Fresh) :
    let q := p.onMemory setups
    match q.asked? run request signal w, q.provision run request signal w with
    | none, (result, v) => (∃ error, result = .error error) ∧ v.machines = w.machines
    | some (network, t), (.error _, v) =>
      ((∃ id ∈ t.resourceIds, Live id v.machines) ∧
          ¬ (q.stakeOf run request network).Taken w.store v.store) ↔
        Gap setups run.target t w.machines
    | some (network, t), (.ok r, v) => ∀ calls,
      let s := RunCall.performAll q calls (r, v)
      (∃ id ∈ t.resourceIds, Live id s.2.machines) →
        (q.stakeOf run request network).Taken w.store s.2.store := by
  intro q
  cases asked : q.asked? run request signal w with
  | none =>
      obtain ⟨error, v, provisioned, same⟩ := provision_unasked asked
      rw [provisioned]
      exact ⟨⟨error, rfl⟩, same⟩
  | some order =>
      obtain ⟨network, t⟩ := order
      rcases provision_live asked fresh with ⟨r, v, provisioned, tended⟩ | ⟨error, v, provisioned, gap⟩
      · rw [provisioned]
        exact fun calls live => (tended.performAll p setups calls).taken_of_live live
      · rw [provisioned]
        exact gap

/-! ### An interrupted creation -/

/-- A provisioner with settings as by default. -/
def sample : Provisioner Memory where
  locks := ⟨"benchgrid", ⟨30000⟩, ⟨10000⟩, ⟨100⟩, ⟨2000⟩, ⟨60000⟩⟩
  padding := 3
  services := ⟨none, none⟩
  settings := {
    network := .default
    machines := .default
    orchestration := .default
    cleanupAttempts := 3
    cleanupBackoff := ⟨2000⟩
    wait := ⟨⟨5000⟩, ⟨600000⟩, 4⟩ }

/-- One reconciler, on the local host. -/
def sampleSetups : ByTarget (Nat × (VmTemplate → VmTemplate)) := ⟨some (300000, id), none⟩

/-- A run against a database that exists already: a network and one machine. -/
def sampleRequest : ProvisionRequest := ⟨.existing "postgres://db", ⟨2, 4, 20⟩⟩

/-- A world without runs in which one more creation succeeds and the next deletion fails. -/
def haltingWorld : World Memory :=
  ⟨.start ⟨0, 0, true⟩ (Ledger.init Config.default.quotas.toLimits .empty),
    { Memory.new (some 1) with createsLeft := some 1, failingDeletes := 1 }⟩

/-- The network of the run is live, and neither a subnet nor a quota is taken. -/
theorem stake_lost_by_interrupted_creation :
    let q := sample.onMemory sampleSetups
    let after := (q.provision ⟨"run1", .docker⟩ sampleRequest .never haltingWorld)
    after.1.isOk = false ∧
      (q.asked? ⟨"run1", .docker⟩ sampleRequest .never haltingWorld).map
        (fun asked => asked.2.resourceIds.filter after.2.machines.contains) = some [token 1] ∧
      after.2.store.sets = .empty ∧ after.2.store.counters = haltingWorld.store.counters := by
  decide +kernel

/-- Creation can be interrupted, and then a stake is lost. -/
theorem gap_of_interrupted_creation :
    let q := sample.onMemory sampleSetups
    ∃ network t error v,
      q.asked? ⟨"run1", .docker⟩ sampleRequest .never haltingWorld = some (network, t) ∧
        q.provision ⟨"run1", .docker⟩ sampleRequest .never haltingWorld = (.error error, v) ∧
        (∃ id ∈ t.resourceIds, Live id v.machines) ∧
        ¬ (q.stakeOf ⟨"run1", .docker⟩ sampleRequest network).Taken haltingWorld.store v.store := by
  dsimp only
  have main := live_machines_keep_their_stake sample sampleSetups ⟨"run1", .docker⟩ sampleRequest
    .never haltingWorld (.of_empty rfl)
  have size : ((sample.onMemory sampleSetups).asked? ⟨"run1", .docker⟩ sampleRequest .never
      haltingWorld).map (·.2.resourceIds.length) = some 2 := by decide +kernel
  have failed : ((sample.onMemory sampleSetups).provision ⟨"run1", .docker⟩ sampleRequest .never
      haltingWorld).1.isOk = false := by decide +kernel
  dsimp only at main
  split at main
  · next unasked _ => simp [unasked] at size
  · next network t error v asked provisioned =>
      have two : t.resourceIds.length = 2 := by simpa [asked] using size
      have interrupted : Interrupted t.resourceIds.length haltingWorld.machines :=
        ⟨⟨1, rfl, Nat.one_pos, by omega⟩, Nat.one_pos⟩
      obtain ⟨live, given⟩ := main.2 ⟨rfl, interrupted⟩
      exact ⟨network, t, error, v, asked, provisioned, live, given⟩
  · next provisioned =>
      rw [provisioned] at failed
      cases failed

end Provisioner

end Testbed
