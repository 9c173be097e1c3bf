import Testbed.Proofs.Deployment.Reconciler
import Testbed.Proofs.Provision.Lifecycle

/-!
What one call of `teardown` does to a run and to the world.

A run is `Consistent` when its three flags agree and its deployment is destroyed once they are set.  Every
run that was just provisioned is, and every call keeps it so.  For such a run a teardown does one of three
things: nothing, because the run is released already; the whole release, after the machines are gone; or
nothing but take time, with an error.
-/

namespace Testbed

variable {σ : Type}

/-! ### Services on providers -/

namespace Provisioner

/-- The provisioner with the services of some providers. -/
def withProviders (p : Provisioner σ) (providers : ByTarget (Provider σ)) : Provisioner σ :=
  { p with services :=
      ⟨providers.docker.map Provider.service, providers.yandexCloud.map Provider.service⟩ }

/-- A target has a service exactly if it has a provider. -/
theorem service_withProviders (p : Provisioner σ) (providers : ByTarget (Provider σ)) (target : Target) :
    (p.withProviders providers).service target =
      match providers.get? target with
      | some provider => .ok provider.service
      | none => .error (.unsupportedTarget target) := by
  cases target
  · cases none : providers.docker <;> simp [service, withProviders, ByTarget.get?, none]
  · cases none : providers.yandexCloud <;> simp [service, withProviders, ByTarget.get?, none]

/-- The services of a provisioner with providers are those of the providers. -/
theorem provider_of_service {p : Provisioner σ} {providers : ByTarget (Provider σ)} {target : Target}
    {service : DeploymentService σ} (h : (p.withProviders providers).service target = .ok service) :
    ∃ provider : Provider σ, service = provider.service := by
  rw [service_withProviders] at h
  split at h
  · next provider _ => exact ⟨provider, (Except.ok.inj h).symm⟩
  · cases h

end Provisioner

/-! ### Taking machines down -/

/-- What holds after the machines of a run were taken down in the world `w`, or after that has failed. -/
structure Downed (Good : Deployment → σ → Prop) (Later : σ → σ → Prop) (w : World σ)
    (result : Except ProvisionError Deployment × World σ) : Prop where
  passes : w.session.Passes result.2.session
  later : Later w.machines result.2.machines
  gone : ∀ d, result.1 = .ok d → Good d result.2.machines ∧ d.isDestroyed = true

namespace Provisioner

variable {p : Provisioner σ} {Good : Deployment → σ → Prop} {Later : σ → σ → Prop}

/-- A deletion leaves what its service keeps, and says it is done only if everything is gone. -/
theorem destroy_downed {service : DeploymentService σ} (keeps : service.Keeps Good Later)
    {d : Deployment} (supported : p.service d.template.identifier.target = .ok service)
    (signal : Signal) {w : World σ} (good : Good d w.machines) :
    Downed Good Later w (p.destroy signal d w) := by
  simp only [destroy, supported]
  rcases down : Destroying.destroyAndConfirm service p.settings.wait signal d w with ⟨result, d', v⟩
  have ended := Destroying.ended_of_destroyAndConfirm keeps down good
  cases result with
  | ok _ =>
      refine ⟨ended.passes, ended.later, fun found same => ?_⟩
      obtain rfl : d' = found := by simpa using same
      exact ⟨ended.good, ended.gone rfl⟩
  | error error => exact ⟨ended.passes, ended.later, by simp⟩

/-- Every retry begins with the same record of the deployment; it stays good while the backend moves on. -/
theorem withRetries_downed {service : DeploymentService σ} (keeps : service.Keeps Good Later)
    {d : Deployment} (supported : p.service d.template.identifier.target = .ok service)
    (signal : Signal) (backoff : Duration) (left : Nat) {w : World σ} (good : Good d w.machines) :
    Downed Good Later w (withRetries backoff (p.destroy signal d) left w) := by
  induction left generalizing w with
  | zero => exact destroy_downed keeps supported signal good
  | succ left ih =>
      have first := destroy_downed keeps supported signal good
      rw [withRetries]
      cases tried : p.destroy signal d w with
      | mk result v =>
          rw [tried] at first
          cases result with
          | ok d' => exact first
          | error error =>
              simp only
              split
              · have again := ih (w := v.pause backoff.ms) (keeps.stable good first.later)
                exact ⟨(first.passes.trans (v.session.passes_pause _)).trans again.passes,
                  keeps.trans first.later again.later, again.gone⟩
              · exact ⟨first.passes, first.later, by simp⟩

/-- Where nobody can take machines down, that is an error at once. -/
theorem withRetries_unsupported {d : Deployment} {error : DeployError}
    (unsupported : p.service d.template.identifier.target = .error error) (signal : Signal)
    (backoff : Duration) (left : Nat) (w : World σ) :
    withRetries backoff (p.destroy signal d) left w = (.error (.deploy error), w) := by
  have failed : p.destroy signal d w = (.error (.deploy error), w) := by simp only [destroy, unsupported]
  have kind : (ProvisionError.deploy error).isRetryable = false := by
    rw [service] at unsupported
    split at unsupported
    · cases unsupported
    · obtain rfl := Except.error.inj unsupported
      rfl
  cases left with
  | zero => exact failed
  | succ left => simp [withRetries, failed, kind]

end Provisioner

/-! ### Runs -/

namespace ProvisionedRun

/-- What a run holds of the shared store until it is released. -/
def stake (r : ProvisionedRun) : Stake := ⟨r.placement.network, r.quotas⟩

/-- What names the resources of a run to the backend. -/
def resourceIds (r : ProvisionedRun) : List String := r.placement.deployment.resourceIds

/-- The run with all of it given back, its deployment as it was seen last. -/
def released (r : ProvisionedRun) (d : Deployment) : ProvisionedRun :=
  { r with
    placement := r.placement.refresh d
    destroyed := true
    networkFreed := true
    quotasFreed := true }

/-- All of a run was given back or nothing of it, and all of it only if its deployment is destroyed. -/
structure Consistent (r : ProvisionedRun) : Prop where
  network : r.networkFreed = r.destroyed
  quotas : r.quotasFreed = r.destroyed
  gone : r.destroyed = true → r.placement.deployment.isDestroyed = true

namespace Consistent

variable {r : ProvisionedRun}

/-- A run that was just made is consistent. -/
theorem new (run : RunContext) (quotas : List Quota) (placement : DeployedPlacement) :
    Consistent (.new run quotas placement) := ⟨rfl, rfl, fun h => by cases h⟩

/-- A run whose deployment is gone may be released. -/
theorem released {d : Deployment} (gone : d.isDestroyed = true) : Consistent (r.released d) :=
  ⟨rfl, rfl, fun _ => gone⟩

/-- A consistent run is released exactly if it was destroyed. -/
theorem isReleased (c : r.Consistent) : r.isReleased = r.destroyed := by
  simp [ProvisionedRun.isReleased, c.network, c.quotas]

end Consistent

end ProvisionedRun

namespace Provisioner

variable {p : Provisioner σ} {Good : Deployment → σ → Prop} {Later : σ → σ → Prop}

/-- All that a teardown of a consistent run can do. -/
theorem teardown_cases {r : ProvisionedRun} (consistent : r.Consistent)
    (keeps : ∀ service, p.service r.placement.deployment.template.identifier.target = .ok service →
      service.Keeps Good Later)
    (refl : ∀ s, Later s s) (signal : Signal) {w : World σ}
    (good : Good r.placement.deployment w.machines) :
    (r.isReleased = true ∧ p.teardown signal r w = (.ok (), r, w)) ∨
    (r.isReleased = false ∧ ∃ d, ∃ v : World σ, w.session.Passes v.session ∧
      Later w.machines v.machines ∧ Good d v.machines ∧ d.isDestroyed = true ∧
      p.teardown signal r w = (.ok (), r.released d, v.setStore (r.stake.giveBack v.store))) ∨
    (r.isReleased = false ∧ ∃ error, ∃ v : World σ, w.session.Passes v.session ∧
      Later w.machines v.machines ∧ p.teardown signal r w = (.error (.teardown [error]), r, v)) := by
  rw [teardown, destroyRun, consistent.isReleased]
  cases destroyed : r.destroyed with
  | true =>
      refine .inl ⟨rfl, ?_⟩
      obtain ⟨run, quotas, placement, d, networkFreed, quotasFreed⟩ := r
      obtain rfl : networkFreed = true := consistent.network.trans destroyed
      obtain rfl : quotasFreed = true := consistent.quotas.trans destroyed
      rfl
  | false =>
      have network := consistent.network.trans destroyed
      have quotas := consistent.quotas.trans destroyed
      apply Or.inr
      simp only [Bool.false_eq_true, if_false]
      cases supported : p.service r.placement.deployment.template.identifier.target with
      | error error =>
          rw [withRetries_unsupported supported]
          exact .inr ⟨trivial, _, w, .refl _, refl _, rfl⟩
      | ok service =>
          have downed := withRetries_downed (keeps service supported) supported signal
            p.settings.cleanupBackoff (p.settings.cleanupAttempts - 1) good
          generalize withRetries p.settings.cleanupBackoff (p.destroy signal r.placement.deployment)
            (p.settings.cleanupAttempts - 1) w = outcome at downed ⊢
          obtain ⟨result, v⟩ := outcome
          cases result with
          | ok d =>
              obtain ⟨seen, gone⟩ := downed.gone d rfl
              refine .inl ⟨trivial, d, v, downed.passes, downed.later, seen, gone, ?_⟩
              simp only [releaseRun, network, quotas]
              rfl
          | error error => exact .inr ⟨trivial, error, v, downed.passes, downed.later, rfl⟩

end Provisioner

end Testbed
