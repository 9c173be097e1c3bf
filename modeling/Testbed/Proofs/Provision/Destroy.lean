import Testbed.Proofs.Deployment.Readiness
import Testbed.Proofs.Session
import Testbed.Provision.Destroy

/-!
What taking a deployment down does to the world.  The session only passes time, the backend moves as its
service lets it, and success means that every resource is destroyed.
-/

namespace Testbed.Destroying

variable {σ : Type} {svc : DeploymentService σ} {Good : Deployment → σ → Prop}
  {Later : σ → σ → Prop}

/-- What holds after a deployment was taken down, or after that has failed, in the world `w`. -/
structure Ended (Good : Deployment → σ → Prop) (Later : σ → σ → Prop) (w : World σ)
    (result : Except DeployError Unit × Deployment × World σ) : Prop where
  passes : w.session.Passes result.2.2.session
  later : Later w.machines result.2.2.machines
  good : Good result.2.1 result.2.2.machines
  gone : result.1 = .ok () → result.2.1.isDestroyed = true

namespace Ended

variable {w v : World σ} {result : Except DeployError Unit × Deployment × World σ}

/-- What ended later has ended since the beginning. -/
theorem after (keeps : svc.Keeps Good Later) (h : Ended Good Later v result)
    (passes : w.session.Passes v.session) (later : Later w.machines v.machines) :
    Ended Good Later w result :=
  ⟨passes.trans h.passes, keeps.trans later h.later, h.good, h.gone⟩

end Ended

/-- Confirming a deletion ends with all of it gone, or with an error, and leaves what the service leaves. -/
theorem confirm_ended (keeps : svc.Keeps Good Later) (o : WaitOptions) (signal : Signal)
    (startedAt rounds : Nat) {d : Deployment} {w : World σ} (good : Good d w.machines) :
    Ended Good Later w (confirm svc o signal startedAt rounds d w) := by
  have atOnce : ∀ {error : DeployError} {w : World σ} {d : Deployment}, Good d w.machines →
      Ended Good Later w (.error error, d, w) :=
    fun good => ⟨.refl _, keeps.refl _, good, fun h => by cases h⟩
  fun_induction confirm svc o signal startedAt rounds d w with
  | case1 rounds d w gone => exact ⟨.refl _, keeps.refl _, good, fun _ => gone⟩
  | case2 rounds d w gone waited late => exact atOnce good
  | case3 rounds d w gone waited late instant fires =>
      exact ⟨w.session.passes_pauseUntil _, keeps.refl _, good, fun h => by cases h⟩
  | case4 rounds d w gone waited late quiet paused d' machines w' processed ih =>
      have after := keeps.process (s := paused.machines) paused.clock.stamp good
      rw [processed] at after
      exact (ih after.1).after keeps (w.session.passes_pause _) after.2
  | case5 rounds d w gone waited late quiet paused d' machines w' error transient processed ih =>
      have after := keeps.process (s := paused.machines) paused.clock.stamp good
      rw [processed] at after
      exact (ih after.1).after keeps (w.session.passes_pause _) after.2
  | case6 rounds d w gone waited late quiet paused d' machines w' error lasting processed =>
      have after := keeps.process (s := paused.machines) paused.clock.stamp good
      rw [processed] at after
      exact ⟨w.session.passes_pause _, after.2, after.1, fun h => by cases h⟩

section Equations

variable {o : WaitOptions} {signal : Signal} {d : Deployment} {w : World σ}
  {result : Except DeployError Unit × Deployment × World σ}

/-- Deleting and confirming ends with all of it gone, or with an error, and leaves what the
service leaves. -/
theorem ended_of_destroyAndConfirm (keeps : svc.Keeps Good Later)
    (h : destroyAndConfirm svc o signal d w = result) (good : Good d w.machines) :
    Ended Good Later w result := by
  rw [← h, destroyAndConfirm]
  split
  · next gone => exact ⟨.refl _, keeps.refl _, good, fun _ => gone⟩
  · have asked := keeps.destroy w.clock.stamp good
    split
    next result d' machines destroyed =>
      rw [destroyed] at asked
      simp only
      split
      · exact ⟨.refl _, asked.2, asked.1, fun h => by cases h⟩
      · exact (confirm_ended keeps o signal _ 0 asked.1).after keeps (.refl _) asked.2

/-- Taking a deployment down takes time only, as far as the session is concerned. -/
theorem passes_of_destroyAndConfirm (h : destroyAndConfirm svc o signal d w = result) :
    w.session.Passes result.2.2.session :=
  (ended_of_destroyAndConfirm svc.keeps_true h trivial).passes

end Equations

end Testbed.Destroying
