import Testbed.Deployment.Readiness

/-!
What waiting for deployments keeps.

`DeploymentService.Keeps` names what a pass and a deletion leave true: a property of a deployment together
with the state of its backend, and a relation between the states before and after.  Whatever polls a
deployment, however often, keeps the same.
-/

namespace Testbed

variable {σ : Type}

/-- Passes and deletions keep `Good` for a deployment, and lead from a state of the backend to one that
`Later` relates to it.  What is good stays good when the backend moves on with other deployments. -/
structure DeploymentService.Keeps (svc : DeploymentService σ) (Good : Deployment → σ → Prop)
    (Later : σ → σ → Prop) : Prop where
  refl : ∀ s, Later s s
  trans : ∀ {s t u}, Later s t → Later t u → Later s u
  stable : ∀ {d s t}, Good d s → Later s t → Good d t
  process : ∀ {d s} (stamps : Stamps), Good d s →
    Good (svc.process d stamps s).2.1 (svc.process d stamps s).2.2 ∧ Later s (svc.process d stamps s).2.2
  destroy : ∀ {d s} (stamps : Stamps), Good d s →
    Good (svc.destroy d stamps s).2.1 (svc.destroy d stamps s).2.2 ∧ Later s (svc.destroy d stamps s).2.2

/-- Every service keeps what is always true. -/
theorem DeploymentService.keeps_true (svc : DeploymentService σ) :
    svc.Keeps (fun _ _ => True) (fun _ _ => True) :=
  ⟨fun _ => trivial, fun _ _ => trivial, fun _ _ => trivial, fun _ _ => ⟨trivial, trivial⟩,
    fun _ _ => ⟨trivial, trivial⟩⟩

namespace Readiness

variable {svc : DeploymentService σ} {Good : Deployment → σ → Prop} {Later : σ → σ → Prop}

/-- A poll keeps what a pass keeps. -/
theorem poll_keeps (keeps : svc.Keeps Good Later) {d : Deployment} {s : σ} (stamps : Stamps)
    (good : Good d s) :
    Good (poll svc d stamps s).2.1 (poll svc d stamps s).2.2 ∧ Later s (poll svc d stamps s).2.2 := by
  have after := keeps.process stamps good
  rw [poll]
  cases answer : svc.process d stamps s with
  | mk result rest =>
      rw [answer] at after
      cases result <;> exact after

/-- A round polls the deployments one after the other; each stays good while the others are polled. -/
theorem round_keeps (keeps : svc.Keeps Good Later) (now : UInt64) {watched : List Watched} {s : σ}
    (good : ∀ w ∈ watched, Good w.deployment s) :
    (∀ w ∈ (round svc now watched s).2.1, Good w.deployment (round svc now watched s).2.2) ∧
      Later s (round svc now watched s).2.2 := by
  induction watched generalizing s with
  | nil => exact ⟨by simp [round], keeps.refl s⟩
  | cons w rest ih =>
      have here : Good w.deployment s := good w (by simp)
      by_cases ready : w.ready = true
      · obtain ⟨others, later⟩ := ih fun v mem => good v (by simp [mem])
        simp only [round, ready, if_true]
        refine ⟨fun v mem => ?_, later⟩
        rcases List.mem_cons.1 mem with rfl | mem
        · exact keeps.stable here later
        · exact others v mem
      · obtain ⟨polled, first⟩ := poll_keeps keeps (.still now) here
        obtain ⟨others, second⟩ :=
          ih (s := (poll svc w.deployment (.still now) s).2.2) fun v mem =>
            keeps.stable (good v (by simp [mem])) first
        have polled := keeps.stable polled second
        have later := keeps.trans first second
        simp only [round, ready]
        -- Whatever the verdict, the polled deployment stands in front of the others.
        cases (poll svc w.deployment (.still now) s).1
        all_goals
          refine ⟨fun v mem => ?_, later⟩
          rcases List.mem_cons.1 mem with rfl | mem
          · exact polled
          · exact others v mem

/-- A wait keeps what its rounds keep. -/
theorem watch_keeps (keeps : svc.Keeps Good Later) (o : WaitOptions) (signal : Signal)
    (giveUpAt : Nat) {watched : List Watched} {clock : Clock} {s : σ}
    (good : ∀ w ∈ watched, Good w.deployment s) :
    (∀ ready, (watch svc o signal giveUpAt watched clock s).1 = .ok ready →
      ∀ d ∈ ready, Good d (watch svc o signal giveUpAt watched clock s).2.2) ∧
      Later s (watch svc o signal giveUpAt watched clock s).2.2 := by
  fun_induction watch svc o signal giveUpAt watched clock s with
  | case1 watched clock s rest t error polled =>
      have after := round_keeps keeps clock.stamp good
      rw [polled] at after
      simp only [polled]
      exact ⟨nofun, after.2⟩
  | case2 watched clock s rest t all polled =>
      have after := round_keeps keeps clock.stamp good
      rw [polled] at after
      simp only [polled, all, if_true]
      refine ⟨fun ready h d mem => ?_, after.2⟩
      obtain rfl : rest.map (·.deployment) = ready := by simpa using h
      obtain ⟨w, listed, rfl⟩ := List.mem_map.1 mem
      exact after.1 w listed
  | case3 watched clock s rest t all next instant fires polled =>
      have after := round_keeps keeps clock.stamp good
      rw [polled] at after
      simp only [next] at fires
      simp only [polled, all, if_false, Bool.false_eq_true, fires]
      exact ⟨nofun, after.2⟩
  | case4 watched clock s rest t all next quiet late polled =>
      have after := round_keeps keeps clock.stamp good
      rw [polled] at after
      simp only [next] at quiet late
      simp only [polled, all, if_false, Bool.false_eq_true, quiet, late, if_true]
      exact ⟨nofun, after.2⟩
  | case5 watched clock s rest t all next quiet late polled ih =>
      have after := round_keeps keeps clock.stamp good
      rw [polled] at after
      obtain ⟨goods, later⟩ := ih after.1
      simp only [next] at quiet late
      simp only [polled, all, if_false, Bool.false_eq_true, quiet, late]
      exact ⟨goods, keeps.trans after.2 later⟩

/-- Waiting for deployments keeps what a pass keeps. -/
theorem await_keeps (keeps : svc.Keeps Good Later) (o : WaitOptions) (signal : Signal)
    {deployments : List Deployment} (clock : Clock) {s : σ}
    (good : ∀ d ∈ deployments, Good d s) :
    (∀ ready, (await svc o signal deployments clock s).1 = .ok ready →
      ∀ d ∈ ready, Good d (await svc o signal deployments clock s).2.2) ∧
      Later s (await svc o signal deployments clock s).2.2 := by
  rw [await]
  split
  · exact ⟨fun ready h d mem => by simp_all, keeps.refl s⟩
  · split
    · exact ⟨nofun, keeps.refl s⟩
    · split
      · exact ⟨nofun, keeps.refl s⟩
      · apply watch_keeps keeps o signal _
        intro w mem
        obtain ⟨d, listed, rfl⟩ := List.mem_map.1 mem
        exact good d listed

end Readiness

end Testbed
