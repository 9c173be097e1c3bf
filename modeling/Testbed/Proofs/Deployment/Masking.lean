import Testbed.Proofs.Deployment.Rounds

/-!
Errors that hide behind others.

A pass looks at every resource, also after an error, and reports its first error only.  A wait goes by this
one error and by the statuses that the pass leaves.  So an error that stays ends the wait if it comes first,
or if something is degraded; behind an error that may go away by itself it has no effect, and the wait may
even succeed with this pass.
-/

namespace Testbed

variable {σ : Type}

/-- The errors of the backend in a pass, in the order of the calls. -/
def Polling.Pass.errors (p : Polling.Pass) : List DeployError := p.calls.filterMap Call.error?

namespace Polling

open Reconciler

/-! ### One pass -/

namespace Pass

variable {p : Pass}

/-- A pass reports the first error of the backend. -/
theorem Made.result {b : Backend σ} {interval : Nat} (made : p.Made b interval) :
    p.result = outcome p.errors.head? := by
  obtain ⟨now, visits, -, -, result, calls, looked⟩ := made.exists_visits
  have each : ∀ v ∈ visits, v.error = v.calls.findSome? Call.error? := by
    intro v mem
    obtain ⟨⟨stamp, looked⟩, -⟩ := looked v mem
    exact error_eq_of_looked looked
  rw [result, errors, calls, List.head?_filterMap, findSome?_calls each]

/-- A pass that is not quiet fails. -/
theorem failed_of_not_quiet (loud : ¬ p.Quiet) : ∃ e, p.verdict = .failed e := by
  by_contra fine
  exact loud (quiet_of_verdict fun e failed => fine ⟨e, failed⟩)

/-- A pass that has come to an error is quiet exactly if the first may go away and nothing is degraded. -/
theorem quiet_iff {first : DeployError} (result : p.result = .error first) :
    p.Quiet ↔ first.isTransient = true ∧ p.after.degraded? = none := by
  rw [Deployment.degraded?_eq_none]
  refine ⟨fun quiet => ⟨quiet.error first result, quiet.degraded⟩, fun hidden => ⟨hidden.2, ?_⟩⟩
  intro e failed
  obtain rfl := Except.error.inj (result.symm.trans failed)
  exact hidden.1

end Pass

/-! ### Loops -/

/-- No pass but the last has failed. -/
def Loop.Final (l : Loop) : Prop := ∀ p ∈ l.passes.dropLast, ∀ e, p.verdict ≠ .failed e

/-- A pass that fails is the last of its loop. -/
theorem Loop.Final.later {l : Loop} (final : l.Final) {earlier later : List Pass} {p : Pass}
    (passes : l.passes = earlier ++ p :: later) {e : DeployError} (failed : p.verdict = .failed e) :
    later = [] := by
  cases later with
  | nil => rfl
  | cons q rest =>
      refine absurd failed (final p ?_ e)
      rw [passes, List.dropLast_append_of_ne_nil (List.cons_ne_nil _ _)]
      simp

/-- A loop makes a pass only while none has failed. -/
theorem Loop.Final.kept (u : Setting σ) : Wait.Keeps u fun l => l.Sound u ∧ l.Final where
  act := by
    rintro l l' instant permit s s' ⟨sound, final⟩ acted
    refine ⟨sound.act acted, ?_⟩
    cases acted with
    | passed stamps meanwhile polling run =>
        intro p mem e failed
        rw [Loop.after, List.dropLast_concat] at mem
        cases (sound.stopped p mem e failed).symm.trans polling
    | _ => exact final
  take := by
    rintro l ⟨sound, final⟩ ready
    exact ⟨sound.take ready, final⟩

/-! ### Waits -/

/-- What a pass of a loop decides. -/
structure Decided (w : Wait σ) (l : Loop) (p : Pass) (later : List Pass) : Prop where
  first : p.result = outcome p.errors.head?
  /-- A pass that finds something which ends the wait is the last one. -/
  stops : ¬ p.Quiet → later = [] ∧ (∃ e, p.verdict = .failed e ∧ l.phase = .failed e) ∧
    ∀ result, w.outcome ≠ some (.ok result)
  /-- After any other pass the deployment is ready, or polled again. -/
  goesOn : p.Quiet → p.verdict = if p.after.isReady then .ready else .notYet
  /-- An error that stays ends the wait, unless another one that may go away came before it and nothing is
  degraded. -/
  lasting : ∀ e ∈ p.errors, e.isTransient = false →
    (p.Quiet ↔ (∃ other, p.errors.head? = some other ∧ other.isTransient = true) ∧
      p.after.degraded? = none)

/-- Every pass of a sound wait is decided by its first error and the degraded resources. -/
theorem decided_of_sound {u : Setting σ} {entries : List Deployment} {w : Wait σ}
    (sound : w.Sound u entries) {l : Loop} (mem : l ∈ w.loops) (final : l.Final)
    {earlier later : List Pass} {p : Pass} (passes : l.passes = earlier ++ p :: later) :
    Decided w l p later := by
  have loop := sound.loops l mem
  have among : p ∈ l.passes := by simp [passes]
  have first := (loop.made p among).result
  refine ⟨first, fun loud => ?_, Pass.Quiet.verdict, fun e listed _ => ?_⟩
  · obtain ⟨e, failed⟩ := Pass.failed_of_not_quiet loud
    have stopped := loop.stopped p among e failed
    refine ⟨final.later passes failed, ⟨e, failed, stopped⟩, fun result reported => ?_⟩
    cases sound.reported _ reported with
    | ready all => cases stopped.symm.trans (all l mem)
  · obtain ⟨other, rest, errors⟩ := List.exists_cons_of_ne_nil (List.ne_nil_of_mem listed)
    have head : p.errors.head? = some other := by rw [errors, List.head?_cons]
    rw [head] at first ⊢
    simpa using Pass.quiet_iff first

/-- A wait goes by the first error of each pass.

In every order in which the loops may take their steps, and whatever the backend answers: a pass reports the
first error among its calls.  If this error stays, or if a resource is degraded after the pass, the
deployment is not polled again and the wait does not succeed.  Otherwise the deployment is ready, or polled
again, with whatever errors came after the first one. -/
theorem first_error_decides (u : Setting σ) (entries : List Deployment) (s : σ) :
    (∀ moves, let w := (Wait.start u entries s).runAll u moves
      w.loops.map Loop.entry = entries ∧
        ∀ l ∈ w.loops, Chained l.entry l.passes l.deployment ∧
          ∀ earlier p later, l.passes = earlier ++ p :: later →
            p.Made u.backend u.interval ∧ Decided w l p later) ∧
      Ends u (.start u entries s)
        (Readiness.await (service u.backend u.interval) u.options u.signal entries u.startedAt s) := by
  refine ⟨fun moves => ?_, ends_await u entries s⟩
  have sound := (Wait.Sound.start u entries s).runAll moves
  have final := (Loop.Final.kept u).runAll (w := .start u entries s) (fun l mem => by
    refine ⟨(Wait.Sound.start u entries s).loops l mem, ?_⟩
    obtain ⟨d, -, rfl⟩ := List.mem_map.1 mem
    exact List.forall_mem_nil _) moves
  intro w
  refine ⟨sound.entries, fun l mem => ⟨(sound.loops l mem).chained, fun earlier p later passes => ⟨?_, ?_⟩⟩⟩
  · exact (sound.loops l mem).made p (by simp [passes])
  · exact decided_of_sound sound mem (final l mem).2 passes

/-- In the first pass the network cannot be observed for now, and the observation of the machine comes to an
error that stays.  The deployment is polled again, and the wait succeeds. -/
theorem lasting_error_hidden_by_a_passing_one :
    let up : ScriptedAnswer := .succeeds ⟨true, true, none⟩
    let script := Script.new (.ofList [("observe network-bench", [.backendFails, up]),
      ("observe vm-0", [.pollFails, up])])
    let d := Deployment.new oneMachine (.still 0)
    let first := (Pass.run Script.backend 600000 d (.still 0) [] script).1
    let result := Readiness.await (service Script.backend 600000) ⟨⟨10⟩, ⟨1000⟩, 1⟩ .never [d]
      ⟨0, 0, true⟩ script
    first.errors.map DeployError.isTransient = [true, false] ∧
      result.1.toOption.map (List.map Deployment.id) = some ["d1"] ∧
      result.2.2.calls =
        ["observe network-bench", "observe vm-0", "observe network-bench", "observe vm-0"] := by
  decide +kernel

end Polling

end Testbed
