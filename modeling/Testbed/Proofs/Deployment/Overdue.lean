import Testbed.Proofs.Deployment.Status

/-!
Resources whose time is over.

A resource may be creating or destroying for the reconcile interval.  A pass that comes after that takes it
out of its status, whatever is observed of it, and destroys it if it was destroying and the backend does not
know it any more.  A resource that was creating is an exception when the backend does not know it: its time
is not looked at, in this pass or in any later one.
-/

namespace Testbed

variable {σ : Type}

/-- A resource has been creating or destroying for the whole interval. -/
def Resource.Lingers (r : Resource) (interval now : UInt64) : Prop :=
  (r.status = .creating ∨ r.status = .destroying) ∧ r.updatedAt.toNat + interval.toNat ≤ now.toNat

namespace Reconciler

/-- What a pass does to a resource whose time is over, by the answer to the observation. -/
inductive Expired (v : Visit) : Except DeployError Observation → Prop where
  | ready {o} (creating : v.before.status = .creating) (up : o.ready = true ∧ o.synced = true)
      (target : v.after.status = .ready) : Expired v (.ok o)
  /-- What never became ready is deleted at once. -/
  | degraded {o} (down : ¬ (v.before.status = .creating ∧ o.ready = true ∧ o.synced = true))
      (target : v.after.status = .degraded)
      (deleted : v.before.status = .creating → ∃ answer, v.calls.getLast? = some (.delete v.after answer)) :
      Expired v (.ok o)
  | destroyed {what} (destroying : v.before.status = .destroying) (target : v.after.status = .destroyed) :
      Expired v (.error (.notFound what))
  /-- The one that stays: nothing is changed, and nothing else is asked. -/
  | unknown {what} (creating : v.before.status = .creating) (same : v.after = v.before)
      (asked : v.calls = [.observe v.before (.error (.notFound what))]) :
      Expired v (.error (.notFound what))
  | unseen {e} (other : ∀ what, e ≠ .notFound what) (same : v.after = v.before) : Expired v (.error e)

section Looked

variable {interval now stamp : UInt64} {v : Visit}

/-- A resource that has lingered for the interval is overdue. -/
theorem overdue_of_lingers {r : Resource} (lingers : r.Lingers interval now) :
    r.isOverdue interval.toNat now = true :=
  overdue_iff.2 (.inl lingers.2)

/-- A resource whose time is over is observed, and the answer decides about it. -/
theorem expired_of_looked (looked : Looked interval.toNat now stamp v)
    (lingers : v.before.Lingers interval now) :
    ∃ answer rest, v.calls = .observe v.before answer :: rest ∧ Expired v answer := by
  have overdue := overdue_of_lingers lingers
  cases looked with
  | destroyed gone => rcases lingers.1 with h | h <;> exact absurd (h.symm.trans gone) (by decide)
  | unseen alive other => exact ⟨_, _, rfl, .unseen other rfl⟩
  | gone ending =>
      -- Of the two statuses that end so, only one can linger.
      rcases lingers.1 with creating | destroying
      · rcases ending with h | h <;> exact absurd (creating.symm.trans h) (by decide)
      · exact ⟨_, _, rfl, .destroyed destroying rfl⟩
  | invisible early =>
      rcases lingers.1 with creating | destroying
      · exact ⟨_, _, rfl, .unknown creating rfl rfl⟩
      · rcases early with h | h <;> exact absurd (destroying.symm.trans h) (by decide)
  | ready creating up synced => exact ⟨_, _, rfl, .ready creating ⟨up, synced⟩ rfl⟩
  | abandoned creating _ down =>
      exact ⟨_, _, rfl, .degraded (fun seen => down seen.2) rfl fun _ => ⟨_, rfl⟩⟩
  | @stuck r o destroying =>
      have other : r.status ≠ .creating := fun creating => absurd (destroying.symm.trans creating) (by decide)
      exact ⟨_, _, rfl, .degraded (fun seen => other seen.1) rfl fun creating => absurd creating other⟩
  | unmoved _ early => exact absurd ⟨lingers.1, overdue⟩ early

end Looked

/-- A pass that could tell whether the backend knows the resource leaves its status as it was if and only if
the resource is creating and the backend does not know it. -/
theorem Expired.stays_iff {v : Visit} {answer : Except DeployError Observation} (h : Expired v answer)
    (lingers : v.before.status = .creating ∨ v.before.status = .destroying)
    (told : ∀ e, answer = .error e → ∃ what, e = .notFound what) :
    v.after.status = v.before.status ↔
      v.before.status = .creating ∧ ∃ what, answer = .error (.notFound what) := by
  cases h with
  | ready creating up target => simp [creating, target]
  | degraded down target deleted => rcases lingers with h | h <;> simp [h, target]
  | destroyed destroying target => simp [destroying, target]
  | unknown creating same asked => simp [creating, same]
  | unseen other same =>
      obtain ⟨what, rfl⟩ := told _ rfl
      exact absurd rfl (other what)

/-! ### A resource that the backend does not know -/

section Unknown

variable {b : Backend σ} {d : Deployment} {i : Nat} {r : Resource}

/-- A pass does nothing to a resource that is creating and that the backend does not know. -/
theorem unknown_of_process (interval : UInt64) (stamps : Stamps) (s : σ) (at_i : d.resources[i]? = some r)
    (creating : r.status = .creating) (unknown : ∀ s, ∃ what, (b.observe r s).1 = .error (.notFound what)) :
    (process b interval.toNat d stamps s).2.1.resources[i]? = some r := by
  obtain ⟨visits, befores, looked, afters, -, -⟩ := process_visits b interval.toNat d stamps s []
  rw [← befores] at at_i
  obtain ⟨v, v_at_i, rfl⟩ := exists_visit at_i
  obtain ⟨looked, calls⟩ := looked i v v_at_i
  rw [← afters, List.getElem?_map, v_at_i, Option.map_some]
  -- The answer to the observation is one that the backend can give.
  have answered : ∀ {answer}, .observe v.before answer ∈ v.calls →
      ∃ what, answer = .error (.notFound what) := by
    intro answer mem
    obtain ⟨s, rfl⟩ := calls _ mem
    exact unknown s
  congr 1
  cases looked with
  | destroyed gone => rfl
  | unseen alive other => rfl
  | invisible early => rfl
  | gone ending => rcases ending with h | h <;> exact absurd (creating.symm.trans h) (by decide)
  | ready =>
      obtain ⟨what, same⟩ := answered List.mem_cons_self
      cases same
  | abandoned =>
      obtain ⟨what, same⟩ := answered List.mem_cons_self
      cases same
  | stuck =>
      obtain ⟨what, same⟩ := answered List.mem_cons_self
      cases same
  | unmoved =>
      obtain ⟨what, same⟩ := answered List.mem_cons_self
      cases same

/-- However many passes are made, and however late, they do nothing to it. -/
theorem unknown_of_passes (interval : UInt64) (readings : List Stamps) (s : σ)
    (at_i : d.resources[i]? = some r) (creating : r.status = .creating)
    (unknown : ∀ s, ∃ what, (b.observe r s).1 = .error (.notFound what)) :
    (performAll b interval (readings.map .process) d s).2.1.resources[i]? = some r := by
  induction readings generalizing d s with
  | nil => exact at_i
  | cons stamps rest ih => exact ih _ (unknown_of_process interval stamps s at_i creating unknown)

end Unknown

/-- Only resources that are creating and that the backend does not know stay where they are for longer than
the interval.

In every run of passes and deletions, a pass that comes when a resource has been creating or destroying for
the interval, counted from the moment at which it entered this status last, observes it.  If the backend
knows it, it becomes ready, or it is degraded; if the backend does not know it, it is destroyed when it was
destroying.  When it was creating it stays as it is, and however many passes follow, none of them does
anything about it as long as the backend does not know it. -/
theorem only_unknown_resources_outlast_the_interval (b : Backend σ) (interval : UInt64)
    (actions : List Action) (d : Deployment) (s : σ) :
    (∃ reports : List Report, reports.map Report.action = actions ∧
      (performAll b.recorded interval actions d (s, [])).2.2.2 =
        reports.flatMap (fun report => report.visits.flatMap Visit.calls) ∧
      Connected d.resources reports (performAll b interval actions d s).2.1.resources ∧
      ∀ earlier report later, reports = earlier ++ report :: later →
        ∀ stamps, report.action = .process stamps → ∀ (i : Nat) v, report.visits[i]? = some v →
          v.before.Lingers interval (stamps.nth 0) → Since i d.resources earlier v.before ∧
            ∃ answer rest, v.calls = .observe v.before answer :: rest ∧ Expired v answer ∧
              ((∀ e, answer = .error e → ∃ what, e = .notFound what) →
                (v.after.status = v.before.status ↔
                  v.before.status = .creating ∧ ∃ what, answer = .error (.notFound what)))) ∧
    ∀ (i : Nat) r, d.resources[i]? = some r → r.status = .creating →
      (∀ s, ∃ what, (b.observe r s).1 = .error (.notFound what)) →
        ∀ readings : List Stamps,
          (performAll b interval (readings.map .process) d s).2.1.resources[i]? = some r := by
  constructor
  · obtain ⟨reports, taken, -, calls, connected, lawful, -⟩ := exists_reports b interval actions d s []
    refine ⟨reports, taken, calls, connected, ?_⟩
    rintro earlier report later rfl stamps passes i v at_i lingers
    have known : ∀ (i : Nat) r, d.resources[i]? = some r → Since i d.resources [] r :=
      fun i r at_i => .inl ⟨⟨r, at_i, rfl, rfl⟩, List.forall_mem_nil _⟩
    have since := since_of_connected lawful connected known earlier report later rfl i v at_i
    obtain ⟨looked, -⟩ := (lawful report (by simp)).process stamps passes i v at_i
    obtain ⟨answer, rest, asked, expired⟩ := expired_of_looked looked lingers
    exact ⟨since, answer, rest, asked, expired, expired.stays_iff lingers.1⟩
  · exact fun i r at_i creating unknown readings =>
      unknown_of_passes interval readings s at_i creating unknown

/-- A machine that the backend has lost while it was created is still creating when the interval is over,
and nobody has asked for its deletion; the network, which is not ready either, is degraded and deleted. -/
theorem lost_machine_stays_creating :
    let script := Script.new (.ofList [("observe vm-0", [.notFound])])
    let d := Deployment.new oneMachine (.still 0)
    let pass := process Script.backend 600000 d (.still 600000) script
    d.resources.map (fun r => (r.status, r.updatedAt)) = [(.creating, 0), (.creating, 0)] ∧
      pass.1.toOption = some () ∧ pass.2.1.resources.map (·.status) = [.degraded, .creating] ∧
      pass.2.2.calls = ["observe network-bench", "delete network-bench", "observe vm-0"] := by
  decide +kernel

end Reconciler

end Testbed
