import Testbed.Deployment.Backend.Memory
import Testbed.Proofs.Deployment.Status

/-!
Resources that are given up.

A pass that degrades a resource which never became ready asks for its deletion at once, so that the backend
does not keep it.  The status is entered first, and it is all that is remembered: a resource leaves
`creating` for ever, and only a resource that is creating is deleted by a pass.  So a deletion that is
refused is not asked for again by any pass, and the passes that follow report success all the same.
-/

namespace Testbed

variable {σ : Type}

namespace Visit

/-- The backend is asked to delete a resource. -/
def Asks (v : Visit) : Prop := ∃ r answer, .delete r answer ∈ v.calls

/-- The backend is asked to delete the resource, and does or does not know it. -/
def Removes (v : Visit) : Prop :=
  ∃ r answer, .delete r answer ∈ v.calls ∧ r.id = v.before.id ∧
    (answer = .ok () ∨ ∃ what, answer = .error (.notFound what))

/-- A visit that removes a resource asks the backend for its deletion. -/
theorem Removes.asks {v : Visit} (h : v.Removes) : v.Asks := by
  obtain ⟨r, answer, asked, -, -⟩ := h
  exact ⟨r, answer, asked⟩

end Visit

namespace Reconciler

/-! ### One pass -/

section Looked

variable {interval : Nat} {now stamp : UInt64} {v : Visit}

/-- What is given up is deleted at once; the visit fails if that is refused. -/
theorem asked_of_givesUp (h : Looked interval now stamp v) (given : v.GivesUp) :
    ∃ o answer, v.calls = [.observe v.before (.ok o), .delete v.after answer] ∧
      v.error = complaint answer ∧ v.after.id = v.before.id := by
  obtain ⟨creating, degraded⟩ := given
  cases h with
  | abandoned => exact ⟨_, _, rfl, rfl, rfl⟩
  | destroyed => cases creating.symm.trans degraded
  | unseen => cases creating.symm.trans degraded
  | gone => cases degraded
  | invisible => cases creating.symm.trans degraded
  | ready => cases degraded
  | stuck destroying => cases creating.symm.trans destroying
  | unmoved => cases creating.symm.trans degraded

/-- Nothing else is deleted. -/
theorem not_asks_of_looked (h : Looked interval now stamp v) (kept : ¬ v.GivesUp) : ¬ v.Asks := by
  rintro ⟨r, answer, asked⟩
  cases h with
  | abandoned creating => exact kept ⟨creating, rfl⟩
  | destroyed => cases asked
  | unseen => simp at asked
  | gone => simp at asked
  | invisible => simp at asked
  | ready => simp at asked
  | stuck => simp at asked
  | unmoved => simp at asked

end Looked

/-! ### One action -/

namespace Report

variable {interval : UInt64} {report : Report} {i : Nat} {v : Visit}

/-- The action is a pass. -/
def IsPass (report : Report) : Prop := ∃ stamps, report.action = .process stamps

/-- A deletion leaves a resource alone, or takes it towards its end. -/
theorem Lawful.status_of_destroy (h : report.Lawful interval) {stamps : Stamps}
    (action : report.action = .destroy stamps) (at_i : report.visits[i]? = some v) :
    Idle v ∨ v.after.status = .destroyed ∨ v.after.status = .destroying := by
  obtain ⟨-, reached, left, tookDown⟩ := h.destroy stamps action
  rcases tookDown.visit at_i with ended | idle
  · by_cases gone : v.before.status = .destroyed
    · exact .inl (ended.idle gone)
    · obtain ⟨-, -, -, ⟨target, -⟩ | ⟨target, -⟩⟩ := ended.asked gone
      · exact .inr (.inl target)
      · exact .inr (.inr target)
  · exact .inl idle

/-- Nothing is created anew. -/
theorem Lawful.creating (h : report.Lawful interval) (at_i : report.visits[i]? = some v)
    (creating : v.after.status = .creating) : v.before.status = .creating := by
  cases action : report.action with
  | process stamps =>
      cases (h.process stamps action i v at_i).2.moved with
      | stays status => exact status ▸ creating
      | ready _ target => cases creating.symm.trans target
      | degraded _ target => cases creating.symm.trans target
      | destroyed _ target => cases creating.symm.trans target
  | destroy stamps =>
      rcases h.status_of_destroy action at_i with idle | target | target
      · rw [← idle.2.2]
        exact creating
      · cases creating.symm.trans target
      · cases creating.symm.trans target

/-- No action deletes a resource that it leaves creating. -/
theorem Lawful.not_asks_of_creating (h : report.Lawful interval) (at_i : report.visits[i]? = some v)
    (creating : v.after.status = .creating) : ¬ v.Asks := by
  cases action : report.action with
  | process stamps =>
      exact not_asks_of_looked (h.process stamps action i v at_i).1 fun given => by
        cases creating.symm.trans given.2
  | destroy stamps =>
      rcases h.status_of_destroy action at_i with ⟨silent, -⟩ | target | target
      · rintro ⟨r, answer, asked⟩
        rw [silent] at asked
        cases asked
      · cases creating.symm.trans target
      · cases creating.symm.trans target

/-- Only passes give resources up. -/
theorem Lawful.isPass_of_givesUp (h : report.Lawful interval) (at_i : report.visits[i]? = some v)
    (given : v.GivesUp) : report.IsPass := by
  cases action : report.action with
  | process stamps => exact ⟨stamps, action⟩
  | destroy stamps =>
      rcases h.status_of_destroy action at_i with idle | target | target
      · rw [Visit.GivesUp, idle.2.2] at given
        cases given.1.symm.trans given.2
      · cases given.2.symm.trans target
      · cases given.2.symm.trans target

end Report

/-! ### Runs -/

section Connected

variable {interval : UInt64} {reports : List Report} {rs rs' : List Resource} {i : Nat}

/-- What is not being created never is. -/
theorem never_creating (lawful : ∀ report ∈ reports, report.Lawful interval)
    (connected : Connected rs reports rs') {r : Resource} (at_i : rs[i]? = some r)
    (other : r.status ≠ .creating) :
    ∀ report ∈ reports, ∀ v, report.visits[i]? = some v → v.before.status ≠ .creating := by
  induction reports generalizing rs r with
  | nil => exact List.forall_mem_nil _
  | cons report rest ih =>
      obtain ⟨rfl, later⟩ := connected
      obtain ⟨first, others⟩ := List.forall_mem_cons.1 lawful
      obtain ⟨v, v_at_i, rfl⟩ := exists_visit at_i
      have after_at_i : (report.visits.map Visit.after)[i]? = some v.after := by
        rw [List.getElem?_map, v_at_i, Option.map_some]
      refine List.forall_mem_cons.2 ⟨fun u u_at_i => ?_, ih others later after_at_i fun creating => ?_⟩
      · obtain rfl := Option.some.inj (v_at_i.symm.trans u_at_i)
        exact other
      · exact other (first.creating v_at_i creating)

/-- What is being created has been all the time. -/
theorem always_creating {earlier later : List Report} {report : Report}
    (lawful : ∀ other ∈ earlier ++ report :: later, other.Lawful interval)
    (connected : Connected rs (earlier ++ report :: later) rs') {v : Visit}
    (at_i : report.visits[i]? = some v) (creating : v.before.status = .creating) :
    ∀ other ∈ earlier, ∀ u, other.visits[i]? = some u → u.after.status = .creating := by
  intro other mem u u_at_i
  obtain ⟨before, between, rfl⟩ := List.append_of_mem mem
  rw [List.append_assoc, List.cons_append] at connected lawful
  have after_at_i : (other.visits.map Visit.after)[i]? = some u.after := by
    rw [List.getElem?_map, u_at_i, Option.map_some]
  apply Decidable.byContradiction
  intro changed
  exact never_creating (fun report mem => lawful report (by simp [mem])) (connected_of_append connected)
    after_at_i changed report (by simp) v at_i creating

end Connected

/-- What is true of a resource that a pass has given up. -/
structure GivenUp (i : Nat) (earlier : List Report) (report : Report) (later : List Report) (v : Visit) :
    Prop where
  /-- Its deletion is asked for at once, and the visit fails if that is refused. -/
  asked : ∃ o answer, v.calls = [.observe v.before (.ok o), .delete v.after answer] ∧
    v.error = complaint answer
  /-- A pass that reports success was not refused. -/
  told : report.result = .ok () → v.Removes
  before : ∀ other ∈ earlier, ∀ u, other.visits[i]? = some u → ¬ u.Asks
  /-- No other pass asks for the deletion, whatever was answered. -/
  after : ∀ other ∈ later, other.IsPass → ∀ u, other.visits[i]? = some u → ¬ u.Asks
  /-- So the one answer decides for all passes that follow, also for those that report success. -/
  decided : ∀ passes rest, later = passes ++ rest → (∀ other ∈ passes, other.IsPass) →
    ((∃ other ∈ earlier ++ report :: passes, ∃ u, other.visits[i]? = some u ∧ u.Removes) ↔ v.Removes)

/-- A resource that one pass gives up has been given up in the whole run of actions around it. -/
theorem givenUp_of_connected {interval : UInt64} {earlier later : List Report} {report : Report}
    {rs rs' : List Resource}
    (each : ∀ other ∈ earlier ++ report :: later, other.Lawful interval)
    (connected : Connected rs (earlier ++ report :: later) rs') {i : Nat} {v : Visit}
    (at_i : report.visits[i]? = some v) (given : v.GivesUp) : GivenUp i earlier report later v := by
  have lawful := each report (by simp)
  obtain ⟨stamps, pass⟩ := lawful.isPass_of_givesUp at_i given
  obtain ⟨o, answer, calls, error, named⟩ := asked_of_givesUp (lawful.process stamps pass i v at_i).1 given
  have removes : complaint answer = none → v.Removes := fun accepted =>
    ⟨v.after, answer, by simp [calls], named, complaint_eq_none.1 accepted⟩
  have before : ∀ other ∈ earlier, ∀ u, other.visits[i]? = some u → ¬ u.Asks := by
    intro other among u u_at_i
    have creating := always_creating each connected at_i given.1 other among u u_at_i
    exact (each other (by simp [among])).not_asks_of_creating u_at_i creating
  have after : ∀ other ∈ later, other.IsPass → ∀ u, other.visits[i]? = some u → ¬ u.Asks := by
    rintro other among ⟨stamps, pass⟩ u u_at_i
    have after_at_i : (report.visits.map Visit.after)[i]? = some v.after := by
      rw [List.getElem?_map, at_i, Option.map_some]
    have changed : v.after.status ≠ .creating := fun creating => by cases creating.symm.trans given.2
    have never := never_creating (fun other among => each other (by simp [among]))
      (connected_of_append connected) after_at_i changed other among u u_at_i
    obtain ⟨looked, -⟩ := (each other (by simp [among])).process stamps pass i u u_at_i
    exact not_asks_of_looked looked fun given => never given.1
  refine ⟨⟨o, answer, calls, error⟩, fun success => removes ?_, before, after, ?_⟩
  · exact error ▸ lawful.fine success (List.mem_of_getElem? at_i)
  · rintro passes rest rfl all
    refine ⟨?_, fun removed => ⟨report, by simp, v, at_i, removed⟩⟩
    rintro ⟨other, among, u, u_at_i, removed⟩
    rcases List.mem_append.1 among with early | late
    · exact absurd removed.asks (before other early u u_at_i)
    · rcases List.mem_cons.1 late with rfl | late
      · exact Option.some.inj (u_at_i.symm.trans at_i) ▸ removed
      · exact absurd removed.asks (after other (by simp [late]) (all other late) u u_at_i)

/-- A deletion that is refused when a resource is given up is not asked for again by any pass.

In every run of passes and deletions, a resource that goes from `creating` to `degraded` is given up by a
pass, which asks the backend once for its deletion.  A pass that reports success has had this deletion
accepted; but if it was refused, no later pass asks again, and as long as only passes follow, also such that
report success, the backend has not accepted it. -/
theorem refused_deletions_are_not_repeated (b : Backend σ) (interval : UInt64) (actions : List Action)
    (d : Deployment) (s : σ) :
    ∃ reports : List Report, reports.map Report.action = actions ∧
      reports.map Report.result = (performAll b interval actions d s).1 ∧
      (performAll b.recorded interval actions d (s, [])).2.2.2 =
        reports.flatMap (fun report => report.visits.flatMap Visit.calls) ∧
      Connected d.resources reports (performAll b interval actions d s).2.1.resources ∧
      ∀ earlier report later, reports = earlier ++ report :: later →
        ∀ (i : Nat) v, report.visits[i]? = some v → v.GivesUp → GivenUp i earlier report later v := by
  obtain ⟨reports, taken, results, calls, connected, each, -⟩ := exists_reports b interval actions d s []
  refine ⟨reports, taken, results, calls, connected, ?_⟩
  rintro earlier report later rfl i v at_i given
  exact givenUp_of_connected each connected at_i given

/-- The network and the machine of a deployment never become ready, and the first deletion fails: both are
given up, and the pass reports the failure.  The next pass reports success, and the network is live still. -/
theorem abandoned_network_stays_live :
    let made := create Memory.backend oneMachine (.still 0) (Memory.new none)
    let run := performAll Memory.backend 0 [.process (.still 0), .process (.still 0)]
      (.new oneMachine (.still 0))
      { made.2 with failingDeletes := 1 }
    made.1.toOption = some (.new oneMachine (.still 0)) ∧
      run.1.map Except.toOption = [none, some ()] ∧
      run.2.1.resources.map (·.status) = [.degraded, .destroyed] ∧
      run.2.2.deleted = ["d1-vm-0"] ∧ run.2.2.contains "d1-net" = true := by
  decide +kernel

end Reconciler

end Testbed
