import Testbed.Deployment.Backend.Script
import Testbed.Proofs.Deployment.Visit

/-!
How the statuses of resources move.

Passes and deletions are the only actions on a deployment.  Whatever the backend answers and the clock
says, a pass moves a resource along one edge at most, and a deletion moves resources towards their
destruction, up to the first that cannot be deleted.  This holds in every sequence of actions; what is
destroyed stays destroyed, and nobody asks the backend about it again.
-/

namespace Testbed

variable {σ τ : Type}

/-- The resource was being created, and is given up. -/
def Visit.GivesUp (v : Visit) : Prop := v.before.status = .creating ∧ v.after.status = .degraded

namespace Reconciler

/-! ### Passes -/

/-- The edges along which a pass moves a resource.  The pass has begun at `now` and moves it at `stamp`. -/
inductive Moved (interval now stamp : UInt64) (v : Visit) : Prop where
  | stays (status : v.after.status = v.before.status) (old : v.after.updatedAt = v.before.updatedAt)
  | ready (source : v.before.status = .creating) (target : v.after.status = .ready)
      (stamped : v.after.updatedAt = stamp)
      (observed : ∃ o, .observe v.before (.ok o) ∈ v.calls ∧ o.ready = true ∧ o.synced = true)
  /-- The interval is over, or the clock has come to its last reading. -/
  | degraded (source : v.before.status = .creating ∨ v.before.status = .destroying)
      (target : v.after.status = .degraded) (stamped : v.after.updatedAt = stamp)
      (overdue : v.before.updatedAt.toNat + interval.toNat ≤ now.toNat ∨ now.toNat = UInt64.size - 1)
  | destroyed (source : v.before.status = .destroying ∨ v.before.status = .degraded)
      (target : v.after.status = .destroyed) (stamped : v.after.updatedAt = stamp)
      (unknown : ∃ what, .observe v.before (.error (.notFound what)) ∈ v.calls)

/-- What a pass does to a resource. -/
structure Watched (interval now stamp : UInt64) (v : Visit) : Prop where
  idle : v.before.status = .destroyed → Idle v
  /-- A resource that is not destroyed is observed once.  If it is given up, then it is deleted after that. -/
  observed : v.before.status ≠ .destroyed → ∃ answer, v.calls = [.observe v.before answer] ∨
    v.GivesUp ∧ ∃ result, v.calls = [.observe v.before answer, .delete v.after result]
  moved : Moved interval now stamp v
  named : v.after.id = v.before.id ∧ v.after.name = v.before.name
  /-- The visit fails with the first error with which a call is answered, and not otherwise. -/
  error : v.error = v.calls.findSome? Call.error?
  found : ∀ what, v.error ≠ some (.notFound what)

/-- A resource is overdue once the interval has gone by since its stamp, and in any case at the last
instant. -/
theorem overdue_iff {r : Resource} {interval now : UInt64} :
    r.isOverdue interval.toNat now = true ↔
      r.updatedAt.toNat + interval.toNat ≤ now.toNat ∨ now.toNat = UInt64.size - 1 := by
  have last := now.toNat_lt
  have whole : interval.toNat % UInt64.size = interval.toNat := Nat.mod_eq_of_lt interval.toNat_lt
  rw [Resource.isOverdue, decide_eq_true_iff, whole]
  simp only [UInt64.size] at *
  omega

/-- An error of a visit is the answer to one of its calls. -/
theorem error_of_looked {interval : Nat} {now stamp : UInt64} {v : Visit} (h : Looked interval now stamp v)
    {e : DeployError} (failed : v.error = some e) :
    (.observe v.before (.error e) ∈ v.calls ∨ ∃ r, .delete r (.error e) ∈ v.calls) ∧
      ∀ what, e ≠ .notFound what := by
  cases h with
  | unseen _ other =>
      obtain rfl := Option.some.inj failed
      exact ⟨.inl List.mem_cons_self, other⟩
  | abandoned =>
      obtain ⟨rfl, other⟩ := complaint_eq_some failed
      exact ⟨.inr ⟨_, List.mem_cons_of_mem _ List.mem_cons_self⟩, other⟩
  | _ => cases failed

section Looked

variable {interval now stamp : UInt64} {v : Visit}

/-- A pass leaves alone what is destroyed. -/
theorem idle_of_looked (h : Looked interval.toNat now stamp v) (gone : v.before.status = .destroyed) :
    Idle v := by
  cases h with
  | destroyed => exact ⟨rfl, rfl, rfl⟩
  | unseen alive => exact absurd gone alive
  | unmoved alive => exact absurd gone alive
  | gone ending => rcases ending with h | h <;> exact absurd (h.symm.trans gone) (by decide)
  | invisible early => rcases early with h | h <;> exact absurd (h.symm.trans gone) (by decide)
  | ready creating => exact absurd (creating.symm.trans gone) (by decide)
  | abandoned creating => exact absurd (creating.symm.trans gone) (by decide)
  | stuck destroying => exact absurd (destroying.symm.trans gone) (by decide)

/-- Everything else it observes once, and it deletes nothing but what it gives up. -/
theorem observed_of_looked (h : Looked interval.toNat now stamp v) (alive : v.before.status ≠ .destroyed) :
    ∃ answer, v.calls = [.observe v.before answer] ∨
      v.GivesUp ∧ ∃ result, v.calls = [.observe v.before answer, .delete v.after result] := by
  cases h with
  | destroyed gone => exact absurd gone alive
  | abandoned creating => exact ⟨_, .inr ⟨⟨creating, rfl⟩, _, rfl⟩⟩
  | _ => exact ⟨_, .inl rfl⟩

/-- Looking at a resource moves it along one edge, or leaves it where it is. -/
theorem moved_of_looked (h : Looked interval.toNat now stamp v) : Moved interval now stamp v := by
  cases h with
  | destroyed => exact .stays rfl rfl
  | unseen => exact .stays rfl rfl
  | invisible => exact .stays rfl rfl
  | unmoved => exact .stays rfl rfl
  | gone ending => exact .destroyed ending rfl rfl ⟨_, List.mem_cons_self⟩
  | ready creating up synced => exact .ready creating rfl rfl ⟨_, List.mem_cons_self, up, synced⟩
  | abandoned creating overdue => exact .degraded (.inl creating) rfl rfl (overdue_iff.1 overdue)
  | stuck destroying overdue => exact .degraded (.inr destroying) rfl rfl (overdue_iff.1 overdue)

/-- All that looking at a resource can come to is what a pass does. -/
theorem watched_of_looked (h : Looked interval.toNat now stamp v) : Watched interval now stamp v where
  idle := idle_of_looked h
  observed := observed_of_looked h
  moved := moved_of_looked h
  named := by cases h <;> exact ⟨rfl, rfl⟩
  error := error_eq_of_looked h
  found what failed := (error_of_looked h failed).2 what rfl

end Looked

/-! ### Deletions -/

/-- What a deletion does to a resource that it comes to.  It marks the resource at the time `begun`, and if
the resource is gone then at the time `ended`. -/
structure Ended (begun ended : UInt64) (v : Visit) : Prop where
  idle : v.before.status = .destroyed → Idle v
  /-- The backend is asked once, and the resource is destroyed exactly if the backend does not know it.  The
  visit fails exactly if the backend refuses, and with its answer. -/
  asked : v.before.status ≠ .destroyed → ∃ answer,
    v.calls = [.delete (v.before.enter .destroying begun) answer] ∧ v.error = complaint answer ∧
      (v.after.status = .destroyed ∧ v.after.updatedAt = ended ∧ (∃ what, answer = .error (.notFound what)) ∨
        v.after.status = .destroying ∧ v.after.updatedAt = begun ∧ ∀ what, answer ≠ .error (.notFound what))
  named : v.after.id = v.before.id ∧ v.after.name = v.before.name
  error : v.error = v.calls.findSome? Call.error?
  found : ∀ what, v.error ≠ some (.notFound what)

/-- All that asking for a deletion can come to is what a deletion does. -/
theorem ended_of_asked {begun ended : UInt64} {v : Visit} (h : Asked begun ended v) : Ended begun ended v where
  idle gone := by
    cases h with
    | destroyed => exact ⟨rfl, rfl, rfl⟩
    | taken alive => exact absurd gone alive
    | unknown alive => exact absurd gone alive
    | refused alive => exact absurd gone alive
  asked alive := by
    cases h with
    | destroyed gone => exact absurd gone alive
    | taken => exact ⟨_, rfl, rfl, .inr ⟨rfl, rfl, fun _ same => by cases same⟩⟩
    | unknown => exact ⟨_, rfl, rfl, .inl ⟨rfl, rfl, _, rfl⟩⟩
    | refused _ other =>
        exact ⟨_, rfl, (complaint_of_ne other).symm,
          .inr ⟨rfl, rfl, fun what same => other what (Except.error.inj same)⟩⟩
  named := by cases h <;> exact ⟨rfl, rfl⟩
  error := error_eq_of_asked h
  found what failed := by
    cases h with
    | refused _ other => exact other what (Option.some.inj failed)
    | _ => cases failed

/-- What a deletion does and reports: it comes to the resources in order, up to the first that cannot be
deleted. -/
structure TookDown (stamps : Stamps) (result : Except DeployError Unit) (visits reached left : List Visit) :
    Prop where
  all : visits = reached ++ left
  ended : ∀ (i : Nat) v, reached[i]? = some v → Ended (stamps.nth (2 * i)) (stamps.nth (2 * i + 1)) v
  idle : ∀ v ∈ left, Idle v
  /-- Either no visit fails and nothing is left out, or the last to be reached is the first to fail, and the
  deletion fails as it does. -/
  stopped : (∀ v ∈ reached, v.error = none) ∧ left = [] ∧ result = .ok () ∨
    ∃ fine v e, reached = fine ++ [v] ∧ (∀ u ∈ fine, u.error = none) ∧ v.error = some e ∧
      result = .error e

/-- A deletion reaches the resources up to the first failure. -/
theorem exists_reached {stamps : Stamps} {i : Nat} {visits : List Visit} (h : Deletion stamps i visits) :
    ∃ reached left, visits = reached ++ left ∧
      (∀ (j : Nat) v, reached[j]? = some v → AskedAt stamps (i + j) v) ∧ (∀ v ∈ left, Idle v) ∧
      ((∀ v ∈ reached, v.error = none) ∧ left = [] ∨
        ∃ fine v e, reached = fine ++ [v] ∧ (∀ u ∈ fine, u.error = none) ∧ v.error = some e) := by
  induction h with
  | done =>
      refine ⟨[], [], rfl, fun j v at_j => ?_, List.forall_mem_nil _, .inl ⟨List.forall_mem_nil _, rfl⟩⟩
      cases at_j
  | @next i v rest asked fine _ ih =>
      obtain ⟨reached, left, all, each, idle, stopped⟩ := ih
      refine ⟨v :: reached, left, ?_, fun j u at_j => ?_, idle, ?_⟩
      · rw [all, List.cons_append]
      · cases j with
        | zero => exact Option.some.inj at_j ▸ asked
        | succ j =>
            have step := each j u at_j
            rwa [Nat.add_right_comm] at step
      · rcases stopped with ⟨none_failed, complete⟩ | ⟨before, u, e, last, fine_before, failed⟩
        · exact .inl ⟨List.forall_mem_cons.2 ⟨fine, none_failed⟩, complete⟩
        · refine .inr ⟨v :: before, u, e, ?_, List.forall_mem_cons.2 ⟨fine, fine_before⟩, failed⟩
          rw [last, List.cons_append]
  | @stopped i v rest asked failed left =>
      obtain ⟨e, failed⟩ := Option.isSome_iff_exists.1 failed
      refine ⟨[v], rest, rfl, fun j u at_j => ?_, left, .inr ⟨[], v, e, rfl, List.forall_mem_nil _, failed⟩⟩
      cases j with
      | zero => exact Option.some.inj at_j ▸ asked
      | succ j => cases at_j

/-- A deletion is cut in two: the resources it comes to, and those after a refusal, which it
leaves alone. -/
theorem tookDown_of_deletion {stamps : Stamps} {visits : List Visit} (h : Deletion stamps 0 visits) :
    ∃ reached left, TookDown stamps (outcome (visits.findSome? Visit.error)) visits reached left := by
  obtain ⟨reached, left, rfl, each, idle, stopped⟩ := exists_reached h
  refine ⟨reached, left, rfl, fun i v at_i => ?_, idle, ?_⟩
  · have asked := each i v at_i
    rw [Nat.zero_add] at asked
    exact ended_of_asked asked
  · rcases stopped with ⟨fine, rfl⟩ | ⟨fine, v, e, rfl, fine_before, failed⟩
    · refine .inl ⟨fine, rfl, ?_⟩
      rw [List.append_nil, List.findSome?_eq_none_iff.2 fine]
      rfl
    · refine .inr ⟨fine, v, e, rfl, fine_before, failed, ?_⟩
      rw [List.append_assoc, List.findSome?_append, List.findSome?_eq_none_iff.2 fine_before,
        Option.none_or, List.cons_append, List.findSome?_cons, failed]
      rfl

/-! ### Sequences of actions -/

/-- A pass or a deletion, with the readings of the clock that it takes. -/
inductive Action where
  | process (stamps : Stamps)
  | destroy (stamps : Stamps)

/-- When an action moves the resource at a position to a status. -/
def Action.stamp (i : Nat) (status : ResourceStatus) : Action → UInt64
  | .process stamps => stamps.nth (i + 1)
  | .destroy stamps => stamps.nth (if status = .destroyed then 2 * i + 1 else 2 * i)

/-- Take an action. -/
def perform (b : Backend σ) (interval : UInt64) (d : Deployment) (s : σ) :
    Action → Except DeployError Unit × Deployment × σ
  | .process stamps => process b interval.toNat d stamps s
  | .destroy stamps => destroy b d stamps s

/-- Take actions one after the other, also after errors. -/
def performAll (b : Backend σ) (interval : UInt64) :
    List Action → Deployment → σ → List (Except DeployError Unit) × Deployment × σ
  | [], d, s => ([], d, s)
  | action :: rest, d, s =>
    let (result, d, s) := perform b interval d s action
    let (results, d, s) := performAll b interval rest d s
    (result :: results, d, s)

/-- An action, what it reported and what it did to the resources in their order. -/
structure Report where
  action : Action
  result : Except DeployError Unit
  visits : List Visit

/-- The calls of an action, in order. -/
def Report.calls (report : Report) : List Call := report.visits.flatMap Visit.calls

/-- Each action finds the resources as the one before has left them. -/
def Connected : List Resource → List Report → List Resource → Prop
  | rs, [], rs' => rs = rs'
  | rs, report :: rest, rs' =>
    report.visits.map Visit.before = rs ∧ Connected (report.visits.map Visit.after) rest rs'

/-- What an action may do: all that its visits can come to, and what follows from that. -/
structure Report.Lawful (interval : UInt64) (report : Report) : Prop where
  process : ∀ stamps, report.action = .process stamps → ∀ (i : Nat) v, report.visits[i]? = some v →
    Looked interval.toNat (stamps.nth 0) (stamps.nth (i + 1)) v ∧
      Watched interval (stamps.nth 0) (stamps.nth (i + 1)) v
  destroy : ∀ stamps, report.action = .destroy stamps → Deletion stamps 0 report.visits ∧
    ∃ reached left, TookDown stamps report.result report.visits reached left
  /-- The first error with which the backend answers is reported, and there is no other. -/
  first : report.result = outcome (report.calls.findSome? Call.error?)
  found : ∀ what, report.result ≠ .error (.notFound what)

/-- The status that a resource has before an action is as old as its stamp says: the deployment came with
it, or an earlier action has moved the resource there at that time, and none has moved it since. -/
def Since (i : Nat) (rs : List Resource) (earlier : List Report) (r : Resource) : Prop :=
  ((∃ r₀, rs[i]? = some r₀ ∧ r₀.updatedAt = r.updatedAt ∧ r₀.status = r.status) ∧
    ∀ report ∈ earlier, ∀ v, report.visits[i]? = some v → v.after.status = r.status) ∨
  ∃ before entry after v, earlier = before ++ entry :: after ∧ entry.visits[i]? = some v ∧
    v.after.status = r.status ∧ entry.action.stamp i r.status = r.updatedAt ∧
    ∀ report ∈ after, ∀ v, report.visits[i]? = some v → v.after.status = r.status

/-! ### One action -/

/-- The error that a list of visits reports is one of theirs. -/
theorem outcome_ne_notFound {visits : List Visit}
    (found : ∀ v ∈ visits, ∀ what, v.error ≠ some (.notFound what))
    (what : String) : outcome (visits.findSome? Visit.error) ≠ .error (.notFound what) := by
  intro same
  cases first : visits.findSome? Visit.error with
  | none =>
      rw [first] at same
      cases same
  | some e =>
      rw [first] at same
      obtain rfl := Except.error.inj same
      obtain ⟨v, mem, failed⟩ := List.exists_of_findSome?_eq_some first
      exact found v mem what failed

namespace TookDown

variable {stamps : Stamps} {result : Except DeployError Unit} {visits reached left : List Visit} {v : Visit}

/-- A deletion comes to a resource, or leaves it alone. -/
theorem visit (h : TookDown stamps result visits reached left) {i : Nat} (at_i : visits[i]? = some v) :
    Ended (stamps.nth (2 * i)) (stamps.nth (2 * i + 1)) v ∨ Idle v := by
  rw [h.all, List.getElem?_append] at at_i
  split at at_i
  · exact .inl (h.ended i v at_i)
  · exact .inr (h.idle v (List.mem_of_getElem? at_i))

/-- No visit of a deletion ends with the answer that nothing was found. -/
theorem found (h : TookDown stamps result visits reached left) (mem : v ∈ visits) (what : String) :
    v.error ≠ some (.notFound what) := by
  obtain ⟨i, at_i⟩ := List.getElem?_of_mem mem
  rcases h.visit at_i with ended | idle
  · exact ended.found what
  · rw [idle.2.1]
    exact nofun

/-- The error of a visit of a deletion is the first one among the answers to its calls. -/
theorem error (h : TookDown stamps result visits reached left) (mem : v ∈ visits) :
    v.error = v.calls.findSome? Call.error? := by
  obtain ⟨i, at_i⟩ := List.getElem?_of_mem mem
  rcases h.visit at_i with ended | idle
  · exact ended.error
  · exact idle.error_eq

end TookDown

/-- An action is lawful, and its record is complete. -/
theorem perform_lawful (b : Backend σ) (interval : UInt64) (action : Action) (d : Deployment) (s : σ)
    (calls : List Call) :
    ∃ report : Report, report.action = action ∧ report.Lawful interval ∧
      report.result = (perform b interval d s action).1 ∧
      report.visits.map Visit.before = d.resources ∧
      report.visits.map Visit.after = (perform b interval d s action).2.1.resources ∧
      (perform b.recorded interval d (s, calls) action).2.2.2 =
        calls ++ report.visits.flatMap Visit.calls := by
  cases action with
  | process stamps =>
      obtain ⟨visits, befores, looked, afters, result, made⟩ :=
        process_visits b interval.toNat d stamps s calls
      have watched : ∀ (i : Nat) v, visits[i]? = some v →
          Watched interval (stamps.nth 0) (stamps.nth (i + 1)) v :=
        fun i v at_i => watched_of_looked (looked i v at_i).1
      refine ⟨⟨.process stamps, outcome (visits.findSome? Visit.error), visits⟩, rfl, ⟨?_, nofun, ?_, ?_⟩,
        result.symm, befores, afters, made⟩
      · rintro _ ⟨⟩ i v at_i
        exact ⟨(looked i v at_i).1, watched i v at_i⟩
      · apply congrArg outcome (findSome?_calls fun v mem => ?_)
        obtain ⟨i, at_i⟩ := List.getElem?_of_mem mem
        exact (watched i v at_i).error
      · apply outcome_ne_notFound fun v mem => ?_
        obtain ⟨i, at_i⟩ := List.getElem?_of_mem mem
        exact (watched i v at_i).found
  | destroy stamps =>
      obtain ⟨visits, befores, deletion, afters, result, made⟩ := destroy_visits b d stamps s calls
      obtain ⟨reached, left, tookDown⟩ := tookDown_of_deletion deletion
      refine ⟨⟨.destroy stamps, outcome (visits.findSome? Visit.error), visits⟩, rfl, ⟨nofun, ?_, ?_, ?_⟩,
        result.symm, befores, afters, made⟩
      · rintro _ ⟨⟩
        exact ⟨deletion, reached, left, tookDown⟩
      · exact congrArg outcome (findSome?_calls fun v mem => tookDown.error mem)
      · exact outcome_ne_notFound fun v mem => tookDown.found mem

/-- Recording the calls does not change what an action does. -/
theorem perform_recorded (b : Backend σ) (interval : UInt64) (action : Action) (d : Deployment) (s : σ)
    (calls : List Call) :
    (perform b.recorded interval d (s, calls) action).2.1 = (perform b interval d s action).2.1 ∧
      (perform b.recorded interval d (s, calls) action).2.2.1 = (perform b interval d s action).2.2 := by
  cases action with
  | process stamps =>
      exact (process_alike b.recorded_simulates interval.toNat d stamps (t := (s, calls)) (s := s) rfl).2
  | destroy stamps =>
      exact (destroy_alike b.recorded_simulates d stamps (t := (s, calls)) (s := s) rfl).2

/-- An action leaves the templates alone. -/
theorem perform_templates (b : Backend σ) (interval : UInt64) (action : Action) (d : Deployment) (s : σ) :
    (perform b interval d s action).2.1.template = d.template ∧
      (perform b interval d s action).2.1.vms.map Vm.template = d.vms.map Vm.template := by
  cases action with
  | process stamps => exact ⟨rfl, Deployment.vmTemplates_visit _ d _⟩
  | destroy stamps => exact ⟨rfl, Deployment.vmTemplates_visit _ d _⟩

namespace Report.Lawful

variable {interval : UInt64} {report : Report} {i : Nat} {v : Visit}

/-- A visit belongs to a pass, or to a deletion that comes to the resource, or it is idle. -/
theorem visit (h : report.Lawful interval) (at_i : report.visits[i]? = some v) :
    (∃ stamps, report.action = .process stamps ∧ Watched interval (stamps.nth 0) (stamps.nth (i + 1)) v) ∨
      (∃ stamps, report.action = .destroy stamps ∧
        Ended (stamps.nth (2 * i)) (stamps.nth (2 * i + 1)) v) ∨ Idle v := by
  cases action : report.action with
  | process stamps => exact .inl ⟨stamps, rfl, (h.process stamps action i v at_i).2⟩
  | destroy stamps =>
      obtain ⟨-, reached, left, tookDown⟩ := h.destroy stamps action
      rcases tookDown.visit at_i with ended | idle
      · exact .inr (.inl ⟨stamps, rfl, ended⟩)
      · exact .inr (.inr idle)

/-- What is destroyed is left alone. -/
theorem idle (h : report.Lawful interval) (at_i : report.visits[i]? = some v)
    (gone : v.before.status = .destroyed) : Idle v := by
  rcases h.visit at_i with ⟨stamps, -, watched⟩ | ⟨stamps, -, ended⟩ | idle
  · exact watched.idle gone
  · exact ended.idle gone
  · exact idle

/-- No resource is renamed. -/
theorem named (h : report.Lawful interval) (at_i : report.visits[i]? = some v) :
    v.after.id = v.before.id ∧ v.after.name = v.before.name := by
  rcases h.visit at_i with ⟨stamps, -, watched⟩ | ⟨stamps, -, ended⟩ | idle
  · exact watched.named
  · exact ended.named
  · rw [idle.2.2]
    exact ⟨rfl, rfl⟩

/-- A stamp changes when a status is entered, and only then. -/
theorem stamped (h : report.Lawful interval) (at_i : report.visits[i]? = some v) :
    v.after.status = v.before.status ∧ v.after.updatedAt = v.before.updatedAt ∨
      v.after.updatedAt = report.action.stamp i v.after.status := by
  rcases h.visit at_i with ⟨stamps, action, watched⟩ | ⟨stamps, action, ended⟩ | idle
  · rw [action]
    cases watched.moved with
    | stays status old => exact .inl ⟨status, old⟩
    | ready _ _ stamped => exact .inr stamped
    | degraded _ _ stamped => exact .inr stamped
    | destroyed _ _ stamped => exact .inr stamped
  · by_cases gone : v.before.status = .destroyed
    · rw [(ended.idle gone).2.2]
      exact .inl ⟨rfl, rfl⟩
    · rw [action]
      obtain ⟨-, -, -, ⟨target, stamped, -⟩ | ⟨target, stamped, -⟩⟩ := ended.asked gone
      · exact .inr (by rw [target, stamped]; rfl)
      · exact .inr (by rw [target, stamped]; rfl)
  · rw [idle.2.2]
    exact .inl ⟨rfl, rfl⟩

/-- The error of a visit is the first with which one of its calls is answered. -/
theorem error (h : report.Lawful interval) (at_i : report.visits[i]? = some v) :
    v.error = v.calls.findSome? Call.error? := by
  rcases h.visit at_i with ⟨stamps, -, watched⟩ | ⟨stamps, -, ended⟩ | idle
  · exact watched.error
  · exact ended.error
  · exact idle.error_eq

/-- No visit fails in an action that reports success. -/
theorem fine (h : report.Lawful interval) (success : report.result = .ok ()) (mem : v ∈ report.visits) :
    v.error = none := by
  have told := h.first
  rw [success, Report.calls, ← findSome?_calls fun v mem => by
    obtain ⟨i, at_i⟩ := List.getElem?_of_mem mem
    exact h.error at_i] at told
  cases first : report.visits.findSome? Visit.error with
  | none => exact List.findSome?_eq_none_iff.1 first v mem
  | some e =>
      rw [first] at told
      cases told

end Report.Lawful

/-! ### Runs -/

/-- A run of actions is lawful: so is every action, and what is true of a single one adds up. -/
structure LawfulRun (b : Backend σ) (interval : UInt64) (actions : List Action) (d : Deployment) (s : σ)
    (reports : List Report) : Prop where
  taken : reports.map Report.action = actions
  results : reports.map Report.result = (performAll b interval actions d s).1
  /-- The calls of the visits are all calls that are made. -/
  calls : (performAll b.recorded interval actions d (s, [])).2.2.2 =
    reports.flatMap fun report => report.visits.flatMap Visit.calls
  connected : Connected d.resources reports (performAll b interval actions d s).2.1.resources
  lawful : ∀ report ∈ reports, report.Lawful interval
  templates : (performAll b interval actions d s).2.1.template = d.template ∧
    (performAll b interval actions d s).2.1.vms.map Vm.template = d.vms.map Vm.template
  named : (performAll b interval actions d s).2.1.resources.map (fun r => (r.id, r.name)) =
    d.resources.map fun r => (r.id, r.name)
  /-- What an action has destroyed no later one touches. -/
  gone : ∀ earlier report later, reports = earlier ++ report :: later →
    ∀ (i : Nat) v, report.visits[i]? = some v → v.after.status = .destroyed →
      (performAll b interval actions d s).2.1.resources[i]? = some v.after ∧
        ∀ other ∈ later, ∀ u, other.visits[i]? = some u → Idle u
  /-- Stamps tell how old a status is. -/
  since : ∀ earlier report later, reports = earlier ++ report :: later →
    ∀ (i : Nat) v, report.visits[i]? = some v → Since i d.resources earlier v.before

/-- Every run of actions over the recording backend is told by lawful reports that follow each other. -/
theorem exists_reports (b : Backend σ) (interval : UInt64) (actions : List Action) (d : Deployment) (s : σ)
    (calls : List Call) :
    ∃ reports : List Report, reports.map Report.action = actions ∧
      reports.map Report.result = (performAll b interval actions d s).1 ∧
      (performAll b.recorded interval actions d (s, calls)).2.2.2 =
        calls ++ reports.flatMap (fun report => report.visits.flatMap Visit.calls) ∧
      Connected d.resources reports (performAll b interval actions d s).2.1.resources ∧
      (∀ report ∈ reports, report.Lawful interval) ∧
      (performAll b interval actions d s).2.1.template = d.template ∧
      (performAll b interval actions d s).2.1.vms.map Vm.template = d.vms.map Vm.template := by
  induction actions generalizing d s calls with
  | nil => exact ⟨[], rfl, rfl, (List.append_nil _).symm, rfl, List.forall_mem_nil _, rfl, rfl⟩
  | cons action rest ih =>
      obtain ⟨report, about, lawful, result, befores, afters, made⟩ :=
        perform_lawful b interval action d s calls
      obtain ⟨same, backend⟩ := perform_recorded b interval action d s calls
      obtain ⟨reports, actions, results, all, connected, lawfuls, template, vmTemplates⟩ :=
        ih (perform b interval d s action).2.1 (perform b interval d s action).2.2
          (calls ++ report.visits.flatMap Visit.calls)
      obtain ⟨sameTemplate, sameVmTemplates⟩ := perform_templates b interval action d s
      refine ⟨report :: reports, ?_, ?_, ?_, ⟨befores, afters ▸ connected⟩,
        List.forall_mem_cons.2 ⟨lawful, lawfuls⟩, template.trans sameTemplate,
        vmTemplates.trans sameVmTemplates⟩
      · rw [List.map_cons, about, actions]
      · rw [List.map_cons, result, results]
        rfl
      · have state : (perform b.recorded interval d (s, calls) action).2.2 =
            ((perform b interval d s action).2.2, calls ++ report.visits.flatMap Visit.calls) :=
          Prod.ext backend made
        rw [List.flatMap_cons, ← List.append_assoc, ← all, performAll]
        dsimp only
        rw [same, state]

/-- Names and ids are what they were at first, after any lawful reports. -/
theorem named_of_connected {interval : UInt64} {reports : List Report}
    (lawful : ∀ report ∈ reports, report.Lawful interval) {rs rs' : List Resource}
    (connected : Connected rs reports rs') :
    rs'.map (fun r => (r.id, r.name)) = rs.map fun r => (r.id, r.name) := by
  induction reports generalizing rs with
  | nil => rw [show rs = rs' from connected]
  | cons report rest ih =>
      obtain ⟨rfl, later⟩ := connected
      obtain ⟨first, others⟩ := List.forall_mem_cons.1 lawful
      rw [ih others later, List.map_map, List.map_map]
      refine List.map_congr_left fun v mem => ?_
      obtain ⟨i, at_i⟩ := List.getElem?_of_mem mem
      obtain ⟨id, name⟩ := first.named at_i
      simp [id, name]

/-- Every resource that a list of visits found was found by one of them. -/
theorem exists_visit {visits : List Visit} {i : Nat} {r : Resource}
    (at_i : (visits.map Visit.before)[i]? = some r) : ∃ v, visits[i]? = some v ∧ v.before = r := by
  rw [List.getElem?_map, Option.map_eq_some_iff] at at_i
  exact at_i

/-- Nothing happens any more to what is destroyed. -/
theorem gone_of_connected {interval : UInt64} {reports : List Report}
    (lawful : ∀ report ∈ reports, report.Lawful interval) {rs rs' : List Resource}
    (connected : Connected rs reports rs') {i : Nat} {r : Resource} (at_i : rs[i]? = some r)
    (gone : r.status = .destroyed) :
    rs'[i]? = some r ∧ ∀ report ∈ reports, ∀ v, report.visits[i]? = some v → Idle v := by
  induction reports generalizing rs with
  | nil => exact ⟨connected ▸ at_i, List.forall_mem_nil _⟩
  | cons report rest ih =>
      obtain ⟨rfl, later⟩ := connected
      obtain ⟨first, others⟩ := List.forall_mem_cons.1 lawful
      obtain ⟨v, v_at_i, rfl⟩ := exists_visit at_i
      have idle := first.idle v_at_i gone
      have after_at_i : (report.visits.map Visit.after)[i]? = some v.before := by
        rw [List.getElem?_map, v_at_i, Option.map_some, idle.2.2]
      obtain ⟨last, untouched⟩ := ih others later after_at_i
      refine ⟨last, List.forall_mem_cons.2 ⟨fun u u_at_i => ?_, untouched⟩⟩
      obtain rfl := Option.some.inj (v_at_i.symm.trans u_at_i)
      exact idle

/-- After a report, the reports that follow begin with what it left. -/
theorem connected_of_append {earlier later : List Report} {rs rs' : List Resource} {report : Report}
    (connected : Connected rs (earlier ++ report :: later) rs') :
    Connected (report.visits.map Visit.after) later rs' := by
  induction earlier generalizing rs with
  | nil => exact connected.2
  | cons _ _ ih => exact ih connected.2

/-- Statuses grow older in an action, or begin anew. -/
theorem Since.after {interval : UInt64} {i : Nat} {rs : List Resource} {earlier : List Report}
    {report : Report} {v : Visit} (h : Since i rs earlier v.before) (lawful : report.Lawful interval)
    (at_i : report.visits[i]? = some v) : Since i rs (earlier ++ [report]) v.after := by
  rcases lawful.stamped at_i with ⟨status, stamp⟩ | stamp
  · have steady : ∀ u, report.visits[i]? = some u → u.after.status = v.after.status := by
      intro u u_at_i
      obtain rfl := Option.some.inj (at_i.symm.trans u_at_i)
      rfl
    rw [Since, status, stamp]
    rcases h with ⟨origin, kept⟩ | ⟨before, entry, after, w, all, entry_at_i, entered, time, kept⟩
    · refine .inl ⟨origin, List.forall_mem_append.2 ⟨kept, List.forall_mem_singleton.2 ?_⟩⟩
      exact fun u u_at_i => (steady u u_at_i).trans status
    · refine .inr ⟨before, entry, after ++ [report], w, ?_, entry_at_i, entered, time,
        List.forall_mem_append.2 ⟨kept, List.forall_mem_singleton.2 ?_⟩⟩
      · rw [all, List.append_assoc, List.cons_append]
      · exact fun u u_at_i => (steady u u_at_i).trans status
  · exact .inr ⟨earlier, report, [], v, rfl, at_i, rfl, stamp.symm, List.forall_mem_nil _⟩

/-- At every visit of connected reports, the stamp tells when the status was entered last. -/
theorem since_of_connected {interval : UInt64} {origin : List Resource} {reports : List Report}
    (lawful : ∀ report ∈ reports, report.Lawful interval) {rs rs' : List Resource}
    (connected : Connected rs reports rs') {past : List Report}
    (known : ∀ (i : Nat) r, rs[i]? = some r → Since i origin past r) :
    ∀ earlier report later, reports = earlier ++ report :: later →
      ∀ (i : Nat) v, report.visits[i]? = some v → Since i origin (past ++ earlier) v.before := by
  induction reports generalizing rs past with
  | nil => exact fun earlier _ _ same => by simp at same
  | cons first rest ih =>
      obtain ⟨rfl, next⟩ := connected
      obtain ⟨lawful_first, others⟩ := List.forall_mem_cons.1 lawful
      intro earlier report later same i v at_i
      cases earlier with
      | nil =>
          obtain ⟨rfl, -⟩ := List.cons.inj same
          rw [List.append_nil]
          exact known i v.before (by rw [List.getElem?_map, at_i]; rfl)
      | cons head earlier =>
          obtain ⟨rfl, rfl⟩ := List.cons.inj same
          have known_next : ∀ (i : Nat) r, (first.visits.map Visit.after)[i]? = some r →
              Since i origin (past ++ [first]) r := by
            intro i r r_at_i
            rw [List.getElem?_map, Option.map_eq_some_iff] at r_at_i
            obtain ⟨w, w_at_i, rfl⟩ := r_at_i
            have before_at_i : (first.visits.map Visit.before)[i]? = some w.before := by
              rw [List.getElem?_map, w_at_i]
              rfl
            exact (known i w.before before_at_i).after lawful_first w_at_i
          have found := ih others next known_next earlier report later rfl i v at_i
          rwa [List.append_assoc] at found

/-- Statuses move along their edges, in every run of passes and deletions. -/
theorem statuses_follow_their_edges (b : Backend σ) (interval : UInt64) (actions : List Action)
    (d : Deployment) (s : σ) : ∃ reports, LawfulRun b interval actions d s reports := by
  obtain ⟨reports, taken, results, calls, connected, lawful, templates⟩ :=
    exists_reports b interval actions d s []
  refine ⟨reports, taken, results, calls, connected, lawful, templates,
    named_of_connected lawful connected, ?_, ?_⟩
  · rintro earlier report later rfl i v at_i gone
    apply gone_of_connected (fun other mem => lawful other (by simp [mem]))
      (connected_of_append connected) _ gone
    rw [List.getElem?_map, at_i]
    rfl
  · have known : ∀ (i : Nat) r, d.resources[i]? = some r → Since i d.resources [] r :=
      fun i r at_i => .inl ⟨⟨r, at_i, rfl, rfl⟩, List.forall_mem_nil _⟩
    exact since_of_connected lawful connected known

/-- A network and one machine. -/
def oneMachine : DeploymentTemplate where
  identifier := ⟨"d1", "dep", .docker⟩
  network := ⟨⟨"d1-net", "bench", .docker⟩, "172.28.0.0/24", [.ofNat 1]⟩
  vms := [⟨⟨"d1-vm-0", "vm-0", .docker⟩, ⟨1, 1, 10⟩, "img", false, default, .ofNat 1, .empty, .empty⟩]
  metadata := .empty

/-- A deletion whose first resource cannot be deleted leaves the machine as it is; and at the last reading of
the clock a resource is degraded that has only just been created. -/
theorem machine_left_out_and_last_reading :
    let script := Script.new (.ofList [("delete network-bench", [.backendFails])])
    let left := destroy Script.backend (.new oneMachine (.still 0)) (.still 0) script
    let last : UInt64 := .ofNat (UInt64.size - 1)
    let late := process Script.backend 1000 (.new oneMachine last) last (.new .empty)
    left.2.1.resources.map (·.status) = [.destroying, .creating] ∧
      left.2.2.calls = ["delete network-bench"] ∧
      (Deployment.new oneMachine last).resources.map (fun r => (r.status, r.updatedAt)) =
        [(.creating, last), (.creating, last)] ∧
      late.2.1.resources.map (·.status) = [.degraded, .degraded] := by
  decide +kernel

end Reconciler

end Testbed
