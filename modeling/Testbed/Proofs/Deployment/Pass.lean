import Testbed.Proofs.Deployment.Status

/-!
Passes over a deployment that is waited for.

Others may change the backend at any time, also between two calls of one pass.  A `Pass` is a record of
what it found and left, with its calls.  What it shows ends the wait, or not; and what is ready after
several passes was ready before them, or was observed so in one of them.
-/

namespace Testbed

variable {σ : Type}

/-! ### Backends that others use -/

/-- Whether an error says that a wait has found a degraded resource, or was cancelled. -/
def DeployError.endsWait : DeployError → Bool
  | .degraded .. | .cancelled _ => true
  | _ => false

namespace Backend

/-- The backend, where others change its state before the calls that are made; the changes to come are kept
beside the state. -/
def amid (b : Backend σ) : Backend (σ × List (σ → σ)) where
  create r s := let t := s.2.headD id s.1; ((b.create r t).1, (b.create r t).2, s.2.tail)
  observe r s := let t := s.2.headD id s.1; ((b.observe r t).1, (b.observe r t).2, s.2.tail)
  delete r s := let t := s.2.headD id s.1; ((b.delete r t).1, (b.delete r t).2, s.2.tail)

/-- When nobody else uses the backend, and calls are recorded, it answers as it always does. -/
theorem undisturbed_simulates (b : Backend σ) :
    b.amid.recorded.Simulates b fun t s => t.1 = (s, []) where
  observe r t s same := by
    obtain ⟨t, calls⟩ := t
    obtain rfl : t = (s, []) := same
    exact ⟨rfl, rfl⟩
  delete r t s same := by
    obtain ⟨t, calls⟩ := t
    obtain rfl : t = (s, []) := same
    exact ⟨rfl, rfl⟩

/-- The backend never answers with an error by which a wait ends. -/
structure Plain (b : Backend σ) : Prop where
  observe : ∀ r s e, (b.observe r s).1 = .error e → e.endsWait = false
  delete : ∀ r s e, (b.delete r s).1 = .error e → e.endsWait = false

/-- A backend that fails plainly does so also amid the doings of others. -/
theorem Plain.amid {b : Backend σ} (plain : b.Plain) : b.amid.Plain :=
  ⟨fun r s => plain.observe r (s.2.headD id s.1), fun r s => plain.delete r (s.2.headD id s.1)⟩

end Backend

/-- No resource is degraded exactly if the deployment reports none. -/
theorem Deployment.degraded?_eq_none {d : Deployment} :
    d.degraded? = none ↔ ∀ r ∈ d.resources, r.status ≠ .degraded := by
  rw [degraded?, List.find?_eq_none]
  simp

namespace Polling

open Reconciler

/-! ### Passes -/

/-- One pass over a deployment. -/
structure Pass where
  before : Deployment
  result : Except DeployError Unit
  after : Deployment
  calls : List Call

namespace Pass

/-- Pass over a deployment, while others change the backend. -/
def run (b : Backend σ) (interval : Nat) (d : Deployment) (stamps : Stamps) (meanwhile : List (σ → σ))
    (s : σ) : Pass × σ :=
  let (result, after, (s, _), calls) := process b.amid.recorded interval d stamps ((s, meanwhile), [])
  (⟨d, result, after, calls⟩, s)

/-- What a pass has shown. -/
def verdict (p : Pass) : Readiness.Verdict :=
  match p.result with
  | .ok () => Readiness.verdict p.after
  | .error error => if error.isTransient then Readiness.verdict p.after else .failed error

/-- A pass over the backend, at some times and from some state of it. -/
def Made (b : Backend σ) (interval : Nat) (p : Pass) : Prop :=
  ∃ stamps meanwhile s, p = (run b interval p.before stamps meanwhile s).1

/-- The resource at a position was observed, and was ready and synced. -/
def SeesReady (p : Pass) (position : Nat) : Prop :=
  ∃ r o, p.before.resources[position]? = some r ∧ .observe r (.ok o) ∈ p.calls ∧
    o.ready = true ∧ o.synced = true

/-- The pass has not found anything that ends the wait. -/
structure Quiet (p : Pass) : Prop where
  degraded : ∀ r ∈ p.after.resources, r.status ≠ .degraded
  error : ∀ e, p.result = .error e → e.isTransient = true

end Pass

/-- Each pass finds the deployment as the one before has left it. -/
def Chained : Deployment → List Pass → Deployment → Prop
  | d, [], d' => d = d'
  | d, p :: rest, d' => p.before = d ∧ Chained p.after rest d'

/-! ### What passes do -/

section Made

variable {b : Backend σ} {interval : Nat} {p : Pass} {position : Nat} {r : Resource}

/-- A pass looks at every resource once. -/
theorem Pass.Made.exists_visits (made : p.Made b interval) : ∃ (now : UInt64) (visits : List Visit),
    visits.map Visit.before = p.before.resources ∧ visits.map Visit.after = p.after.resources ∧
      p.result = outcome (visits.findSome? Visit.error) ∧ p.calls = visits.flatMap Visit.calls ∧
      ∀ v ∈ visits, (∃ stamp, Looked interval now stamp v) ∧ ∀ call ∈ v.calls, call.Of b.amid := by
  obtain ⟨stamps, meanwhile, s, same⟩ := made
  obtain ⟨visits, befores, looked, afters, result, calls⟩ :=
    process_visits b.amid interval p.before stamps (s, meanwhile) []
  obtain ⟨sameResult, sameAfter, -⟩ := process_alike b.amid.recorded_simulates interval p.before stamps
    (t := ((s, meanwhile), [])) (s := (s, meanwhile)) rfl
  rw [same]
  refine ⟨stamps.nth 0, visits, befores, ?_, sameResult.trans result, calls, fun v mem => ?_⟩
  · rw [afters, ← sameAfter]
    rfl
  · obtain ⟨i, at_i⟩ := List.getElem?_of_mem mem
    obtain ⟨looked, genuine⟩ := looked i v at_i
    exact ⟨⟨_, looked⟩, genuine⟩

/-- A pass never changes the template. -/
theorem Pass.Made.template (made : p.Made b interval) : p.after.template = p.before.template := by
  obtain ⟨stamps, meanwhile, s, same⟩ := made
  rw [same]
  rfl

/-- What a pass does to the resource at a position. -/
theorem Pass.Made.visit (made : p.Made b interval) (found : p.before.resources[position]? = some r) :
    ∃ now stamp v, v.before = r ∧ p.after.resources[position]? = some v.after ∧
      Looked interval now stamp v ∧ ∀ call ∈ v.calls, call ∈ p.calls := by
  obtain ⟨now, visits, befores, afters, -, calls, looked⟩ := made.exists_visits
  rw [← befores] at found
  obtain ⟨v, listed, same⟩ := exists_visit found
  have mem := List.mem_of_getElem? listed
  obtain ⟨⟨stamp, looked⟩, -⟩ := looked v mem
  refine ⟨now, stamp, v, same, ?_, looked, fun call among => ?_⟩
  · rw [← afters, List.getElem?_map, listed, Option.map_some]
  · rw [calls]
    exact List.mem_flatMap_of_mem mem among

/-- An error is the answer to a call, and so none by which a wait ends. -/
theorem Pass.Made.error (made : p.Made b interval) (plain : b.Plain) {e : DeployError}
    (failed : p.result = .error e) : e.endsWait = false := by
  obtain ⟨now, visits, -, -, result, -, looked⟩ := made.exists_visits
  rw [failed] at result
  cases first : visits.findSome? Visit.error with
  | none =>
      rw [first] at result
      cases result
  | some e' =>
      rw [first] at result
      obtain rfl := Except.error.inj result
      obtain ⟨v, mem, told⟩ := List.exists_of_findSome?_eq_some first
      obtain ⟨⟨stamp, looked⟩, calls⟩ := looked v mem
      rcases (error_of_looked looked told).1 with observed | ⟨r, deleted⟩
      · obtain ⟨s, answer⟩ := calls _ observed
        exact plain.amid.observe _ s _ answer
      · obtain ⟨s, answer⟩ := calls _ deleted
        exact plain.amid.delete _ s _ answer

/-- A pass makes a resource ready only after it was observed so. -/
theorem ready_of_looked {now stamp : UInt64} {v : Visit} (h : Looked interval now stamp v)
    (ready : v.after.status = .ready) : v.before.status = .ready ∨
      ∃ o, .observe v.before (.ok o) ∈ v.calls ∧ o.ready = true ∧ o.synced = true := by
  cases h with
  | ready _ up synced => exact .inr ⟨_, List.mem_cons_self, up, synced⟩
  | destroyed => exact .inl ready
  | unseen => exact .inl ready
  | invisible => exact .inl ready
  | unmoved => exact .inl ready
  | gone => cases ready
  | abandoned => cases ready
  | stuck => cases ready

/-- What is ready after several passes was ready before, or was observed so in one of them. -/
theorem ready_of_chained {passes : List Pass} {d d' : Deployment} (chained : Chained d passes d')
    (made : ∀ p ∈ passes, p.Made b interval) (ready : ∀ r ∈ d'.resources, r.status = .ready)
    (found : d.resources[position]? = some r) :
    r.status = .ready ∨ ∃ p ∈ passes, p.SeesReady position := by
  induction passes generalizing d r with
  | nil =>
      obtain rfl : d = d' := chained
      exact .inl (ready r (List.mem_of_getElem? found))
  | cons p rest ih =>
      obtain ⟨rfl, later⟩ := chained
      obtain ⟨first, others⟩ := List.forall_mem_cons.1 made
      obtain ⟨now, stamp, v, rfl, next, looked, calls⟩ := first.visit found
      rcases ih later others next with ready | ⟨q, mem, sees⟩
      · rcases ready_of_looked looked ready with before | ⟨o, observed, up, synced⟩
        · exact .inl before
        · exact .inr ⟨p, List.mem_cons_self, _, o, found, calls _ observed, up, synced⟩
      · exact .inr ⟨q, List.mem_cons_of_mem _ mem, sees⟩

/-- A pass that begins where others ended can be added to them. -/
theorem Chained.concat {passes : List Pass} {d : Deployment} (chained : Chained d passes p.before) :
    Chained d (passes ++ [p]) p.after := by
  induction passes generalizing d with
  | nil => exact ⟨(show d = p.before from chained).symm, rfl⟩
  | cons q rest ih => exact ⟨chained.1, ih chained.2⟩

/-- Passes leave the identifier of a deployment alone. -/
theorem Chained.id_eq {passes : List Pass} {d d' : Deployment} (chained : Chained d passes d')
    (made : ∀ p ∈ passes, p.Made b interval) : d'.id = d.id ∧ ∀ p ∈ passes, p.after.id = d.id := by
  induction passes generalizing d with
  | nil => exact ⟨congrArg _ (show d = d' from chained).symm, List.forall_mem_nil _⟩
  | cons p rest ih =>
      obtain ⟨rfl, later⟩ := chained
      obtain ⟨first, others⟩ := List.forall_mem_cons.1 made
      have same : p.after.id = p.before.id := congrArg (·.identifier.id) first.template
      obtain ⟨last, each⟩ := ih later others
      exact ⟨last.trans same, List.forall_mem_cons.2 ⟨same, fun q mem => (each q mem).trans same⟩⟩

end Made

/-! ### What passes show -/

namespace Pass

variable {p : Pass}

/-- An error that stays is shown as it is; otherwise the statuses are. -/
theorem verdict_cases (p : Pass) :
    (∃ e, p.result = .error e ∧ e.isTransient = false ∧ p.verdict = .failed e) ∨
      (∀ e, p.result = .error e → e.isTransient = true) ∧ p.verdict = Readiness.verdict p.after := by
  rw [verdict]
  cases p.result with
  | ok _ => exact .inr ⟨nofun, rfl⟩
  | error e =>
      cases transient : e.isTransient with
      | false => exact .inl ⟨e, rfl, transient, by simp [transient]⟩
      | true =>
          refine .inr ⟨fun e' same => ?_, by simp [transient]⟩
          obtain rfl := Except.error.inj same
          exact transient

/-- Statuses show the first degraded resource, if there is one. -/
theorem verdict_of_degraded {r : Resource} (degraded : p.after.degraded? = some r)
    (transient : ∀ e, p.result = .error e → e.isTransient = true) :
    p.verdict = .failed (.degraded p.after.id r.name) := by
  rcases p.verdict_cases with ⟨e, failed, lasting, -⟩ | ⟨-, shown⟩
  · exact absurd ((transient e failed).symm.trans lasting) (by decide)
  · rw [shown, Readiness.verdict, degraded]

/-- A failed verdict tells the lasting error of the pass or a resource that is degraded. -/
theorem told_of_verdict {e : DeployError} (shown : p.verdict = .failed e) :
    p.result = .error e ∧ e.isTransient = false ∨
      ∃ r, p.after.degraded? = some r ∧ e = .degraded p.after.id r.name := by
  rcases p.verdict_cases with ⟨e', failed, lasting, same⟩ | ⟨-, same⟩
  · obtain rfl := Readiness.Verdict.failed.inj (same.symm.trans shown)
    exact .inl ⟨failed, lasting⟩
  · rw [same, Readiness.verdict] at shown
    split at shown
    · next r degraded => exact .inr ⟨r, degraded, (Readiness.Verdict.failed.inj shown).symm⟩
    · split at shown <;> cases shown

/-- A pass is quiet unless its verdict is a failure. -/
theorem quiet_of_verdict (shown : ∀ e, p.verdict ≠ .failed e) : p.Quiet := by
  rcases p.verdict_cases with ⟨e, -, -, same⟩ | ⟨transient, same⟩
  · exact absurd same (shown e)
  · refine ⟨Deployment.degraded?_eq_none.1 ?_, transient⟩
    cases first : p.after.degraded? with
    | none => rfl
    | some r => exact absurd (verdict_of_degraded first transient) (shown _)

/-- A quiet pass shows whether all is ready. -/
theorem Quiet.verdict (quiet : p.Quiet) : p.verdict = if p.after.isReady then .ready else .notYet := by
  rcases p.verdict_cases with ⟨e, failed, lasting, -⟩ | ⟨-, shown⟩
  · cases (quiet.error e failed).symm.trans lasting
  · rw [shown, Readiness.verdict, Deployment.degraded?_eq_none.2 quiet.degraded]

/-- A deployment is found ready only if it is ready. -/
theorem ready_of_verdict (shown : p.verdict = .ready) : p.after.isReady = true := by
  rw [(quiet_of_verdict (by simp [shown])).verdict] at shown
  split at shown
  · assumption
  · cases shown

/-- A deployment that is said to be not ready yet is not ready. -/
theorem not_ready_of_verdict (shown : p.verdict = .notYet) : p.after.isReady = false := by
  rw [(quiet_of_verdict (by simp [shown])).verdict] at shown
  split at shown
  · cases shown
  · next notReady => exact Bool.eq_false_iff.2 notReady

end Pass

end Polling

end Testbed
