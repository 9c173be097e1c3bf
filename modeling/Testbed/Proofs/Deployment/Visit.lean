import Testbed.Proofs.Deployment.Reconciler

/-!
What a pass and a deletion do to each resource, with the calls that they make.

A recorded backend keeps a list of the calls that it is asked and of its answers; recording changes
nothing else.  `Looked` and `Asked` are all that looking at a resource and asking for its deletion can come
to, and every pass and every deletion of a deployment is a list of such visits, one for each resource, in
their order.
-/

namespace Testbed

variable {σ τ : Type}

/-! ### Calls -/

/-- A call to a backend, with its answer. -/
inductive Call where
  | create (r : Resource) (answer : Except DeployError Unit)
  | observe (r : Resource) (answer : Except DeployError Observation)
  | delete (r : Resource) (answer : Except DeployError Unit)

/-- A backend can give the answer of a call. -/
def Call.Of (b : Backend σ) : Call → Prop
  | .create r answer => ∃ s, (b.create r s).1 = answer
  | .observe r answer => ∃ s, (b.observe r s).1 = answer
  | .delete r answer => ∃ s, (b.delete r s).1 = answer

namespace Backend

/-- The backend with a record of its calls, in order. -/
def recorded (b : Backend σ) : Backend (σ × List Call) where
  create r s := ((b.create r s.1).1, (b.create r s.1).2, s.2 ++ [.create r (b.create r s.1).1])
  observe r s := ((b.observe r s.1).1, (b.observe r s.1).2, s.2 ++ [.observe r (b.observe r s.1).1])
  delete r s := ((b.delete r s.1).1, (b.delete r s.1).2, s.2 ++ [.delete r (b.delete r s.1).1])

/-- From related states a backend answers as another does, and goes on to related states. -/
structure Simulates (c : Backend τ) (b : Backend σ) (Related : τ → σ → Prop) : Prop where
  observe : ∀ r t s, Related t s →
    (c.observe r t).1 = (b.observe r s).1 ∧ Related (c.observe r t).2 (b.observe r s).2
  delete : ∀ r t s, Related t s →
    (c.delete r t).1 = (b.delete r s).1 ∧ Related (c.delete r t).2 (b.delete r s).2

/-- The recording backend does what the backend does, beside its calls. -/
theorem recorded_simulates (b : Backend σ) : b.recorded.Simulates b fun t s => t.1 = s where
  observe r t s same := by subst same; exact ⟨rfl, rfl⟩
  delete r t s same := by subst same; exact ⟨rfl, rfl⟩

end Backend

/-! ### Visits -/

namespace Deployment

/-- Visits that change each resource alike, from related states, change a deployment alike. -/
theorem visit_alike {R : τ → σ → Prop} {change : Nat → Resource → τ → Resource × τ}
    {change' : Nat → Resource → σ → Resource × σ}
    (alike : ∀ i r t s, R t s →
      (change i r t).1 = (change' i r s).1 ∧ R (change i r t).2 (change' i r s).2)
    (d : Deployment) {t : τ} {s : σ} (related : R t s) :
    (d.visit change t).1 = (d.visit change' s).1 ∧
      R (d.visit change t).2 (d.visit change' s).2 := by
  have machines : ∀ (vms : List Vm) (i : Nat) (t : τ) (s : σ), R t s →
      (visitVms change i vms t).1 = (visitVms change' i vms s).1 ∧
        R (visitVms change i vms t).2 (visitVms change' i vms s).2 := by
    intro vms
    induction vms with
    | nil => exact fun _ _ _ related => ⟨rfl, related⟩
    | cons vm rest ih =>
        intro i t s related
        obtain ⟨first, related⟩ := alike i vm.resource t s related
        obtain ⟨others, related⟩ := ih (i + 1) _ _ related
        refine ⟨?_, related⟩
        simp only [visitVms, first, others]
  obtain ⟨network, related⟩ := alike 0 d.network t s related
  obtain ⟨vms, related⟩ := machines d.vms 1 _ _ related
  refine ⟨?_, related⟩
  simp only [visit, network, vms]

end Deployment

/-- What is done to one resource: the calls that are made, the error if there is one, and the resource
before and after. -/
structure Visit where
  before : Resource
  calls : List Call
  error : Option DeployError
  after : Resource

/-- Visits one after the other from a position on, each knowing the first error so far. -/
def Visits (Step : Nat → Option DeployError → Visit → Prop) :
    Nat → Option DeployError → List Visit → Prop
  | _, _, [] => True
  | i, first, v :: rest => Step i first v ∧ Visits Step (i + 1) (first.or v.error) rest

/-- Visits that do not mind earlier errors can be looked at one by one. -/
theorem Visits.get {Step : Nat → Visit → Prop} {visits : List Visit} {i : Nat} {first : Option DeployError}
    (h : Visits (fun i _ v => Step i v) i first visits) {j : Nat} {v : Visit} (at_j : visits[j]? = some v) :
    Step (i + j) v := by
  induction visits generalizing i j first with
  | nil => cases at_j
  | cons u rest ih =>
      cases j with
      | zero =>
          obtain rfl : u = v := Option.some.inj at_j
          exact h.1
      | succ j =>
          have step := ih h.2 at_j
          rwa [Nat.add_right_comm] at step

/-- A change of resources that keeps the first error and a record of calls makes a list of visits. -/
theorem Deployment.exists_visits {Step : Nat → Option DeployError → Visit → Prop}
    {change : Nat → Resource → Option DeployError × σ × List Call →
      Resource × Option DeployError × σ × List Call}
    (step : ∀ i r first s calls, ∃ v, v.before = r ∧ Step i first v ∧
      (change i r (first, s, calls)).1 = v.after ∧ (change i r (first, s, calls)).2.1 = first.or v.error ∧
      (change i r (first, s, calls)).2.2.2 = calls ++ v.calls)
    (d : Deployment) (s : σ) (calls : List Call) :
    ∃ visits, visits.map Visit.before = d.resources ∧ Visits Step 0 none visits ∧
      visits.map Visit.after = (d.visit change (none, s, calls)).1.resources ∧
      (d.visit change (none, s, calls)).2.1 = visits.findSome? Visit.error ∧
      (d.visit change (none, s, calls)).2.2.2 = calls ++ visits.flatMap Visit.calls := by
  have machines : ∀ (vms : List Vm) (i : Nat) (first : Option DeployError) (s : σ) (calls : List Call),
      ∃ visits, visits.map Visit.before = vms.map Vm.resource ∧ Visits Step i first visits ∧
        visits.map Visit.after = (visitVms change i vms (first, s, calls)).1.map Vm.resource ∧
        (visitVms change i vms (first, s, calls)).2.1 = first.or (visits.findSome? Visit.error) ∧
        (visitVms change i vms (first, s, calls)).2.2.2 = calls ++ visits.flatMap Visit.calls := by
    intro vms
    induction vms with
    | nil => exact fun i first s calls => ⟨[], rfl, trivial, rfl, by simp [visitVms], by simp [visitVms]⟩
    | cons vm rest ih =>
        intro i first s calls
        obtain ⟨v, before, stepped, after, error, made⟩ := step i vm.resource first s calls
        obtain ⟨visits, befores, visited, afters, errors, all⟩ :=
          ih (i + 1) (change i vm.resource (first, s, calls)).2.1
            (change i vm.resource (first, s, calls)).2.2.1 (change i vm.resource (first, s, calls)).2.2.2
        refine ⟨v :: visits, ?_, ⟨stepped, error ▸ visited⟩, ?_, ?_, ?_⟩
        · rw [List.map_cons, List.map_cons, before, befores]
        · rw [visitVms, List.map_cons, List.map_cons, after, afters]
        · rw [visitVms, errors, error, Option.or_assoc, List.findSome?_cons]
          cases v.error <;> simp
        · rw [visitVms, all, made, List.flatMap_cons, List.append_assoc]
  obtain ⟨v, before, stepped, after, error, made⟩ := step 0 d.network none s calls
  obtain ⟨visits, befores, visited, afters, errors, all⟩ :=
    machines d.vms 1 (change 0 d.network (none, s, calls)).2.1
      (change 0 d.network (none, s, calls)).2.2.1 (change 0 d.network (none, s, calls)).2.2.2
  refine ⟨v :: visits, ?_, ⟨stepped, error ▸ visited⟩, ?_, ?_, ?_⟩
  · rw [List.map_cons, resources, before, befores]
  · rw [List.map_cons, resources_visit, after, afters]
  · rw [visit, errors, error, List.findSome?_cons]
    cases v.error <;> simp
  · rw [visit, all, made, List.flatMap_cons, List.append_assoc]

namespace Reconciler

variable {b : Backend σ} {c : Backend τ} {Related : τ → σ → Prop}

/-! ### Simulation -/

/-- Removals over backends that do the same give the same answer and leave the same. -/
theorem remove_alike (sim : c.Simulates b Related) (r : Resource) {t : τ} {s : σ} (related : Related t s) :
    (c.remove r t).1 = (b.remove r s).1 ∧ Related (c.remove r t).2 (b.remove r s).2 := by
  obtain ⟨same, later⟩ := sim.delete r t s related
  rw [Backend.remove.eq_def, Backend.remove.eq_def]
  revert same later
  generalize c.delete r t = one
  generalize b.delete r s = other
  obtain ⟨answer, t'⟩ := one
  obtain ⟨answer', s'⟩ := other
  rintro same later
  obtain rfl : answer = answer' := same
  cases answer with
  | ok _ => exact ⟨rfl, later⟩
  | error e => cases e <;> exact ⟨rfl, later⟩

/-- Giving a resource up is the same over backends that do the same. -/
theorem giveUp_alike (sim : c.Simulates b Related) (r : Resource) (stamp : UInt64) {t : τ} {s : σ}
    (related : Related t s) :
    (giveUp c r stamp t).1 = (giveUp b r stamp s).1 ∧ (giveUp c r stamp t).2.1 = (giveUp b r stamp s).2.1 ∧
      Related (giveUp c r stamp t).2.2 (giveUp b r stamp s).2.2 := by
  rw [giveUp.eq_def, giveUp.eq_def]
  cases r.status with
  | creating =>
      obtain ⟨same, later⟩ := remove_alike sim (r.enter .degraded stamp) related
      exact ⟨same, rfl, later⟩
  | _ => exact ⟨rfl, rfl, related⟩

/-- Going on with a resource is the same over backends that do the same. -/
theorem advance_alike (sim : c.Simulates b Related) (interval : Nat) (r : Resource) (now stamp : UInt64)
    {t : τ} {s : σ} (related : Related t s) :
    (advance c interval r now stamp t).1 = (advance b interval r now stamp s).1 ∧
      (advance c interval r now stamp t).2.1 = (advance b interval r now stamp s).2.1 ∧
      Related (advance c interval r now stamp t).2.2 (advance b interval r now stamp s).2.2 := by
  rw [advance, advance]
  split
  · exact ⟨rfl, rfl, related⟩
  · split
    · exact giveUp_alike sim r stamp related
    · exact ⟨rfl, rfl, related⟩

/-- A pass does the same to a resource over backends that do the same. -/
theorem reconcile_alike (sim : c.Simulates b Related) (interval : Nat) (r : Resource) (now stamp : UInt64)
    {t : τ} {s : σ} (related : Related t s) :
    (reconcile c interval r now stamp t).1 = (reconcile b interval r now stamp s).1 ∧
      (reconcile c interval r now stamp t).2.1 = (reconcile b interval r now stamp s).2.1 ∧
      Related (reconcile c interval r now stamp t).2.2 (reconcile b interval r now stamp s).2.2 := by
  rw [reconcile.eq_def, reconcile.eq_def]
  split
  · exact ⟨rfl, rfl, related⟩
  · obtain ⟨same, later⟩ := sim.observe r t s related
    revert same later
    generalize c.observe r t = one
    generalize b.observe r s = other
    obtain ⟨answer, t'⟩ := one
    obtain ⟨answer', s'⟩ := other
    rintro same later
    obtain rfl : answer = answer' := same
    cases answer with
    | ok o => exact advance_alike sim interval (observed r o) now stamp later
    | error e => cases e <;> exact ⟨rfl, rfl, later⟩

/-- A pass does not tell a backend from one that simulates it. -/
theorem process_alike (sim : c.Simulates b Related) (interval : Nat) (d : Deployment) (stamps : Stamps)
    {t : τ} {s : σ} (related : Related t s) :
    (process c interval d stamps t).1 = (process b interval d stamps s).1 ∧
      (process c interval d stamps t).2.1 = (process b interval d stamps s).2.1 ∧
      Related (process c interval d stamps t).2.2 (process b interval d stamps s).2.2 := by
  have alike : ∀ i r (t : Option DeployError × τ) (s : Option DeployError × σ),
      t.1 = s.1 ∧ Related t.2 s.2 →
      (passOver c interval stamps i r t).1 = (passOver b interval stamps i r s).1 ∧
        (passOver c interval stamps i r t).2.1 = (passOver b interval stamps i r s).2.1 ∧
        Related (passOver c interval stamps i r t).2.2 (passOver b interval stamps i r s).2.2 := by
    rintro i r ⟨first, t⟩ ⟨first', s⟩ ⟨rfl, related⟩
    obtain ⟨same, after, later⟩ :=
      reconcile_alike sim interval r (stamps.nth 0) (stamps.nth (i + 1)) related
    rw [passOver.eq_def, passOver.eq_def]
    revert same after later
    dsimp only
    generalize reconcile c interval r (stamps.nth 0) (stamps.nth (i + 1)) t = one
    generalize reconcile b interval r (stamps.nth 0) (stamps.nth (i + 1)) s = other
    obtain ⟨answer, r', t'⟩ := one
    obtain ⟨answer', r'', s'⟩ := other
    rintro same after later
    obtain rfl : answer = answer' := same
    obtain rfl : r' = r'' := after
    cases answer <;> exact ⟨rfl, rfl, later⟩
  obtain ⟨same, errors, later⟩ := Deployment.visit_alike (R := fun t s => t.1 = s.1 ∧ Related t.2 s.2)
    alike d ⟨rfl, related⟩ (t := (none, t)) (s := (none, s))
  exact ⟨congrArg outcome errors, same, later⟩

/-- Neither does a deletion. -/
theorem destroy_alike (sim : c.Simulates b Related) (d : Deployment) (stamps : Stamps) {t : τ} {s : σ}
    (related : Related t s) :
    (destroy c d stamps t).1 = (destroy b d stamps s).1 ∧
      (destroy c d stamps t).2.1 = (destroy b d stamps s).2.1 ∧
      Related (destroy c d stamps t).2.2 (destroy b d stamps s).2.2 := by
  have alike : ∀ i r (t : Option DeployError × τ) (s : Option DeployError × σ),
      t.1 = s.1 ∧ Related t.2 s.2 →
      (takeDown c stamps i r t).1 = (takeDown b stamps i r s).1 ∧
        (takeDown c stamps i r t).2.1 = (takeDown b stamps i r s).2.1 ∧
        Related (takeDown c stamps i r t).2.2 (takeDown b stamps i r s).2.2 := by
    rintro i r ⟨first, t⟩ ⟨first', s⟩ ⟨rfl, related⟩
    obtain ⟨same, later⟩ := sim.delete (r.enter .destroying (stamps.nth (2 * i))) t s related
    rw [takeDown.eq_def, takeDown.eq_def]
    dsimp only at related ⊢
    split
    · exact ⟨rfl, rfl, related⟩
    · revert same later
      generalize c.delete (r.enter .destroying (stamps.nth (2 * i))) t = one
      generalize b.delete (r.enter .destroying (stamps.nth (2 * i))) s = other
      obtain ⟨answer, t'⟩ := one
      obtain ⟨answer', s'⟩ := other
      rintro same later
      obtain rfl : answer = answer' := same
      cases answer with
      | ok _ => exact ⟨rfl, rfl, later⟩
      | error e => cases e <;> exact ⟨rfl, rfl, later⟩
  obtain ⟨same, errors, later⟩ := Deployment.visit_alike (R := fun t s => t.1 = s.1 ∧ Related t.2 s.2)
    alike d ⟨rfl, related⟩ (t := (none, t)) (s := (none, s))
  exact ⟨congrArg outcome errors, same, later⟩

/-! ### Looking at a resource -/

/-- The error that is left of the answer to a deletion: what a backend does not know is deleted. -/
def complaint : Except DeployError Unit → Option DeployError
  | .ok () => none
  | .error (.notFound _) => none
  | .error e => some e

/-- Every error but the one that nothing was found is complained of. -/
theorem complaint_of_ne {e : DeployError} (other : ∀ what, e ≠ .notFound what) :
    complaint (.error e) = some e := by
  cases e with
  | notFound what => exact absurd rfl (other what)
  | _ => rfl

/-- What is complained of is an error of the answer, and not the one that nothing was found. -/
theorem complaint_eq_some {answer : Except DeployError Unit} {e : DeployError}
    (h : complaint answer = some e) : answer = .error e ∧ ∀ what, e ≠ .notFound what := by
  cases answer with
  | ok _ => cases h
  | error e' =>
      cases e' with
      | notFound _ => cases h
      | _ =>
          obtain rfl := Option.some.inj h
          exact ⟨rfl, fun _ same => by cases same⟩

/-- There is nothing to complain of in a deletion that is accepted or finds nothing. -/
theorem complaint_eq_none {answer : Except DeployError Unit} :
    complaint answer = none ↔ answer = .ok () ∨ ∃ what, answer = .error (.notFound what) := by
  cases answer with
  | ok _ => simp [complaint]
  | error e => cases e <;> simp [complaint]

/-- All that looking at a resource can come to, in a pass that has begun at `now`; if it is moved, then at
`stamp`. -/
inductive Looked (interval : Nat) (now stamp : UInt64) : Visit → Prop where
  | destroyed {r : Resource} (gone : r.status = .destroyed) : Looked interval now stamp ⟨r, [], none, r⟩
  | unseen {r : Resource} {e : DeployError} (alive : r.status ≠ .destroyed)
      (other : ∀ what, e ≠ .notFound what) :
      Looked interval now stamp ⟨r, [.observe r (.error e)], some e, r⟩
  | gone {r : Resource} {what : String} (ending : r.status = .destroying ∨ r.status = .degraded) :
      Looked interval now stamp
        ⟨r, [.observe r (.error (.notFound what))], none, r.enter .destroyed stamp⟩
  | invisible {r : Resource} {what : String} (early : r.status = .creating ∨ r.status = .ready) :
      Looked interval now stamp ⟨r, [.observe r (.error (.notFound what))], none, r⟩
  | ready {r : Resource} {o : Observation} (creating : r.status = .creating) (up : o.ready = true)
      (synced : o.synced = true) :
      Looked interval now stamp ⟨r, [.observe r (.ok o)], none, (observed r o).enter .ready stamp⟩
  /-- A resource that never became ready is deleted at once. -/
  | abandoned {r : Resource} {o : Observation} {answer : Except DeployError Unit}
      (creating : r.status = .creating) (overdue : r.isOverdue interval now = true)
      (down : ¬ (o.ready = true ∧ o.synced = true)) :
      Looked interval now stamp
        ⟨r, [.observe r (.ok o), .delete ((observed r o).enter .degraded stamp) answer],
          complaint answer, (observed r o).enter .degraded stamp⟩
  | stuck {r : Resource} {o : Observation} (destroying : r.status = .destroying)
      (overdue : r.isOverdue interval now = true) :
      Looked interval now stamp ⟨r, [.observe r (.ok o)], none, (observed r o).enter .degraded stamp⟩
  | unmoved {r : Resource} {o : Observation} (alive : r.status ≠ .destroyed)
      (early : ¬ ((r.status = .creating ∨ r.status = .destroying) ∧ r.isOverdue interval now = true))
      (down : ¬ (r.status = .creating ∧ o.ready = true ∧ o.synced = true)) :
      Looked interval now stamp ⟨r, [.observe r (.ok o)], none, observed r o⟩

/-- A removal over the recording backend is one deletion, and what can be complained of in its answer. -/
theorem remove_recorded (b : Backend σ) (r : Resource) (s : σ) (calls : List Call) :
    b.recorded.remove r (s, calls) = (outcome (complaint (b.delete r s).1), (b.delete r s).2,
      calls ++ [.delete r (b.delete r s).1]) := by
  have asked : b.recorded.delete r (s, calls) =
    ((b.delete r s).1, (b.delete r s).2, calls ++ [.delete r (b.delete r s).1]) := rfl
  rw [Backend.remove.eq_def, asked]
  generalize (b.delete r s).1 = answer
  cases answer with
  | ok _ => rfl
  | error e => cases e <;> rfl

/-- What an observation can lead to. -/
theorem advance_looked (b : Backend σ) (interval : Nat) {r : Resource} (alive : r.status ≠ .destroyed)
    (o : Observation) (now stamp : UInt64) (s : σ) (calls : List Call) :
    ∃ rest error after, Looked interval now stamp ⟨r, .observe r (.ok o) :: rest, error, after⟩ ∧
      (∀ call ∈ rest, call.Of b) ∧
      (advance b.recorded interval (observed r o) now stamp (s, calls)).1 = outcome error ∧
      (advance b.recorded interval (observed r o) now stamp (s, calls)).2.1 = after ∧
      (advance b.recorded interval (observed r o) now stamp (s, calls)).2.2.2 = calls ++ rest := by
  rw [advance.eq_def]
  by_cases up : (observed r o).status = .creating ∧ (observed r o).ready ∧ (observed r o).synced
  · rw [if_pos up]
    exact ⟨[], none, _, .ready up.1 up.2.1 up.2.2, List.forall_mem_nil _, rfl, rfl, (List.append_nil _).symm⟩
  · rw [if_neg up]
    by_cases late : ((observed r o).status = .creating ∨ (observed r o).status = .destroying) ∧
        (observed r o).isOverdue interval now
    · rw [if_pos late]
      obtain ⟨creating | destroying, overdue⟩ := late
      · rw [giveUp.eq_def, creating]
        dsimp only
        rw [remove_recorded]
        refine ⟨[_], _, _, .abandoned creating overdue (fun seen => up ⟨creating, seen⟩), ?_, rfl, rfl, rfl⟩
        rw [List.forall_mem_singleton]
        exact ⟨s, rfl⟩
      · rw [giveUp.eq_def, destroying]
        exact ⟨[], none, _, .stuck destroying overdue, List.forall_mem_nil _, rfl, rfl,
          (List.append_nil _).symm⟩
    · rw [if_neg late]
      exact ⟨[], none, _, .unmoved alive late up, List.forall_mem_nil _, rfl, rfl, (List.append_nil _).symm⟩

/-- Looking at a resource comes to one of the things that it can come to. -/
theorem reconcile_looked (b : Backend σ) (interval : Nat) (r : Resource) (now stamp : UInt64) (s : σ)
    (calls : List Call) :
    ∃ v, v.before = r ∧ Looked interval now stamp v ∧ (∀ call ∈ v.calls, call.Of b) ∧
      (reconcile b.recorded interval r now stamp (s, calls)).1 = outcome v.error ∧
      (reconcile b.recorded interval r now stamp (s, calls)).2.1 = v.after ∧
      (reconcile b.recorded interval r now stamp (s, calls)).2.2.2 = calls ++ v.calls := by
  by_cases gone : r.status = .destroyed
  · refine ⟨_, rfl, .destroyed gone, List.forall_mem_nil _, ?_⟩
    rw [reconcile, if_pos gone]
    exact ⟨rfl, rfl, (List.append_nil _).symm⟩
  · have genuine : (Call.observe r (b.observe r s).1).Of b := ⟨s, rfl⟩
    have seen : b.recorded.observe r (s, calls) =
      ((b.observe r s).1, (b.observe r s).2, calls ++ [.observe r (b.observe r s).1]) := rfl
    rw [reconcile.eq_def, if_neg gone, seen]
    revert genuine
    generalize (b.observe r s).1 = answer
    generalize (b.observe r s).2 = s'
    intro genuine
    cases answer with
    | ok o =>
        obtain ⟨rest, error, after, looked, made, result, kept, logged⟩ :=
          advance_looked b interval gone o now stamp s' (calls ++ [.observe r (.ok o)])
        refine ⟨_, rfl, looked, List.forall_mem_cons.2 ⟨genuine, made⟩, result, kept, ?_⟩
        rw [logged, List.append_assoc]
        rfl
    | error e =>
        have made : ∀ call ∈ [Call.observe r (.error e)], call.Of b := (List.forall_mem_singleton).2 genuine
        cases e with
        | notFound what =>
            dsimp only
            rw [missing.eq_def]
            cases status : r.status with
            | creating => exact ⟨_, rfl, .invisible (.inl status), made, rfl, rfl, rfl⟩
            | ready => exact ⟨_, rfl, .invisible (.inr status), made, rfl, rfl, rfl⟩
            | degraded => exact ⟨_, rfl, .gone (.inr status), made, rfl, rfl, rfl⟩
            | destroying => exact ⟨_, rfl, .gone (.inl status), made, rfl, rfl, rfl⟩
            | destroyed => exact absurd status gone
        | _ => exact ⟨_, rfl, .unseen gone (fun _ same => by cases same), made, rfl, rfl, rfl⟩

/-- Passing over a resource is one look at it; the error of the pass is the first one of all its looks. -/
theorem passOver_looked (b : Backend σ) (interval : Nat) (stamps : Stamps) (i : Nat) (r : Resource)
    (first : Option DeployError) (s : σ) (calls : List Call) :
    ∃ v, v.before = r ∧
      (Looked interval (stamps.nth 0) (stamps.nth (i + 1)) v ∧ ∀ call ∈ v.calls, call.Of b) ∧
      (passOver b.recorded interval stamps i r (first, s, calls)).1 = v.after ∧
      (passOver b.recorded interval stamps i r (first, s, calls)).2.1 = first.or v.error ∧
      (passOver b.recorded interval stamps i r (first, s, calls)).2.2.2 = calls ++ v.calls := by
  obtain ⟨v, before, looked, made, result, after, logged⟩ :=
    reconcile_looked b interval r (stamps.nth 0) (stamps.nth (i + 1)) s calls
  refine ⟨v, before, ⟨looked, made⟩, ?_⟩
  rw [passOver.eq_def]
  dsimp only
  revert result after logged
  generalize reconcile b.recorded interval r (stamps.nth 0) (stamps.nth (i + 1)) (s, calls) = done
  obtain ⟨answer, r', s', calls'⟩ := done
  rintro rfl rfl rfl
  cases v.error with
  | none => exact ⟨rfl, (Option.or_none).symm, rfl⟩
  | some e => exact ⟨rfl, Option.orElse_eq_or, rfl⟩

/-- A pass looks at every resource once, also after an error, and reports the first error. -/
theorem process_visits (b : Backend σ) (interval : Nat) (d : Deployment) (stamps : Stamps) (s : σ)
    (calls : List Call) :
    ∃ visits : List Visit, visits.map Visit.before = d.resources ∧
      (∀ (i : Nat) v, visits[i]? = some v →
        Looked interval (stamps.nth 0) (stamps.nth (i + 1)) v ∧ ∀ call ∈ v.calls, call.Of b) ∧
      visits.map Visit.after = (process b interval d stamps s).2.1.resources ∧
      (process b interval d stamps s).1 = outcome (visits.findSome? Visit.error) ∧
      (process b.recorded interval d stamps (s, calls)).2.2.2 = calls ++ visits.flatMap Visit.calls := by
  obtain ⟨visits, befores, looked, afters, error, made⟩ :=
    Deployment.exists_visits (fun i => passOver_looked b interval stamps i) d s calls
  obtain ⟨result, same, -⟩ := process_alike b.recorded_simulates interval d stamps
    (t := (s, calls)) (s := s) rfl
  refine ⟨visits, befores, fun i v at_i => ?_, ?_, ?_, made⟩
  · have step := looked.get at_i
    rwa [Nat.zero_add] at step
  · rw [afters, ← same]
    rfl
  · rw [← result, ← error]
    rfl

/-! ### Asking for a deletion -/

/-- All that asking for the deletion of a resource can come to: it is begun at one time, and has ended at
another if the resource turns out to be gone. -/
inductive Asked (begun ended : UInt64) : Visit → Prop where
  | destroyed {r : Resource} (gone : r.status = .destroyed) : Asked begun ended ⟨r, [], none, r⟩
  | taken {r : Resource} (alive : r.status ≠ .destroyed) :
      Asked begun ended
        ⟨r, [.delete (r.enter .destroying begun) (.ok ())], none, r.enter .destroying begun⟩
  | unknown {r : Resource} {what : String} (alive : r.status ≠ .destroyed) :
      Asked begun ended ⟨r, [.delete (r.enter .destroying begun) (.error (.notFound what))], none,
        (r.enter .destroying begun).enter .destroyed ended⟩
  | refused {r : Resource} {e : DeployError} (alive : r.status ≠ .destroyed)
      (other : ∀ what, e ≠ .notFound what) :
      Asked begun ended
        ⟨r, [.delete (r.enter .destroying begun) (.error e)], some e, r.enter .destroying begun⟩

/-- A visit that does nothing. -/
def Idle (v : Visit) : Prop := v.calls = [] ∧ v.error = none ∧ v.after = v.before

/-- Asking for the deletion of the resource at a position comes to something that it can come to. -/
def AskedAt (stamps : Stamps) (i : Nat) (v : Visit) : Prop :=
  Asked (stamps.nth (2 * i)) (stamps.nth (2 * i + 1)) v

/-- The visits of a deletion from a position on: resources are asked to be deleted in order, up to the first
that cannot be deleted, and the others are left as they are. -/
inductive Deletion (stamps : Stamps) : Nat → List Visit → Prop where
  | done {i : Nat} : Deletion stamps i []
  | next {i : Nat} {v : Visit} {rest : List Visit} (asked : AskedAt stamps i v) (fine : v.error = none)
      (later : Deletion stamps (i + 1) rest) : Deletion stamps i (v :: rest)
  | stopped {i : Nat} {v : Visit} {rest : List Visit} (asked : AskedAt stamps i v)
      (failed : v.error.isSome = true) (left : ∀ u ∈ rest, Idle u) : Deletion stamps i (v :: rest)

/-- What becomes of the resource at a position when the first error so far is known. -/
def AskedUnless (stamps : Stamps) (i : Nat) (first : Option DeployError) (v : Visit) : Prop :=
  if first.isSome then Idle v else AskedAt stamps i v

/-- Taking down a resource asks for its deletion, unless an earlier deletion was refused. -/
theorem takeDown_asked (b : Backend σ) (stamps : Stamps) (i : Nat) (r : Resource)
    (first : Option DeployError) (s : σ) (calls : List Call) :
    ∃ v, v.before = r ∧ AskedUnless stamps i first v ∧
      (takeDown b.recorded stamps i r (first, s, calls)).1 = v.after ∧
      (takeDown b.recorded stamps i r (first, s, calls)).2.1 = first.or v.error ∧
      (takeDown b.recorded stamps i r (first, s, calls)).2.2.2 = calls ++ v.calls := by
  rw [takeDown.eq_def]
  dsimp only
  cases first with
  | some e => exact ⟨⟨r, [], none, r⟩, rfl, ⟨rfl, rfl, rfl⟩, rfl, rfl, (List.append_nil _).symm⟩
  | none =>
      by_cases gone : r.status = .destroyed
      · rw [if_pos (.inr gone)]
        exact ⟨⟨r, [], none, r⟩, rfl, .destroyed gone, rfl, rfl, (List.append_nil _).symm⟩
      · rw [if_neg (by simp [gone])]
        generalize begin : r.enter .destroying (stamps.nth (2 * i)) = r'
        have asked : b.recorded.delete r' (s, calls) =
          ((b.delete r' s).1, (b.delete r' s).2, calls ++ [.delete r' (b.delete r' s).1]) := rfl
        rw [asked]
        generalize (b.delete r' s).1 = answer
        subst begin
        cases answer with
        | ok _ => exact ⟨_, rfl, .taken gone, rfl, rfl, rfl⟩
        | error e =>
            cases e with
            | notFound what => exact ⟨_, rfl, .unknown gone, rfl, rfl, rfl⟩
            | _ => exact ⟨_, rfl, .refused gone (fun _ same => by cases same), rfl, rfl, rfl⟩

/-- Once an error is known, nothing more is done. -/
theorem idle_of_visits {stamps : Stamps} {i : Nat} {first : Option DeployError}
    (failed : first.isSome = true) {visits : List Visit} (h : Visits (AskedUnless stamps) i first visits) :
    ∀ v ∈ visits, Idle v := by
  induction visits generalizing i first with
  | nil => exact List.forall_mem_nil _
  | cons v rest ih =>
      obtain ⟨idle, later⟩ := h
      have still : (first.or v.error).isSome = true := by simp [failed]
      rw [AskedUnless, if_pos failed] at idle
      exact List.forall_mem_cons.2 ⟨idle, ih still later⟩

/-- As long as none is known, the resources are asked for in their order. -/
theorem deletion_of_visits {stamps : Stamps} {i : Nat} {visits : List Visit}
    (h : Visits (AskedUnless stamps) i none visits) : Deletion stamps i visits := by
  induction visits generalizing i with
  | nil => exact .done
  | cons v rest ih =>
      obtain ⟨asked, later⟩ := h
      cases failed : v.error with
      | none =>
          rw [failed] at later
          exact .next asked failed (ih later)
      | some e =>
          rw [failed] at later
          exact .stopped asked (by simp [failed]) (idle_of_visits rfl later)

/-- The visits that a deletion makes. -/
theorem destroy_visits (b : Backend σ) (d : Deployment) (stamps : Stamps) (s : σ) (calls : List Call) :
    ∃ visits : List Visit, visits.map Visit.before = d.resources ∧ Deletion stamps 0 visits ∧
      visits.map Visit.after = (destroy b d stamps s).2.1.resources ∧
      (destroy b d stamps s).1 = outcome (visits.findSome? Visit.error) ∧
      (destroy b.recorded d stamps (s, calls)).2.2.2 = calls ++ visits.flatMap Visit.calls := by
  obtain ⟨visits, befores, asked, afters, error, made⟩ :=
    Deployment.exists_visits (takeDown_asked b stamps) d s calls
  obtain ⟨result, same, -⟩ := destroy_alike b.recorded_simulates d stamps (t := (s, calls)) (s := s) rfl
  refine ⟨visits, befores, deletion_of_visits asked, ?_, ?_, made⟩
  · rw [afters, ← same]
    rfl
  · rw [← result, ← error]
    rfl

/-! ### Errors -/

end Reconciler

/-- The error with which a call is answered.  It is none that the backend does not know a resource. -/
def Call.error? : Call → Option DeployError
  | .create _ answer => Reconciler.complaint answer
  | .observe _ answer => Reconciler.complaint (answer.map fun _ => ())
  | .delete _ answer => Reconciler.complaint answer

namespace Reconciler

section Errors

variable {v : Visit}

/-- A visit comes to the first error of its calls. -/
theorem error_eq_of_looked {interval : Nat} {now stamp : UInt64} (h : Looked interval now stamp v) :
    v.error = v.calls.findSome? Call.error? := by
  cases h with
  | unseen _ other =>
      rw [List.findSome?_singleton]
      exact (complaint_of_ne other).symm
  | @abandoned _ _ answer =>
      rw [List.findSome?_cons, List.findSome?_singleton]
      rfl
  | _ => rfl

/-- The error of a visit that asks for a deletion is the first one among the answers to its calls. -/
theorem error_eq_of_asked {begun ended : UInt64} (h : Asked begun ended v) :
    v.error = v.calls.findSome? Call.error? := by
  cases h with
  | refused _ other =>
      rw [List.findSome?_singleton]
      exact (complaint_of_ne other).symm
  | _ => rfl

/-- A visit that does nothing has no error and no calls. -/
theorem Idle.error_eq (h : Idle v) : v.error = v.calls.findSome? Call.error? := by
  rw [h.1, h.2.1]
  rfl

/-- What comes first in visits comes first in their calls. -/
theorem findSome?_calls {visits : List Visit}
    (each : ∀ v ∈ visits, v.error = v.calls.findSome? Call.error?) :
    visits.findSome? Visit.error = (visits.flatMap Visit.calls).findSome? Call.error? := by
  induction visits with
  | nil => rfl
  | cons v rest ih =>
      obtain ⟨first, others⟩ := List.forall_mem_cons.1 each
      rw [List.flatMap_cons, List.findSome?_append, ← first, ← ih others, List.findSome?_cons]
      cases v.error <;> rfl

end Errors

end Reconciler

end Testbed
