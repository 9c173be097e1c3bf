import Testbed.Deployment.Backend.Memory
import Testbed.Proofs.Deployment.Reconciler

/-!
Deployments that come up.

`Readiness.ReadyAfter` says after how many pauses the polls of a deployment show it ready.  When that is
before the deadline, a wait for it succeeds (`await_of_readyAfter`).

What is asked of a service, `DeploymentService.BringsUp`, follows from what its backend does with single
resources (`Backend.Delivers`): every resource that it creates is seen ready after a limited number of
observations.  The reconciler must not give up on a resource before that.
-/

namespace Testbed

variable {σ τ : Type}

/-! ### Waiting -/

/-- Two pauses in a row are one long pause. -/
theorem Clock.pause_pause (clock : Clock) (first second : Nat) :
    (clock.pause first).pause second = clock.pause (first + second) := by
  cases together : clock.together <;> simp [pause, together, Nat.add_assoc]

/-- A signal that does not fire until an instant does not fire earlier. -/
theorem Signal.interrupts_of_le {signal : Signal} {earlier later : Nat} (le : earlier ≤ later)
    (quiet : signal.interrupts later = none) : signal.interrupts earlier = none := by
  rw [interrupts, Option.filter_eq_none_iff] at quiet ⊢
  intro instant fires early
  have early : instant ≤ earlier := of_decide_eq_true early
  exact quiet instant fires (decide_eq_true (Nat.le_trans early le))

namespace Readiness

/-- Polls show a deployment ready after so many pauses, and on its way until then. -/
inductive ReadyAfter (svc : DeploymentService σ) (o : WaitOptions) :
    Nat → Deployment → Clock → σ → Prop where
  | now {d d' : Deployment} {clock : Clock} {s s' : σ}
      (seen : poll svc d clock.stamp s = (.ready, d', s')) : ReadyAfter svc o 0 d clock s
  | later {n : Nat} {d d' : Deployment} {clock : Clock} {s s' : σ}
      (seen : poll svc d clock.stamp s = (.notYet, d', s'))
      (rest : ReadyAfter svc o n d' (clock.pause (pauseOf o)) s') : ReadyAfter svc o (n + 1) d clock s

variable {svc : DeploymentService σ} {o : WaitOptions} {signal : Signal} {n : Nat} {d : Deployment}
  {clock : Clock} {s : σ}

/-- A watch that is not given up before ends with the deployment. -/
theorem watch_of_readyAfter (h : ReadyAfter svc o n d clock s) {giveUpAt : Nat}
    (soon : clock.timer + n * pauseOf o < giveUpAt) (quiet : signal.interrupts giveUpAt = none) :
    ∃ d' clock' s', watch svc o signal giveUpAt [⟨d, false⟩] clock s = (.ok [d'], clock', s') := by
  induction h with
  | @now d d' clock s s' seen =>
      refine ⟨d', clock, s', ?_⟩
      rw [watch]
      simp [round, seen]
  | @later n d d' clock s s' seen rest ih =>
      have next : clock.timer + pauseOf o < giveUpAt := by
        rw [Nat.succ_mul] at soon
        omega
      obtain ⟨d'', clock', s'', watched⟩ := ih (by
        rw [Nat.succ_mul] at soon
        simp only [Clock.pause]
        omega)
      refine ⟨d'', clock', s'', ?_⟩
      have awake : signal.interrupts (min (clock.timer + pauseOf o) giveUpAt) = none :=
        Signal.interrupts_of_le (Nat.min_le_right _ _) quiet
      rw [watch]
      simp [round, seen, awake, Nat.not_le.2 next, watched]

/-- A wait for a deployment that is ready before the deadline succeeds. -/
theorem await_of_readyAfter (h : ReadyAfter svc o n d clock s) (soon : n * pauseOf o < o.deadline.ms)
    (quiet : signal.interrupts (clock.timer + o.deadline.ms) = none) :
    ∃ d' clock' s', await svc o signal [d] clock s = (.ok [d'], clock', s') := by
  obtain ⟨d', clock', s', watched⟩ := watch_of_readyAfter h (Nat.add_lt_add_left soon clock.timer) quiet
  refine ⟨d', clock', s', ?_⟩
  have unfired : signal.hasFired clock = false := by
    rw [Signal.hasFired, Signal.interrupts_of_le (Nat.le_add_right _ _) quiet, Option.isSome_none]
  have time : o.deadline.ms ≠ 0 := by omega
  simp [await, unfired, time, watched]

end Readiness

/-- Whatever a service is asked for now, it creates with a machine for each template, and polls show it
ready before the deadline. -/
def DeploymentService.BringsUp (svc : DeploymentService σ) (o : WaitOptions) (clock : Clock) (s : σ) :
    Prop :=
  ∀ t : DeploymentTemplate, t.resourceIds.Nodup →
    ∃ d s' n, svc.create t clock.stamp s = (.ok d, s') ∧
      (∀ vm ∈ t.vms, ∃ machine, d.vm? vm.identifier.id = some machine) ∧
      Readiness.ReadyAfter svc o n d clock s' ∧ n * Readiness.pauseOf o < o.deadline.ms

/-! ### Backends that deliver -/

/-- A backend that works in a state creates every resource, and goes on working.  `Due n id` says that at
most `n` more observations of a resource find it not ready; for a resource that was just created, at most
`most` do. -/
structure Backend.Delivers (b : Backend σ) (Works : σ → Prop) (Due : Nat → String → σ → Prop)
    (most : Nat) : Prop where
  create : ∀ r s, Works s → ∃ s', b.create r s = (.ok (), s') ∧ Works s' ∧ Due most r.id s' ∧
    ∀ id, Due most id s → Due most id s'
  observe : ∀ n r s, Due n r.id s → ∃ o s', b.observe r s = (.ok o, s') ∧
    (∀ m id, Due m id s → Due m id s') ∧
    (o.ready = true ∧ o.synced = true ∨ ∃ m, m < n ∧ Due m r.id s')

/-- A resource that the backend keeps: it is ready, or it has been created since `since` and at most `n`
more observations find it not ready. -/
structure Resource.Rising (Due : Nat → String → σ → Prop) (since : UInt64) (n : Nat) (r : Resource)
    (s : σ) : Prop where
  kept : ∃ m, Due m r.id s
  status : r.status = .ready ∨ r.status = .creating ∧ r.updatedAt = since ∧ ∃ m, m ≤ n ∧ Due m r.id s

/-- Such a resource does not mind what else the backend does. -/
theorem Resource.Rising.later {Due : Nat → String → σ → Prop} {since : UInt64} {n : Nat} {r : Resource}
    {s s' : σ} (rising : r.Rising Due since n s) (keeps : ∀ m id, Due m id s → Due m id s') :
    r.Rising Due since n s' := by
  obtain ⟨⟨m, kept⟩, status⟩ := rising
  refine ⟨⟨m, keeps m r.id kept⟩, status.imp_right ?_⟩
  rintro ⟨creating, entered, k, bound, due⟩
  exact ⟨creating, entered, k, bound, keeps k r.id due⟩

namespace Reconciler

variable {b : Backend σ} {Works : σ → Prop} {Due : Nat → String → σ → Prop} {most : Nat}

/-- All resources are created, and those that were created before are due as they were. -/
theorem createAll_delivers (delivers : b.Delivers Works Due most) (created resources : List Resource)
    {s : σ} (works : Works s) :
    ∃ s', createAll b created resources s = (none, s') ∧ (∀ r ∈ resources, Due most r.id s') ∧
      ∀ id, Due most id s → Due most id s' := by
  induction resources generalizing created s with
  | nil => exact ⟨s, rfl, List.forall_mem_nil _, fun _ due => due⟩
  | cons r rest ih =>
      obtain ⟨t, made, works, due, keeps⟩ := delivers.create r s works
      obtain ⟨s', others, dues, later⟩ := ih (r :: created) works
      refine ⟨s', ?_, List.forall_mem_cons.2 ⟨later r.id due, dues⟩, fun id due => later id (keeps id due)⟩
      simp only [createAll, made, others]

variable {interval : Nat} {since now : UInt64} {n : Nat} {r : Resource} {s : σ}

/-- Looking at such a resource brings it one observation closer; after the last of them it is ready. -/
theorem reconcile_rising (delivers : b.Delivers Works Due most) (rising : r.Rising Due since n s)
    (patient : 0 < n → now.toNat < min (since.toNat + interval % UInt64.size) (UInt64.size - 1))
    (stamp : UInt64) :
    ∃ r' s', reconcile b interval r now stamp s = (.ok (), r', s') ∧ (∀ m id, Due m id s → Due m id s') ∧
      r'.Rising Due since (n - 1) s' ∧ (n = 0 → r'.status = .ready) := by
  obtain ⟨⟨m, kept⟩, status⟩ := rising
  rcases status with ready | ⟨creating, entered, m, bound, due⟩
  · obtain ⟨o, s', answer, keeps, -⟩ := delivers.observe m r s kept
    refine ⟨observed r o, s', ?_, keeps, ⟨⟨m, keeps m r.id kept⟩, .inl ready⟩, fun _ => ready⟩
    simp [reconcile, answer, advance, observed, ready]
  · obtain ⟨o, s', answer, keeps, seen⟩ := delivers.observe m r s due
    by_cases up : o.ready = true ∧ o.synced = true
    · refine ⟨(observed r o).enter .ready stamp, s', ?_, keeps, ⟨⟨m, keeps m r.id due⟩, .inl rfl⟩,
        fun _ => rfl⟩
      simp [reconcile, answer, advance, observed, creating, up]
    · obtain ⟨k, fewer, closer⟩ := seen.resolve_left up
      have inTime : (observed r o).isOverdue interval now = false := by
        have := patient (by omega)
        rw [← entered] at this
        exact decide_eq_false (Nat.not_le.2 this)
      refine ⟨observed r o, s', ?_, keeps,
        ⟨⟨k, closer⟩, .inr ⟨creating, entered, k, by omega, closer⟩⟩, fun none => by omega⟩
      have status : (observed r o).status = .creating := creating
      have notUp : ¬ ((observed r o).ready = true ∧ (observed r o).synced = true) := up
      simp [reconcile, answer, advance, creating, status, notUp, inTime]

variable {d : Deployment}

/-- So does a pass, for all resources of a deployment. -/
theorem process_rising (delivers : b.Delivers Works Due most) (interval : Nat) (stamps : Stamps)
    (rising : ∀ r ∈ d.resources, r.Rising Due since n s)
    (patient : 0 < n →
      (stamps.nth 0).toNat < min (since.toNat + interval % UInt64.size) (UInt64.size - 1)) :
    ∃ d' s', (service b interval).process d stamps s = (.ok (), d', s') ∧
      (∀ r ∈ d'.resources, r.Rising Due since (n - 1) s') ∧ (n = 0 → d'.isReady = true) := by
  obtain ⟨after, quiet, -⟩ := Deployment.visit_leads (passOver b interval stamps)
    (fun r (t : Option DeployError × σ) => r.Rising Due since n t.2)
    (fun r (t : Option DeployError × σ) =>
      r.Rising Due since (n - 1) t.2 ∧ (n = 0 → r.status = .ready))
    (fun (t u : Option DeployError × σ) =>
      (t.1 = none → u.1 = none) ∧ ∀ m id, Due m id t.2 → Due m id u.2)
    (fun t => ⟨id, fun m id due => due⟩)
    (fun t u v one two => ⟨fun none => two.1 (one.1 none), fun m id due => two.2 m id (one.2 m id due)⟩)
    (fun r t u rising later => rising.later later.2)
    (fun r t u after later => ⟨after.1.later later.2, after.2⟩)
    (fun i r t rising => by
      obtain ⟨r', s', looked, keeps, rising', ready⟩ :=
        reconcile_rising delivers rising patient (stamps.nth (i + 1))
      simp only [passOver, looked]
      exact ⟨⟨rising', ready⟩, id, keeps⟩)
    (t := (none, s)) rising
  refine ⟨_, _, ?_, fun r mem => (after r mem).1, fun last => ?_⟩
  · simp only [service, process, quiet, outcome]
  · exact List.all_eq_true.2 fun r mem => decide_eq_true ((after r mem).2 last)

/-- A poll of such a deployment shows it ready, or not yet. -/
theorem poll_rising (delivers : b.Delivers Works Due most) (interval : Nat) (stamps : Stamps)
    (rising : ∀ r ∈ d.resources, r.Rising Due since n s)
    (patient : 0 < n →
      (stamps.nth 0).toNat < min (since.toNat + interval % UInt64.size) (UInt64.size - 1)) :
    ∃ d' s', Readiness.poll (service b interval) d stamps s =
        (if d'.isReady then .ready else .notYet, d', s') ∧
      (∀ r ∈ d'.resources, r.Rising Due since (n - 1) s') ∧ (n = 0 → d'.isReady = true) := by
  obtain ⟨d', s', processed, rising', ready⟩ := process_rising delivers interval stamps rising patient
  have sound : d'.degraded? = none := by
    refine List.find?_eq_none.2 fun r mem degraded => ?_
    have degraded : r.status = .degraded := of_decide_eq_true degraded
    rcases (rising' r mem).status with ready | ⟨creating, -⟩
    · cases ready.symm.trans degraded
    · cases creating.symm.trans degraded
  exact ⟨d', s', by simp only [Readiness.poll, processed, Readiness.verdict, sound], rising', ready⟩

variable {o : WaitOptions} {clock : Clock}

/-- Polls show such a deployment ready after `n` pauses, or earlier, if the reconciler has not given it up
by then. -/
theorem readyAfter_of_rising (delivers : b.Delivers Works Due most)
    (rising : ∀ r ∈ d.resources, r.Rising Due since n s)
    (patient : ∀ i < n, (clock.pause (i * Readiness.pauseOf o)).stamp.toNat <
      min (since.toNat + interval % UInt64.size) (UInt64.size - 1)) :
    ∃ k, k ≤ n ∧ Readiness.ReadyAfter (service b interval) o k d clock s := by
  induction n generalizing d clock s with
  | zero =>
      obtain ⟨d', s', polled, -, ready⟩ :=
        poll_rising delivers interval clock.stamp rising fun none => absurd none (Nat.lt_irrefl 0)
      rw [if_pos (ready rfl)] at polled
      exact ⟨0, Nat.le_refl 0, .now polled⟩
  | succ n ih =>
      obtain ⟨d', s', polled, rising', -⟩ := poll_rising delivers interval clock.stamp rising
        fun _ => by simpa [Clock.pause] using patient 0 (Nat.zero_lt_succ n)
      by_cases ready : d'.isReady = true
      · rw [if_pos ready] at polled
        exact ⟨0, Nat.zero_le _, .now polled⟩
      · rw [if_neg ready] at polled
        obtain ⟨k, bound, later⟩ := ih rising' fun i inside => by
          have := patient (i + 1) (Nat.succ_lt_succ inside)
          rwa [Clock.pause_pause, Nat.add_comm, ← Nat.succ_mul]
        exact ⟨k + 1, Nat.succ_le_succ bound, .later polled later⟩

/-- A backend that delivers brings up what is asked for, before a deadline that leaves time for its
observations and as long as the reconciler does not give a resource up before. -/
theorem bringsUp_of_delivers (delivers : b.Delivers Works Due most) (works : Works s)
    (soon : most * Readiness.pauseOf o < o.deadline.ms)
    (patient : ∀ i < most, (clock.pause (i * Readiness.pauseOf o)).stamp.toNat <
      min (clock.stamp.toNat + interval % UInt64.size) (UInt64.size - 1)) :
    (service b interval).BringsUp o clock s := by
  intro t _
  let d := Deployment.new t clock.stamp
  obtain ⟨s', made, due, -⟩ := createAll_delivers delivers [] d.resources works
  have rising : ∀ r ∈ d.resources, r.Rising Due clock.stamp most s' := by
    intro r mem
    obtain ⟨creating, i, entered⟩ := Deployment.creating_new mem
    exact ⟨⟨most, due r mem⟩, .inr ⟨creating, entered, most, Nat.le_refl most, due r mem⟩⟩
  obtain ⟨k, bound, ready⟩ := readyAfter_of_rising delivers rising patient
  refine ⟨d, s', k, ?_, fun vm mem => ?_, ready, Nat.lt_of_le_of_lt (Nat.mul_le_mul_right _ bound) soon⟩
  · simp only [service, create, made, d]
  · apply Option.isSome_iff_exists.1
    rw [Deployment.vm?, List.find?_isSome]
    obtain ⟨resource, listed⟩ := Deployment.exists_machine clock.stamp mem
    exact ⟨⟨vm, resource⟩, listed, decide_eq_true rfl⟩

end Reconciler

namespace Memory

/-- All creations and observations succeed, and a resource is ready at its observation number `readyAt`. -/
def Works (readyAt : Nat) (m : Memory) : Prop :=
  m.createsLeft = none ∧ m.failingObserves = 0 ∧ m.readyAfter = some readyAt

/-- A resource is kept, and ready after at most `n` more observations that find it not ready. -/
def Due (readyAt n : Nat) (id : String) (m : Memory) : Prop :=
  m.failingObserves = 0 ∧ m.readyAfter = some readyAt ∧
    ∃ seen, m.observations.get? id = some seen ∧ readyAt ≤ seen + 1 + n

/-- The remembering backend delivers when no call is made to fail. -/
theorem delivers (readyAt : Nat) : backend.Delivers (Works readyAt) (Due readyAt) (readyAt - 1) where
  create r m := by
    rintro ⟨unlimited, observable, ready⟩
    let made : Memory := { m with observations := m.observations.insert r.id 0 }
    have own : Due readyAt (readyAt - 1) r.id made :=
      ⟨observable, ready, 0, m.observations.get?_insert_self r.id 0, by omega⟩
    refine ⟨made, by simp only [backend, create, unlimited, made], ⟨unlimited, observable, ready⟩, own, ?_⟩
    rintro id ⟨-, -, seen, found, bound⟩
    by_cases same : id = r.id
    · rwa [same]
    · exact ⟨observable, ready, seen, (m.observations.get?_insert_of_ne 0 (Ne.symm same)).trans found, bound⟩
  observe n r m := by
    rintro ⟨observable, ready, seen, found, bound⟩
    let after : Memory := { m with observations := m.observations.insert r.id (seen + 1) }
    refine ⟨⟨readyAt ≤ seen + 1, readyAt ≤ seen + 1, some s!"mem-{r.id}"⟩, after, ?_, ?_, ?_⟩
    · simp only [backend, observe, observable, found, ready, after]
    · rintro k id ⟨-, -, seen', found', bound'⟩
      by_cases same : id = r.id
      · obtain rfl : seen = seen' := Option.some.inj (found.symm.trans (same ▸ found'))
        exact ⟨observable, ready, seen + 1, same ▸ m.observations.get?_insert_self r.id _, by omega⟩
      · have kept := (m.observations.get?_insert_of_ne (seen + 1) (Ne.symm same)).trans found'
        exact ⟨observable, ready, seen', kept, bound'⟩
    · by_cases up : readyAt ≤ seen + 1
      · exact .inl ⟨decide_eq_true up, decide_eq_true up⟩
      · exact .inr ⟨n - 1, by omega, observable, ready, seen + 1, m.observations.get?_insert_self r.id _,
          by omega⟩

end Memory

end Testbed
