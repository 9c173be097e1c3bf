import Testbed.Proofs.Duration
import Testbed.Proofs.Placement.Item
import Testbed.Proofs.Store
import Testbed.Provision.Settings
import Testbed.Session

/-!
What accepted settings are good for.

Durations are checked once and read again wherever they are used.  Settings are accepted exactly if everybody
who uses them can read them (`Config.Readings`), a lock is extended sooner than it runs out, and at least one
deployment may be polled (`Config.validate_eq_ok`).

Nothing is said of an interval of no time at all.  It is shorter than every lifetime, but a lock with that
interval is not extended even once, and as losses are noticed by extensions only, its guard never learns that
the lock was lost (`Session.held_endure`).
-/

namespace Testbed

/-! ### Reading -/

/-- A setting is read exactly as its text is. -/
theorem Config.duration_eq_ok {field value : String} {d : Duration} :
    Config.duration field value = .ok d ↔ Duration.parse? value = some d := by
  rw [Config.duration]
  cases Duration.parse? value <;> simp

/-- The options of locks are read exactly if all their durations are. -/
theorem LockOptions.ofConfig_eq_ok {c : Config.Locking} {o : LockOptions} :
    ofConfig c = .ok o ↔ o.keyLead = c.keyLead ∧ Duration.parse? c.leaseTtl = some o.leaseTtl ∧
      Duration.parse? c.extendInterval = some o.extendInterval ∧
      Duration.parse? c.retryInitial = some o.retryInitial ∧
      Duration.parse? c.retryMax = some o.retryMax ∧
      Duration.parse? c.waitTimeout = some o.waitTimeout := by
  constructor
  · intro read
    obtain ⟨ttl, leaseTtl, read⟩ := exists_ok_of_bind read
    obtain ⟨extend, extendInterval, read⟩ := exists_ok_of_bind read
    obtain ⟨initial, retryInitial, read⟩ := exists_ok_of_bind read
    obtain ⟨longest, retryMax, read⟩ := exists_ok_of_bind read
    obtain ⟨patience, waitTimeout, read⟩ := exists_ok_of_bind read
    obtain rfl := Except.ok.inj read
    simp only [Config.duration_eq_ok] at leaseTtl extendInterval retryInitial retryMax waitTimeout
    exact ⟨rfl, leaseTtl, extendInterval, retryInitial, retryMax, waitTimeout⟩
  · intro texts
    obtain ⟨keyLead, leaseTtl, extendInterval, retryInitial, retryMax, waitTimeout⟩ := texts
    simp only [ofConfig, Config.duration, ← keyLead, leaseTtl, extendInterval, retryInitial, retryMax,
      waitTimeout]
    rfl

/-- The options of a wait are read exactly if its durations are; at least one loop may poll at a time. -/
theorem WaitOptions.ofConfig_eq_ok {c : Config.Reconciling} {o : WaitOptions} :
    ofConfig c = .ok o ↔ Duration.parse? c.pollInterval = some o.pollInterval ∧
      Duration.parse? c.waitDeadline = some o.deadline ∧
      o.maxConcurrent = max 1 c.maxConcurrentPolls.toNat := by
  constructor
  · intro read
    obtain ⟨poll, pollInterval, read⟩ := exists_ok_of_bind read
    obtain ⟨limit, waitDeadline, read⟩ := exists_ok_of_bind read
    obtain rfl := Except.ok.inj read
    simp only [Config.duration_eq_ok] at pollInterval waitDeadline
    exact ⟨pollInterval, waitDeadline, rfl⟩
  · intro texts
    obtain ⟨pollInterval, waitDeadline, maxConcurrent⟩ := texts
    simp only [ofConfig, Config.duration, pollInterval, waitDeadline, ← maxConcurrent]
    rfl

/-- The settings of provisioning are read exactly if their durations are; there is at least one attempt. -/
theorem ProvisionSettings.ofConfig_eq_ok {c : Config} {s : ProvisionSettings} :
    ofConfig c = .ok s ↔ s.network = c.network ∧ s.machines = c.vm ∧ s.orchestration = c.orchestration ∧
      s.cleanupAttempts = max 1 c.cleanup.attempts.toNat ∧
      Duration.parse? c.cleanup.backoff = some s.cleanupBackoff ∧
      WaitOptions.ofConfig c.reconcile = .ok s.wait := by
  constructor
  · intro read
    obtain ⟨backoff, cleanupBackoff, read⟩ := exists_ok_of_bind read
    obtain ⟨wait, waiting, read⟩ := exists_ok_of_bind read
    obtain rfl := Except.ok.inj read
    exact ⟨rfl, rfl, rfl, rfl, Config.duration_eq_ok.1 cleanupBackoff, waiting⟩
  · intro texts
    obtain ⟨network, machines, orchestration, cleanupAttempts, cleanupBackoff, waiting⟩ := texts
    simp only [ofConfig, Config.duration, cleanupBackoff, waiting, ← network, ← machines, ← orchestration,
      ← cleanupAttempts]
    rfl

/-! ### Checking -/

namespace Config

/-- What is read in settings by all who use them. -/
structure Readings (c : Config) where
  locks : LockOptions
  settings : ProvisionSettings
  reconcileInterval : Duration
  locks_read : LockOptions.ofConfig c.lock = .ok locks
  settings_read : ProvisionSettings.ofConfig c = .ok settings
  reconcileInterval_read :
    duration "reconcile.reconcile_interval" c.reconcile.reconcileInterval = .ok reconcileInterval

/-- The options of a wait are those within the settings of provisioning. -/
theorem Readings.wait_read {c : Config} (r : c.Readings) :
    WaitOptions.ofConfig c.reconcile = .ok r.settings.wait := by
  obtain ⟨-, -, -, -, -, waiting⟩ := ProvisionSettings.ofConfig_eq_ok.1 r.settings_read
  exact waiting

/-- Settings are accepted if they can be read, a lock is extended before it runs out, and some deployment may
be polled; and for no less. -/
theorem validate_eq_ok {c : Config} : c.validate = .ok () ↔
    ∃ r : c.Readings, r.locks.extendInterval < r.locks.leaseTtl ∧ c.reconcile.maxConcurrentPolls ≠ 0 := by
  constructor
  · intro valid
    obtain ⟨ttl, leaseTtl, valid⟩ := exists_ok_of_bind valid
    obtain ⟨extend, extendInterval, valid⟩ := exists_ok_of_bind valid
    by_cases late : ttl ≤ extend
    · simp only [if_pos late] at valid
      cases valid
    · simp only [if_neg late] at valid
      obtain ⟨initial, retryInitial, valid⟩ := exists_ok_of_bind valid
      obtain ⟨longest, retryMax, valid⟩ := exists_ok_of_bind valid
      obtain ⟨patience, waitTimeout, valid⟩ := exists_ok_of_bind valid
      obtain ⟨poll, pollInterval, valid⟩ := exists_ok_of_bind valid
      obtain ⟨interval, reconcileInterval, valid⟩ := exists_ok_of_bind valid
      obtain ⟨deadline, waitDeadline, valid⟩ := exists_ok_of_bind valid
      obtain ⟨backoff, cleanupBackoff, valid⟩ := exists_ok_of_bind valid
      have some_poll : c.reconcile.maxConcurrentPolls ≠ 0 := by
        intro none
        rw [if_pos none] at valid
        cases valid
      simp only [duration_eq_ok] at leaseTtl extendInterval retryInitial retryMax waitTimeout
      simp only [duration_eq_ok] at pollInterval waitDeadline cleanupBackoff
      have locks : LockOptions.ofConfig c.lock =
          .ok ⟨c.lock.keyLead, ttl, extend, initial, longest, patience⟩ :=
        LockOptions.ofConfig_eq_ok.2 ⟨rfl, leaseTtl, extendInterval, retryInitial, retryMax, waitTimeout⟩
      have wait : WaitOptions.ofConfig c.reconcile =
          .ok ⟨poll, deadline, max 1 c.reconcile.maxConcurrentPolls.toNat⟩ :=
        WaitOptions.ofConfig_eq_ok.2 ⟨pollInterval, waitDeadline, rfl⟩
      have settings : ProvisionSettings.ofConfig c = .ok ⟨c.network, c.vm, c.orchestration,
          max 1 c.cleanup.attempts.toNat, backoff, _⟩ :=
        ProvisionSettings.ofConfig_eq_ok.2 ⟨rfl, rfl, rfl, rfl, cleanupBackoff, wait⟩
      exact ⟨⟨_, _, interval, locks, settings, reconcileInterval⟩, Nat.lt_of_not_le late, some_poll⟩
  · intro readable
    obtain ⟨r, early, some_poll⟩ := readable
    obtain ⟨-, leaseTtl, extendInterval, retryInitial, retryMax, waitTimeout⟩ :=
      LockOptions.ofConfig_eq_ok.1 r.locks_read
    obtain ⟨-, -, -, -, cleanupBackoff, waiting⟩ := ProvisionSettings.ofConfig_eq_ok.1 r.settings_read
    obtain ⟨pollInterval, waitDeadline, -⟩ := WaitOptions.ofConfig_eq_ok.1 waiting
    have in_time : ¬ r.locks.leaseTtl ≤ r.locks.extendInterval := Nat.not_le_of_lt early
    have reconcileInterval := duration_eq_ok.1 r.reconcileInterval_read
    simp only [validate, duration, leaseTtl, extendInterval, retryInitial, retryMax, waitTimeout,
      pollInterval, reconcileInterval, waitDeadline, cleanupBackoff, bind, Except.bind, if_neg in_time,
      if_neg some_poll]
    rfl

/-- Settings are loaded only if they are accepted. -/
theorem validate_of_load {text : String} {c : Config} (loaded : load text = .ok c) : c.validate = .ok () := by
  rw [load] at loaded
  split at loaded
  · cases loaded
  · next c' _ =>
      split at loaded
      · next accepted =>
          obtain rfl := Except.ok.inj loaded
          exact accepted
      · cases loaded

/-- An interval that was read is no time at all exactly if 64 bits hold nothing of what is written. -/
theorem ms_eq_zero_iff {text : String} {d : Duration} (read : Duration.parse? text = some d) :
    d.ms = 0 ↔ ∃ l : Duration.Literal, l.Fills text ∧ UInt64.size ∣ l.grains := by
  obtain ⟨l, fills, -, rfl⟩ := Duration.parse?_eq_some.1 read
  rw [Duration.Literal.length_eq_zero]
  constructor
  · intro nothing
    exact ⟨l, fills, nothing⟩
  · intro written
    obtain ⟨m, also, nothing⟩ := written
    obtain rfl := also.unique fills
    exact nothing

end Config

/-! ### Guards that are not extended -/

namespace Session

variable {s : Session} {slot : String} {holding : Holding}

/-- What is due first is one of the things that are due. -/
theorem mem_of_earliest {events : List (Nat × SessionEvent)} {event : Nat × SessionEvent}
    (first : earliest events = some event) : event ∈ events := by
  induction events generalizing event with
  | nil => cases first
  | cons head rest ih =>
      rw [earliest] at first
      split at first
      · next other later =>
          split at first
          · obtain rfl := Option.some.inj first
            exact List.mem_cons_self
          · obtain rfl := Option.some.inj first
            exact List.mem_cons_of_mem _ (ih later)
      · obtain rfl := Option.some.inj first
        exact List.mem_cons_self

/-- The guard in a slot is extended at an instant exactly if its next extension is due then. -/
theorem tick_mem_events {due : Nat} : (due, .tick slot) ∈ s.events ↔
    ∃ holding, s.held.get? slot = some holding ∧ holding.nextTick = some due := by
  rw [events, List.mem_append, List.mem_filterMap]
  constructor
  · intro mem
    rcases mem with ⟨⟨other, holding⟩, listed, tick⟩ | pending
    · obtain ⟨instant, next, same⟩ := Option.map_eq_some_iff.1 tick
      cases same
      exact ⟨holding, Table.mem_entries.1 listed, next⟩
    · -- What is acquired in the background has events of its own.
      obtain ⟨⟨other, state⟩, -, happens⟩ := List.mem_filterMap.1 pending
      cases state with
      | waiting acquisition signal wakeAt =>
          simp only [pendingEvent] at happens
          split at happens <;> cases happens
      | held holding =>
          obtain ⟨instant, -, same⟩ := Option.map_eq_some_iff.1 happens
          cases same
      | failed error => cases happens
  · intro there
    obtain ⟨holding, found, next⟩ := there
    left
    exact ⟨(slot, holding), Table.mem_entries.2 found, by simp [next]⟩

/-- What happens to other guards does not change the guard in a slot. -/
theorem held_handle {event : SessionEvent} (other : event ≠ .tick slot) :
    (s.handle event).held.get? slot = s.held.get? slot := by
  cases event with
  | tick slot' =>
      rw [handle]
      split
      · exact Table.get?_insert_of_ne _ _ fun same => other (congrArg SessionEvent.tick same)
      · rfl
  | tickPending slot' =>
      rw [handle]
      split <;> rfl
  | wake slot' =>
      rw [handle]
      split
      · split <;> rfl
      · rfl

/-- A guard that is not due to be extended stays as it is. -/
theorem held_runSteps (idle : holding.nextTick = none) (held : s.held.get? slot = some holding)
    (instant fuel : Nat) : (runSteps instant fuel s).held.get? slot = some holding := by
  induction fuel generalizing s with
  | zero => exact held
  | succ fuel ih =>
      rw [runSteps]
      split
      · next due event first =>
          split
          · refine ih ((held_handle ?_).trans held)
            rintro rfl
            obtain ⟨holding', found, next⟩ := tick_mem_events.1 (mem_of_earliest first)
            obtain rfl := Option.some.inj (held.symm.trans found)
            cases idle.symm.trans next
          · exact held
      · exact held

/-- Time passes, while others do what they like to the store: every so often they change it, and then the
session pauses for some milliseconds. -/
def endure (s : Session) (course : List ((Store → Store) × Nat)) : Session :=
  course.foldl (fun s next => { s with store := next.1 s.store }.pause next.2) s

/-- A guard that is not due to be extended never changes. -/
theorem held_endure (idle : holding.nextTick = none) (held : s.held.get? slot = some holding)
    (course : List ((Store → Store) × Nat)) : (s.endure course).held.get? slot = some holding := by
  induction course generalizing s with
  | nil => exact held
  | cons next rest ih =>
      have changed : ({ s with store := next.1 s.store } : Session).held.get? slot = some holding := held
      exact ih (held_runSteps idle changed _ _)

/-- A guard with an interval is due to be extended, unless the interval is no time at all. -/
theorem tick_mem_events_of_new {guard : Guard} {interval : Duration} {clock : Clock} {due : Nat}
    (held : s.held.get? slot = some (.new guard interval clock)) : (due, .tick slot) ∈ s.events ↔
      0 < interval.ms ∧ due = clock.timer + interval.ms := by
  rw [tick_mem_events, held]
  simp only [Option.some.injEq, exists_eq_left', Holding.new]
  by_cases never : interval.ms = 0
  · simp [never]
  · simp [never, Nat.pos_of_ne_zero never, eq_comm]

end Session

/-- Accepted settings can be used, but for an interval of no time at all.

Settings are accepted exactly if the locks, the waits, the provisioner and the reconciler can all read theirs,
the interval of extensions is shorter than the lifetime of a lock, and some deployment may be polled; what is
loaded was accepted.  Whoever reads them polls at least one deployment at a time and tries at least once to
clean up.  A guard is extended after the interval, unless it is zero: then it is not extended at all, and takes
itself to hold its lock whatever happens to the lease.  The interval is zero if zero is written, of whatever
unit, or else a number of minutes or hours whose seconds are a multiple of 2 ^ 64. -/
theorem accepted_settings_are_usable (c : Config) :
    (∀ text, Config.load text = .ok c → c.validate = .ok ()) ∧
    (c.validate = .ok () ↔ ∃ r : c.Readings,
      r.locks.extendInterval < r.locks.leaseTtl ∧ c.reconcile.maxConcurrentPolls ≠ 0) ∧
    ∀ r : c.Readings,
      WaitOptions.ofConfig c.reconcile = .ok r.settings.wait ∧
      1 ≤ r.settings.wait.maxConcurrent ∧ 1 ≤ r.settings.cleanupAttempts ∧
      (r.locks.extendInterval.ms = 0 ↔
        ∃ l : Duration.Literal, l.Fills c.lock.extendInterval ∧ 2 ^ 64 ∣ l.number.value * l.suffix.unit.count) ∧
      ∀ (s : Session) (slot : String) (guard : Guard) (clock : Clock),
        s.held.get? slot = some (.new guard r.locks.extendInterval clock) →
        (∀ due, (due, .tick slot) ∈ s.events ↔
          0 < r.locks.extendInterval.ms ∧ due = clock.timer + r.locks.extendInterval.ms) ∧
        (r.locks.extendInterval.ms = 0 → ∀ course,
          (s.endure course).checkHeld slot = some guard.checkHeld) := by
  refine ⟨fun text => Config.validate_of_load, Config.validate_eq_ok, fun r => ?_⟩
  obtain ⟨-, -, extendInterval, -⟩ := LockOptions.ofConfig_eq_ok.1 r.locks_read
  obtain ⟨-, -, -, attempts, -, waiting⟩ := ProvisionSettings.ofConfig_eq_ok.1 r.settings_read
  obtain ⟨-, -, polls⟩ := WaitOptions.ofConfig_eq_ok.1 waiting
  refine ⟨r.wait_read, ?_, ?_, Config.ms_eq_zero_iff extendInterval, fun s slot guard clock held => ⟨?_, ?_⟩⟩
  · rw [polls]
    exact Nat.le_max_left 1 _
  · rw [attempts]
    exact Nat.le_max_left 1 _
  · intro due
    exact Session.tick_mem_events_of_new held
  · intro never course
    have idle : (Holding.new guard r.locks.extendInterval clock).nextTick = none := if_pos never
    rw [Session.checkHeld, Session.held_endure idle held course]
    rfl

/-- Settings with an interval of no time at all are loaded, and a lock that is obtained with them is taken
away at once.  An hour later its guard still takes itself to hold it. -/
theorem extensions_may_never_begin :
    let c : Config :=
      { Config.default with lock := { Config.Locking.default with leaseTtl := "1s", extendInterval := "0ms" } }
    let locks : LockOptions := ⟨"lock:", ⟨1000⟩, ⟨0⟩, ⟨50⟩, ⟨1000⟩, ⟨30000⟩⟩
    let locked := (Session.start ⟨0, 0, true⟩ .empty).acquireInto locks "net" "slot" .never
    let later := (locked.2.steal "lock:net").2.pause 3600000
    Config.load "[lock]\nlease_ttl = \"1s\"\nextend_interval = \"0ms\"\n" = .ok c ∧
      LockOptions.ofConfig c.lock = .ok locks ∧ ¬ 0 < locks.extendInterval.ms ∧
      locked.1 = .ok "lock:net" ∧ later.store.lease? "lock:net" = none ∧
      later.checkHeld "slot" = some (.ok ()) := by
  intro c locks locked later
  have loaded : Config.load "[lock]\nlease_ttl = \"1s\"\nextend_interval = \"0ms\"\n" = .ok c := by
    decide +kernel
  have read : LockOptions.ofConfig c.lock = .ok locks := by decide +kernel
  have obtained : locked.1 = .ok "lock:net" ∧ later.store.lease? "lock:net" = none ∧
      later.checkHeld "slot" = some (.ok ()) := by
    -- The first attempt gets the lock.
    simp only [later, locked, Session.acquireInto, Session.acquire]
    rw [Session.waitForLock]
    decide +kernel
  exact ⟨loaded, read, by decide, obtained⟩

end Testbed
