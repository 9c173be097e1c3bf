import Testbed.Clock
import Testbed.Config
import Testbed.Store
import Testbed.Store.Error

/-!
Locks.  A lock is a lease in the shared store under a holder's name that nobody else uses.  An
`Acquisition` is a wait for the lock, one attempt after the other with growing pauses between them; a
`Guard` is the lock once it is held.  Now and then a guard is extended, and when that fails the guard
knows that the lock was lost; nothing else tells it.

All of these are single steps on the store, so that the steps of several holders can be mixed.
-/

namespace Testbed

/-- How locks behave. -/
structure LockOptions where
  keyLead : String
  leaseTtl : Duration
  extendInterval : Duration
  retryInitial : Duration
  retryMax : Duration
  waitTimeout : Duration
deriving Repr, Inhabited, DecidableEq

/-- Read the settings of locks. -/
def LockOptions.ofConfig (c : Config.Locking) : Except Config.Error LockOptions := do
  let leaseTtl ← Config.duration "lock.lease_ttl" c.leaseTtl
  let extendInterval ← Config.duration "lock.extend_interval" c.extendInterval
  let retryInitial ← Config.duration "lock.retry_initial" c.retryInitial
  let retryMax ← Config.duration "lock.retry_max" c.retryMax
  let waitTimeout ← Config.duration "lock.wait_timeout" c.waitTimeout
  pure { keyLead := c.keyLead, leaseTtl, extendInterval, retryInitial, retryMax, waitTimeout }

/-- A lock that is held. -/
structure Guard where
  key : String
  holder : String
  ttl : Duration
  /-- Whether an extension has failed. -/
  lost : Bool
deriving Repr, Inhabited, DecidableEq

namespace Guard

/-- Fails once an extension has failed. -/
def checkHeld (g : Guard) : Except StoreError Unit :=
  if g.lost then .error (.lockLost g.key) else .ok ()

/-- Extend the lease.  A guard that was lost once stays lost and is not extended any more. -/
def tick (g : Guard) (now : Nat) (s : Store) : Guard × Store :=
  if g.lost then (g, s)
  else
    let (extended, s) := s.extendLease now g.key g.holder g.ttl
    ({ g with lost := !extended }, s)

/-- Give the lock back.  Fails when the lease was not the guard's any more. -/
def release (g : Guard) (s : Store) : Except StoreError Unit × Store :=
  let (released, s) := s.releaseLease g.key g.holder
  (if released then .ok () else .error (.lockLost g.key), s)

/-- Give the lock back, if it is still held. -/
def drop (g : Guard) (s : Store) : Store := (s.releaseLease g.key g.holder).2

end Guard

/-- A wait for a lock. -/
structure Acquisition where
  options : LockOptions
  key : String
  holder : String
  /-- When the wait began, on the wall clock. -/
  startedAt : Nat
  /-- How many attempts have failed. -/
  attempts : Nat
  /-- The next pause. -/
  backoff : Duration
deriving Repr, Inhabited, DecidableEq

/-- How an attempt to get a lock has ended. -/
inductive Attempt where
  | held (guard : Guard)
  /-- The lock is somebody else's, and there is no more time to wait. -/
  | refused (error : StoreError)
  /-- The lock is somebody else's; try again after a pause of so many milliseconds. -/
  | pause (next : Acquisition) (ms : Nat)
deriving Repr

namespace Acquisition

/-- Begin to wait for the lock of a name. -/
def start (options : LockOptions) (name holder : String) (now : Nat) : Acquisition where
  options := options
  key := options.keyLead ++ name
  holder := holder
  startedAt := now
  attempts := 0
  backoff := options.retryInitial

/-- How many attempts a wait has at most. -/
def maxAttempts (a : Acquisition) : Nat := a.options.waitTimeout.ms * Clock.roundsPerMs + 1

/-- The wait after one more failed attempt. -/
def failed (a : Acquisition) : Acquisition := { a with attempts := a.attempts + 1 }

/-- The guard of the lock that was waited for. -/
def guard (a : Acquisition) : Guard := ⟨a.key, a.holder, a.options.leaseTtl, false⟩

/-- Try to get the lock. -/
def attempt (a : Acquisition) (clock : Clock) (s : Store) : Attempt × Store :=
  let (acquired, s) := s.acquireLease clock.wall a.key a.holder a.options.leaseTtl
  if acquired then (.held a.guard, s)
  else
    let waited := clock.waited a.startedAt a.failed.attempts
    if a.options.waitTimeout ≤ waited then (.refused (.lockTimeout a.key waited), s)
    else
      let left := a.options.waitTimeout.ms - waited.ms
      (.pause { a.failed with backoff := ⟨min (2 * a.backoff.ms) a.options.retryMax.ms⟩ }
        (max 1 (min a.backoff.ms left)), s)

/-- An attempt that asks for a pause is one of the attempts that a wait has. -/
theorem attempts_lt_of_pause {a next : Acquisition} {clock : Clock} {ms : Nat} {s after : Store}
    (h : a.attempt clock s = (.pause next ms, after)) :
    next.maxAttempts - next.attempts < a.maxAttempts - a.attempts := by
  simp only [attempt] at h
  split at h
  · simp at h
  · split at h
    · simp at h
    · next hle =>
      simp only [Prod.mk.injEq, Attempt.pause.injEq] at h
      obtain ⟨⟨rfl, -⟩, -⟩ := h
      have hlt : a.failed.attempts / Clock.roundsPerMs < a.options.waitTimeout.ms := by
        have : ¬ a.options.waitTimeout.ms ≤
            (clock.waited a.startedAt a.failed.attempts).ms := hle
        simp only [Clock.waited] at this
        omega
      simp only [maxAttempts, failed, Clock.roundsPerMs] at hlt ⊢
      omega

end Acquisition

end Testbed
