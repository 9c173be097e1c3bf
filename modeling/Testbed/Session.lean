import Testbed.Identity
import Testbed.Lock

/-!
One user's time with the shared store: the clock, the locks that the user holds and the locks that the
user waits for in the background, each under a slot of its own.

While the session pauses, every guard is extended once an interval and every wait makes its attempts, in
the order of their instants.  Nothing happens between two pauses that the user did not ask for.
-/

namespace Testbed

/-- A guard and the instant at which it is extended next. -/
structure Holding where
  guard : Guard
  interval : Duration
  /-- Nothing when guards are not extended. -/
  nextTick : Option Nat
deriving Repr, Inhabited, DecidableEq

namespace Holding

/-- A guard that was obtained now. -/
def new (g : Guard) (interval : Duration) (c : Clock) : Holding :=
  ⟨g, interval, if interval.ms = 0 then none else some (c.timer + interval.ms)⟩

/-- Extend the guard. -/
def tick (h : Holding) (now : Nat) (s : Store) : Holding × Store :=
  let (guard, s) := h.guard.tick now s
  ({ h with guard, nextTick := h.nextTick.map (· + h.interval.ms) }, s)

end Holding

/-- A lock that is acquired in the background. -/
inductive Pending where
  /-- The next attempt is made at an instant of the timer, unless the signal fires before. -/
  | waiting (acquisition : Acquisition) (signal : Signal) (wakeAt : Nat)
  | held (holding : Holding)
  | failed (error : StoreError)
deriving Repr, Inhabited

/-- What a session does next by itself. -/
inductive SessionEvent where
  /-- Extend the guard in a slot. -/
  | tick (slot : String)
  /-- Extend the guard that was acquired in the background for a slot. -/
  | tickPending (slot : String)
  /-- Make the next attempt for a slot. -/
  | wake (slot : String)
deriving Repr, Inhabited, DecidableEq

/-- One user's time with the shared store. -/
structure Session where
  clock : Clock
  store : Store
  /-- How many tokens were drawn. -/
  tokens : Nat
  held : Table Holding
  pending : Table Pending
deriving Repr, Inhabited

namespace Session

/-- A session that holds nothing. -/
def start (clock : Clock) (store : Store) : Session := ⟨clock, store, 0, .empty, .empty⟩

/-- Draw a token. -/
def newToken (s : Session) : String × Session :=
  (token (s.tokens + 1), { s with tokens := s.tokens + 1 })

/-! ### Pausing -/

/-- When a pending acquisition does something, and what. -/
def pendingEvent (slot : String) : Pending → Option (Nat × SessionEvent)
  | .waiting acquisition signal wakeAt =>
    if acquisition.attempts = 0 then some (wakeAt, .wake slot)
    else some ((signal.interrupts wakeAt).getD wakeAt, .wake slot)
  | .held holding => holding.nextTick.map (·, .tickPending slot)
  | .failed _ => none

/-- All that the session will do by itself, with the instants. -/
def events (s : Session) : List (Nat × SessionEvent) :=
  (s.held.entries.filterMap fun (slot, holding) => holding.nextTick.map (·, .tick slot)) ++
    s.pending.entries.filterMap fun (slot, pending) => pendingEvent slot pending

/-- The earliest of some events; of several, the first. -/
def earliest : List (Nat × SessionEvent) → Option (Nat × SessionEvent)
  | [] => none
  | event :: rest =>
    match earliest rest with
    | some other => if event.1 ≤ other.1 then some event else some other
    | none => some event

/-- How an attempt goes on in the background. -/
def pendingAfter (clock : Clock) (signal : Signal) (interval : Duration) : Attempt → Pending
  | .held guard => .held (.new guard interval clock)
  | .refused error => .failed error
  | .pause next ms => .waiting next signal (clock.timer + ms)

/-- Do what is due. -/
def handle (s : Session) : SessionEvent → Session
  | .tick slot =>
    match s.held.get? slot with
    | some holding =>
      let (holding, store) := holding.tick s.clock.wall s.store
      { s with held := s.held.insert slot holding, store }
    | none => s
  | .tickPending slot =>
    match s.pending.get? slot with
    | some (.held holding) =>
      let (holding, store) := holding.tick s.clock.wall s.store
      { s with pending := s.pending.insert slot (.held holding), store }
    | _ => s
  | .wake slot =>
    match s.pending.get? slot with
    | some (.waiting acquisition signal wakeAt) =>
      if acquisition.attempts ≠ 0 ∧ signal.hasFired s.clock ∧ s.clock.timer ≤ wakeAt then
        { s with pending := s.pending.insert slot (.failed (.cancelled acquisition.key)) }
      else
        let (outcome, store) := acquisition.attempt s.clock s.store
        let after := pendingAfter s.clock signal acquisition.options.extendInterval outcome
        { s with pending := s.pending.insert slot after, store }
    | _ => s

/-- Do at most `fuel` of the things that are due until an instant of the timer. -/
def runSteps (instant : Nat) : Nat → Session → Session
  | 0, s => s
  | fuel + 1, s =>
    match earliest s.events with
    | some (due, event) =>
      if due ≤ instant then
        runSteps instant fuel (handle { s with clock := s.clock.advanceTo due } event)
      else s
    | none => s

/-- Pause until an instant of the timer.  In every millisecond each slot does at most one thing by
itself, apart from the first attempt of a wait, so the steps suffice. -/
def pauseUntil (s : Session) (instant : Nat) : Session :=
  let steps := (instant - s.clock.timer + 2) * (s.held.size + s.pending.size)
  let s := runSteps instant steps s
  { s with clock := s.clock.advanceTo instant }

/-- Pause for some time. -/
def pause (s : Session) (ms : Nat) : Session := s.pauseUntil (s.clock.timer + ms)

/-! ### Locks -/

/-- Make attempts to get a lock until one decides, or until the signal fires in a pause. -/
def waitForLock (signal : Signal) (a : Acquisition) (s : Session) :
    Except StoreError Guard × Session :=
  match _h : a.attempt s.clock s.store with
  | (.held guard, store) => (.ok guard, { s with store })
  | (.refused error, store) => (.error error, { s with store })
  | (.pause next ms, store) =>
    let s := { s with store }
    match signal.interrupts (s.clock.timer + ms) with
    | some instant => (.error (.cancelled a.key), s.pauseUntil instant)
    | none => waitForLock signal next (s.pause ms)
termination_by a.maxAttempts - a.attempts
decreasing_by exact Acquisition.attempts_lt_of_pause _h

/-- Wait for the lock of a name. -/
def acquire (options : LockOptions) (name : String) (signal : Signal) (s : Session) :
    Except StoreError Guard × Session :=
  let (holder, s) := s.newToken
  waitForLock signal (.start options name holder s.clock.wall) s

/-- Give the guard in a slot back, if there is one. -/
def dropHeld (s : Session) (slot : String) : Session :=
  match s.held.get? slot with
  | some holding =>
    { s with held := s.held.erase slot, store := holding.guard.drop s.store }
  | none => s

/-- Keep a guard in a slot; one that was there is given back. -/
def keep (s : Session) (slot : String) (holding : Holding) : Session :=
  let s := s.dropHeld slot
  { s with held := s.held.insert slot holding }

/-- Wait for a lock and keep it in a slot; its key. -/
def acquireInto (options : LockOptions) (name slot : String) (signal : Signal) (s : Session) :
    Except StoreError String × Session :=
  match s.acquire options name signal with
  | (.ok guard, s) => (.ok guard.key, s.keep slot (.new guard options.extendInterval s.clock))
  | (.error error, s) => (.error error, s)

/-- Give up what was acquired in the background for a slot. -/
def dropPending (s : Session) (slot : String) : Session :=
  let s' := { s with pending := s.pending.erase slot }
  match s.pending.get? slot with
  | some (.held holding) => { s' with store := holding.guard.drop s.store }
  | _ => s'

/-- Begin to wait for a lock in the background.  The first attempt is made at the next pause. -/
def acquireLater (options : LockOptions) (name slot : String) (signal : Signal) (s : Session) :
    Session :=
  let s := s.dropPending slot
  let (holder, s) := s.newToken
  let acquisition := Acquisition.start options name holder s.clock.wall
  { s with pending := s.pending.insert slot (.waiting acquisition signal s.clock.timer) }

/-- Pause until the wait in the background for a slot has ended, for at most `fuel` attempts. -/
def awaitPending (slot : String) : Nat → Session → Session
  | 0, s => s
  | fuel + 1, s =>
    match s.pending.get? slot with
    | some (.waiting acquisition signal wakeAt) =>
      match pendingEvent slot (.waiting acquisition signal wakeAt) with
      | some (instant, _) => awaitPending slot fuel (s.pauseUntil instant)
      | none => s
    | _ => s

/-- Wait for the end of the wait in the background for a slot, and keep the lock there; its key.
Nothing if there is no such wait. -/
def join (slot : String) (s : Session) : Option (Except StoreError String) × Session :=
  let s := match s.pending.get? slot with
    | some (.waiting acquisition _ _) => awaitPending slot acquisition.maxAttempts s
    | _ => s
  let s' := { s with pending := s.pending.erase slot }
  match s.pending.get? slot with
  | some (.held holding) => (some (.ok holding.guard.key), s'.keep slot holding)
  | some (.failed error) => (some (.error error), s')
  | some (.waiting acquisition _ _) => (some (.error (.cancelled acquisition.key)), s')
  | none => (none, s)

/-- Whether the guard in a slot still holds its lock, as far as it knows.  Nothing if there is none. -/
def checkHeld (slot : String) (s : Session) : Option (Except StoreError Unit) :=
  (s.held.get? slot).map (·.guard.checkHeld)

/-- Give the guard in a slot back.  Nothing if there is none. -/
def release (slot : String) (s : Session) : Option (Except StoreError Unit) × Session :=
  match s.held.get? slot with
  | some holding =>
    let (released, store) := holding.guard.release s.store
    (some released, { s with held := s.held.erase slot, store })
  | none => (none, s)

/-- Take a lock away from whoever holds it; whether somebody did. -/
def steal (key : String) (s : Session) : Bool × Session :=
  let (released, store) := s.store.releaseLease key (((s.store.lease? key).map Lease.holder).getD "")
  (released, { s with store })

end Session

end Testbed
