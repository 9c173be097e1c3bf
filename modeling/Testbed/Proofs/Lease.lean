import Mathlib.Tactic.ByContra
import Testbed.Lock

/-!
Leases keep others out.

Any number of holders act on any keys, one after the other, at instants that never go back.  Once somebody
has been given a lease or more time on it, the record stands until that holder acts on the key again or
the lease runs out: whatever the others ask in between they are refused, and asking changes nothing.

Each operation of the store has one lemma that says all it can do to a lease; the theorems below know
leases by these lemmas only.
-/

namespace Testbed

/-! ### What an operation can do -/

namespace Store

variable (s : Store) (now : Nat) (key holder : String) (ttl : Duration)

/-- The store with another lease on a key. -/
def setLease (lease : Lease) : Store := { s with leases := s.leases.insert key lease }

/-- Setting a lease changes what is under its key and nothing else. -/
theorem lease?_setLease (other : String) (lease : Lease) :
    (s.setLease key lease).lease? other = if key = other then some lease else s.lease? other :=
  s.leases.get?_insert key other lease

/-- Acquiring fails on a lease of somebody else that has not run out, and succeeds otherwise. -/
theorem acquireLease_cases :
    (∃ lease, s.lease? key = some lease ∧ lease.isExpired now = false ∧ lease.holder ≠ holder ∧
      s.acquireLease now key holder ttl = (false, s)) ∨
    (∀ lease, s.lease? key = some lease → lease.isExpired now = false → lease.holder = holder) ∧
      s.acquireLease now key holder ttl = (true, s.setLease key (.starting now holder ttl)) := by
  have found : s.leases.get? key = s.lease? key := rfl
  rw [acquireLease, Leases.acquire, Leases.isTaken, found]
  cases s.lease? key with
  | none => exact .inr ⟨by simp, rfl⟩
  | some lease =>
      by_cases taken : (!lease.isExpired now && decide (lease.holder ≠ holder)) = true
      · have refusing := taken
        simp only [Bool.and_eq_true, Bool.not_eq_true', decide_eq_true_eq] at refusing
        refine .inl ⟨lease, rfl, refusing.1, refusing.2, ?_⟩
        simp only [taken, if_true]
      · refine .inr ⟨?_, ?_⟩
        · rintro _ ⟨⟩ running
          by_contra other
          exact taken (by simp [running, other])
        · simp only [if_neg taken]
          rfl

/-- Extending succeeds on one's own lease while it lasts, and fails otherwise. -/
theorem extendLease_cases :
    (∃ lease, s.lease? key = some lease ∧ lease.holder = holder ∧ lease.isExpired now = false ∧
      s.extendLease now key holder ttl =
        (true, s.setLease key { lease with expiresAt := Lease.expiry now ttl })) ∨
    (∀ lease, s.lease? key = some lease → lease.holder = holder → lease.isExpired now = true) ∧
      s.extendLease now key holder ttl = (false, s) := by
  have found : s.leases.get? key = s.lease? key := rfl
  rw [extendLease, Leases.extend, found]
  cases s.lease? key with
  | none => exact .inr ⟨by simp, rfl⟩
  | some lease =>
      by_cases own : lease.holder = holder ∧ ¬ lease.isExpired now = true
      · refine .inl ⟨lease, rfl, own.1, by simpa using own.2, ?_⟩
        simp only [if_pos own]
        rfl
      · refine .inr ⟨?_, ?_⟩
        · rintro _ ⟨⟩ same
          by_contra running
          exact own ⟨same, running⟩
        · simp only [if_neg own]

/-- Releasing removes one's own lease, whether it has run out or not, and fails otherwise. -/
theorem releaseLease_cases :
    (∃ lease, s.lease? key = some lease ∧ lease.holder = holder ∧
      s.releaseLease key holder = (true, { s with leases := s.leases.erase key })) ∨
    (∀ lease, s.lease? key = some lease → lease.holder ≠ holder) ∧
      s.releaseLease key holder = (false, s) := by
  have found : s.leases.get? key = s.lease? key := rfl
  rw [releaseLease, Leases.release, found]
  cases s.lease? key with
  | none => exact .inr ⟨by simp, rfl⟩
  | some lease =>
      by_cases own : lease.holder = holder
      · exact .inl ⟨lease, rfl, own, by simp only [if_pos own]⟩
      · refine .inr ⟨?_, by simp only [if_neg own]⟩
        rintro _ ⟨⟩
        exact own

end Store

/-- Whether an error only says that a wait for a lock was given up. -/
def StoreError.endsWait : StoreError → Bool
  | .lockTimeout .. | .cancelled _ => true
  | _ => false

/-- An attempt gets the lock, or finds it taken: then the wait is over, or goes on for the same lock. -/
theorem Acquisition.attempt_cases (a : Acquisition) (clock : Clock) (s : Store) :
    ((∀ lease, s.lease? a.key = some lease → lease.isExpired clock.wall = false →
        lease.holder = a.holder) ∧
      a.attempt clock s =
        (.held a.guard, s.setLease a.key (.starting clock.wall a.holder a.options.leaseTtl))) ∨
    (∃ lease, s.lease? a.key = some lease ∧ lease.isExpired clock.wall = false ∧
      lease.holder ≠ a.holder) ∧
      ((∃ error, error.endsWait = true ∧ a.attempt clock s = (.refused error, s)) ∨
        ∃ next ms, next.key = a.key ∧ next.holder = a.holder ∧
          a.attempt clock s = (.pause next ms, s)) := by
  rw [attempt]
  rcases s.acquireLease_cases clock.wall a.key a.holder a.options.leaseTtl with
    ⟨lease, found, running, other, refused⟩ | ⟨free, acquired⟩
  · simp only [refused, Bool.false_eq_true, if_false]
    refine .inr ⟨⟨lease, found, running, other⟩, ?_⟩
    split
    · exact .inl ⟨_, rfl, rfl⟩
    · refine .inr ⟨_, _, ?_, ?_, rfl⟩
      · rfl
      · rfl
  · exact .inl ⟨free, by simp only [acquired, if_true]⟩

/-- A guard is extended as long as the lease is its own; else it learns that the lock was lost, once and
for all. -/
theorem Guard.tick_cases (g : Guard) (now : Nat) (s : Store) :
    (g.lost = true ∧ g.tick now s = (g, s)) ∨
    (∃ lease, s.lease? g.key = some lease ∧ lease.holder = g.holder ∧
      g.tick now s = (g, s.setLease g.key { lease with expiresAt := Lease.expiry now g.ttl })) ∨
    (∀ lease, s.lease? g.key = some lease → lease.holder = g.holder → lease.isExpired now = true) ∧
      g.tick now s = ({ g with lost := true }, s) := by
  obtain ⟨key, holder, ttl, lost⟩ := g
  rw [tick]
  cases lost with
  | true => exact .inl ⟨rfl, rfl⟩
  | false =>
      rcases s.extendLease_cases now key holder ttl with
        ⟨lease, found, own, -, extended⟩ | ⟨gone, refused⟩
      · exact .inr (.inl ⟨lease, found, own, by simp [extended]⟩)
      · exact .inr (.inr ⟨gone, by simp [refused]⟩)

/-! ### Acts of holders -/

/-- Something that a holder does about the lease on a key. -/
inductive LeaseAct where
  | acquire (key holder : String) (ttl : Duration)
  | extend (key holder : String) (ttl : Duration)
  | release (key holder : String)
  /-- A guard is extended in the background. -/
  | tick (guard : Guard)
  | releaseGuard (guard : Guard)
  | dropGuard (guard : Guard)
deriving Repr, Inhabited, DecidableEq

namespace LeaseAct

def key : LeaseAct → String
  | .acquire key .. | .extend key .. | .release key _ => key
  | .tick guard | .releaseGuard guard | .dropGuard guard => guard.key

def holder : LeaseAct → String
  | .acquire _ holder _ | .extend _ holder _ | .release _ holder => holder
  | .tick guard | .releaseGuard guard | .dropGuard guard => guard.holder

/-- For how long the holder wants the key from now on, if that is what the act is for. -/
def ttl? : LeaseAct → Option Duration
  | .acquire _ _ ttl | .extend _ _ ttl => some ttl
  | .tick guard => some guard.ttl
  | .release .. | .releaseGuard _ | .dropGuard _ => none

/-- Do it now: the answer and the store after it.  Whoever drops a guard gets no answer. -/
def run (now : Nat) (s : Store) : LeaseAct → Option Bool × Store
  | .acquire key holder ttl => (s.acquireLease now key holder ttl).map some id
  | .extend key holder ttl => (s.extendLease now key holder ttl).map some id
  | .release key holder => (s.releaseLease key holder).map some id
  | .tick guard => (guard.tick now s).map (fun guard => some !guard.lost) id
  | .releaseGuard guard => (guard.release s).map (fun result => some result.isOk) id
  | .dropGuard guard => (none, guard.drop s)

/-- The answer to somebody who gets nothing. -/
def refusal : LeaseAct → Option Bool
  | .dropGuard _ => none
  | _ => some false

end LeaseAct

/-- An act and the instant at which it is done. -/
structure LeaseEvent where
  instant : Nat
  act : LeaseAct
deriving Repr, Inhabited, DecidableEq

namespace LeaseEvent

/-- The answer and the store after an event. -/
def run (s : Store) (e : LeaseEvent) : Option Bool × Store := e.act.run e.instant s

/-- The store after several events. -/
def runAll (events : List LeaseEvent) (s : Store) : Store := events.foldl (fun s e => (e.run s).2) s

/-- Two runs of events, one after the other, are one run. -/
theorem runAll_append (first second : List LeaseEvent) (s : Store) :
    runAll (first ++ second) s = runAll second (runAll first s) := List.foldl_append

end LeaseEvent

namespace LeaseAct

variable {now : Nat} {s : Store}

/-- Nobody gets anything on a key that somebody else has, and asking changes nothing. -/
theorem run_of_taken {act : LeaseAct} {lease : Lease} (found : s.lease? act.key = some lease)
    (other : act.holder ≠ lease.holder) (running : lease.isExpired now = false) :
    act.run now s = (act.refusal, s) := by
  have extending : ∀ ttl, s.extendLease now act.key act.holder ttl = (false, s) := by
    intro ttl
    rcases s.extendLease_cases now act.key act.holder ttl with
      ⟨lease', found', own, -, -⟩ | ⟨-, refused⟩
    · rw [found] at found'
      obtain rfl := Option.some.inj found'
      exact absurd own.symm other
    · exact refused
  have releasing : s.releaseLease act.key act.holder = (false, s) := by
    rcases s.releaseLease_cases act.key act.holder with ⟨lease', found', own, -⟩ | ⟨-, refused⟩
    · rw [found] at found'
      obtain rfl := Option.some.inj found'
      exact absurd own.symm other
    · exact refused
  cases act with
  | acquire key holder ttl =>
      rcases s.acquireLease_cases now key holder ttl with ⟨_, -, -, -, refused⟩ | ⟨free, -⟩
      · simp only [run, refused]
        rfl
      · exact absurd (free lease found running).symm other
  | extend key holder ttl =>
      have refused : s.extendLease now key holder ttl = (false, s) := extending ttl
      simp only [run, refused]
      rfl
  | release key holder =>
      have refused : s.releaseLease key holder = (false, s) := releasing
      simp only [run, refused]
      rfl
  | tick guard =>
      have refused : s.extendLease now guard.key guard.holder guard.ttl = (false, s) :=
        extending guard.ttl
      simp only [run, Guard.tick, refused]
      by_cases lost : guard.lost = true <;> simp [lost, refusal]
  | releaseGuard guard =>
      have refused : s.releaseLease guard.key guard.holder = (false, s) := releasing
      simp only [run, Guard.release, refused]
      rfl
  | dropGuard guard =>
      have refused : s.releaseLease guard.key guard.holder = (false, s) := releasing
      simp only [run, Guard.drop, refused]
      rfl

/-- An act leaves the leases on other keys alone. -/
theorem lease?_run_of_ne {act : LeaseAct} {key : String} (other : act.key ≠ key) :
    (act.run now s).2.lease? key = s.lease? key := by
  have extending : ∀ ttl, (s.extendLease now act.key act.holder ttl).2.lease? key = s.lease? key := by
    intro ttl
    rcases s.extendLease_cases now act.key act.holder ttl with ⟨_, -, -, -, done⟩ | ⟨-, done⟩
    · rw [done, Store.lease?_setLease, if_neg other]
    · rw [done]
  have releasing : (s.releaseLease act.key act.holder).2.lease? key = s.lease? key := by
    rcases s.releaseLease_cases act.key act.holder with ⟨_, -, -, done⟩ | ⟨-, done⟩
    · rw [done]
      exact s.leases.get?_erase_of_ne other
    · rw [done]
  cases act with
  | acquire own holder ttl =>
      rcases s.acquireLease_cases now own holder ttl with ⟨_, -, -, -, done⟩ | ⟨-, done⟩
      · simp only [run, done]
        rfl
      · simp only [run, done]
        exact (s.lease?_setLease own key _).trans (if_neg other)
  | extend own holder ttl => exact extending ttl
  | release own holder => exact releasing
  | tick guard =>
      simp only [run, Guard.tick]
      split
      · rfl
      · exact extending guard.ttl
  | releaseGuard guard => exact releasing
  | dropGuard guard => exact releasing

/-- Whoever is given time on a key has a lease on it that lasts as long as was asked. -/
theorem lease_of_run {act : LeaseAct} {ttl : Duration} (asked : act.ttl? = some ttl)
    (given : (act.run now s).1 = some true) :
    ∃ lease, (act.run now s).2.lease? act.key = some lease ∧ lease.holder = act.holder ∧
      lease.expiresAt = Lease.expiry now ttl := by
  have extended : ∀ key holder, (s.extendLease now key holder ttl).1 = true →
      ∃ lease, (s.extendLease now key holder ttl).2.lease? key = some lease ∧
        lease.holder = holder ∧ lease.expiresAt = Lease.expiry now ttl := by
    intro key holder succeeded
    rcases s.extendLease_cases now key holder ttl with ⟨lease, -, own, -, done⟩ | ⟨-, done⟩
    · rw [done]
      refine ⟨{ lease with expiresAt := Lease.expiry now ttl }, ?_, own, rfl⟩
      rw [Store.lease?_setLease, if_pos rfl]
    · rw [done] at succeeded
      cases succeeded
  cases act with
  | acquire key holder ttl' =>
      obtain rfl : ttl' = ttl := Option.some.inj asked
      rcases s.acquireLease_cases now key holder ttl' with ⟨_, -, -, -, done⟩ | ⟨-, done⟩
      · simp [run, done] at given
      · refine ⟨.starting now holder ttl', ?_, rfl, rfl⟩
        simp only [run, done]
        exact (s.lease?_setLease key key _).trans (if_pos rfl)
  | extend key holder ttl' =>
      obtain rfl : ttl' = ttl := Option.some.inj asked
      exact extended key holder (Option.some.inj given)
  | tick guard =>
      obtain rfl : guard.ttl = ttl := Option.some.inj asked
      by_cases lost : guard.lost = true
      · simp [run, Guard.tick, lost] at given
      · simp only [run, Guard.tick, if_neg lost] at given ⊢
        exact extended guard.key guard.holder (by simpa using given)
  | release key holder => cases asked
  | releaseGuard guard => cases asked
  | dropGuard guard => cases asked

end LeaseAct

namespace LeaseEvent

variable {s : Store} {key : String} {lease : Lease}

/-- A lease stands through any events before its end in which its holder does not act on the key. -/
theorem lease?_runAll {events : List LeaseEvent} (found : s.lease? key = some lease)
    (before : ∀ e ∈ events, e.instant < lease.expiresAt)
    (away : ∀ e ∈ events, ¬ (e.act.key = key ∧ e.act.holder = lease.holder)) :
    (runAll events s).lease? key = some lease := by
  induction events generalizing s with
  | nil => exact found
  | cons e rest ih =>
      have stands : (e.run s).2.lease? key = some lease := by
        by_cases same : e.act.key = key
        · subst same
          have running : lease.isExpired e.instant = false := by
            simpa [Lease.isExpired] using before e (List.mem_cons_self ..)
          have other : e.act.holder ≠ lease.holder :=
            fun own => away e (List.mem_cons_self ..) ⟨rfl, own⟩
          rw [run, LeaseAct.run_of_taken found other running]
          exact found
        · rw [run, LeaseAct.lease?_run_of_ne same]
          exact found
      apply ih stands
      · exact fun e mem => before e (List.mem_cons_of_mem _ mem)
      · exact fun e mem => away e (List.mem_cons_of_mem _ mem)

end LeaseEvent

namespace Guard

/-- Giving a guard back takes away no lease that is somebody else's. -/
theorem lease?_drop {g : Guard} {s : Store} {key : String} {lease : Lease}
    (found : s.lease? key = some lease) (other : lease.holder ≠ g.holder) :
    (g.drop s).lease? key = some lease := by
  rw [drop]
  rcases s.releaseLease_cases g.key g.holder with ⟨lease', found', own, done⟩ | ⟨-, done⟩
  · by_cases same : g.key = key
    · rw [same, found] at found'
      obtain rfl := Option.some.inj found'
      exact absurd own other
    · rw [done]
      exact (s.leases.get?_erase_of_ne same).trans found
  · rw [done]
    exact found

end Guard

namespace LeaseEvent

/-- A live lease excludes everybody else.

Somebody is given a lease or more time on it at `grant`, after any events and out of any store.  The record
says when that ends: after the time that was asked for, as 64 bits hold the instant.  Up to the recorded end,
and as long as the holder does not act on the key, the record stays as it was made then, and everybody else is
refused and changes nothing.  Nobody ever removes somebody else's lease by giving a guard back or dropping
it. -/
theorem live_lease_excludes_others (s : Store) (earlier between : List LeaseEvent)
    (grant next : LeaseEvent) (ttl : Duration)
    (ordered : (earlier ++ grant :: (between ++ [next])).Pairwise fun a b => a.instant ≤ b.instant)
    (asked : grant.act.ttl? = some ttl) (given : (grant.run (runAll earlier s)).1 = some true)
    (away : ∀ e ∈ between,
      ¬ (e.act.key = grant.act.key ∧ e.act.holder = grant.act.holder)) :
    let granted := runAll (earlier ++ [grant]) s
    let now := runAll (earlier ++ grant :: between) s
    (∃ lease, granted.lease? grant.act.key = some lease ∧ lease.holder = grant.act.holder ∧
      lease.expiresAt = Lease.expiry grant.instant ttl ∧
      (next.instant < lease.expiresAt →
        now.lease? grant.act.key = some lease ∧
        (next.act.key = grant.act.key → next.act.holder ≠ grant.act.holder →
          next.run now = (next.act.refusal, now)))) ∧
    ∀ (guard : Guard) (t : Store) (key : String) (lease : Lease), t.lease? key = some lease →
      lease.holder ≠ guard.holder →
        (guard.release t).2.lease? key = some lease ∧ (guard.drop t).lease? key = some lease := by
  intro granted now
  obtain ⟨-, later, -⟩ := List.pairwise_append.1 ordered
  obtain ⟨-, later⟩ := List.pairwise_cons.1 later
  obtain ⟨-, -, upToNext⟩ := List.pairwise_append.1 later
  obtain ⟨lease, found, own, ends⟩ := LeaseAct.lease_of_run asked given
  have atGrant : granted.lease? grant.act.key = some lease := by
    simp only [granted, runAll_append]
    exact found
  have sofar : now = runAll between granted := by
    simp only [now, granted, ← runAll_append, List.append_assoc, List.singleton_append]
  refine ⟨⟨lease, atGrant, own, ends, fun live => ?_⟩, fun guard t key lease found other => ?_⟩
  · have stands : now.lease? grant.act.key = some lease := by
      rw [sofar]
      apply lease?_runAll atGrant
      · intro e mem
        exact Nat.lt_of_le_of_lt (upToNext e mem next (List.mem_singleton_self next)) live
      · intro e mem
        rw [own]
        exact away e mem
    refine ⟨stands, fun sameKey other => ?_⟩
    rw [← sameKey] at stands
    apply LeaseAct.run_of_taken stands
    · rw [own]
      exact other
    · simpa [Lease.isExpired] using live
  · exact ⟨Guard.lease?_drop found other, Guard.lease?_drop found other⟩

/-- A lease that ran out at the instant at which it was taken over: the first holder comes back too late
with an extension and with a guard that is dropped, and cannot have the key again one millisecond before
the end of the new lease. -/
theorem late_holder_is_excluded :
    let first : Guard := ⟨"net", "first", ⟨5⟩, false⟩
    let earlier := [⟨0, .acquire "net" "first" ⟨5⟩⟩]
    let grant : LeaseEvent := ⟨5, .acquire "net" "second" ⟨10⟩⟩
    let between : List LeaseEvent :=
      [⟨5, .tick first⟩, ⟨8, .acquire "other" "second" ⟨1⟩⟩, ⟨9, .dropGuard first⟩]
    let next : LeaseEvent := ⟨14, .acquire "net" "first" ⟨5⟩⟩
    let now := runAll (earlier ++ grant :: between) .empty
    (grant.run (runAll earlier .empty)).1 = some true ∧ next.run now = (some false, now) := by
  intro first earlier grant between next now
  have given : (grant.run (runAll earlier .empty)).1 = some true := by decide +kernel
  obtain ⟨⟨lease, -, -, ends, standing⟩, -⟩ := live_lease_excludes_others .empty earlier between grant next
    ⟨10⟩ (by decide) rfl given (by decide)
  have in_time : next.instant < lease.expiresAt := by
    rw [ends]
    decide
  exact ⟨given, (standing in_time).2 rfl (by decide)⟩

end LeaseEvent

end Testbed
