import Testbed.Proofs.Lease
import Testbed.Proofs.Network.PoolHistory

/-!
A reservation with nobody in the way.  When nobody has the lock of a pool, the first attempt gets it, and
giving it back leaves no trace of it.  What remains is the choice of a subnet and its addition to the pool,
as if in one step, whoever asks and at whatever time.
-/

namespace Testbed

/-- Give back a lock that was taken when nobody had it: as if it had not been taken. -/
theorem Guard.drop_setLease {g : Guard} {s : Store} {lease : Lease} (free : s.lease? g.key = none)
    (own : lease.holder = g.holder) : g.drop (s.setLease g.key lease) = s := by
  have there : (s.setLease g.key lease).lease? g.key = some lease :=
    (s.lease?_setLease g.key g.key lease).trans (if_pos rfl)
  rcases (s.setLease g.key lease).releaseLease_cases g.key g.holder with ⟨-, -, -, done⟩ | ⟨gone, -⟩
  · have restored : (s.leases.insert g.key lease).erase g.key = s.leases := by
      apply Table.ext
      intro key
      rw [Table.get?_erase, Table.get?_insert]
      by_cases same : g.key = key
      · subst same
        rw [if_pos rfl]
        exact free.symm
      · rw [if_neg same, if_neg same]
    rw [drop, done]
    simp only [Store.setLease, restored]
  · exact absurd own (gone lease there)

namespace Session

/-- A wait is over when an attempt succeeds. -/
theorem waitForLock_of_held {signal : Signal} {a : Acquisition} {s : Session} {guard : Guard}
    {store : Store} (attempted : a.attempt s.clock s.store = (.held guard, store)) :
    waitForLock signal a s = (.ok guard, { s with store }) := by
  rw [waitForLock]
  split
  · next done =>
      obtain ⟨same, rfl⟩ := Prod.mk.inj (attempted.symm.trans done)
      rw [Attempt.held.inj same]
  · next done => cases attempted.symm.trans done
  · next done => cases attempted.symm.trans done

/-- A lock that nobody has, or has any more, is obtained at the first attempt and in no time. -/
theorem acquire_of_idle (options : LockOptions) (name : String) (signal : Signal) {s : Session}
    (idle : ∀ lease, s.store.lease? (options.keyLead ++ name) = some lease →
      lease.isExpired s.clock.wall = true) :
    ∃ guard lease, s.acquire options name signal =
        (.ok guard, { s with tokens := s.tokens + 1, store := s.store.setLease guard.key lease }) ∧
      guard.lost = false ∧ guard.key = options.keyLead ++ name ∧ lease.holder = guard.holder := by
  let a : Acquisition := .start options name (token (s.tokens + 1)) s.clock.wall
  let lease : Lease := .starting s.clock.wall a.holder a.options.leaseTtl
  have attempted : a.attempt s.clock s.store = (.held a.guard, s.store.setLease a.key lease) := by
    rcases a.attempt_cases s.clock s.store with ⟨-, held⟩ | ⟨⟨other, found, running, -⟩, -⟩
    · exact held
    · cases (idle other found).symm.trans running
  refine ⟨a.guard, lease, ?_, rfl, rfl, rfl⟩
  simp only [acquire, newToken]
  exact waitForLock_of_held attempted

/-- A lock that nobody has is obtained at the first attempt. -/
theorem acquire_of_free (options : LockOptions) (name : String) (signal : Signal) {s : Session}
    (free : s.store.lease? (options.keyLead ++ name) = none) :
    ∃ guard lease t, s.acquire options name signal = (.ok guard, t) ∧ guard.lost = false ∧
      s.store.lease? guard.key = none ∧ lease.holder = guard.holder ∧
      t.store = s.store.setLease guard.key lease := by
  obtain ⟨guard, lease, acquired, kept, key, own⟩ :=
    acquire_of_idle options name signal fun lease found => by cases free.symm.trans found
  exact ⟨guard, lease, _, acquired, kept, key ▸ free, own, rfl⟩

/-- A reservation in a pool whose lock nobody has is decided by the choice of the subnet, in no time. -/
theorem reserveNetwork_of_idle (options : LockOptions) (padding : Nat) (r : SubnetRequest)
    (signal : Signal) {s : Session}
    (idle : ∀ lease, s.store.lease? (options.keyLead ++ r.pool.lockName) = some lease →
      lease.isExpired s.clock.wall = true) :
    ∃ store, s.reserveNetwork options padding r signal =
      (r.choose padding (r.pool.reserved s.store), { s with tokens := s.tokens + 1, store }) := by
  obtain ⟨guard, lease, acquired, kept, -⟩ := acquire_of_idle options r.pool.lockName signal idle
  have inUse : r.pool.reserved (s.store.setLease guard.key lease) = r.pool.reserved s.store := rfl
  simp only [reserveNetwork, acquired]
  rcases ReservationStage.run_choosing padding r (s.store.setLease guard.key lease) kept with
    ⟨error, chosen, ran⟩ | ⟨n, chosen, ran⟩
  · rw [inUse] at chosen
    exact ⟨_, by rw [ran, chosen]⟩
  · rw [inUse] at chosen
    exact ⟨_, by rw [ran, chosen]⟩

end Session

/-- Choose a subnet and add it to its pool in one step. -/
def SubnetRequest.reserveAtOnce (padding : Nat) (r : SubnetRequest) (s : Store) :
    Except NetworkError Network × Store :=
  match r.choose padding (r.pool.reserved s) with
  | .ok network => (.ok network, (s.addMembers r.pool.setKey [network.cidr]).2)
  | .error error => (.error error, s)

namespace SubnetRequest

/-- The subnet that would be added in one step, with its pool. -/
def gain? (padding : Nat) (r : SubnetRequest) (s : Store) : Option (Pool × String) :=
  (r.reserveAtOnce padding s).1.toOption.map fun network => (r.pool, network.cidr)

variable {padding : Nat} {r : SubnetRequest} {s t : Store} {pool : Pool} {text : String}

/-- The answer of a reservation depends only on what its own pool holds. -/
theorem reserveAtOnce_fst (same : r.pool.reserved t = r.pool.reserved s) :
    (r.reserveAtOnce padding t).1 = (r.reserveAtOnce padding s).1 := by
  simp only [reserveAtOnce, same]
  split
  · rfl
  · rfl

/-- A reservation in one step has nothing to do with leases. -/
theorem leases_reserveAtOnce : (r.reserveAtOnce padding s).2.leases = s.leases := by
  rw [reserveAtOnce]
  split
  · rfl
  · rfl

/-- After a reservation in one step there is the subnet that is gained, beside those that were there. -/
theorem mem_reserved_reserveAtOnce :
    text ∈ pool.reserved (r.reserveAtOnce padding s).2 ↔
      r.gain? padding s = some (pool, text) ∨ text ∈ pool.reserved s := by
  rw [gain?, reserveAtOnce]
  cases r.choose padding (r.pool.reserved s) with
  | error error => simp only [Except.toOption, Option.map_none, reduceCtorEq, false_or]
  | ok n =>
      rw [(Store.Gains.of_addMembers s _ _).mem_reserved]
      simp only [Except.toOption, Option.map_some, Option.some.injEq, Prod.mk.injEq]
      rw [eq_comm (a := pool), eq_comm (a := text)]

/-- What is added was not there. -/
theorem not_mem_of_gain? (gains : r.gain? padding s = some (pool, text)) :
    text ∉ pool.reserved s := by
  rw [gain?, reserveAtOnce] at gains
  cases chosen : r.choose padding (r.pool.reserved s) with
  | error error =>
      rw [chosen] at gains
      cases gains
  | ok n =>
      rw [chosen] at gains
      obtain ⟨rfl, rfl⟩ := Prod.mk.inj (Option.some.inj gains)
      obtain ⟨base, subnet, grant⟩ := choose_eq_ok chosen
      exact grant.fresh

end SubnetRequest

/-- A reservation in a pool whose lock nobody has is done as if in one step, whoever asks. -/
theorem PoolCall.reserveOn_of_free (options : LockOptions) (padding : Nat) (caller : Session)
    (r : SubnetRequest) (signal : Signal) {s : Store}
    (free : s.lease? (options.keyLead ++ r.pool.lockName) = none) :
    reserveOn options padding caller r signal s = r.reserveAtOnce padding s := by
  obtain ⟨guard, lease, t, acquired, kept, free, own, locked⟩ :=
    Session.acquire_of_free options r.pool.lockName signal (s := { caller with store := s }) free
  replace locked : t.store = s.setLease guard.key lease := locked
  have inUse : r.pool.reserved (s.setLease guard.key lease) = r.pool.reserved s := rfl
  simp only [reserveOn, Session.reserveNetwork, acquired, SubnetRequest.reserveAtOnce, locked]
  rcases ReservationStage.run_choosing padding r (s.setLease guard.key lease) kept with
    ⟨error, chosen, ran⟩ | ⟨n, chosen, ran⟩
  · rw [inUse] at chosen
    simp only [ran, chosen]
    exact Prod.ext rfl (Guard.drop_setLease free own)
  · rw [inUse] at chosen
    simp only [ran, chosen]
    -- The lease and the new subnet are in different parts of the store.
    let added := (s.addMembers r.pool.setKey [n.cidr]).2
    have restored : guard.drop (added.setLease guard.key lease) = added := Guard.drop_setLease free own
    exact Prod.ext rfl restored

end Testbed
