import Testbed.Proofs.Lease
import Testbed.Proofs.Network.Pool

/-!
A call for a subnet, taken apart into its steps on the store: attempts to get the lock of the pool,
choosing a subnet out of what the pool holds, checking the lock, adding the subnet, giving the lock back;
and, once the call has returned a network, giving that network back.  While the call has the lock, it may
be extended between any two steps.

`CallStage.Acted` lists all that one step can do; later modules know the steps by this list only.
-/

namespace Testbed

namespace ReservationStage

/-- The guard of a reservation that has not given its lock back. -/
def guard? : ReservationStage → Option Guard
  | .choosing guard | .confirming guard _ | .adding guard _ | .releasing guard _ => some guard
  | .finished _ => none

/-- Put another guard in the place of the guard. -/
def setGuard (guard : Guard) : ReservationStage → ReservationStage
  | .choosing _ => .choosing guard
  | .confirming _ network => .confirming guard network
  | .adding _ network => .adding guard network
  | .releasing _ result => .releasing guard result
  | .finished result => .finished result

/-- The network that was chosen but not added. -/
def pending? : ReservationStage → Option Network
  | .confirming _ network | .adding _ network => some network
  | _ => none

/-- The network that was added. -/
def granted? : ReservationStage → Option Network
  | .releasing _ result | .finished result => result.toOption
  | _ => none

/-- What a reservation comes to if all goes well from now on, once that is decided. -/
def outcome? : ReservationStage → Option (Except NetworkError Network)
  | .choosing _ => none
  | .confirming _ network | .adding _ network => some (.ok network)
  | .releasing _ result | .finished result => some result

variable {stage : ReservationStage}

@[simp] theorem pending?_setGuard (guard : Guard) : (stage.setGuard guard).pending? = stage.pending? := by
  cases stage <;> rfl

@[simp] theorem granted?_setGuard (guard : Guard) : (stage.setGuard guard).granted? = stage.granted? := by
  cases stage <;> rfl

@[simp] theorem outcome?_setGuard (guard : Guard) : (stage.setGuard guard).outcome? = stage.outcome? := by
  cases stage <;> rfl

@[simp] theorem guard?_setGuard (guard : Guard) :
    (stage.setGuard guard).guard? = stage.guard?.map fun _ => guard := by
  cases stage <;> rfl

/-- Setting the guard that a call has already changes nothing. -/
theorem setGuard_eq_self {guard : Guard} (held : stage.guard? = some guard) :
    stage.setGuard guard = stage := by
  cases stage <;> simp_all [guard?, setGuard]

end ReservationStage

/-- How far a call for a subnet has come. -/
inductive CallStage where
  | waiting (acquisition : Acquisition)
  /-- The call has got the lock, or has given up. -/
  | reserving (stage : ReservationStage)
  /-- The network that the call returned was given back. -/
  | returned (network : Network)
deriving Inhabited

/-- What a call does next. -/
inductive CallAct where
  /-- Try to get the lock. -/
  | attempt
  /-- Stop waiting for the lock. -/
  | giveUp
  /-- Extend the lease in the background. -/
  | tick
  /-- Take the next step of the reservation. -/
  | step
  /-- Give the network back. -/
  | free
deriving Repr, Inhabited, DecidableEq

/-- What an act means to the others. -/
inductive Moment where
  | quiet
  /-- The call reads what its pool holds. -/
  | reading
  /-- The call gives a network back. -/
  | returning (network : Network)
deriving Repr, Inhabited, DecidableEq

namespace CallStage

/-- How a call goes on after an attempt to get the lock. -/
def ofAttempt : Attempt → CallStage
  | .held guard => .reserving (.choosing guard)
  | .refused error => .reserving (.finished (.error (.store error)))
  | .pause next _ => .waiting next

/-- Do something, if it is the time for it. -/
def act (padding : Nat) (clock : Clock) (r : SubnetRequest) (s : Store) :
    CallAct → CallStage → CallStage × Store
  | .attempt, .waiting acquisition =>
    let (outcome, s) := acquisition.attempt clock s
    (ofAttempt outcome, s)
  | .giveUp, .waiting acquisition =>
    (.reserving (.finished (.error (.store (.cancelled acquisition.key)))), s)
  | .tick, .reserving stage =>
    match stage.guard? with
    | some guard =>
      let (guard, s) := guard.tick clock.wall s
      (.reserving (stage.setGuard guard), s)
    | none => (.reserving stage, s)
  | .step, .reserving stage =>
    let (stage, s) := stage.step padding r s
    (.reserving stage, s)
  | .free, .reserving (.finished (.ok network)) => (.returned network, network.giveBack s)
  | _, stage => (stage, s)

/-- What an act means to the others. -/
def moment : CallAct → CallStage → Moment
  | .step, .reserving (.choosing _) => .reading
  | .free, .reserving (.finished (.ok network)) => .returning network
  | _, _ => .quiet

/-- The guard of a call that has the lock. -/
def guard? : CallStage → Option Guard
  | .reserving stage => stage.guard?
  | _ => none

/-- The network that a call has chosen but not added. -/
def pending? : CallStage → Option Network
  | .reserving stage => stage.pending?
  | _ => none

/-- The network that a call was granted and has not given back. -/
def granted? : CallStage → Option Network
  | .reserving stage => stage.granted?
  | _ => none

/-- What a call comes to if all goes well from now on, once that is decided. -/
def outcome? : CallStage → Option (Except NetworkError Network)
  | .waiting _ => none
  | .reserving stage => stage.outcome?
  | .returned network => some (.ok network)

/-- A network that is pending is the outcome of its call, as long as nothing goes wrong. -/
theorem outcome?_of_pending? {stage : CallStage} {n : Network} (h : stage.pending? = some n) :
    stage.outcome? = some (.ok n) := by
  cases stage with
  | waiting a => cases h
  | returned m => cases h
  | reserving stage =>
      cases stage <;> simp_all [pending?, ReservationStage.pending?, outcome?, ReservationStage.outcome?]

/-- A network that was granted is the outcome of its call. -/
theorem outcome?_of_granted? {stage : CallStage} {n : Network} (h : stage.granted? = some n) :
    stage.outcome? = some (.ok n) := by
  have ok : ∀ {result : Except NetworkError Network}, result.toOption = some n → result = .ok n := by
    intro result h
    cases result with
    | error error => cases h
    | ok m => rw [Option.some.inj h]
  cases stage with
  | waiting a => cases h
  | returned m => cases h
  | reserving stage =>
      cases stage with
      | releasing guard result => exact congrArg some (ok h)
      | finished result => exact congrArg some (ok h)
      | choosing guard => cases h
      | confirming guard m => cases h
      | adding guard m => cases h

/-- All that an act can do, for a call with the request `r` on the store `s`. -/
inductive Acted (padding : Nat) (clock : Clock) (r : SubnetRequest) (s : Store) :
    CallAct → CallStage → CallStage → Store → Prop where
  | idle {act stage} (quiet : moment act stage = .quiet) : Acted padding clock r s act stage stage s
  | refused {a next : Acquisition} (key : next.key = a.key) (holder : next.holder = a.holder) :
      Acted padding clock r s .attempt (.waiting a) (.waiting next) s
  | gaveUp {act a error} (waited : error.endsWait = true) :
      Acted padding clock r s act (.waiting a) (.reserving (.finished (.error (.store error)))) s
  | acquired {a : Acquisition} (free : ∀ lease, s.lease? a.key = some lease →
        lease.isExpired clock.wall = false → lease.holder = a.holder) :
      Acted padding clock r s .attempt (.waiting a) (.reserving (.choosing a.guard))
        (s.setLease a.key (.starting clock.wall a.holder a.options.leaseTtl))
  | extended {stage : ReservationStage} {guard lease} (held : stage.guard? = some guard)
      (found : s.lease? guard.key = some lease) (own : lease.holder = guard.holder) :
      Acted padding clock r s .tick (.reserving stage) (.reserving stage)
        (s.setLease guard.key { lease with expiresAt := Lease.expiry clock.wall guard.ttl })
  | lost {stage : ReservationStage} {guard} (held : stage.guard? = some guard)
      (gone : ∀ lease, s.lease? guard.key = some lease → lease.holder = guard.holder →
        lease.isExpired clock.wall = true) :
      Acted padding clock r s .tick (.reserving stage)
        (.reserving (stage.setGuard { guard with lost := true })) s
  | chosen {guard n} (found : r.choose padding (r.pool.reserved s) = .ok n) :
      Acted padding clock r s .step (.reserving (.choosing guard)) (.reserving (.confirming guard n)) s
  | unchosen {guard error} (failed : r.choose padding (r.pool.reserved s) = .error error) :
      Acted padding clock r s .step (.reserving (.choosing guard))
        (.reserving (.releasing guard (.error error))) s
  | confirmed {guard : Guard} {n} (kept : guard.lost = false) :
      Acted padding clock r s .step (.reserving (.confirming guard n)) (.reserving (.adding guard n)) s
  | unconfirmed {guard : Guard} {n} (lost : guard.lost = true) :
      Acted padding clock r s .step (.reserving (.confirming guard n))
        (.reserving (.releasing guard (.error (.store (.lockLost guard.key))))) s
  | added {guard} {n : Network} (new : n.cidr ∉ r.pool.reserved s) :
      Acted padding clock r s .step (.reserving (.adding guard n))
        (.reserving (.releasing guard (.ok n))) (s.addMembers r.pool.setKey [n.cidr]).2
  | taken {guard} {n : Network} (old : n.cidr ∈ r.pool.reserved s) :
      Acted padding clock r s .step (.reserving (.adding guard n))
        (.reserving (.releasing guard (.error (.alreadyReserved n.cidr))))
        (s.addMembers r.pool.setKey [n.cidr]).2
  | released {guard : Guard} {result} :
      Acted padding clock r s .step (.reserving (.releasing guard result))
        (.reserving (.finished result)) (guard.drop s)
  | freed {n : Network} :
      Acted padding clock r s .free (.reserving (.finished (.ok n))) (.returned n) (n.giveBack s)

variable {padding : Nat} {clock : Clock} {r : SubnetRequest} {s t : Store} {act : CallAct}
  {before after : CallStage}

/-- An attempt to get the lock is one of the acts of a call. -/
theorem acted_attempt (a : Acquisition) :
    Acted padding clock r s .attempt (.waiting a) (CallStage.act padding clock r s .attempt (.waiting a)).1
      (CallStage.act padding clock r s .attempt (.waiting a)).2 := by
  rw [CallStage.act]
  rcases a.attempt_cases clock s with
    ⟨free, done⟩ | ⟨-, ⟨error, waited, done⟩ | ⟨next, ms, key, holder, done⟩⟩
  · rw [done]
    exact .acquired free
  · rw [done]
    exact .gaveUp waited
  · rw [done]
    exact .refused key holder

/-- A tick of the guard is one of the acts of a call. -/
theorem acted_tick (stage : ReservationStage) :
    Acted padding clock r s .tick (.reserving stage)
      (CallStage.act padding clock r s .tick (.reserving stage)).1
      (CallStage.act padding clock r s .tick (.reserving stage)).2 := by
  rw [CallStage.act]
  cases held : stage.guard? with
  | none => exact .idle rfl
  | some guard =>
      simp only
      rcases guard.tick_cases clock.wall s with ⟨-, done⟩ | ⟨lease, found, own, done⟩ | ⟨gone, done⟩
      · simp only [done]
        rw [ReservationStage.setGuard_eq_self held]
        exact .idle rfl
      · simp only [done]
        rw [ReservationStage.setGuard_eq_self held]
        exact .extended held found own
      · simp only [done]
        exact .lost held gone

/-- A step of the reservation is one of the acts of a call. -/
theorem acted_step (stage : ReservationStage) :
    Acted padding clock r s .step (.reserving stage)
      (CallStage.act padding clock r s .step (.reserving stage)).1
      (CallStage.act padding clock r s .step (.reserving stage)).2 := by
  rw [CallStage.act]
  cases stage with
  | choosing guard =>
      rw [ReservationStage.step]
      cases found : r.choose padding (r.pool.reserved s) with
      | ok n => exact .chosen found
      | error error => exact .unchosen found
  | confirming guard n =>
      rw [ReservationStage.step, Guard.checkHeld]
      cases lost : guard.lost with
      | true => exact .unconfirmed lost
      | false => exact .confirmed lost
  | adding guard n =>
      have known : (s.addMembers r.pool.setKey [n.cidr]).1 = 0 ↔ n.cidr ∈ r.pool.reserved s :=
        Store.addMembers_singleton_eq_zero
      simp only [ReservationStage.step]
      split
      · next none => exact .taken (known.1 none)
      · next some => exact .added fun old => some (known.2 old)
  | releasing guard result => exact .released
  | finished result => exact .idle rfl

/-- Every act is one of those listed. -/
theorem acted (act : CallAct) (stage : CallStage) :
    Acted padding clock r s act stage (stage.act padding clock r s act).1
      (stage.act padding clock r s act).2 := by
  cases act with
  | attempt =>
      cases stage with
      | waiting a => exact acted_attempt a
      | reserving stage => exact .idle rfl
      | returned n => exact .idle rfl
  | giveUp =>
      cases stage with
      | waiting a => exact .gaveUp rfl
      | reserving stage => exact .idle rfl
      | returned n => exact .idle rfl
  | tick =>
      cases stage with
      | waiting a => exact .idle rfl
      | reserving stage => exact acted_tick stage
      | returned n => exact .idle rfl
  | step =>
      cases stage with
      | waiting a => exact .idle rfl
      | reserving stage => exact acted_step stage
      | returned n => exact .idle rfl
  | free =>
      cases stage with
      | waiting a => exact .idle rfl
      | returned n => exact .idle rfl
      | reserving stage =>
          cases stage with
          | finished result =>
              cases result with
              | ok n => exact .freed
              | error error => exact .idle rfl
          | choosing guard => exact .idle rfl
          | confirming guard n => exact .idle rfl
          | adding guard n => exact .idle rfl
          | releasing guard result => exact .idle rfl

namespace Acted

/-- What a step does to the stock.  A chosen network is granted by the step that finds it new in its pool;
a granted network goes when it is given back; otherwise the stock stays as it is. -/
theorem stock (h : Acted padding clock r s act before after t) :
    (s.SameStock t ∧ after.granted? = before.granted?) ∨
    (∃ n, before.granted? = none ∧ after.granted? = some n ∧ n.cidr ∉ r.pool.reserved s ∧
      s.Gains t r.pool.setKey n.cidr) ∨
    ∃ n, act = .free ∧ before.granted? = some n ∧ after.granted? = none ∧ t = n.giveBack s := by
  cases h with
  | idle quiet => exact .inl ⟨.refl s, rfl⟩
  | refused key holder => exact .inl ⟨.refl s, rfl⟩
  | gaveUp waited => exact .inl ⟨.refl s, rfl⟩
  | acquired free => exact .inl ⟨.of_eq rfl rfl, rfl⟩
  | extended held found own => exact .inl ⟨.of_eq rfl rfl, rfl⟩
  | lost held gone => exact .inl ⟨.refl s, ReservationStage.granted?_setGuard _⟩
  | chosen found => exact .inl ⟨.refl s, rfl⟩
  | unchosen failed => exact .inl ⟨.refl s, rfl⟩
  | confirmed kept => exact .inl ⟨.refl s, rfl⟩
  | unconfirmed lost => exact .inl ⟨.refl s, rfl⟩
  | @added guard n new => exact .inr (.inl ⟨n, rfl, rfl, new, .of_addMembers s _ _⟩)
  | @taken guard n old =>
      refine .inl ⟨⟨fun key => ?_, fun _ => rfl⟩, rfl⟩
      apply Store.members_eq_of_mem_iff
      intro text
      rw [Store.mem_members_addMembers, List.mem_singleton]
      constructor
      · rintro (⟨rfl, rfl⟩ | mem)
        · exact old
        · exact mem
      · exact .inr
  | @released guard result => exact .inl ⟨guard.sameStock_drop s, rfl⟩
  | @freed n => exact .inr (.inr ⟨n, rfl, rfl, rfl, rfl⟩)

/-- A network that a call has in mind after a step was chosen by this step or before. -/
theorem chosen_of_ok (h : Acted padding clock r s act before after t) {n : Network}
    (result : after.outcome? = some (.ok n)) :
    before.outcome? = some (.ok n) ∨ r.choose padding (r.pool.reserved s) = .ok n := by
  cases h with
  | @chosen guard m found =>
      obtain rfl : m = n := by simpa [outcome?, ReservationStage.outcome?] using result
      exact .inr found
  | lost held gone => exact .inl ((ReservationStage.outcome?_setGuard _).symm.trans result)
  | gaveUp waited => cases result
  | unchosen failed => cases result
  | unconfirmed lost => cases result
  | taken old => cases result
  | refused key holder => cases result
  | acquired free => cases result
  | idle quiet => exact .inl result
  | extended held found own => exact .inl result
  | confirmed kept => exact .inl result
  | added new => exact .inl result
  | released => exact .inl result
  | freed => exact .inl result

end Acted

end CallStage

end Testbed
