import Testbed.Proofs.Network.Exclusion

/-!
A call for a subnet among strangers.

A call waits for the lock of its pool, reserves a subnet and returns.  Between any two of its steps others
may do whatever they like to the store: take the lock over when the lease has run out, take the lease away,
change the pool.  Only the name under which the call takes its lease is its own.

A call that fails has left the stock alone, one that succeeds has added its subnet and nothing else, and
when it is over, no lease goes by its name.
-/

namespace Testbed

namespace Store

/-- Who has the lease on a key, whether it has run out or not. -/
def holder? (s : Store) (key : String) : Option String := (s.lease? key).map Lease.holder

/-- No lease goes by a name. -/
def Unknown (holder : String) (s : Store) : Prop := ∀ key, s.holder? key ≠ some holder

/-- Setting a lease changes the holder under its key and nothing else. -/
theorem holder?_setLease (s : Store) (key other : String) (lease : Lease) :
    (s.setLease key lease).holder? other =
      if key = other then some lease.holder else s.holder? other := by
  rw [holder?, lease?_setLease]
  split
  · rfl
  · rfl

end Store

namespace Guard

/-- A guard that is given back leaves no lease under its name. -/
theorem holder?_drop_self (g : Guard) (s : Store) : (g.drop s).holder? g.key ≠ some g.holder := by
  rw [Store.holder?, drop]
  rcases s.releaseLease_cases g.key g.holder with ⟨-, -, -, done⟩ | ⟨gone, done⟩
  · rw [done, Store.lease?, s.leases.get?_erase_self g.key]
    simp
  · rw [done]
    intro found
    obtain ⟨lease, found, own⟩ := Option.map_eq_some_iff.1 found
    exact gone lease found own

/-- Giving a guard back gives nobody a lease. -/
theorem holder?_of_drop {g : Guard} {s : Store} {key holder : String}
    (found : (g.drop s).holder? key = some holder) : s.holder? key = some holder := by
  rw [drop] at found
  rcases s.releaseLease_cases g.key g.holder with ⟨-, -, -, done⟩ | ⟨-, done⟩
  · rw [done, Store.holder?, Store.lease?, s.leases.get?_erase g.key key] at found
    split at found
    · cases found
    · exact found
  · rwa [done] at found

end Guard

namespace SubnetCall

/-- How a call goes on that uses the name `holder`: it takes its own steps, at any times, and between them
others change the store as they like, except that they take no lease under that name.  Listed are the stores
that each step of the call has found and left. -/
inductive Course (padding : Nat) (r : SubnetRequest) (holder : String) (first : CallStage) (s : Store) :
    CallStage → Store → List (Store × Store) → Prop where
  | begin : Course padding r holder first s first s []
  | own {stage stage' t u steps} (before : Course padding r holder first s stage t steps) (clock : Clock)
      (act : CallAct) (ours : act ≠ .free) (acted : stage.act padding clock r t act = (stage', u)) :
      Course padding r holder first s stage' u (steps ++ [(t, u)])
  | others {stage t steps} (before : Course padding r holder first s stage t steps) (u : Store)
      (spare : ∀ key, u.holder? key = some holder → t.holder? key = some holder) :
      Course padding r holder first s stage u steps

/-- None of some steps has changed the stock. -/
def Idle (steps : List (Store × Store)) : Prop := ∀ step ∈ steps, step.1.SameStock step.2

/-- What the steps of a call have done to the stock, if they have granted it a network or nothing so far. -/
inductive Done (r : SubnetRequest) : Option Network → List (Store × Store) → Prop where
  | nothing {steps} (idle : Idle steps) : Done r none steps
  | added {earlier later s t} {n : Network} (idle : Idle (earlier ++ later))
      (new : n.cidr ∉ r.pool.reserved s) (gains : s.Gains t r.pool.setKey n.cidr) :
      Done r (some n) (earlier ++ (s, t) :: later)

/-- One more step that leaves the stock alone makes no difference. -/
theorem Done.concat {r : SubnetRequest} {granted : Option Network} {steps : List (Store × Store)}
    {s t : Store} (done : Done r granted steps) (same : s.SameStock t) :
    Done r granted (steps ++ [(s, t)]) := by
  have still : ∀ {steps}, Idle steps → Idle (steps ++ [(s, t)]) := by
    intro steps idle step mem
    rcases List.mem_append.1 mem with old | new
    · exact idle step old
    · obtain rfl := List.mem_singleton.1 new
      exact same
  cases done with
  | nothing idle => exact .nothing (still idle)
  | added idle new gains =>
      rw [List.append_assoc, List.cons_append]
      refine .added ?_ new gains
      rw [← List.append_assoc]
      exact still idle

end SubnetCall

namespace CallStage

/-- All leases under the name of a call are on the key of its lock, and there are none unless it has the
lock. -/
structure Tidy (key holder : String) (stage : CallStage) (s : Store) : Prop where
  named : stage.Named key holder
  leased : ∀ other, s.holder? other = some holder → other = key ∧ ∃ guard, stage.guard? = some guard

namespace Acted

variable {padding : Nat} {clock : Clock} {r : SubnetRequest} {s t : Store} {act : CallAct}
  {before after : CallStage} {key holder : String}

/-- What an act does to a call is one of the acts that are described. -/
theorem of_act (acted : before.act padding clock r s act = (after, t)) :
    Acted padding clock r s act before after t := by
  have listed : Acted padding clock r s act before (before.act padding clock r s act).1
      (before.act padding clock r s act).2 := CallStage.acted act before
  rwa [acted] at listed

/-- A call takes one lease under its name, and gives it back. -/
theorem tidy (h : Acted padding clock r s act before after t) (tidy : before.Tidy key holder s) :
    after.Tidy key holder t := by
  refine ⟨h.named tidy.named, ?_⟩
  cases h with
  | @acquired a free =>
      intro other found
      refine ⟨?_, a.guard, rfl⟩
      rw [Store.holder?_setLease] at found
      split at found
      · next same => exact same.symm.trans tidy.named.1
      · exact (tidy.leased other found).1
  | @extended stage guard lease held read own =>
      intro other found
      refine ⟨?_, guard, held⟩
      rw [Store.holder?_setLease] at found
      split at found
      · next same => exact same.symm.trans (tidy.named guard held).1
      · exact (tidy.leased other found).1
  | @lost stage guard held gone =>
      intro other found
      obtain ⟨same, -⟩ := tidy.leased other found
      exact ⟨same, { guard with lost := true }, by
        rw [guard?, ReservationStage.guard?_setGuard, held, Option.map_some]⟩
  | @released guard result =>
      -- The only key with a lease under the name was that of the lock, which is given back.
      intro other found
      obtain ⟨rfl, -⟩ := tidy.leased other (Guard.holder?_of_drop found)
      obtain ⟨same, own⟩ := tidy.named guard rfl
      rw [← same, ← own] at found
      exact absurd found (guard.holder?_drop_self s)
  | @freed n =>
      intro other found
      rw [Store.holder?, Store.lease?, Network.leases_giveBack] at found
      exact tidy.leased other found
  | idle quiet => exact tidy.leased
  | refused sameKey sameHolder => exact tidy.leased
  | gaveUp waited => exact tidy.leased
  | chosen read => exact tidy.leased
  | unchosen failed => exact tidy.leased
  | confirmed kept => exact tidy.leased
  | unconfirmed lost => exact tidy.leased
  | added new => exact tidy.leased
  | taken old => exact tidy.leased

/-- A step of a call changes the stock when it grants the call a network, and only then. -/
theorem done (h : Acted padding clock r s act before after t) (ours : act ≠ .free)
    {steps : List (Store × Store)} (done : SubnetCall.Done r before.granted? steps) :
    SubnetCall.Done r after.granted? (steps ++ [(s, t)]) := by
  rcases h.stock with ⟨same, kept⟩ | ⟨n, none, granted, new, gains⟩ | ⟨-, free, -⟩
  · rw [kept]
    exact done.concat same
  · rw [none] at done
    rw [granted]
    cases done with
    | nothing idle => exact .added (by simpa using idle) new gains
  · exact absurd free ours

end Acted

end CallStage

namespace SubnetCall.Course

variable {padding : Nat} {r : SubnetRequest} {holder key : String} {first stage : CallStage} {s t : Store}
  {steps : List (Store × Store)}

/-- A call is tidy in all its course. -/
theorem tidy (course : Course padding r holder first s stage t steps) (start : first.Tidy key holder s) :
    stage.Tidy key holder t := by
  induction course with
  | begin => exact start
  | own before clock act ours acted ih => exact (CallStage.Acted.of_act acted).tidy ih
  | others before u spare ih => exact ⟨ih.named, fun other found => ih.leased other (spare other found)⟩

/-- At any moment of its course, a call has done to the stock what it has been granted. -/
theorem done (course : Course padding r holder first s stage t steps) (start : first.granted? = none) :
    Done r stage.granted? steps := by
  induction course with
  | begin =>
      rw [start]
      exact .nothing fun step mem => by cases mem
  | own before clock act ours acted ih => exact (CallStage.Acted.of_act acted).done ours ih
  | others before u spare ih => exact ih

end SubnetCall.Course

/-! ### The calls of a session -/

/-- The name of a wait or a guard in the background. -/
def Pending.holder? : Pending → Option String
  | .waiting acquisition _ _ => some acquisition.holder
  | .held holding => some holding.guard.holder
  | .failed _ => none

namespace Store.Unknown

variable {holder : String} {s : Store}

/-- A lease of somebody else leaves a holder unknown. -/
theorem setLease (h : s.Unknown holder) (key : String) {lease : Lease} (other : lease.holder ≠ holder) :
    (s.setLease key lease).Unknown holder := by
  intro key'
  rw [holder?_setLease]
  split
  · exact fun same => other (Option.some.inj same)
  · exact h key'

/-- Extending a guard gives nobody else a lease. -/
theorem tick (h : s.Unknown holder) {g : Guard} (other : g.holder ≠ holder) (now : Nat) :
    (g.tick now s).2.Unknown holder ∧ (g.tick now s).1.holder ≠ holder := by
  rcases g.tick_cases now s with ⟨-, done⟩ | ⟨lease, found, own, done⟩ | ⟨-, done⟩
  · rw [done]
    exact ⟨h, other⟩
  · rw [done]
    exact ⟨h.setLease g.key (own ▸ other), other⟩
  · rw [done]
    exact ⟨h, other⟩

/-- An attempt gives nobody else a lease, and the wait goes on under its name. -/
theorem attempt (h : s.Unknown holder) {a : Acquisition} (other : a.holder ≠ holder) (clock : Clock)
    (signal : Signal) (interval : Duration) :
    (a.attempt clock s).2.Unknown holder ∧
      (Session.pendingAfter clock signal interval (a.attempt clock s).1).holder? ≠ some holder := by
  rcases a.attempt_cases clock s with ⟨-, done⟩ | ⟨-, ⟨error, -, done⟩ | ⟨next, ms, -, same, done⟩⟩
  · rw [done]
    exact ⟨h.setLease a.key other, fun found => other (Option.some.inj found)⟩
  · rw [done]
    exact ⟨h, fun found => by cases found⟩
  · rw [done]
    refine ⟨h, fun found => other ?_⟩
    rw [← same]
    exact Option.some.inj found

end Store.Unknown

/-- What holds of everything in a table holds after an insertion if it holds of what is inserted. -/
theorem Table.forall_insert {α : Type} {t : Table α} {Holds : α → Prop}
    (all : ∀ key value, t.get? key = some value → Holds value) (key : String) {value : α}
    (new : Holds value) (other : String) (value' : α)
    (found : (t.insert key value).get? other = some value') : Holds value' := by
  rw [get?_insert] at found
  split at found
  · rwa [← Option.some.inj found]
  · exact all other value' found

namespace Session

/-- Nothing in a session goes by a name. -/
structure Unknown (holder : String) (s : Session) : Prop where
  store : s.store.Unknown holder
  held : ∀ slot holding, s.held.get? slot = some holding → holding.guard.holder ≠ holder
  pending : ∀ slot wait, s.pending.get? slot = some wait → wait.holder? ≠ some holder

namespace Unknown

variable {holder : String} {s : Session}

/-- Nothing that happens by itself in a session makes a holder known. -/
theorem handle (h : s.Unknown holder) (event : SessionEvent) : (s.handle event).Unknown holder := by
  cases event with
  | tick slot =>
      rw [Session.handle]
      split
      · next holding found =>
          obtain ⟨store, guard⟩ := h.store.tick (h.held slot holding found) s.clock.wall
          exact ⟨store, Table.forall_insert h.held slot guard, h.pending⟩
      · exact h
  | tickPending slot =>
      rw [Session.handle]
      split
      · next holding found =>
          have other : holding.guard.holder ≠ holder :=
            fun same => h.pending slot _ found (congrArg some same)
          obtain ⟨store, guard⟩ := h.store.tick other s.clock.wall
          exact ⟨store, h.held, Table.forall_insert h.pending slot fun same => guard (Option.some.inj same)⟩
      · exact h
  | wake slot =>
      rw [Session.handle]
      split
      · next acquisition signal wakeAt found =>
          have other : acquisition.holder ≠ holder :=
            fun same => h.pending slot _ found (congrArg some same)
          split
          · exact ⟨h.store, h.held, Table.forall_insert h.pending slot fun same => by cases same⟩
          · obtain ⟨store, wait⟩ :=
              h.store.attempt other s.clock signal acquisition.options.extendInterval
            exact ⟨store, h.held, Table.forall_insert h.pending slot wait⟩
      · exact h

/-- What is due in a session makes no holder known, however much it is. -/
theorem runSteps (h : s.Unknown holder) (instant fuel : Nat) :
    (Session.runSteps instant fuel s).Unknown holder := by
  induction fuel generalizing s with
  | zero => exact h
  | succ fuel ih =>
      rw [Session.runSteps]
      split
      · next due event _ =>
          split
          · apply ih
            exact handle (s := { s with clock := s.clock.advanceTo due }) ⟨h.store, h.held, h.pending⟩ event
          · exact h
      · exact h

/-- A pause makes no holder known. -/
theorem pauseUntil (h : s.Unknown holder) (instant : Nat) : (s.pauseUntil instant).Unknown holder :=
  let steps := h.runSteps instant _
  ⟨steps.store, steps.held, steps.pending⟩

end Unknown

end Session

/-- How a call goes on after its wait for the lock. -/
def CallStage.ofWait : Except StoreError Guard → CallStage
  | .ok guard => .reserving (.choosing guard)
  | .error error => .reserving (.finished (.error (.store error)))

namespace SubnetCall.Course

variable {padding : Nat} {r : SubnetRequest} {holder : String} {first : CallStage} {start : Store}
  {steps : List (Store × Store)}

/-- A wait in a session is part of a course: in its pauses it is the other locks of the session that change
the store. -/
theorem wait (signal : Signal) {a : Acquisition} {s : Session} (unknown : s.Unknown holder)
    (course : Course padding r holder first start (.waiting a) s.store steps) :
    ∃ steps', Course padding r holder first start (.ofWait (s.waitForLock signal a).1)
      (s.waitForLock signal a).2.store steps' := by
  revert unknown steps
  fun_induction Session.waitForLock signal a s with
  | case1 a s guard store attempted =>
      intro steps unknown course
      exact ⟨_, course.own s.clock .attempt (by decide) (by rw [CallStage.act, attempted]; rfl)⟩
  | case2 a s error store attempted =>
      intro steps unknown course
      exact ⟨_, course.own s.clock .attempt (by decide) (by rw [CallStage.act, attempted]; rfl)⟩
  | case3 a s following ms store attempted paused instant =>
      intro steps unknown course
      obtain ⟨rfl, key, -⟩ := Acquisition.of_attempt_pause attempted
      have refused : Course padding r holder first start (.waiting following) s.store
          (steps ++ [(s.store, s.store)]) :=
        course.own s.clock .attempt (by decide) (by rw [CallStage.act, attempted]; rfl)
      have later := refused.others _ fun key found =>
        absurd found ((unknown.pauseUntil instant).store key)
      exact ⟨_, later.own default .giveUp (by decide) (by rw [CallStage.act, key]; rfl)⟩
  | case4 a s following ms store attempted paused uninterrupted =>
      rename_i ih
      intro steps unknown course
      obtain ⟨rfl, -⟩ := Acquisition.of_attempt_pause attempted
      have refused : Course padding r holder first start (.waiting following) s.store
          (steps ++ [(s.store, s.store)]) :=
        course.own s.clock .attempt (by decide) (by rw [CallStage.act, attempted]; rfl)
      have unknown : (s.pause ms).Unknown holder := unknown.pauseUntil _
      exact ih unknown (refused.others _ fun key found => absurd found (unknown.store key))

/-- A reservation that is carried through is part of a course. -/
theorem carriedThrough (stage : ReservationStage) (s : Store)
    (course : Course padding r holder first start (.reserving stage) s steps) :
    ∃ steps', Course padding r holder first start
      (.reserving (.finished (ReservationStage.run padding r s stage).1))
      (ReservationStage.run padding r s stage).2 steps' := by
  fun_induction ReservationStage.run padding r s stage generalizing steps with
  | case1 s stage result ended =>
      cases stage with
      | finished result' =>
          obtain rfl : result' = result := Option.some.inj ended
          exact ⟨steps, course⟩
      | choosing guard => cases ended
      | confirming guard n => cases ended
      | adding guard n => cases ended
      | releasing guard result => cases ended
  | case2 s stage going ih => exact ih (course.own default .step (by decide) rfl)

end SubnetCall.Course

/-- A call that a session makes is a course of a call, under a name that the session has not used. -/
theorem Session.course_of_reserveNetwork (options : LockOptions) (padding : Nat) (r : SubnetRequest)
    (signal : Signal) {s : Session} (unknown : s.Unknown (token (s.tokens + 1))) :
    ∃ steps, SubnetCall.Course padding r (token (s.tokens + 1))
      (SubnetCall.start options r (token (s.tokens + 1)) s.clock.wall).stage s.store
      (.reserving (.finished (s.reserveNetwork options padding r signal).1))
      (s.reserveNetwork options padding r signal).2.store steps := by
  let call := SubnetCall.start options r (token (s.tokens + 1)) s.clock.wall
  have begun : SubnetCall.Course padding r (token (s.tokens + 1)) call.stage s.store call.stage s.store [] :=
    .begin
  have unknown : Unknown (token (s.tokens + 1)) { s with tokens := s.tokens + 1 } :=
    ⟨unknown.store, unknown.held, unknown.pending⟩
  obtain ⟨steps, waited⟩ := SubnetCall.Course.wait signal unknown begun
  rw [reserveNetwork]
  cases acquired : s.acquire options r.pool.lockName signal with
  | mk outcome during =>
      rw [show waitForLock signal _ _ = (outcome, during) from acquired] at waited
      cases outcome with
      | error error => exact ⟨steps, waited⟩
      | ok guard => exact waited.carriedThrough

namespace SubnetCall

/-- A call for a subnet leaves nothing behind.

Whatever others do, whenever the lock is waited for, obtained or lost, and whenever the wait is given up: a
call that has failed has changed no stock, and one that has succeeded has added its subnet, which was not in
the pool before, and has changed nothing else.  In both cases no lease goes by the name of the call.  The
calls that a session makes are such calls. -/
theorem nothing_is_left_behind (options : LockOptions) (padding : Nat) (r : SubnetRequest) :
    (∀ (holder : String) (now : Nat) (s t : Store) (result : Except NetworkError Network)
        (steps : List (Store × Store)), s.Unknown holder →
      Course padding r holder (start options r holder now).stage s (.reserving (.finished result)) t steps →
        (∀ error, result = .error error → Idle steps) ∧
        (∀ n, result = .ok n → Done r (some n) steps) ∧ t.Unknown holder) ∧
    ∀ (s : Session) (signal : Signal), s.Unknown (token (s.tokens + 1)) →
      ∃ steps, Course padding r (token (s.tokens + 1))
        (start options r (token (s.tokens + 1)) s.clock.wall).stage s.store
        (.reserving (.finished (s.reserveNetwork options padding r signal).1))
        (s.reserveNetwork options padding r signal).2.store steps := by
  refine ⟨?_, fun s signal unknown => s.course_of_reserveNetwork options padding r signal unknown⟩
  intro holder now s t result steps unknown course
  have waits : (start options r holder now).stage.Tidy (options.keyLead ++ r.pool.lockName) holder s :=
    ⟨⟨rfl, rfl⟩, fun key found => absurd found (unknown key)⟩
  have done : Done r result.toOption steps := course.done rfl
  refine ⟨?_, ?_, ?_⟩
  · rintro error rfl
    cases done with
    | nothing idle => exact idle
  · rintro n rfl
    exact done
  · intro key found
    obtain ⟨-, guard, held⟩ := (course.tidy waits).leased key found
    cases held

/-- A call that waits for the lock, gets it, and loses it to a stranger before its subnet is added: the
subnet is reserved all the same, and the lease of the stranger stays. -/
theorem subnet_is_kept_after_a_lost_lock :
    let options : LockOptions := ⟨"lock:", ⟨5⟩, ⟨2⟩, ⟨1⟩, ⟨4⟩, ⟨20⟩⟩
    let r : SubnetRequest := ⟨⟨"id", "pool", .docker⟩, "10.0.0.0/8", 24, 1⟩
    let n : Network := ⟨r.identifier, "10.0.1.0/24", [.ofOctets 10 0 1 2]⟩
    let key := options.keyLead ++ r.pool.lockName
    let s := Store.empty.setLease key ⟨"b", 0, 9⟩
    ∃ t steps, Course 1 r "a" (start options r "a" 0).stage s (.reserving (.finished (.ok n))) t steps ∧
      t.holder? key = some "b" ∧ Done r (some n) steps ∧ t.Unknown "a" := by
  intro options r n key s
  let early : Clock := ⟨0, 0, true⟩
  let late : Clock := ⟨1, 1, true⟩
  let a : Acquisition := .start options r.pool.lockName "a" 0
  let a' : Acquisition := { a with attempts := 1, backoff := ⟨2⟩ }
  -- The first holder has given the lock back and has reserved a subnet.
  let u : Store := (Store.empty.addMembers r.pool.setKey ["10.0.0.0/24"]).2
  let u' : Store := u.setLease key (.starting 1 "a" ⟨5⟩)
  -- A stranger has taken the lock over.
  let v : Store := u.setLease key ⟨"b", 2, 9⟩
  let w : Store := (v.addMembers r.pool.setKey ["10.0.1.0/24"]).2
  have empty : Store.empty.Unknown "a" := nofun
  have unknown : s.Unknown "a" := empty.setLease key (by decide)
  have unknownU : u.Unknown "a" := nofun
  have unknownV : v.Unknown "a" := unknownU.setLease key (by decide)
  have attempted : a.attempt early s = (.pause a' 1, s) := by
    have taken : s.acquireLease early.wall a.key a.holder a.options.leaseTtl = (false, s) := by
      decide +kernel
    have patient : ¬ a.options.waitTimeout ≤ early.waited a.startedAt a.failed.attempts := by decide
    have brief : max 1 (min a.backoff.ms (a.options.waitTimeout.ms -
        (early.waited a.startedAt a.failed.attempts).ms)) = 1 := by decide
    simp only [Acquisition.attempt, taken, Bool.false_eq_true, if_false, if_neg patient, brief]
    rfl
  have obtained : a'.attempt late u = (.held a'.guard, u') := by
    have free : u.acquireLease late.wall a'.key a'.holder a'.options.leaseTtl = (true, u') := by
      decide +kernel
    rw [Acquisition.attempt, free]
    rfl
  have chosen : (ReservationStage.choosing a'.guard).step 1 r u' = (.confirming a'.guard n, u') := by
    have chosen : r.choose 1 (r.pool.reserved u') = .ok n := by decide +kernel
    rw [ReservationStage.step, chosen]
  have added : (ReservationStage.adding a'.guard n).step 1 r v = (.releasing a'.guard (.ok n), w) := by
    have new : (v.addMembers r.pool.setKey [n.cidr]).1 ≠ 0 := by decide +kernel
    simp only [ReservationStage.step, if_neg new]
    rfl
  have released : a'.guard.drop w = w := by decide +kernel
  have waited : Course 1 r "a" (.waiting a) s (.waiting a') u [(s, s)] :=
    (Course.begin.own early .attempt (by decide) (by rw [CallStage.act, attempted]; rfl)).others u
      fun key found => absurd found (unknownU key)
  have locked : Course 1 r "a" (.waiting a) s (.reserving (.choosing a'.guard)) u' [(s, s), (u, u')] :=
    waited.own late .attempt (by decide) (by rw [CallStage.act, obtained]; rfl)
  have decided : Course 1 r "a" (.waiting a) s (.reserving (.confirming a'.guard n)) u'
      [(s, s), (u, u'), (u', u')] := locked.own late .step (by decide) (by rw [CallStage.act, chosen])
  have lost : Course 1 r "a" (.waiting a) s (.reserving (.adding a'.guard n)) v
      [(s, s), (u, u'), (u', u'), (u', u')] :=
    (decided.own late .step (by decide) rfl).others v fun key found => absurd found (unknownV key)
  have stored : Course 1 r "a" (.waiting a) s (.reserving (.releasing a'.guard (.ok n))) w
      [(s, s), (u, u'), (u', u'), (u', u'), (v, w)] :=
    lost.own late .step (by decide) (by rw [CallStage.act, added])
  have course : Course 1 r "a" (.waiting a) s (.reserving (.finished (.ok n))) w
      [(s, s), (u, u'), (u', u'), (u', u'), (v, w), (w, w)] :=
    stored.own late .step (by decide) (by rw [CallStage.act, ReservationStage.step, released])
  obtain ⟨-, done, nothing⟩ := (nothing_is_left_behind options 1 r).1 "a" 0 s w (.ok n) _ unknown course
  exact ⟨w, _, course, by decide +kernel, done n rfl, nothing⟩

end SubnetCall

end Testbed
