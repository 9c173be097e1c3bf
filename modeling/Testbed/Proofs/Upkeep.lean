import Mathlib.Data.List.Induction
import Testbed.Proofs.Lease
import Testbed.Session

/-!
How a lock is kept, lost and given back.

A guard is extended now and then, while others do what they like: they let leases run out and take keys
over, and somebody may take a lease away from whoever has it.  The guard learns of a loss from its ticks
only, at the first of them that finds the lease gone, and does not forget it.  Up to then every tick gives
it its whole lifetime anew.

That nothing is left of a guard that was given back rests on its holder, a name that nobody else goes by:
leases under that name come from acquiring the lock, and an extension only prolongs one that is there.
-/

namespace Testbed

/-! ### Leases under a name -/

namespace LeaseAct

variable {act : LeaseAct} {now : Nat} {s : Store}

/-- An act changes nothing, puts a lease of its holder on its key, or takes one away. -/
theorem run_cases (act : LeaseAct) (now : Nat) (s : Store) :
    (act.run now s).2 = s ∨
    (∃ lease, lease.holder = act.holder ∧ (act.run now s).2 = s.setLease act.key lease) ∨
    (act.run now s).2 = { s with leases := s.leases.erase act.key } := by
  have extending : ∀ ttl, (s.extendLease now act.key act.holder ttl).2 = s ∨
      ∃ lease, lease.holder = act.holder ∧
        (s.extendLease now act.key act.holder ttl).2 = s.setLease act.key lease := by
    intro ttl
    rcases s.extendLease_cases now act.key act.holder ttl with ⟨lease, -, own, -, done⟩ | ⟨-, done⟩
    · exact .inr ⟨{ lease with expiresAt := Lease.expiry now ttl }, own, by rw [done]⟩
    · exact .inl (by rw [done])
  have releasing : (s.releaseLease act.key act.holder).2 = s ∨
      (s.releaseLease act.key act.holder).2 = { s with leases := s.leases.erase act.key } := by
    rcases s.releaseLease_cases act.key act.holder with ⟨-, -, -, done⟩ | ⟨-, done⟩
    · exact .inr (by rw [done])
    · exact .inl (by rw [done])
  cases act with
  | acquire key holder ttl =>
      rcases s.acquireLease_cases now key holder ttl with ⟨-, -, -, -, done⟩ | ⟨-, done⟩
      · exact .inl (by simp only [run, done, Prod.map, id])
      · exact .inr (.inl ⟨.starting now holder ttl, rfl, by simp only [run, done, Prod.map, id]; rfl⟩)
  | extend key holder ttl => exact (extending ttl).imp_right .inl
  | release key holder => exact releasing.imp_right .inr
  | tick guard =>
      by_cases lost : guard.lost = true
      · exact .inl (by simp [run, Guard.tick, lost])
      · simp only [run, Guard.tick, if_neg lost]
        exact (extending guard.ttl).imp_right .inl
  | releaseGuard guard => exact releasing.imp_right .inr
  | dropGuard guard => exact releasing.imp_right .inr

/-- After an act, leases under other names than its holder's are as they were. -/
theorem lease?_of_run {key : String} {lease : Lease}
    (found : (act.run now s).2.lease? key = some lease) (other : lease.holder ≠ act.holder) :
    s.lease? key = some lease := by
  rcases act.run_cases now s with same | ⟨new, own, same⟩ | same
  · rwa [same] at found
  · rw [same, Store.lease?_setLease] at found
    split at found
    · obtain rfl := Option.some.inj found
      exact absurd own other
    · exact found
  · rw [same] at found
    have erased := s.leases.get?_erase act.key key
    change (s.leases.erase act.key).get? key = some lease at found
    rw [erased] at found
    split at found
    · cases found
    · exact found

end LeaseAct

/-- Take a lease away from whoever has it. -/
def Store.takeAway (s : Store) (key : String) : Store :=
  (s.releaseLease key (((s.lease? key).map Lease.holder).getD "")).2

/-- Taking a lease away changes what is under its key and nothing else. -/
theorem Store.lease?_takeAway (s : Store) (key other : String) :
    (s.takeAway key).lease? other = if key = other then none else s.lease? other := by
  rw [takeAway]
  rcases s.releaseLease_cases key (((s.lease? key).map Lease.holder).getD "") with
    ⟨lease, -, -, done⟩ | ⟨nobody, done⟩
  · rw [done]
    exact s.leases.get?_erase key other
  · have absent : s.lease? key = none := by
      cases found : s.lease? key with
      | none => rfl
      | some lease =>
          rw [found] at nobody
          exact absurd rfl (nobody lease rfl)
    rw [done]
    split
    · next same => rw [← same, absent]
    · rfl

/-! ### A guard and the others -/

namespace Guard

/-- The lease of a guard is not its own any more: it is not there, has run out, or is somebody else's. -/
def Gone (g : Guard) (now : Nat) (s : Store) : Prop :=
  match s.lease? g.key with
  | none => True
  | some lease => lease.isExpired now = true ∨ lease.holder ≠ g.holder

/-- The lease of a guard is gone when somebody else has it. -/
theorem gone_of_other {g : Guard} {now : Nat} {s : Store} {lease : Lease} (found : s.lease? g.key = some lease)
    (other : lease.holder ≠ g.holder) : g.Gone now s := by
  rw [Gone, found]
  exact .inr other

/-- A guard that was not lost so far is lost by a tick exactly if the lease is gone; otherwise it has its
whole lifetime anew. -/
theorem tick_of_held {g : Guard} (held : g.lost = false) (now : Nat) (s : Store) :
    g.Gone now s ∧ g.tick now s = ({ g with lost := true }, s) ∨
    ¬ g.Gone now s ∧ ∃ lease, s.lease? g.key = some lease ∧ lease.holder = g.holder ∧
      g.tick now s = (g, s.setLease g.key { lease with expiresAt := Lease.expiry now g.ttl }) := by
  obtain ⟨key, holder, ttl, lost⟩ := g
  obtain rfl : lost = false := held
  rw [Gone, tick]
  rcases s.extendLease_cases now key holder ttl with ⟨lease, found, own, running, done⟩ | ⟨refused, done⟩
  · refine .inr ⟨?_, lease, found, own, by simp [done]⟩
    simp [found, running, own]
  · refine .inl ⟨?_, by simp [done]⟩
    dsimp only
    cases found : s.lease? key with
    | none => trivial
    | some lease =>
        by_cases own : lease.holder = holder
        · exact .inl (refused lease found own)
        · exact .inr own

/-- Guards of one lock may differ only in whether they know that it was lost. -/
structure SameLock (g h : Guard) : Prop where
  key : h.key = g.key
  holder : h.holder = g.holder
  ttl : h.ttl = g.ttl

/-- Two guards of one lock have lost it at the same time. -/
theorem SameLock.gone {g h : Guard} (same : g.SameLock h) (now : Nat) (s : Store) :
    h.Gone now s ↔ g.Gone now s := by
  rw [Gone, Gone, same.key, same.holder]

/-- A tick never changes more of a guard than whether it is lost. -/
theorem sameLock_tick (g : Guard) (now : Nat) (s : Store) : g.SameLock (g.tick now s).1 := by
  rcases g.tick_cases now s with ⟨-, done⟩ | ⟨_, -, -, done⟩ | ⟨-, done⟩
  all_goals
    rw [done]
    exact ⟨rfl, rfl, rfl⟩

/-- A guard that knows of its loss does nothing at a tick. -/
theorem tick_of_lost {g : Guard} (lost : g.lost = true) (now : Nat) (s : Store) : g.tick now s = (g, s) :=
  if_pos lost

end Guard

/-- Something that happens while a guard is held, or after it was given back. -/
inductive Upkeep where
  /-- The guard is extended. -/
  | tick (now : Nat)
  /-- A lease is taken away from whoever has it. -/
  | takeAway (key : String)
  /-- Somebody acts on a lease. -/
  | act (event : LeaseEvent)

/-- The keys with a lease under a name are all of a kind. -/
def Store.LeasesOnly (holder : String) (P : String → Prop) (s : Store) : Prop :=
  ∀ key lease, s.lease? key = some lease → lease.holder = holder → P key

namespace Upkeep

/-- What happens does not bear the name of a holder, apart from the ticks of the guard itself. -/
def Foreign (holder : String) : Upkeep → Prop
  | .act event => event.act.holder ≠ holder
  | _ => True

/-- Whether it is the guard that is extended. -/
def isTick : Upkeep → Bool
  | .tick _ => true
  | _ => false

/-- The guard and the store after something has happened. -/
def run (state : Holding × Store) : Upkeep → Holding × Store
  | .tick now => state.1.tick now state.2
  | .takeAway key => (state.1, state.2.takeAway key)
  | .act event => (state.1, (event.run state.2).2)

/-- The guard and the store after several things have happened. -/
def runAll (state : Holding × Store) (events : List Upkeep) : Holding × Store := events.foldl run state

/-- Some tick has found the lease of the guard gone. -/
def Noticed (start : Holding × Store) (events : List Upkeep) : Prop :=
  ∃ before now later, events = before ++ .tick now :: later ∧
    start.1.guard.Gone now (runAll start before).2

variable {state start : Holding × Store} {events : List Upkeep}

/-- What was noticed is not forgotten. -/
theorem Noticed.append (h : Noticed start events) (later : List Upkeep) : Noticed start (events ++ later) := by
  obtain ⟨before, now, rest, rfl, gone⟩ := h
  exact ⟨before, now, rest ++ later, by simp, gone⟩

/-- One more event happens after the others. -/
theorem runAll_concat (start : Holding × Store) (events : List Upkeep) (e : Upkeep) :
    runAll start (events ++ [e]) = run (runAll start events) e := List.foldl_append

/-- A loss that was noticed stays so, and a tick may notice one. -/
theorem noticed_concat {e : Upkeep} : Noticed start (events ++ [e]) ↔
    Noticed start events ∨ ∃ now, e = .tick now ∧ start.1.guard.Gone now (runAll start events).2 := by
  constructor
  · rintro ⟨before, now, later, split, gone⟩
    rcases List.eq_nil_or_concat later with rfl | ⟨rest, last, rfl⟩
    · obtain ⟨rfl, same⟩ := List.append_inj' split rfl
      exact .inr ⟨now, List.singleton_inj.1 same, gone⟩
    · rw [List.concat_eq_append, ← List.cons_append, ← List.append_assoc] at split
      obtain ⟨rfl, -⟩ := List.append_inj' split rfl
      exact .inl ⟨before, now, rest, rfl, gone⟩
  · rintro (noticed | ⟨now, rfl, gone⟩)
    · exact noticed.append [e]
    · exact ⟨events, now, [], rfl, gone⟩

/-- A guard stays the guard of its lock. -/
theorem sameLock_runAll (start : Holding × Store) (events : List Upkeep) :
    start.1.guard.SameLock (runAll start events).1.guard := by
  induction events using List.reverseRecOn with
  | nil => exact ⟨rfl, rfl, rfl⟩
  | append_singleton events e ih =>
      rw [runAll_concat]
      cases e with
      | tick now =>
          have ticked := (runAll start events).1.guard.sameLock_tick now (runAll start events).2
          exact ⟨ticked.key.trans ih.key, ticked.holder.trans ih.holder, ticked.ttl.trans ih.ttl⟩
      | takeAway key => exact ih
      | act event => exact ih

/-- The ticks of a guard go on at their interval. -/
theorem nextTick_runAll (start : Holding × Store) (events : List Upkeep) :
    (runAll start events).1.interval = start.1.interval ∧
      (runAll start events).1.nextTick =
        start.1.nextTick.map (· + events.countP isTick * start.1.interval.ms) := by
  induction events using List.reverseRecOn with
  | nil => simp [runAll]
  | append_singleton events e ih =>
      obtain ⟨interval, next⟩ := ih
      rw [runAll_concat]
      cases e with
      | tick now =>
          refine ⟨interval, ?_⟩
          simp [run, Holding.tick, next, interval, isTick, Function.comp_def, Nat.succ_mul, Nat.add_assoc]
      | takeAway key => exact ⟨interval, by simpa [run, isTick] using next⟩
      | act event => exact ⟨interval, by simpa [run, isTick] using next⟩

/-- A guard knows that it was lost exactly if a tick has found its lease gone. -/
theorem lost_runAll {start : Holding × Store} (held : start.1.guard.lost = false) (events : List Upkeep) :
    (runAll start events).1.guard.lost = true ↔ Noticed start events := by
  induction events using List.reverseRecOn with
  | nil => simp [runAll, held, Noticed]
  | append_singleton events e ih =>
      rw [noticed_concat, ← ih, runAll_concat]
      cases e with
      | takeAway key => simp [run]
      | act event => simp [run]
      | tick now =>
          have gone := ((sameLock_runAll start events).gone now (runAll start events).2).symm
          simp only [run, Holding.tick, tick.injEq, exists_eq_left', gone]
          cases known : (runAll start events).1.guard.lost with
          | true => simp [Guard.tick_of_lost known, known]
          | false =>
              rcases Guard.tick_of_held known now (runAll start events).2 with
                ⟨gone, done⟩ | ⟨there, lease, -, -, done⟩
              · simp [done, gone]
              · simp [done, known, there]

/-! ### Leases under the name of the holder -/

section Leases

variable {holder : String} {P : String → Prop}

/-- Nothing that happens brings a lease under the name of the guard's holder to another key: others act under
other names, and a tick prolongs a lease that is there. -/
theorem leasesOnly_run {e : Upkeep} (foreign : e.Foreign state.1.guard.holder)
    (only : state.2.LeasesOnly state.1.guard.holder P) :
    (run state e).2.LeasesOnly state.1.guard.holder P := by
  intro key lease found own
  cases e with
  | tick now =>
      have ticked : (run state (.tick now)).2 = (state.1.guard.tick now state.2).2 := rfl
      rw [ticked] at found
      rcases state.1.guard.tick_cases now state.2 with ⟨-, done⟩ | ⟨old, there, same, done⟩ | ⟨-, done⟩
      · rw [done] at found
        exact only key lease found own
      · rw [done, Store.lease?_setLease] at found
        split at found
        · next here => exact here ▸ only _ old there same
        · exact only key lease found own
      · rw [done] at found
        exact only key lease found own
  | takeAway other =>
      have taken := state.2.lease?_takeAway other key
      rw [show (run state (.takeAway other)).2 = state.2.takeAway other from rfl, taken] at found
      split at found
      · cases found
      · exact only key lease found own
  | act event =>
      have other : lease.holder ≠ event.act.holder := fun same => foreign (same.symm.trans own)
      exact only key lease (LeaseAct.lease?_of_run found other) own

/-- Nobody but its holder takes leases in a holder's name. -/
theorem leasesOnly_runAll (start : Holding × Store)
    (foreign : ∀ e ∈ events, e.Foreign start.1.guard.holder) (only : start.2.LeasesOnly start.1.guard.holder P) :
    (runAll start events).2.LeasesOnly start.1.guard.holder P := by
  induction events using List.reverseRecOn with
  | nil => exact only
  | append_singleton events e ih =>
      have holder := (sameLock_runAll start events).holder
      have earlier := ih fun e mem => foreign e (List.mem_append_left _ mem)
      rw [runAll_concat, ← holder]
      apply leasesOnly_run
      · rw [holder]
        exact foreign e (List.mem_append_right _ (List.mem_singleton_self e))
      · rw [holder]
        exact earlier

end Leases

end Upkeep

namespace Guard

variable {g : Guard} {s : Store}

/-- Giving a guard back leaves nothing under the name of its holder. -/
theorem leasesOnly_drop (only : s.LeasesOnly g.holder (· = g.key)) :
    (g.drop s).LeasesOnly g.holder fun _ => False := by
  intro key lease found own
  rw [drop] at found
  rcases s.releaseLease_cases g.key g.holder with ⟨-, -, -, done⟩ | ⟨nobody, done⟩
  · have erased := s.leases.get?_erase g.key key
    rw [done] at found
    change (s.leases.erase g.key).get? key = some lease at found
    rw [erased] at found
    split at found
    · cases found
    · next other => exact other (only key lease found own).symm
  · rw [done] at found
    obtain rfl := only key lease found own
    exact nobody lease found own

/-- Where nothing is under the name of its holder, a tick does nothing to the store. -/
theorem tick_of_nothing (nothing : s.LeasesOnly g.holder fun _ => False) (now : Nat) :
    (g.tick now s).2 = s := by
  rcases g.tick_cases now s with ⟨-, done⟩ | ⟨lease, found, own, -⟩ | ⟨-, done⟩
  · rw [done]
  · exact (nothing _ lease found own).elim
  · rw [done]

/-- A guard can be released exactly if the lease is under the name of its holder. -/
theorem release_eq_ok_iff : (g.release s).1 = .ok () ↔
    ∃ lease, s.lease? g.key = some lease ∧ lease.holder = g.holder := by
  rw [release]
  rcases s.releaseLease_cases g.key g.holder with ⟨lease, found, own, done⟩ | ⟨nobody, done⟩
  · simp [done, found, own]
  · simp only [done, Bool.false_eq_true, if_false, reduceCtorEq, false_iff]
    rintro ⟨lease, found, own⟩
    exact nobody lease found own

/-- A guard fails its check exactly if it knows of its loss. -/
theorem checkHeld_eq_error_iff : g.checkHeld = .error (.lockLost g.key) ↔ g.lost = true := by
  rw [checkHeld]
  cases g.lost <;> simp

/-- A guard passes its check exactly if it knows of no loss. -/
theorem checkHeld_eq_ok_iff : g.checkHeld = .ok () ↔ g.lost = false := by
  rw [checkHeld]
  cases g.lost <;> simp

end Guard

/-! ### From acquiring a lock to the end of it -/

/-- Nobody goes by the name of a holder who acquires a lock; then that lock is all the holder has. -/
theorem Acquisition.leasesOnly_attempt {a : Acquisition} {clock : Clock} {s t : Store} {g : Guard}
    (fresh : ∀ key lease, s.lease? key = some lease → lease.holder ≠ a.holder)
    (acquired : a.attempt clock s = (.held g, t)) :
    g = a.guard ∧ t.LeasesOnly g.holder (· = g.key) := by
  rcases a.attempt_cases clock s with ⟨-, done⟩ | ⟨-, ⟨_, -, done⟩ | ⟨_, _, -, -, done⟩⟩
  · rw [acquired] at done
    obtain ⟨same, rfl⟩ := Prod.mk.inj done
    obtain rfl := Attempt.held.inj same
    refine ⟨rfl, fun key lease found own => ?_⟩
    rw [Store.lease?_setLease] at found
    split at found
    · next here => exact here.symm
    · exact absurd own (fresh key lease found)
  · rw [acquired] at done
    cases done
  · rw [acquired] at done
    cases done

namespace Upkeep

/-- A guard notices the loss of its lock at the first tick that finds the lease gone, and never forgets it.

Somebody acquires a lock under a name that nobody else goes by, and anything may happen while the guard is
held.  The next tick is always due one interval after the last.  The guard fails its check exactly if one
of its ticks has found the lease taken away, run out or somebody else's, and then for good; every other tick
puts the end of the lease off to its own instant and the lifetime, modulo 2 ^ 64, and so exactly where the sum
is less.  The lock can be released exactly if the lease is under the holder's name at that moment.  Once it
was released or dropped there is no lease under that name any more, whatever happens later, and ticks do
nothing. -/
theorem loss_is_noticed_for_good {a : Acquisition} {clock : Clock} {s t : Store} {g : Guard}
    {interval : Duration} (positive : 0 < interval.ms)
    (fresh : ∀ key lease, s.lease? key = some lease → lease.holder ≠ a.holder)
    (acquired : a.attempt clock s = (.held g, t)) {events : List Upkeep}
    (foreign : ∀ e ∈ events, e.Foreign g.holder) :
    let start := (Holding.new g interval clock, t)
    let holding := (runAll start events).1
    let store := (runAll start events).2
    holding.nextTick = some (clock.timer + (events.countP isTick + 1) * interval.ms) ∧
    (holding.guard.checkHeld = .error (.lockLost g.key) ↔ Noticed start events) ∧
    (holding.guard.checkHeld = .ok () ↔ ¬ Noticed start events) ∧
    (Noticed start events → ∀ later,
      (runAll start (events ++ later)).1.guard.checkHeld = .error (.lockLost g.key)) ∧
    (∀ now, ¬ Noticed start (events ++ [.tick now]) →
      ∃ lease, store.lease? g.key = some lease ∧ lease.holder = g.holder ∧
        (runAll start (events ++ [.tick now])).2 =
          store.setLease g.key { lease with expiresAt := Lease.expiry now a.options.leaseTtl }) ∧
    (∀ now, now + a.options.leaseTtl.ms < UInt64.size →
      Lease.expiry now a.options.leaseTtl = now + a.options.leaseTtl.ms) ∧
    ((holding.guard.release store).1 = .ok () ↔
      ∃ lease, store.lease? g.key = some lease ∧ lease.holder = g.holder) ∧
    (holding.guard.release store).2 = holding.guard.drop store ∧
    ∀ later : List Upkeep, (∀ e ∈ later, e.Foreign g.holder) →
      let left := (runAll (holding, holding.guard.drop store) later).2
      (∀ key lease, left.lease? key = some lease → lease.holder ≠ g.holder) ∧
      ∀ now, (runAll (holding, holding.guard.drop store) (later ++ [.tick now])).2 = left := by
  intro start holding store
  obtain ⟨rfl, only⟩ := a.leasesOnly_attempt fresh acquired
  have lost : ∀ es, (runAll start es).1.guard.lost = true ↔ Noticed start es :=
    lost_runAll (rfl : start.1.guard.lost = false)
  have verdict : ∀ es, (runAll start es).1.guard.checkHeld = .error (.lockLost a.guard.key) ↔
      Noticed start es := by
    intro es
    rw [← lost, ← Guard.checkHeld_eq_error_iff, (sameLock_runAll start es).key]
    exact Iff.rfl
  have same : a.guard.SameLock holding.guard := sameLock_runAll start events
  refine ⟨?_, verdict events, ?_, fun noticed later => ?_, fun now still => ?_,
    fun now fits => Lease.expiry_of_fits fits, ?_, rfl, ?_⟩
  · have first : start.1.nextTick = some (clock.timer + interval.ms) := if_neg (Nat.ne_of_gt positive)
    rw [(nextTick_runAll start events).2, first, Option.map_some, Nat.succ_mul, Nat.add_assoc,
      Nat.add_comm interval.ms]
    rfl
  · rw [← lost, Bool.not_eq_true]
    exact Guard.checkHeld_eq_ok_iff
  · exact (verdict _).2 (noticed.append later)
  · obtain ⟨unnoticed, there⟩ := not_or.1 (mt noticed_concat.2 still)
    have held : holding.guard.lost = false := Bool.eq_false_iff.2 (mt (lost events).1 unnoticed)
    rcases Guard.tick_of_held held now store with ⟨gone, -⟩ | ⟨-, lease, found, own, done⟩
    · exact absurd ⟨now, rfl, (same.gone now store).1 gone⟩ there
    · rw [same.key] at found done
      refine ⟨lease, found, own.trans same.holder, ?_⟩
      rw [runAll_concat]
      exact (congrArg Prod.snd done).trans (by rw [same.ttl]; rfl)
  · rw [Guard.release_eq_ok_iff, same.key, same.holder]
  · have kept : store.LeasesOnly holding.guard.holder (· = holding.guard.key) := by
      rw [same.key, same.holder]
      exact leasesOnly_runAll start foreign only
    intro later others left
    have nothing : left.LeasesOnly holding.guard.holder fun _ => False :=
      leasesOnly_runAll (holding, _) (same.holder ▸ others) (Guard.leasesOnly_drop kept)
    refine ⟨fun key lease found own => nothing key lease found (own.trans same.holder.symm), fun now => ?_⟩
    rw [runAll_concat]
    apply Guard.tick_of_nothing
    rw [(sameLock_runAll (holding, holding.guard.drop store) later).holder]
    exact nothing

/-- A lock with a lifetime of five milliseconds that is extended once, is taken away and taken over by
somebody else.  The loss is noticed at the second tick, the lock cannot be released, and dropping it leaves
the other's lease alone. -/
theorem takeover_is_noticed :
    let options : LockOptions := ⟨"lock:", ⟨5⟩, ⟨1⟩, ⟨1⟩, ⟨2⟩, ⟨10⟩⟩
    let a : Acquisition := .start options "net" "first" 0
    let t := (a.attempt ⟨0, 0, true⟩ .empty).2
    let takeover : List Upkeep := [.tick 1, .takeAway a.key, .act ⟨2, .acquire a.key "second" ⟨9⟩⟩]
    let after := runAll (.new a.guard ⟨1⟩ ⟨0, 0, true⟩, t) (takeover ++ [.tick 2])
    after.1.guard.checkHeld = .error (.lockLost a.key) ∧
      (after.1.guard.release after.2).1 ≠ .ok () ∧
      (after.1.guard.drop after.2).lease? a.key = some ⟨"second", 2, 11⟩ := by
  intro options a t takeover after
  have positive : 0 < (⟨1⟩ : Duration).ms := by decide
  have fresh : ∀ key lease, Store.empty.lease? key = some lease → lease.holder ≠ a.holder :=
    fun key lease found => absurd found (by simp [Store.lease?, Store.empty])
  have acquired : a.attempt ⟨0, 0, true⟩ .empty = (.held a.guard, t) := rfl
  have foreign : ∀ e ∈ takeover ++ [.tick 2], e.Foreign a.guard.holder := by
    simp [takeover, Foreign, LeaseAct.holder, a, Acquisition.guard, Acquisition.start]
  have other : ("second" : String) ≠ a.guard.holder := by decide
  have taken : (runAll (.new a.guard ⟨1⟩ ⟨0, 0, true⟩, t) takeover).2.lease? a.guard.key =
      some ⟨"second", 2, 11⟩ := by decide +kernel
  have still : after.2.lease? a.guard.key = some ⟨"second", 2, 11⟩ := by decide +kernel
  have dropped : (after.1.guard.drop after.2).lease? a.key = some ⟨"second", 2, 11⟩ := by decide +kernel
  obtain ⟨-, noticed, -, -, -, -, released, -⟩ := loss_is_noticed_for_good positive fresh acquired foreign
  have found_gone := noticed.2 ⟨takeover, 2, [], rfl, Guard.gone_of_other taken other⟩
  have run : after = runAll (.new a.guard ⟨1⟩ ⟨0, 0, true⟩, t) (takeover ++ [.tick 2]) := rfl
  clear_value after
  rw [← run] at found_gone released
  refine ⟨found_gone, fun ok => ?_, dropped⟩
  obtain ⟨lease, found, own⟩ := released.1 ok
  rw [still] at found
  obtain rfl := Option.some.inj found
  exact other own

/-- A lifetime of 2 ^ 64 milliseconds and an hour.  A tick that finds the lease in place leaves it to end an
hour later, as 64 bits hold no more of that instant. -/
theorem overlong_lifetime_is_cut_short :
    let options : LockOptions := ⟨"lock:", ⟨UInt64.size + 3600000⟩, ⟨1⟩, ⟨1⟩, ⟨2⟩, ⟨10⟩⟩
    let a : Acquisition := .start options "net" "first" 0
    let t := (a.attempt ⟨0, 0, true⟩ .empty).2
    let start := (Holding.new a.guard ⟨1⟩ ⟨0, 0, true⟩, t)
    (a.attempt ⟨0, 0, true⟩ .empty).1 = .held a.guard ∧
      ((runAll start [.tick 1]).1.guard.checkHeld = .ok () ∧
        (runAll start [.tick 1]).2.lease? a.key = some ⟨"first", 0, 3600001⟩) ∧
      3600001 ≠ 1 + options.leaseTtl.ms := by
  intro options a t start
  exact ⟨rfl, by decide +kernel, by decide⟩

end Upkeep

end Testbed
