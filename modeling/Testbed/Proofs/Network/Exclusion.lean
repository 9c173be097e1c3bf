import Testbed.Proofs.Identity
import Testbed.Proofs.Network.Contention

/-!
Locks of pools while no lease runs out.

A call waits for its lock under a token of its own.  As long as the lease of a call that has the lock does
not run out, and nobody from outside takes it away, the lease stays where it is: the other calls are
refused, and the call itself only puts off its end.  So at any time at most one call has the lock of a pool,
and none of them ever learns that it was lost.
-/

namespace Testbed

/-- The guard has not lost its lock as far as it knows, and the lease is indeed its own. -/
structure Guard.Held (g : Guard) (s : Store) : Prop where
  kept : g.lost = false
  leased : ∃ lease, s.lease? g.key = some lease ∧ lease.holder = g.holder

namespace CallStage

/-- A call deals with the lock of this key, under this holder's name. -/
def Named (key holder : String) : CallStage → Prop
  | .waiting a => a.key = key ∧ a.holder = holder
  | .reserving stage => ∀ guard, stage.guard? = some guard → guard.key = key ∧ guard.holder = holder
  | .returned _ => True

/-- The guard of a call is that of its own key and holder. -/
theorem Named.guard {stage : CallStage} {key holder : String} (h : stage.Named key holder)
    {guard : Guard} (held : stage.guard? = some guard) : guard.key = key ∧ guard.holder = holder := by
  cases stage with
  | waiting a => cases held
  | reserving stage => exact h guard held
  | returned n => cases held

namespace Acted

variable {padding : Nat} {clock : Clock} {r : SubnetRequest} {s t : Store} {act : CallAct}
  {before after : CallStage} {key holder : String}

/-- A call keeps to its lock and its name. -/
theorem named (h : Acted padding clock r s act before after t) (named : before.Named key holder) :
    after.Named key holder := by
  cases h with
  | idle quiet => exact named
  | refused sameKey sameHolder => exact ⟨sameKey.trans named.1, sameHolder.trans named.2⟩
  | @acquired a free =>
      intro guard held
      obtain rfl : a.guard = guard := Option.some.inj held
      exact named
  | extended held found own => exact named
  | @lost stage guard held gone =>
      intro guard' held'
      rw [ReservationStage.guard?_setGuard, held] at held'
      obtain rfl := Option.some.inj held'
      exact named guard held
  | gaveUp waited =>
      intro guard held
      cases held
  | released =>
      intro guard held
      cases held
  | chosen found => exact named
  | unchosen failed => exact named
  | confirmed kept => exact named
  | unconfirmed lost => exact named
  | added new => exact named
  | taken old => exact named
  | freed => trivial

/-- A call touches no lease of another holder that has not run out. -/
theorem lease?_of_other (h : Acted padding clock r s act before after t)
    (named : before.Named key holder) {other : String} {lease : Lease}
    (found : s.lease? other = some lease) (foreign : lease.holder ≠ holder)
    (running : lease.isExpired clock.wall = false) : t.lease? other = some lease := by
  cases h with
  | @acquired a free =>
      have elsewhere : a.key ≠ other := by
        rintro rfl
        exact foreign ((free lease found running).trans named.2)
      rw [Store.lease?_setLease, if_neg elsewhere]
      exact found
  | @extended stage guard lease' held found' own =>
      have elsewhere : guard.key ≠ other := by
        rintro rfl
        rw [found] at found'
        obtain rfl := Option.some.inj found'
        exact foreign (own.trans (named guard held).2)
      rw [Store.lease?_setLease, if_neg elsewhere]
      exact found
  | @released guard result =>
      apply Guard.lease?_drop found
      rw [(named guard rfl).2]
      exact foreign
  | @freed n =>
      rw [Store.lease?, Network.leases_giveBack]
      exact found
  | idle quiet => exact found
  | refused sameKey sameHolder => exact found
  | gaveUp waited => exact found
  | lost held gone => exact found
  | chosen read => exact found
  | unchosen failed => exact found
  | confirmed kept => exact found
  | unconfirmed lost => exact found
  | added new => exact found
  | taken old => exact found

/-- A call that has the lock keeps it up to its release, if the lease has not run out. -/
theorem held (h : Acted padding clock r s act before after t)
    (held : ∀ guard, before.guard? = some guard → guard.Held s)
    (running : ∀ guard lease, before.guard? = some guard → s.lease? guard.key = some lease →
      lease.holder = guard.holder → lease.isExpired clock.wall = false) :
    ∀ guard, after.guard? = some guard → guard.Held t := by
  cases h with
  | @acquired a free =>
      rintro _ ⟨⟩
      refine ⟨rfl, .starting clock.wall a.holder a.options.leaseTtl, ?_, rfl⟩
      exact (s.lease?_setLease a.key a.key _).trans (if_pos rfl)
  | @extended stage guard lease mine found own =>
      intro guard' mine'
      obtain rfl : guard = guard' := Option.some.inj (mine.symm.trans mine')
      refine ⟨(held guard mine).kept, { lease with expiresAt := Lease.expiry clock.wall guard.ttl }, ?_, own⟩
      rw [Store.lease?_setLease, if_pos rfl]
  | @lost stage guard mine gone =>
      -- The extension of a lease that is there and runs does not fail.
      obtain ⟨lease, found, own⟩ := (held guard mine).leased
      have expired := gone lease found own
      rw [running guard lease mine found own] at expired
      cases expired
  | @added guard n new => exact fun guard mine => ⟨(held guard mine).kept, (held guard mine).leased⟩
  | @taken guard n old => exact fun guard mine => ⟨(held guard mine).kept, (held guard mine).leased⟩
  | gaveUp waited =>
      intro guard mine
      cases mine
  | refused sameKey sameHolder =>
      intro guard mine
      cases mine
  | released =>
      intro guard mine
      cases mine
  | freed =>
      intro guard mine
      cases mine
  | idle quiet => exact held
  | chosen found => exact held
  | unchosen failed => exact held
  | confirmed kept => exact held
  | unconfirmed lost => exact held

end Acted

end CallStage

namespace Contention

/-- No lease of a call that has the lock has run out. -/
def Running (c : Contention) : Prop :=
  ∀ call ∈ c.calls, ∀ guard ∈ call.stage.guard?, ∀ lease ∈ c.store.lease? guard.key,
    lease.holder = guard.holder → lease.isExpired c.clock.wall = false

instance (c : Contention) : Decidable c.Running :=
  inferInstanceAs (Decidable (∀ call ∈ c.calls, ∀ guard ∈ call.stage.guard?,
    ∀ lease ∈ c.store.lease? guard.key, lease.holder = guard.holder →
      lease.isExpired c.clock.wall = false))

/-- Strangers leave the leases of calls that have a lock alone. -/
def Move.Spares (c : Contention) : Move → Prop
  | .disturb leases =>
    ∀ call ∈ c.calls, ∀ guard ∈ call.stage.guard?, leases.get? guard.key = c.store.lease? guard.key
  | _ => True

instance (c : Contention) (m : Move) : Decidable (m.Spares c) :=
  match m with
  | .disturb leases => inferInstanceAs (Decidable (∀ call ∈ c.calls, ∀ guard ∈ call.stage.guard?,
      leases.get? guard.key = c.store.lease? guard.key))
  | .call _ | .act .. | .elapse _ => isTrue trivial

variable {options : LockOptions} {padding : Nat} {c : Contention}

/-- Every call deals with the lock of its pool under its own token, and whoever has a lock holds it. -/
structure Guarded (options : LockOptions) (c : Contention) : Prop where
  named : ∀ {index : Nat} {call : SubnetCall}, c.calls[index]? = some call →
    call.stage.Named (options.keyLead ++ call.request.pool.lockName) (token (index + 1))
  held : ∀ {index : Nat} {call : SubnetCall}, c.calls[index]? = some call →
    ∀ guard, call.stage.guard? = some guard → guard.Held c.store

namespace Guarded

/-- At most one call has the lock of a pool. -/
theorem exclusive (h : c.Guarded options) {i j : Nat} {a b : SubnetCall} {ga gb : Guard}
    (first : c.calls[i]? = some a) (second : c.calls[j]? = some b) (mine : a.stage.guard? = some ga)
    (other : b.stage.guard? = some gb) (samePool : a.request.pool = b.request.pool) : i = j := by
  obtain ⟨keyA, holderA⟩ := (h.named first).guard mine
  obtain ⟨keyB, holderB⟩ := (h.named second).guard other
  obtain ⟨lease, found, ownA⟩ := (h.held first ga mine).leased
  obtain ⟨lease', found', ownB⟩ := (h.held second gb other).leased
  -- There is one lease on the key of the pool, and it has one holder.
  rw [keyA, samePool, ← keyB, found'] at found
  obtain rfl := Option.some.inj found
  have sameToken : token (i + 1) = token (j + 1) := by rw [← holderA, ← ownA, ownB, holderB]
  exact Nat.succ.inj (token_injective sameToken)

/-- As long as no lease has run out, an act of a call leaves the whole contention guarded. -/
theorem act (h : c.Guarded options) (running : c.Running) {index : Nat} {call : SubnetCall}
    {what : CallAct} {stage : CallStage} {store : Store} (found : c.calls[index]? = some call)
    (acted : CallStage.Acted padding c.clock call.request c.store what call.stage stage store) :
    Guarded options { c with store, calls := c.calls.set index { call with stage } } := by
  have runs : ∀ {i : Nat} {d : SubnetCall}, c.calls[i]? = some d → ∀ guard lease,
      d.stage.guard? = some guard → c.store.lease? guard.key = some lease →
        lease.holder = guard.holder → lease.isExpired c.clock.wall = false :=
    fun there guard lease mine leased own => running _ (List.mem_of_getElem? there) guard mine lease leased own
  constructor
  · intro i d there
    rcases lookup_set there with ⟨rfl, rfl⟩ | ⟨-, before⟩
    · exact acted.named (h.named found)
    · exact h.named before
  · intro i d there guard mine
    rcases lookup_set there with ⟨rfl, rfl⟩ | ⟨other, before⟩
    · exact acted.held (h.held found) (runs found) guard mine
    · -- The lease of the other call is under another token, and it has not run out.
      obtain ⟨kept, lease, leased, own⟩ := h.held before guard mine
      refine ⟨kept, lease, ?_, own⟩
      apply acted.lease?_of_other (h.named found) leased
      · rw [own, ((h.named before).guard mine).2]
        exact fun same => other (Nat.succ.inj (token_injective same))
      · exact runs before guard lease mine leased own

/-- A move keeps the locks with their holders, if no lease has run out and strangers keep away. -/
theorem move (h : c.Guarded options) (running : c.Running) {m : Move} (spares : m.Spares c) :
    (c.move options padding m).Guarded options := by
  cases m with
  | call request =>
      constructor
      · intro i d there
        rcases lookup_append there with ⟨rfl, rfl⟩ | before
        · exact ⟨rfl, rfl⟩
        · exact h.named before
      · intro i d there guard mine
        rcases lookup_append there with ⟨rfl, rfl⟩ | before
        · cases mine
        · exact h.held before guard mine
  | act index what =>
      rcases c.move_act_cases options padding index what with
        ⟨-, still⟩ | ⟨call, stage, store, found, acted, moved⟩
      · rw [still]
        exact h
      · rw [moved]
        exact h.act running found acted
  | elapse clock => exact ⟨h.named, h.held⟩
  | disturb leases =>
      refine ⟨h.named, ?_⟩
      intro i d there guard mine
      obtain ⟨kept, lease, leased, own⟩ := h.held there guard mine
      refine ⟨kept, lease, ?_, own⟩
      exact (spares d (List.mem_of_getElem? there) guard mine).trans leased

/-- A contention in which nobody has called is guarded. -/
theorem start (clock : Clock) (store : Store) : (Contention.start clock store).Guarded options := by
  constructor
  · intro index call found
    cases found
  · intro index call found
    cases found

end Guarded

end Contention

end Testbed
