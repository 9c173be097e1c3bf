import Testbed.Proofs.Lease
import Testbed.Proofs.Store
import Testbed.Session

/-!
What a session does while it pauses or waits for a lock.  Guards are extended and waits make their attempts,
so leases come and go; the stock of the store and the tokens that were drawn stay as they are.
-/

namespace Testbed

namespace Acquisition

/-- An attempt touches leases only. -/
theorem sameStock_attempt (a : Acquisition) (clock : Clock) (s : Store) :
    s.SameStock (a.attempt clock s).2 := by
  rcases a.attempt_cases clock s with ⟨-, done⟩ | ⟨-, ⟨error, -, done⟩ | ⟨next, ms, -, -, done⟩⟩
  · rw [done]
    exact .of_eq rfl rfl
  · rw [done]
    exact .refl s
  · rw [done]
    exact .refl s

/-- A guard that was just obtained has not lost its lock. -/
theorem lost_of_attempt {a : Acquisition} {clock : Clock} {s after : Store} {guard : Guard}
    (h : a.attempt clock s = (.held guard, after)) : guard.lost = false := by
  rcases a.attempt_cases clock s with ⟨-, done⟩ | ⟨-, ⟨error, -, done⟩ | ⟨next, ms, -, -, done⟩⟩
  · obtain rfl : a.guard = guard := Attempt.held.inj (Prod.mk.inj (done.symm.trans h)).1
    rfl
  · cases done.symm.trans h
  · cases done.symm.trans h

/-- An attempt that fails leaves the store as it is, and the wait goes on for the same lock. -/
theorem of_attempt_pause {a next : Acquisition} {clock : Clock} {s t : Store} {ms : Nat}
    (attempted : a.attempt clock s = (.pause next ms, t)) :
    s = t ∧ next.key = a.key ∧ next.holder = a.holder := by
  rcases a.attempt_cases clock s with ⟨-, done⟩ | ⟨-, ⟨error, -, done⟩ | ⟨next', ms', key, holder, done⟩⟩
  · cases done.symm.trans attempted
  · cases done.symm.trans attempted
  · obtain ⟨same, rfl⟩ := Prod.mk.inj (done.symm.trans attempted)
    obtain ⟨rfl, -⟩ := Attempt.pause.inj same
    exact ⟨rfl, key, holder⟩

end Acquisition

namespace Guard

/-- A tick of a guard leaves sets and counters. -/
theorem sameStock_tick (g : Guard) (now : Nat) (s : Store) : s.SameStock (g.tick now s).2 := by
  rw [tick]
  split
  · exact .refl s
  · exact s.sameStock_extendLease _ _ _ _

/-- Dropping a guard leaves sets and counters. -/
theorem sameStock_drop (g : Guard) (s : Store) : s.SameStock (g.drop s) := s.sameStock_releaseLease _ _

end Guard

namespace Session

/-- Time has passed for a session: its stock and its tokens are as before. -/
structure Passes (s t : Session) : Prop where
  stock : s.store.SameStock t.store
  tokens : t.tokens = s.tokens

namespace Passes

variable {s t u : Session}

theorem refl (s : Session) : Passes s s := ⟨.refl _, rfl⟩

/-- What passes after what has passed has passed since the beginning. -/
theorem trans (one : Passes s t) (two : Passes t u) : Passes s u :=
  ⟨one.stock.trans two.stock, two.tokens.trans one.tokens⟩

end Passes

/-- Whatever is due in a session leaves the stock and lets time pass. -/
theorem passes_handle (s : Session) (event : SessionEvent) : Passes s (s.handle event) := by
  cases event with
  | tick slot =>
      simp only [handle]
      split
      · next holding _ => exact ⟨holding.guard.sameStock_tick _ _, rfl⟩
      · exact .refl s
  | tickPending slot =>
      simp only [handle]
      split
      · next holding _ => exact ⟨holding.guard.sameStock_tick _ _, rfl⟩
      · exact .refl s
  | wake slot =>
      simp only [handle]
      split
      · next acquisition signal wakeAt _ =>
          split
          · exact ⟨.refl _, rfl⟩
          · exact ⟨acquisition.sameStock_attempt _ _, rfl⟩
      · exact .refl s

/-- All that is due in a session leaves the stock and lets time pass. -/
theorem passes_runSteps (instant fuel : Nat) (s : Session) : Passes s (runSteps instant fuel s) := by
  induction fuel generalizing s with
  | zero => exact .refl s
  | succ fuel ih =>
      rw [runSteps]
      split
      · next due event _ =>
          split
          · have advanced : Passes s { s with clock := s.clock.advanceTo due } := ⟨.refl _, rfl⟩
            exact (advanced.trans (passes_handle _ event)).trans (ih _)
          · exact .refl s
      · exact .refl s

/-- Waiting for an instant leaves the stock and lets time pass. -/
theorem passes_pauseUntil (s : Session) (instant : Nat) : Passes s (s.pauseUntil instant) :=
  let steps := passes_runSteps instant _ s
  ⟨steps.stock, steps.tokens⟩

/-- A pause leaves the stock and lets time pass. -/
theorem passes_pause (s : Session) (ms : Nat) : Passes s (s.pause ms) := s.passes_pauseUntil _

/-- Waiting for a lock only takes time, and a lock that is obtained is not lost yet. -/
theorem waitForLock_passes (signal : Signal) (a : Acquisition) (s : Session) :
    Passes s (waitForLock signal a s).2 ∧
      ∀ guard, (waitForLock signal a s).1 = .ok guard → guard.lost = false := by
  have attempted : ∀ {a : Acquisition} {s : Session} {outcome : Attempt} {store : Store},
      a.attempt s.clock s.store = (outcome, store) → Passes s { s with store } := by
    intro a s outcome store h
    have := a.sameStock_attempt s.clock s.store
    rw [h] at this
    exact ⟨this, rfl⟩
  fun_induction waitForLock signal a s with
  | case1 a s guard store h =>
      refine ⟨attempted h, fun g hg => ?_⟩
      obtain rfl : guard = g := by simpa using hg
      exact Acquisition.lost_of_attempt h
  | case2 a s error store h => exact ⟨attempted h, fun g hg => by cases hg⟩
  | case3 a s next ms store h t instant hi =>
      exact ⟨(attempted h).trans (passes_pauseUntil _ _), fun g hg => by cases hg⟩
  | case4 a s next ms store h t hi ih =>
      exact ⟨((attempted h).trans (passes_pause _ _)).trans ih.1, ih.2⟩

/-- A lock that was obtained is leased to the guard, under the key and the holder of the wait. -/
theorem waitForLock_leased {signal : Signal} {a : Acquisition} {s t : Session} {guard : Guard}
    (obtained : waitForLock signal a s = (.ok guard, t)) :
    guard.key = a.key ∧ guard.holder = a.holder ∧
      ∃ lease, t.store.lease? guard.key = some lease ∧ lease.holder = guard.holder := by
  fun_induction waitForLock signal a s with
  | case1 a s guard' store attempted =>
      obtain ⟨rfl, rfl⟩ : guard' = guard ∧ { s with store } = t := by simpa using obtained
      rcases a.attempt_cases s.clock s.store with
        ⟨-, done⟩ | ⟨-, ⟨error, -, done⟩ | ⟨next, ms, -, -, done⟩⟩
      · obtain ⟨same, rfl⟩ := Prod.mk.inj (done.symm.trans attempted)
        obtain rfl := Attempt.held.inj same
        refine ⟨rfl, rfl, .starting s.clock.wall a.holder a.options.leaseTtl, ?_, rfl⟩
        exact (s.store.lease?_setLease a.key a.key _).trans (if_pos rfl)
      · cases done.symm.trans attempted
      · cases done.symm.trans attempted
  | case2 a s error store attempted => cases obtained
  | case3 a s next ms store attempted u instant interrupted => cases obtained
  | case4 a s next ms store attempted u uninterrupted ih =>
      obtain ⟨-, key, holder⟩ := Acquisition.of_attempt_pause attempted
      rw [← key, ← holder]
      exact ih obtained

end Session

end Testbed
