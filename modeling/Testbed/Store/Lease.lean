import Testbed.Duration
import Testbed.Table

/-!
Leases: claims on a key that end by themselves.  A lease that has not run out keeps everybody but its
holder from the key.  Instants are milliseconds on the clock that all users of the store share; the end of a
lease is recorded in 64 bits.
-/

namespace Testbed

/-- A claim on a key for some time. -/
structure Lease where
  holder : String
  acquiredAt : Nat
  expiresAt : Nat
deriving Repr, Inhabited, DecidableEq

namespace Lease

/-- The end of a lease that is to last for a while from now on, as 64 bits hold it. -/
def expiry (now : Nat) (ttl : Duration) : Nat := (now + ttl.ms) % UInt64.size

/-- An end that 64 bits hold is recorded as it is. -/
theorem expiry_of_fits {now : Nat} {ttl : Duration} (fits : now + ttl.ms < UInt64.size) :
    expiry now ttl = now + ttl.ms := Nat.mod_eq_of_lt fits

/-- A lease that begins now. -/
def starting (now : Nat) (holder : String) (ttl : Duration) : Lease := ⟨holder, now, expiry now ttl⟩

/-- Whether a lease has run out; it has at the very instant of its end. -/
def isExpired (l : Lease) (now : Nat) : Bool := l.expiresAt ≤ now

/-- For how long a lease was given, from its beginning to its end. -/
def span (l : Lease) : Duration := ⟨l.expiresAt - l.acquiredAt⟩

end Lease

/-- Leases by key. -/
abbrev Leases := Table Lease

namespace Leases

/-- Whether somebody other than the given holder has the key now. -/
def isTaken (ls : Leases) (now : Nat) (key holder : String) : Bool :=
  match ls.get? key with
  | some lease => !lease.isExpired now && lease.holder ≠ holder
  | none => false

/-- Take a key, unless somebody else has it.  A holder who has it already begins anew. -/
def acquire (ls : Leases) (now : Nat) (key holder : String) (ttl : Duration) : Bool × Leases :=
  if ls.isTaken now key holder then (false, ls)
  else (true, ls.insert key (.starting now holder ttl))

/-- Put off the end of a lease that has not run out.  Fails when the key is not the holder's any more. -/
def extend (ls : Leases) (now : Nat) (key holder : String) (ttl : Duration) : Bool × Leases :=
  match ls.get? key with
  | some lease =>
    if lease.holder = holder ∧ ¬ lease.isExpired now then
      (true, ls.insert key { lease with expiresAt := Lease.expiry now ttl })
    else (false, ls)
  | none => (false, ls)

/-- Give a key back.  Fails when the lease is not the holder's; whether it has run out does not matter. -/
def release (ls : Leases) (key holder : String) : Bool × Leases :=
  match ls.get? key with
  | some lease => if lease.holder = holder then (true, ls.erase key) else (false, ls)
  | none => (false, ls)

end Leases

end Testbed
