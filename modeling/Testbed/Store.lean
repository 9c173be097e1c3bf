import Testbed.Document.Record
import Testbed.Store.Counters
import Testbed.Store.Lease
import Testbed.Store.Members

/-!
The store that all users of an installation share: texts, sets, counters and leases, each by key.  Every
operation is one step, during which nobody else touches the store, and changes one of the four parts.
-/

namespace Testbed

/-- The contents of the shared store. -/
structure Store where
  texts : Table String
  /-- The sets that have a member. -/
  sets : Table Members
  counters : Counters
  leases : Leases
deriving Repr, DecidableEq

namespace Store

/-- A store without contents. -/
def empty : Store := ⟨.empty, .empty, .empty, .empty⟩

instance : Inhabited Store := ⟨empty⟩

/-! ### Texts -/

/-- The text under a key. -/
def get? (s : Store) (key : String) : Option String := s.texts.get? key

/-- Put a text under a key. -/
def put (s : Store) (key value : String) : Store := { s with texts := s.texts.insert key value }

/-- Remove the text under a key; also whether there was one. -/
def delete (s : Store) (key : String) : Bool × Store :=
  (s.texts.contains key, { s with texts := s.texts.erase key })

/-! ### Sets -/

/-- The set under a key. -/
def membersAt (s : Store) (key : String) : Members := (s.sets.get? key).getD .empty

/-- The members of the set under a key, in ascending order. -/
def members (s : Store) (key : String) : List String := (s.membersAt key).toList

/-- Replace the set under a key; a set without members is not kept. -/
def setMembers (s : Store) (key : String) (members : Members) : Store :=
  { s with sets := s.sets.set key (if members.isEmpty then none else some members) }

/-- Add members to the set under a key; also how many of them were new. -/
def addMembers (s : Store) (key : String) (members : List String) : Nat × Store :=
  let (added, after) := (s.membersAt key).addAll members
  (added, s.setMembers key after)

/-- Remove members from the set under a key; also how many of them were there. -/
def removeMembers (s : Store) (key : String) (members : List String) : Nat × Store :=
  let (removed, after) := (s.membersAt key).removeAll members
  (removed, s.setMembers key after)

/-! ### Counters -/

/-- What a counter holds, if it exists. -/
def counter? (s : Store) (key : String) : Option Int := s.counters.value? key

/-- Create a counter, unless it exists; also whether it was created. -/
def initCounter (s : Store) (key : String) (value : Int) : Bool × Store :=
  if s.counters.contains key then (false, s)
  else (true, { s with counters := s.counters.put key value })

/-- Take every amount from its counter, or none; then also the position of the first request that cannot
be met. -/
def reserveCounters (s : Store) (requests : List (String × Int)) : Option Nat × Store :=
  match s.counters.take requests with
  | .ok counters => (none, { s with counters })
  | .error index => (some index, s)

/-- Add every amount to its counter. -/
def incrementCounters (s : Store) (requests : List (String × Int)) : Store :=
  { s with counters := s.counters.giveBack requests }

/-! ### Leases -/

/-- The lease on a key. -/
def lease? (s : Store) (key : String) : Option Lease := s.leases.get? key

/-- Take the lease on a key, unless somebody else has it. -/
def acquireLease (s : Store) (now : Nat) (key holder : String) (ttl : Duration) : Bool × Store :=
  let (acquired, leases) := s.leases.acquire now key holder ttl
  (acquired, { s with leases })

/-- Put off the end of a lease that its holder still has. -/
def extendLease (s : Store) (now : Nat) (key holder : String) (ttl : Duration) : Bool × Store :=
  let (extended, leases) := s.leases.extend now key holder ttl
  (extended, { s with leases })

/-- Give a lease back. -/
def releaseLease (s : Store) (key holder : String) : Bool × Store :=
  let (released, leases) := s.leases.release key holder
  (released, { s with leases })

end Store

end Testbed
