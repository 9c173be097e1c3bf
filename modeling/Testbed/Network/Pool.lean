import Testbed.Network.Allocation
import Testbed.Session

/-!
Pools of subnets.  The subnets of a pool that are in use are a set in the store.  Whoever reserves one
holds the pool's lock from reading that set to adding to it.

A reservation is a sequence of stages, each of them one step on the store, so that the steps of several
users can be mixed: choose a subnet, confirm that the lock is still held, add the subnet, give the lock
back.  Only the third changes the set.  Adding finds out whether the subnet was still free, so even
without the lock no subnet is given to two users.
-/

namespace Testbed

/-- A pool of subnets on a target. -/
structure Pool where
  target : Target
  name : String
deriving Repr, Inhabited, DecidableEq

namespace Pool

/-- The name of the lock of a pool. -/
def lockName (p : Pool) : String := s!"network_manager_lock:{p.target.name}:{p.name}"

/-- The key of the set of subnets in use. -/
def setKey (p : Pool) : String := s!"reserved_networks:{p.target.name}:{p.name}"

/-- The pool that an identifier names. -/
def ofIdentifier (i : Identifier) : Pool := ⟨i.target, i.name⟩

/-- The subnets of a pool that are in use, in the order of their texts. -/
def reserved (p : Pool) (s : Store) : List String := s.members p.setKey

end Pool

/-- The pool that a network comes from. -/
def Network.pool (n : Network) : Pool := .ofIdentifier n.identifier

/-- What is asked of a pool: a subnet of a given length in a base block, and addresses in it. -/
structure SubnetRequest where
  /-- Names the pool, and the network that comes out of it. -/
  identifier : Identifier
  base : String
  length : Nat
  count : Nat
deriving Repr, Inhabited, DecidableEq

namespace SubnetRequest

/-- The pool that is asked. -/
def pool (r : SubnetRequest) : Pool := .ofIdentifier r.identifier

/-- How many addresses whoever asks for none gets. -/
def defaultCount : Nat := 3

/-- How many addresses are handed out. -/
def addressCount (r : SubnetRequest) : Nat := if r.count = 0 then defaultCount else r.count

/-- Choose a subnet when some are in use. -/
def choose (r : SubnetRequest) (padding : Nat) (inUse : List String) :
    Except NetworkError Network := do
  let choice ← Allocation.nextSubnet padding r.base r.length inUse r.addressCount
  pure { identifier := r.identifier, cidr := choice.subnet.text, ips := choice.addresses }

end SubnetRequest

/-- How far a reservation has come, once it holds the lock. -/
inductive ReservationStage where
  /-- Next a subnet is chosen. -/
  | choosing (guard : Guard)
  /-- Next the lock is checked. -/
  | confirming (guard : Guard) (network : Network)
  /-- Next the subnet is added to those in use. -/
  | adding (guard : Guard) (network : Network)
  /-- Next the lock is given back. -/
  | releasing (guard : Guard) (result : Except NetworkError Network)
  | finished (result : Except NetworkError Network)
deriving Inhabited

namespace ReservationStage

/-- How many steps are left at most. -/
def remaining : ReservationStage → Nat
  | .choosing _ => 4
  | .confirming .. => 3
  | .adding .. => 2
  | .releasing .. => 1
  | .finished _ => 0

/-- The next step of a reservation.  Whatever becomes of giving the lock back, the result stands. -/
def step (padding : Nat) (r : SubnetRequest) (s : Store) :
    ReservationStage → ReservationStage × Store
  | .choosing guard =>
    match r.choose padding (r.pool.reserved s) with
    | .ok network => (.confirming guard network, s)
    | .error error => (.releasing guard (.error error), s)
  | .confirming guard network =>
    match guard.checkHeld with
    | .ok () => (.adding guard network, s)
    | .error error => (.releasing guard (.error (.store error)), s)
  | .adding guard network =>
    let (added, s) := s.addMembers r.pool.setKey [network.cidr]
    (.releasing guard
      (if added = 0 then .error (.alreadyReserved network.cidr) else .ok network), s)
  | .releasing guard result => (.finished result, guard.drop s)
  | .finished result => (.finished result, s)

/-- What a reservation has come to, once it is finished. -/
def result? : ReservationStage → Option (Except NetworkError Network)
  | .finished result => some result
  | _ => none

/-- Every step that does not end a reservation brings it closer to its end. -/
theorem remaining_step {stage : ReservationStage} (h : stage.result? = none) (padding : Nat)
    (r : SubnetRequest) (s : Store) : (stage.step padding r s).1.remaining < stage.remaining := by
  cases stage <;> simp only [step] <;> (try split) <;> simp_all [remaining, result?]

/-- Take all the steps that are left, with nobody else in between. -/
def run (padding : Nat) (r : SubnetRequest) (s : Store) (stage : ReservationStage) :
    Except NetworkError Network × Store :=
  match _h : stage.result? with
  | some result => (result, s)
  | none => run padding r (stage.step padding r s).2 (stage.step padding r s).1
termination_by stage.remaining
decreasing_by exact remaining_step _h padding r s

end ReservationStage

namespace Session

/-- Reserve the lowest free subnet of a pool. -/
def reserveNetwork (options : LockOptions) (padding : Nat) (r : SubnetRequest) (signal : Signal)
    (s : Session) : Except NetworkError Network × Session :=
  match s.acquire options r.pool.lockName signal with
  | (.ok guard, s) =>
    let (result, store) := ReservationStage.run padding r s.store (.choosing guard)
    (result, { s with store })
  | (.error error, s) => (.error (.store error), s)

end Session

namespace Network

/-- Take a network's subnet out of those in use; a network without a subnet has nothing to give back. -/
def giveBack (n : Network) (s : Store) : Store :=
  if n.cidr.isEmpty then s else (s.removeMembers n.pool.setKey [n.cidr]).2

/-- Give several networks back. -/
def giveBackAll (networks : List Network) (s : Store) : Store :=
  networks.foldl (fun s network => network.giveBack s) s

end Network

end Testbed
