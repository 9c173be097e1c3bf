import Testbed.Deployment.Backend
import Testbed.Table

/-!
A backend that only remembers.  A resource is ready once it has been observed often enough.  Calls can be
made to fail: all creations after some, and the next few observations and deletions.
-/

namespace Testbed

/-- The state of a remembering backend. -/
structure Memory where
  /-- At which observation a resource is ready, if ever. -/
  readyAfter : Option Nat
  /-- How often each resource that is kept was observed. -/
  observations : Table Nat
  /-- How many creations succeed before all fail, if they ever do. -/
  createsLeft : Option Nat
  /-- How many of the next observations fail. -/
  failingObserves : Nat
  /-- How many of the next deletions fail. -/
  failingDeletes : Nat
  /-- The deleted resources, in order. -/
  deleted : List String
deriving Repr, DecidableEq

namespace Memory

/-- A backend that keeps nothing. -/
def new (readyAfter : Option Nat) : Memory := ⟨readyAfter, .empty, none, 0, 0, []⟩

/-- Whether a resource is kept. -/
def contains (m : Memory) (id : String) : Bool := m.observations.contains id

/-- How many resources are kept. -/
def live (m : Memory) : Nat := m.observations.size

/-- Lose a resource. -/
def forget (m : Memory) (id : String) : Memory := { m with observations := m.observations.erase id }

/-- An error that was asked for. -/
def injected (call name : String) : DeployError := .backend s!"injected {call} failure for {name}"

def create (r : Resource) (m : Memory) : Except DeployError Unit × Memory :=
  let keep (m : Memory) : Memory := { m with observations := m.observations.insert r.id 0 }
  match m.createsLeft with
  | some 0 => (.error (injected "create" r.name), m)
  | some (left + 1) => (.ok (), keep { m with createsLeft := some left })
  | none => (.ok (), keep m)

def observe (r : Resource) (m : Memory) : Except DeployError Observation × Memory :=
  match m.failingObserves with
  | left + 1 => (.error (injected "observe" r.name), { m with failingObserves := left })
  | 0 =>
    match m.observations.get? r.id with
    | none => (.error (.notFound r.id), m)
    | some seen =>
      let isReady := match m.readyAfter with
        | some after => decide (after ≤ seen + 1)
        | none => false
      (.ok ⟨isReady, isReady, some s!"mem-{r.id}"⟩,
        { m with observations := m.observations.insert r.id (seen + 1) })

def delete (r : Resource) (m : Memory) : Except DeployError Unit × Memory :=
  match m.failingDeletes with
  | left + 1 => (.error (injected "delete" r.name), { m with failingDeletes := left })
  | 0 =>
    if m.contains r.id then (.ok (), { m.forget r.id with deleted := m.deleted ++ [r.id] })
    else (.error (.notFound r.id), m)

/-- The remembering backend. -/
def backend : Backend Memory := ⟨create, observe, delete⟩

end Memory

end Testbed
