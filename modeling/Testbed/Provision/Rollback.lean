import Testbed.Provision.Error

/-!
Undoing what a failed attempt has acquired.  Each acquisition registers a compensation; on failure they
all run, newest first, and a compensation that fails does not keep the others from running.
-/

namespace Testbed

/-- An action on a state that may fail. -/
abbrev Action (σ : Type) := σ → Except ProvisionError Unit × σ

/-- The compensations that an attempt has registered. -/
structure Rollback (σ : Type) where
  /-- Names and actions, newest first. -/
  steps : List (String × Action σ)

namespace Rollback

variable {σ : Type}

/-- Nothing to undo. -/
def empty : Rollback σ := ⟨[]⟩

/-- Register a compensation. -/
def register (r : Rollback σ) (name : String) (action : Action σ) : Rollback σ :=
  ⟨(name, action) :: r.steps⟩

/-- Number of compensations. -/
def size (r : Rollback σ) : Nat := r.steps.length

/-- Whether there is nothing to undo. -/
def isEmpty (r : Rollback σ) : Bool := r.steps.isEmpty

/-- Run actions one after the other, whatever they return; the failures, in order. -/
def runAll : List (String × Action σ) → σ → List ProvisionError × σ
  | [], s => ([], s)
  | (_, action) :: rest, s =>
    let (result, s) := action s
    let (failures, s) := runAll rest s
    match result with
    | .ok () => (failures, s)
    | .error e => (e :: failures, s)

/-- Run all compensations because of an error. -/
def run (r : Rollback σ) (primary : ProvisionError) (s : σ) : ProvisionError × σ :=
  let (failures, s) := runAll r.steps s
  (primary.withCleanup failures, s)

end Rollback

end Testbed
