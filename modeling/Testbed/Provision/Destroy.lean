import Testbed.Provision.Error
import Testbed.Session
import Testbed.Deployment.Readiness

/-!
The world that a provisioner acts on, and taking a deployment down in it.

Asking a backend to delete machines is not enough: a deployment is polled until every resource is gone,
and only then may what the machines used be given to somebody else.
-/

namespace Testbed

/-- What a provisioner acts on: its session with the shared store, and the machines, with states in
`σ`. -/
structure World (σ : Type) where
  session : Session
  machines : σ

namespace World

variable {σ : Type}

/-- The store. -/
def store (w : World σ) : Store := w.session.store

/-- Change the store. -/
def setStore (w : World σ) (store : Store) : World σ := { w with session := { w.session with store } }

/-- The time. -/
def clock (w : World σ) : Clock := w.session.clock

/-- Pause for some time. -/
def pause (w : World σ) (ms : Nat) : World σ := { w with session := w.session.pause ms }

/-- Pause until an instant of the timer. -/
def pauseUntil (w : World σ) (instant : Nat) : World σ :=
  { w with session := w.session.pauseUntil instant }

end World

namespace Destroying

variable {σ : Type}

/-- How many polls a wait with a deadline has at most. -/
def maxRounds (deadline : Duration) : Nat := deadline.ms * Clock.roundsPerMs

/-- Before its deadline a wait has not made all the rounds it may make. -/
theorem rounds_lt {clock : Clock} {deadline : Duration} {startedAt rounds : Nat}
    (h : ¬ deadline ≤ clock.waited startedAt rounds) : rounds < maxRounds deadline := by
  have h' : ¬ deadline.ms ≤ (clock.waited startedAt rounds).ms := h
  simp only [Clock.waited, maxRounds, Clock.roundsPerMs] at h' ⊢
  omega

/-- Poll a deployment until every resource is gone. -/
def confirm (svc : DeploymentService σ) (o : WaitOptions) (signal : Signal) (startedAt rounds : Nat)
    (d : Deployment) (w : World σ) : Except DeployError Unit × Deployment × World σ :=
  if d.isDestroyed then (.ok (), d, w)
  else
    let waited := w.clock.waited startedAt rounds
    if _h : o.deadline ≤ waited then (.error (.timeout waited), d, w)
    else
      match signal.interrupts (w.clock.timer + max 1 o.pollInterval.ms) with
      | some instant => (.error (.cancelled "destroy confirmation"), d, w.pauseUntil instant)
      | none =>
        let w := w.pause (max 1 o.pollInterval.ms)
        let (result, d, machines) := svc.process d (.still w.clock.stamp) w.machines
        let w := { w with machines }
        match result with
        | .ok () => confirm svc o signal startedAt (rounds + 1) d w
        | .error error =>
          if error.isTransient then confirm svc o signal startedAt (rounds + 1) d w
          else (.error error, d, w)
termination_by maxRounds o.deadline - rounds
decreasing_by
  all_goals
    have := rounds_lt _h
    omega

/-- Ask for the deletion of a deployment and wait until it is gone.  Nothing is asked for when it is
gone already. -/
def destroyAndConfirm (svc : DeploymentService σ) (o : WaitOptions) (signal : Signal)
    (d : Deployment) (w : World σ) : Except DeployError Unit × Deployment × World σ :=
  if d.isDestroyed then (.ok (), d, w)
  else
    let (result, d, machines) := svc.destroy d (.still w.clock.stamp) w.machines
    let w := { w with machines }
    match result with
    | .error error => (.error error, d, w)
    | .ok () => confirm svc o signal w.clock.wall 0 d w

end Destroying

end Testbed
