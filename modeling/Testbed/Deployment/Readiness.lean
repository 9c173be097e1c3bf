import Testbed.Deployment.Reconciler

/-!
Waiting until deployments are ready.  They are polled in rounds, in their order, with a pause between
rounds; one that is ready is not polled again.  An error that may go away by itself is passed over.  Any
other error, and a degraded resource, ends the wait, but not before its round is over.

The wait also ends at its deadline and when its signal fires.  Both happen in the pauses, or before the
first round.
-/

namespace Testbed

/-- How deployments are waited for. -/
structure WaitOptions where
  pollInterval : Duration
  deadline : Duration
  /-- How many deployments are polled at a time.  A poll takes no time, so nobody waits for another. -/
  maxConcurrent : Nat
deriving Repr, Inhabited, DecidableEq

/-- Read the settings of waits. -/
def WaitOptions.ofConfig (c : Config.Reconciling) : Except Config.Error WaitOptions := do
  let pollInterval ← Config.duration "reconcile.poll_interval" c.pollInterval
  let deadline ← Config.duration "reconcile.wait_deadline" c.waitDeadline
  pure { pollInterval, deadline, maxConcurrent := max 1 c.maxConcurrentPolls.toNat }

namespace Readiness

variable {σ : Type}

/-- What a poll has shown. -/
inductive Verdict where
  | ready
  | notYet
  | failed (error : DeployError)
deriving Repr, Inhabited, DecidableEq

/-- What the statuses of a deployment show. -/
def verdict (d : Deployment) : Verdict :=
  match d.degraded? with
  | some r => .failed (.degraded d.id r.name)
  | none => if d.isReady then .ready else .notYet

/-- Poll a deployment once. -/
def poll (svc : DeploymentService σ) (d : Deployment) (stamps : Stamps) (s : σ) :
    Verdict × Deployment × σ :=
  let (result, d, s) := svc.process d stamps s
  match result with
  | .ok () => (verdict d, d, s)
  | .error error => (if error.isTransient then verdict d else .failed error, d, s)

/-- A deployment that is waited for, and whether it was ready in a poll. -/
structure Watched where
  deployment : Deployment
  ready : Bool
deriving Repr, DecidableEq

/-- Poll each deployment that is not ready, while the clock stands still; also the first failure. -/
def round (svc : DeploymentService σ) (now : UInt64) :
    List Watched → σ → Option DeployError × List Watched × σ
  | [], s => (none, [], s)
  | w :: rest, s =>
    if w.ready then
      let (error, rest, s) := round svc now rest s
      (error, w :: rest, s)
    else
      let (verdict, d, s) := poll svc w.deployment (.still now) s
      let (error, rest, s) := round svc now rest s
      match verdict with
      | .ready => (error, ⟨d, true⟩ :: rest, s)
      | .notYet => (error, ⟨d, false⟩ :: rest, s)
      | .failed first => (some first, ⟨d, false⟩ :: rest, s)

/-- The pause between two rounds, in milliseconds; time always goes on. -/
def pauseOf (o : WaitOptions) : Nat := max 1 o.pollInterval.ms

/-- Poll in rounds, from the clock's instant to the one when the wait is given up. -/
def watch (svc : DeploymentService σ) (o : WaitOptions) (signal : Signal) (giveUpAt : Nat)
    (watched : List Watched) (clock : Clock) (s : σ) :
    Except DeployError (List Deployment) × Clock × σ :=
  let (error, watched, s) := round svc clock.stamp watched s
  match error with
  | some error => (.error error, clock, s)
  | none =>
    if watched.all (·.ready) then (.ok (watched.map (·.deployment)), clock, s)
    else
      let next := clock.timer + pauseOf o
      match signal.interrupts (min next giveUpAt) with
      | some instant => (.error (.cancelled "readiness wait"), clock.advanceTo instant, s)
      | none =>
        if giveUpAt ≤ next then (.error (.timeout o.deadline), clock.advanceTo giveUpAt, s)
        else watch svc o signal giveUpAt watched (clock.pause (pauseOf o)) s
termination_by giveUpAt - clock.timer
decreasing_by
  simp only [Clock.pause, pauseOf] at *
  omega

/-- Wait until all deployments are ready; they come back in their order. -/
def await (svc : DeploymentService σ) (o : WaitOptions) (signal : Signal)
    (deployments : List Deployment) (clock : Clock) (s : σ) :
    Except DeployError (List Deployment) × Clock × σ :=
  if deployments.isEmpty then (.ok [], clock, s)
  else if signal.hasFired clock then (.error (.cancelled "readiness wait"), clock, s)
  else if o.deadline.ms = 0 then (.error (.timeout o.deadline), clock, s)
  else watch svc o signal (clock.timer + o.deadline.ms) (deployments.map (⟨·, false⟩)) clock s

end Readiness

end Testbed
