import Testbed.Deployment
import Testbed.Deployment.Backend

/-!
Bringing deployments and their backend together.

A deployment is created resource by resource; when one cannot be created, those that were are removed
again.  A pass observes every resource once and moves it by at most one status.  Whoever stays creating or
destroying for longer than the reconcile interval is degraded; a resource that never became ready is then
deleted at once, so that the backend does not keep it.  A degraded or destroying resource is destroyed
when the backend does not know it any more.
-/

namespace Testbed

/-- Creates deployments, watches them and takes them down.  States are in `σ`. -/
structure DeploymentService (σ : Type) where
  /-- Create a deployment. -/
  create : DeploymentTemplate → Stamps → σ → Except DeployError Deployment × σ
  /-- Look at every resource once. -/
  process : Deployment → Stamps → σ → Except DeployError Unit × Deployment × σ
  /-- Ask for the deletion of every resource. -/
  destroy : Deployment → Stamps → σ → Except DeployError Unit × Deployment × σ

namespace Reconciler

variable {σ : Type}

/-- Success, unless there is an error. -/
def outcome : Option DeployError → Except DeployError Unit
  | none => .ok ()
  | some error => .error error

/-! ### Creating -/

/-- Create resources in order.  When one fails, the `created` ones, newest first, are removed. -/
def createAll (b : Backend σ) (created : List Resource) : List Resource → σ → Option DeployError × σ
  | [], s => (none, s)
  | r :: rest, s =>
    match b.create r s with
    | (.ok (), s) => createAll b (r :: created) rest s
    | (.error error, s) => (some error, b.removeAll created s)

/-- Create a deployment, or nothing. -/
def create (b : Backend σ) (t : DeploymentTemplate) (stamps : Stamps) (s : σ) :
    Except DeployError Deployment × σ :=
  let d := Deployment.new t stamps
  match createAll b [] d.resources s with
  | (none, s) => (.ok d, s)
  | (some error, s) => (.error error, s)

/-! ### Watching -/

/-- Degrade a resource that has stayed too long; one that was being created is removed. -/
def giveUp (b : Backend σ) (r : Resource) (stamp : UInt64) (s : σ) :
    Except DeployError Unit × Resource × σ :=
  let degraded := r.enter .degraded stamp
  match r.status with
  | .creating =>
    let (result, s) := b.remove degraded s
    (result, degraded, s)
  | _ => (.ok (), degraded, s)

/-- A resource with what was observed of it. -/
def observed (r : Resource) (o : Observation) : Resource :=
  { r with ready := o.ready, synced := o.synced, externalId := o.externalId <|> r.externalId }

/-- Move a resource on after an observation.  It is judged by the time `now`, at which the pass began, and
stamped with the time at which it is moved. -/
def advance (b : Backend σ) (interval : Nat) (r : Resource) (now stamp : UInt64) (s : σ) :
    Except DeployError Unit × Resource × σ :=
  if r.status = .creating ∧ r.ready ∧ r.synced then (.ok (), r.enter .ready stamp, s)
  else if (r.status = .creating ∨ r.status = .destroying) ∧ r.isOverdue interval now then
    giveUp b r stamp s
  else (.ok (), r, s)

/-- What it means for a resource that the backend does not know it. -/
def missing (r : Resource) (stamp : UInt64) : Resource :=
  match r.status with
  | .destroying => r.enter .destroyed stamp
  | .degraded => r.enter .destroyed stamp
  | _ => r

/-- Look at a resource once. -/
def reconcile (b : Backend σ) (interval : Nat) (r : Resource) (now stamp : UInt64) (s : σ) :
    Except DeployError Unit × Resource × σ :=
  if r.status = .destroyed then (.ok (), r, s)
  else
    match b.observe r s with
    | (.ok o, s) => advance b interval (observed r o) now stamp s
    | (.error (.notFound _), s) => (.ok (), missing r stamp, s)
    | (.error error, s) => (.error error, r, s)

/-- Look at the resource at a position once, and keep the first error.  The clock is read when the pass begins,
and then when a resource is moved. -/
def passOver (b : Backend σ) (interval : Nat) (stamps : Stamps) (i : Nat) (r : Resource)
    (s : Option DeployError × σ) : Resource × Option DeployError × σ :=
  match reconcile b interval r (stamps.nth 0) (stamps.nth (i + 1)) s.2 with
  | (.ok (), r, t) => (r, s.1, t)
  | (.error error, r, t) => (r, s.1 <|> some error, t)

/-- Look at every resource once, also after an error. -/
def process (b : Backend σ) (interval : Nat) (d : Deployment) (stamps : Stamps) (s : σ) :
    Except DeployError Unit × Deployment × σ :=
  let (d, error, s) := d.visit (passOver b interval stamps) (none, s)
  (outcome error, d, s)

/-! ### Taking down -/

/-- Ask for the deletion of the resource at a position, unless an earlier one has failed.  The clock is read
before the backend is asked, and again if the resource turns out to be gone. -/
def takeDown (b : Backend σ) (stamps : Stamps) (i : Nat) (r : Resource) (s : Option DeployError × σ) :
    Resource × Option DeployError × σ :=
  if s.1.isSome ∨ r.status = .destroyed then (r, s)
  else
    let r := r.enter .destroying (stamps.nth (2 * i))
    match b.delete r s.2 with
    | (.ok (), t) => (r, none, t)
    | (.error (.notFound _), t) => (r.enter .destroyed (stamps.nth (2 * i + 1)), none, t)
    | (.error error, t) => (r, some error, t)

/-- Ask for the deletion of every resource, up to the first failure. -/
def destroy (b : Backend σ) (d : Deployment) (stamps : Stamps) (s : σ) :
    Except DeployError Unit × Deployment × σ :=
  let (d, error, s) := d.visit (takeDown b stamps) (none, s)
  (outcome error, d, s)

/-- The service that keeps deployments on a backend; the reconcile interval is in milliseconds. -/
def service (b : Backend σ) (interval : Nat) : DeploymentService σ where
  create := create b
  process := process b interval
  destroy := destroy b

end Reconciler

end Testbed
