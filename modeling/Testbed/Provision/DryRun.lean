import Testbed.Deployment.Backend.Memory
import Testbed.Provision.Lifecycle

/-!
Trying out a run without machines.  `dryPlan` places a database on the first subnet of a target's range, as
if nothing was reserved there.  `dryRun` takes a run through its whole life on an empty store and on
machines that are only remembered.
-/

namespace Testbed

/-- Place a database on the first subnet of a target's range, with one more address for the load
generator. -/
def dryPlan (c : Config) (template : DatabaseTemplate) (target : Target) (id : String) :
    Except ProvisionError PlacementIntent :=
  let range := c.network.rangeFor target
  match Allocation.nextSubnet c.allocator.padding.toNat range.baseCidr range.subnetLength.toNat []
      (template.requiredAddresses + 1) with
  | .error error => .error (.network error)
  | .ok choice =>
    match template.place
        ⟨{ id, name := range.name, target }, choice.subnet.text, choice.addresses⟩ with
    | .error error => .error (.placement error)
    | .ok intent => .ok intent

/-- At which observation a remembered machine is ready. -/
def dryReadyAfter : Nat := 2

/-- A provisioner over remembered machines, and the store with the counters that it needs. -/
def dryProvisioner (c : Config) : Except Config.Error (Provisioner Memory × Store) := do
  let interval ← Config.duration "reconcile.reconcile_interval" c.reconcile.reconcileInterval
  let service := Reconciler.service Memory.backend interval.ms
  Provisioner.ofConfig c ⟨some service, some service⟩ .empty

/-- Provision a run and take it down. -/
def dryRun (p : Provisioner Memory) (run : RunContext) (request : ProvisionRequest)
    (w : World Memory) : Except ProvisionError ProvisionedRun :=
  match p.provision run request .never w with
  | (.error error, _) => .error error
  | (.ok provisioned, w) =>
    match p.teardown .never provisioned w with
    | (.error error, _, _) => .error error
    | (.ok (), released, _) => .ok released

end Testbed
