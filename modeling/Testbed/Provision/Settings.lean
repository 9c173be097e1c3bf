import Testbed.Deployment.Readiness
import Testbed.Lock

/-!
The settings of the provisioner, with every duration read.
-/

namespace Testbed

/-- The settings of the provisioner. -/
structure ProvisionSettings where
  network : Config.Networks
  machines : Config.Machines
  orchestration : Config.Orchestration
  /-- How often a step of taking a run down is tried, at least once. -/
  cleanupAttempts : Nat
  cleanupBackoff : Duration
  wait : WaitOptions
deriving Repr, DecidableEq

/-- Read the settings of the provisioner. -/
def ProvisionSettings.ofConfig (c : Config) : Except Config.Error ProvisionSettings := do
  let cleanupBackoff ← Config.duration "cleanup.backoff" c.cleanup.backoff
  let wait ← WaitOptions.ofConfig c.reconcile
  pure {
    network := c.network
    machines := c.vm
    orchestration := c.orchestration
    cleanupAttempts := max 1 c.cleanup.attempts.toNat
    cleanupBackoff, wait }

end Testbed
