import Testbed.Duration
import Testbed.Target

/-!
What can go wrong between a deployment and the backend that carries it.
-/

namespace Testbed

/-- An error of deploying, watching or removing machines. -/
inductive DeployError where
  | notFound (what : String)
  | backend (detail : String)
  | unsupportedTarget (target : Target)
  | degraded (deployment resource : String)
  | timeout (waited : Duration)
  | cancelled (what : String)
  /-- A task that polls readiness came to grief. -/
  | pollFailed (detail : String)
deriving Repr, Inhabited, DecidableEq

namespace DeployError

/-- The short name of an error. -/
def code : DeployError → String
  | .notFound _ => "NotFound"
  | .backend _ => "Backend"
  | .unsupportedTarget _ => "UnsupportedTarget"
  | .degraded .. => "Degraded"
  | .timeout _ => "Timeout"
  | .cancelled _ => "Cancelled"
  | .pollFailed _ => "Join"

/-- The wording of an error. -/
def message : DeployError → String
  | .notFound what => s!"resource not found: {what}"
  | .backend detail => s!"backend error: {detail}"
  | .unsupportedTarget target => s!"no deployment backend registered for target {target.name}"
  | .degraded deployment resource => s!"resource {resource} of deployment {deployment} is degraded"
  | .timeout waited => s!"deployments not ready after {waited.text}"
  | .cancelled what => s!"wait cancelled: {what}"
  | .pollFailed detail => s!"readiness poll task failed: {detail}"

/-- Whether an error may go away by itself. -/
def isTransient : DeployError → Bool
  | .backend _ => true
  | .timeout _ => true
  | _ => false

end DeployError

end Testbed
