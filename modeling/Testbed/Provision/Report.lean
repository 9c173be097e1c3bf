import Testbed.Provision.Error

/-!
Reported errors.  An error that happened elsewhere arrives as a table: `of` names the layer that it comes
from, `v` the case, `s` its text, and other fields its details.  Elapsed times are not reported.
-/

namespace Testbed

/-- The text of a reported error; many have none. -/
def reportedText : Record String := Record.fieldWith "" "s" Document.text?

/-- A reported error of the store. -/
def StoreError.reported (code : String) : Record StoreError := do
  let s ← reportedText
  match code with
  | "QuotaUnavailable" =>
    let scope ← Record.field "scope" Target.ofDocument?
    let kind ← Record.field "kind" QuotaKind.ofDocument?
    pure (.quotaUnavailable scope kind)
  | "LockTimeout" => pure (.lockTimeout s ⟨0⟩)
  | "LockLost" => pure (.lockLost s)
  | "Cancelled" => pure (.cancelled s)
  | _ =>
    let fault ← (StorageFault.ofCode? code : Option StorageFault)
    pure (.storage fault s)

/-- Read a reported error of the store, whatever layer it names. -/
def StoreError.ofReport? : Document → Option StoreError := Document.record? do
  let code ← Record.field "v" Document.text?
  StoreError.reported code

/-- A reported error about a network. -/
def NetworkError.reported (code : String) : Record NetworkError := do
  let s ← reportedText
  match code with
  | "InvalidCidr" => pure (.invalidCidr s)
  | "Unsupported" => pure (.unsupported s)
  | "InvalidPrefix" =>
    let length ← Record.field "prefix" Document.uint8?
    pure (.lengthOutside length.toNat s)
  | "Exhausted" => pure (.exhausted (.described s))
  | "AlreadyReserved" => pure (.alreadyReserved s)
  | "State" =>
    let error ← Record.field "state" StoreError.ofReport?
    pure (.store error)
  | _ => failure

/-- A reported error of placing a database. -/
def PlacementError.reported (code : String) : Record PlacementError := do
  let s ← reportedText
  match code with
  | "ConfigurationInvalid" => pure (.configurationInvalid (.described s))
  | "AllocationExhausted" =>
    let required ← Record.field "required" Document.uint64?
    let available ← Record.field "available" Document.uint64?
    pure (.allocationExhausted required.toNat available.toNat)
  | _ => failure

/-- A reported error of deploying. -/
def DeployError.reported (code : String) : Record DeployError := do
  let s ← reportedText
  match code with
  | "NotFound" => pure (.notFound s)
  | "Backend" => pure (.backend s)
  | "UnsupportedTarget" =>
    let target ← Record.field "target" Target.ofDocument?
    pure (.unsupportedTarget target)
  | "Degraded" =>
    let deployment ← Record.field "deployment" Document.text?
    pure (.degraded deployment s)
  | "Timeout" => pure (.timeout ⟨0⟩)
  | "Cancelled" => pure (.cancelled s)
  | "Join" => pure (.pollFailed s)
  | _ => failure

namespace ProvisionError

/-- A reported error of the provisioner itself; `read` reads the errors in it. -/
def reported (read : Document → Option ProvisionError) (code : String) :
    Record ProvisionError := do
  let s ← reportedText
  match code with
  | "VmNotFound" => pure (.vmNotFound s)
  | "Config" => pure (.config (.described s))
  | "Retained" => pure (.retained s)
  | "Compensation" =>
    let primary ← Record.field "primary" read
    let cleanup ← Record.field "cleanup" (Document.list? read)
    pure (.compensation primary cleanup)
  | "Teardown" =>
    let errors ← Record.field "errors" (Document.list? read)
    pure (.teardown errors)
  | _ => failure

/-- Read a reported error in which errors lie at most `depth` deep. -/
def ofReportWithin? : Nat → Document → Option ProvisionError
  | 0, _ => none
  | depth + 1, d => Document.record? (do
    let layer ← Record.field "of" Document.text?
    let code ← Record.field "v" Document.text?
    match layer with
    | "state" => .store <$> StoreError.reported code
    | "network" => .network <$> NetworkError.reported code
    | "placement" => .placement <$> PlacementError.reported code
    | "deploy" => .deploy <$> DeployError.reported code
    | "provision" => reported (ofReportWithin? depth) code
    | _ => failure) d

/-- Read a reported error. -/
def ofReport? (d : Document) : Option ProvisionError := ofReportWithin? (d.depth + 1) d

end ProvisionError

end Testbed
