import Testbed.Deployment.Error
import Testbed.Network
import Testbed.Placement.Error
import Testbed.Task

/-!
What can go wrong while a run is provisioned or taken down.  Errors of the layers below are passed on
as they are; an error whose cleaning up failed as well keeps both.

Callers do not look at the cases but at `kind`, which says what an error is about, and at `isRetryable`,
which says whether trying again can help.  Both look through failed cleaning up at what went wrong
first.
-/

namespace Testbed

/-- What is wrong with a request or with what a caller hands in. -/
inductive Misconfiguration where
  | task (error : TaskError)
  | noCidr
  | noAddresses (cidr : String)
  | itemWithoutAddress (item : String)
  | outsideReserved (address : Address) (cidr : String)
  /-- Something somebody else described. -/
  | described (what : String)
deriving Repr, Inhabited, DecidableEq

/-- The wording of a misconfiguration. -/
def Misconfiguration.message : Misconfiguration → String
  | .task error => error.message
  | .noCidr => "network has no cidr"
  | .noAddresses cidr => s!"network {cidr} has no addresses"
  | .itemWithoutAddress item => s!"placement item {item} has no address"
  | .outsideReserved address cidr =>
    s!"load generator address {address.text} is outside the reserved addresses of {cidr}"
  | .described what => what

/-- An error of provisioning or taking down a run. -/
inductive ProvisionError where
  | network (error : NetworkError)
  | placement (error : PlacementError)
  | deploy (error : DeployError)
  | store (error : StoreError)
  /-- The backend did not return a machine that was asked for. -/
  | vmNotFound (template : String)
  | config (misconfiguration : Misconfiguration)
  /-- Something is kept, because machines may still use it. -/
  | retained (what : String)
  /-- An error, and what went wrong while cleaning up after it. -/
  | compensation (primary : ProvisionError) (cleanup : List ProvisionError)
  /-- What went wrong while a run was taken down. -/
  | teardown (errors : List ProvisionError)
deriving Inhabited

/-- What an error is about. -/
inductive ErrorKind where
  | allocationExhausted
  | quotaUnavailable
  | configurationInvalid
  | externalBackend
  | notFound
  | timeout
  | internal
deriving Repr, Inhabited, DecidableEq

/-- The name of a kind of error. -/
def ErrorKind.name : ErrorKind → String
  | .allocationExhausted => "allocation_exhausted"
  | .quotaUnavailable => "quota_unavailable"
  | .configurationInvalid => "configuration_invalid"
  | .externalBackend => "external_backend"
  | .notFound => "not_found"
  | .timeout => "timeout"
  | .internal => "internal"

def StoreError.kind : StoreError → ErrorKind
  | .quotaUnavailable .. => .quotaUnavailable
  | .lockTimeout .. => .timeout
  | .cancelled _ => .timeout
  | .lockLost _ => .externalBackend
  | .storage .. => .internal

def NetworkError.kind : NetworkError → ErrorKind
  | .exhausted _ => .allocationExhausted
  | .invalidCidr _ => .configurationInvalid
  | .unsupported _ => .configurationInvalid
  | .lengthOutside .. => .configurationInvalid
  | .alreadyReserved _ => .externalBackend
  | .store error => error.kind

def PlacementError.kind : PlacementError → ErrorKind
  | .configurationInvalid _ => .configurationInvalid
  | .allocationExhausted .. => .allocationExhausted

def DeployError.kind : DeployError → ErrorKind
  | .notFound _ => .notFound
  | .backend _ => .externalBackend
  | .degraded .. => .externalBackend
  | .unsupportedTarget _ => .configurationInvalid
  | .timeout _ => .timeout
  | .cancelled _ => .timeout
  | .pollFailed _ => .internal

namespace ProvisionError

mutual

/-- The wording of an error. -/
def message : ProvisionError → String
  | .network error => error.message
  | .placement error => error.message
  | .deploy error => error.message
  | .store error => error.message
  | .vmNotFound template => s!"vm instance not found for vm template {template}"
  | .config misconfiguration => s!"invalid configuration: {misconfiguration.message}"
  | .retained what => s!"{what} kept reserved while the deployment may still exist"
  | .compensation primary cleanup =>
    message primary ++ " (cleanup failed: " ++ "; ".intercalate (messages cleanup) ++ ")"
  | .teardown errors => "teardown failed: " ++ "; ".intercalate (messages errors)

/-- The wordings of several errors. -/
def messages : List ProvisionError → List String
  | [] => []
  | error :: rest => message error :: messages rest

end

mutual

/-- What an error is about. -/
def kind : ProvisionError → ErrorKind
  | .network error => error.kind
  | .placement error => error.kind
  | .deploy error => error.kind
  | .store error => error.kind
  | .vmNotFound _ => .notFound
  | .config _ => .configurationInvalid
  | .retained _ => .externalBackend
  | .compensation primary _ => kind primary
  | .teardown errors => firstKind errors

/-- What the first of several errors is about. -/
def firstKind : List ProvisionError → ErrorKind
  | [] => .internal
  | error :: _ => kind error

end

/-- Whether trying again can help. -/
def isRetryable (e : ProvisionError) : Bool :=
  match e.kind with
  | .externalBackend => true
  | .timeout => true
  | _ => false

/-- Whether an error says that its cleaning up failed. -/
def isCompensation : ProvisionError → Bool
  | .compensation .. => true
  | _ => false

/-- An error and what went wrong while cleaning up after it; the error alone, if nothing did. -/
def withCleanup (primary : ProvisionError) (cleanup : List ProvisionError) : ProvisionError :=
  if cleanup.isEmpty then primary else .compensation primary cleanup

end ProvisionError

end Testbed
