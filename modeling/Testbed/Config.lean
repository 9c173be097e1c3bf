import Testbed.Duration
import Testbed.Document.Toml.Printer
import Testbed.Document.Toml.Reader
import Testbed.Quota
import Testbed.Text.Quoted

/-!
The settings of an installation: where state is kept, which address ranges its pools draw on, how locks
behave, what the quotas are, how long to wait.  Every section and every setting has a default, except
that an address range or a machine user is given as a whole.

Durations stay as they were written, so that settings are shown as they were given; `Config.duration`
reads one where it is used.  `Config.validate` checks what the reader's types do not: that durations can
be read, that a lock is extended before it runs out, and that at least one deployment may be polled.
-/

namespace Testbed

/-- At most one value for each target. -/
structure ByTarget (α : Type) where
  docker : Option α
  yandexCloud : Option α
deriving Repr, Inhabited, DecidableEq

namespace ByTarget

variable {α : Type}

/-- The value of a target. -/
def get? (t : ByTarget α) : Target → Option α
  | .docker => t.docker
  | .yandexCloud => t.yandexCloud

/-- Give a target a value. -/
def set (t : ByTarget α) (value : α) : Target → ByTarget α
  | .docker => { t with docker := some value }
  | .yandexCloud => { t with yandexCloud := some value }

end ByTarget

/-- At most one value for each kind of quota. -/
structure ByKind (α : Type) where
  vm : Option α
  subnet : Option α
  publicAddress : Option α
deriving Repr, Inhabited, DecidableEq

namespace ByKind

variable {α : Type}

/-- The value of a kind. -/
def get? (t : ByKind α) : QuotaKind → Option α
  | .vm => t.vm
  | .subnet => t.subnet
  | .publicAddress => t.publicAddress

/-- Give a kind a value. -/
def set (t : ByKind α) (value : α) : QuotaKind → ByKind α
  | .vm => { t with vm := some value }
  | .subnet => { t with subnet := some value }
  | .publicAddress => { t with publicAddress := some value }

end ByKind

namespace Config

/-- Where state is kept. -/
structure Storage where
  dataDir : String
deriving Repr, Inhabited, DecidableEq

/-- The address range that a pool draws its subnets from. -/
structure AddressRange where
  name : String
  baseCidr : String
  subnetLength : UInt8
deriving Repr, Inhabited, DecidableEq

/-- The address range of each kind of target. -/
structure Networks where
  docker : AddressRange
  cloud : AddressRange
deriving Repr, Inhabited, DecidableEq

/-- How addresses are handed out inside a subnet. -/
structure Allocator where
  padding : UInt32
deriving Repr, Inhabited, DecidableEq

/-- How locks behave. -/
structure Locking where
  keyLead : String
  leaseTtl : String
  extendInterval : String
  retryInitial : String
  retryMax : String
  waitTimeout : String
deriving Repr, Inhabited, DecidableEq

/-- The quota limits. -/
structure Quotas where
  limits : ByTarget (ByKind Int64)
deriving Repr, Inhabited, DecidableEq

/-- How deployments are watched. -/
structure Reconciling where
  pollInterval : String
  reconcileInterval : String
  waitDeadline : String
  maxConcurrentPolls : UInt64
deriving Repr, Inhabited, DecidableEq

/-- How often a failed clean-up is tried again. -/
structure Cleanup where
  attempts : UInt32
  backoff : String
deriving Repr, Inhabited, DecidableEq

/-- How workers reach the orchestrator. -/
structure Orchestration where
  hostPort : String
  token : String
  tlsStrategy : String
  logLevel : String
deriving Repr, Inhabited, DecidableEq

/-- The user that is set up on a machine. -/
structure MachineUser where
  name : String
  groups : List String
  sshAuthorizedKeys : List String
  mayBeRoot : Bool
deriving Repr, Inhabited, DecidableEq

/-- How machines are set up. -/
structure Machines where
  baseImageId : String
  publicAddress : Bool
  user : MachineUser
deriving Repr, Inhabited, DecidableEq

end Config

/-- All settings of an installation. -/
structure Config where
  state : Config.Storage
  network : Config.Networks
  allocator : Config.Allocator
  lock : Config.Locking
  quotas : Config.Quotas
  reconcile : Config.Reconciling
  cleanup : Config.Cleanup
  orchestration : Config.Orchestration
  vm : Config.Machines
deriving Repr, DecidableEq

namespace Config

/-! ### Defaults -/

def Storage.default : Storage := ⟨"/var/lib/benchgrid"⟩

def Networks.default : Networks where
  docker := ⟨"benchgrid-docker", "172.28.0.0/16", 24⟩
  cloud := ⟨"benchgrid-cloud", "10.2.0.0/16", 24⟩

def Allocator.default : Allocator := ⟨3⟩

def Locking.default : Locking where
  keyLead := "lock:"
  leaseTtl := "5s"
  extendInterval := "1s"
  retryInitial := "50ms"
  retryMax := "1s"
  waitTimeout := "30s"

def Quotas.default : Quotas where
  limits :=
    { docker := some { vm := some 64, subnet := some 32, publicAddress := none }
      yandexCloud := some { vm := some 20, subnet := some 10, publicAddress := some 1 } }

def Reconciling.default : Reconciling where
  pollInterval := "5s"
  reconcileInterval := "10m"
  waitDeadline := "30m"
  maxConcurrentPolls := 8

def Cleanup.default : Cleanup := ⟨3, "2s"⟩

def Orchestration.default : Orchestration := ⟨"localhost:7077", "", "none", "info"⟩

def MachineUser.default : MachineUser :=
  ⟨"stroppy-edge-worker", ["stroppy-edge-worker"], [], true⟩

def Machines.default : Machines := ⟨"ubuntu-22-04", false, MachineUser.default⟩

/-- The settings of an installation that gives none. -/
def default : Config where
  state := Storage.default
  network := Networks.default
  allocator := Allocator.default
  lock := Locking.default
  quotas := Quotas.default
  reconcile := Reconciling.default
  cleanup := Cleanup.default
  orchestration := Orchestration.default
  vm := Machines.default

instance : Inhabited Config := ⟨default⟩

/-! ### Questions -/

/-- The address range of a target: local targets share one, all others the other. -/
def Networks.rangeFor (n : Networks) (target : Target) : AddressRange :=
  if target.isLocal then n.docker else n.cloud

/-- The limits, by target and then by kind. -/
def Quotas.toLimits (q : Quotas) : List QuotaLimit :=
  Target.all.flatMap fun scope =>
    match q.limits.get? scope with
    | none => []
    | some kinds => QuotaKind.all.filterMap fun kind =>
      (kinds.get? kind).map fun maximum => { scope, kind, maximum }

/-! ### Validation -/

/-- Why settings are refused. -/
inductive Error where
  /-- A setting that is no duration. -/
  | invalidDuration (field value : String)
  /-- A lock would run out before it is extended. -/
  | extensionTooLate (interval ttl : String)
  /-- No deployment could ever be polled. -/
  | noPolls
deriving Repr, Inhabited, DecidableEq

/-- The wording of an error. -/
def Error.message : Error → String
  | .invalidDuration field value => s!"{field}: invalid duration {Text.quote value}"
  | .extensionTooLate interval ttl =>
    s!"lock.extend_interval ({interval}) must be shorter than lock.lease_ttl ({ttl})"
  | .noPolls => "reconcile.max_concurrent_polls must be at least 1"

/-- Read the duration of a setting. -/
def duration (field value : String) : Except Error Duration :=
  match Duration.parse? value with
  | some d => .ok d
  | none => .error (.invalidDuration field value)

/-- Check settings. -/
def validate (c : Config) : Except Error Unit := do
  let ttl ← duration "lock.lease_ttl" c.lock.leaseTtl
  let extend ← duration "lock.extend_interval" c.lock.extendInterval
  if ttl ≤ extend then
    throw (.extensionTooLate c.lock.extendInterval c.lock.leaseTtl)
  let _ ← duration "lock.retry_initial" c.lock.retryInitial
  let _ ← duration "lock.retry_max" c.lock.retryMax
  let _ ← duration "lock.wait_timeout" c.lock.waitTimeout
  let _ ← duration "reconcile.poll_interval" c.reconcile.pollInterval
  let _ ← duration "reconcile.reconcile_interval" c.reconcile.reconcileInterval
  let _ ← duration "reconcile.wait_deadline" c.reconcile.waitDeadline
  let _ ← duration "cleanup.backoff" c.cleanup.backoff
  if c.reconcile.maxConcurrentPolls = 0 then
    throw .noPolls

/-! ### Documents -/

def Storage.toDocument (s : Storage) : Document := .table [("data_dir", .text s.dataDir)]

def Storage.ofDocument? : Document → Option Storage := Document.record? do
  let dataDir ← Record.fieldWith Storage.default.dataDir "data_dir" Document.text?
  pure { dataDir }

def AddressRange.toDocument (r : AddressRange) : Document :=
  .table [("name", .text r.name), ("base_cidr", .text r.baseCidr),
    ("prefix", .nat r.subnetLength.toNat)]

def AddressRange.ofDocument? : Document → Option AddressRange := Document.record? do
  let name ← Record.field "name" Document.text?
  let baseCidr ← Record.field "base_cidr" Document.text?
  let subnetLength ← Record.field "prefix" Document.uint8?
  pure { name, baseCidr, subnetLength }

def Networks.toDocument (n : Networks) : Document :=
  .table [("docker", n.docker.toDocument), ("cloud", n.cloud.toDocument)]

def Networks.ofDocument? : Document → Option Networks := Document.record? do
  let docker ← Record.fieldWith Networks.default.docker "docker" AddressRange.ofDocument?
  let cloud ← Record.fieldWith Networks.default.cloud "cloud" AddressRange.ofDocument?
  pure { docker, cloud }

def Allocator.toDocument (a : Allocator) : Document := .table [("padding", .nat a.padding.toNat)]

def Allocator.ofDocument? : Document → Option Allocator := Document.record? do
  let padding ← Record.fieldWith Allocator.default.padding "padding" Document.uint32?
  pure { padding }

def Locking.toDocument (l : Locking) : Document :=
  .table [("key_prefix", .text l.keyLead), ("lease_ttl", .text l.leaseTtl),
    ("extend_interval", .text l.extendInterval), ("retry_initial", .text l.retryInitial),
    ("retry_max", .text l.retryMax), ("wait_timeout", .text l.waitTimeout)]

def Locking.ofDocument? : Document → Option Locking := Document.record? do
  let keyLead ← Record.fieldWith Locking.default.keyLead "key_prefix" Document.text?
  let leaseTtl ← Record.fieldWith Locking.default.leaseTtl "lease_ttl" Document.text?
  let extendInterval ←
    Record.fieldWith Locking.default.extendInterval "extend_interval" Document.text?
  let retryInitial ← Record.fieldWith Locking.default.retryInitial "retry_initial" Document.text?
  let retryMax ← Record.fieldWith Locking.default.retryMax "retry_max" Document.text?
  let waitTimeout ← Record.fieldWith Locking.default.waitTimeout "wait_timeout" Document.text?
  pure { keyLead, leaseTtl, extendInterval, retryInitial, retryMax, waitTimeout }

/-- The limits of one target. -/
def kindsToDocument (kinds : ByKind Int64) : Document :=
  .table (QuotaKind.all.filterMap fun kind =>
    (kinds.get? kind).map fun maximum => (kind.name, .int maximum.toInt))

/-- Read the limits of one target; the last limit of a kind counts. -/
def kindsOfDocument? : Document → Option (ByKind Int64)
  | .table fields => fields.foldlM (fun kinds field => do
      pure (kinds.set (← field.2.int64?) (← QuotaKind.ofName? field.1))) ⟨none, none, none⟩
  | _ => none

def Quotas.toDocument (q : Quotas) : Document :=
  .table [("limits", .table (Target.all.filterMap fun scope =>
    (q.limits.get? scope).map fun kinds => (scope.name, kindsToDocument kinds)))]

/-- Read the limits of all targets; the last limits of a target count. -/
def limitsOfDocument? : Document → Option (ByTarget (ByKind Int64))
  | .table fields => fields.foldlM (fun limits field => do
      pure (limits.set (← kindsOfDocument? field.2) (← Target.ofName? field.1))) ⟨none, none⟩
  | _ => none

def Quotas.ofDocument? : Document → Option Quotas := Document.record? do
  let limits ← Record.fieldWith Quotas.default.limits "limits" limitsOfDocument?
  pure { limits }

def Reconciling.toDocument (r : Reconciling) : Document :=
  .table [("poll_interval", .text r.pollInterval), ("reconcile_interval", .text r.reconcileInterval),
    ("wait_deadline", .text r.waitDeadline),
    ("max_concurrent_polls", .nat r.maxConcurrentPolls.toNat)]

def Reconciling.ofDocument? : Document → Option Reconciling := Document.record? do
  let pollInterval ← Record.fieldWith Reconciling.default.pollInterval "poll_interval" Document.text?
  let reconcileInterval ←
    Record.fieldWith Reconciling.default.reconcileInterval "reconcile_interval" Document.text?
  let waitDeadline ← Record.fieldWith Reconciling.default.waitDeadline "wait_deadline" Document.text?
  let maxConcurrentPolls ←
    Record.fieldWith Reconciling.default.maxConcurrentPolls "max_concurrent_polls" Document.uint64?
  pure { pollInterval, reconcileInterval, waitDeadline, maxConcurrentPolls }

def Cleanup.toDocument (c : Cleanup) : Document :=
  .table [("attempts", .nat c.attempts.toNat), ("backoff", .text c.backoff)]

def Cleanup.ofDocument? : Document → Option Cleanup := Document.record? do
  let attempts ← Record.fieldWith Cleanup.default.attempts "attempts" Document.uint32?
  let backoff ← Record.fieldWith Cleanup.default.backoff "backoff" Document.text?
  pure { attempts, backoff }

def Orchestration.toDocument (o : Orchestration) : Document :=
  .table [("host_port", .text o.hostPort), ("token", .text o.token),
    ("tls_strategy", .text o.tlsStrategy), ("log_level", .text o.logLevel)]

def Orchestration.ofDocument? : Document → Option Orchestration := Document.record? do
  let hostPort ← Record.fieldWith Orchestration.default.hostPort "host_port" Document.text?
  let token ← Record.fieldWith Orchestration.default.token "token" Document.text?
  let tlsStrategy ← Record.fieldWith Orchestration.default.tlsStrategy "tls_strategy" Document.text?
  let logLevel ← Record.fieldWith Orchestration.default.logLevel "log_level" Document.text?
  pure { hostPort, token, tlsStrategy, logLevel }

def MachineUser.toDocument (u : MachineUser) : Document :=
  .table [("name", .text u.name), ("groups", .texts u.groups),
    ("ssh_authorized_keys", .texts u.sshAuthorizedKeys), ("sudo", .bool u.mayBeRoot)]

def MachineUser.ofDocument? : Document → Option MachineUser := Document.record? do
  let name ← Record.field "name" Document.text?
  let groups ← Record.field "groups" (Document.list? Document.text?)
  let sshAuthorizedKeys ← Record.field "ssh_authorized_keys" (Document.list? Document.text?)
  let mayBeRoot ← Record.field "sudo" Document.bool?
  pure { name, groups, sshAuthorizedKeys, mayBeRoot }

def Machines.toDocument (m : Machines) : Document :=
  .table [("base_image_id", .text m.baseImageId), ("public_ip", .bool m.publicAddress),
    ("user", m.user.toDocument)]

def Machines.ofDocument? : Document → Option Machines := Document.record? do
  let baseImageId ← Record.fieldWith Machines.default.baseImageId "base_image_id" Document.text?
  let publicAddress ← Record.fieldWith Machines.default.publicAddress "public_ip" Document.bool?
  let user ← Record.fieldWith Machines.default.user "user" MachineUser.ofDocument?
  pure { baseImageId, publicAddress, user }

/-- The document of all settings. -/
def toDocument (c : Config) : Document :=
  .table [("state", c.state.toDocument), ("network", c.network.toDocument),
    ("allocator", c.allocator.toDocument), ("lock", c.lock.toDocument),
    ("quotas", c.quotas.toDocument), ("reconcile", c.reconcile.toDocument),
    ("cleanup", c.cleanup.toDocument), ("orchestration", c.orchestration.toDocument),
    ("vm", c.vm.toDocument)]

/-- Read settings; a section that is not given has its defaults. -/
def ofDocument? : Document → Option Config := Document.record? do
  let state ← Record.fieldWith Storage.default "state" Storage.ofDocument?
  let network ← Record.fieldWith Networks.default "network" Networks.ofDocument?
  let allocator ← Record.fieldWith Allocator.default "allocator" Allocator.ofDocument?
  let lock ← Record.fieldWith Locking.default "lock" Locking.ofDocument?
  let quotas ← Record.fieldWith Quotas.default "quotas" Quotas.ofDocument?
  let reconcile ← Record.fieldWith Reconciling.default "reconcile" Reconciling.ofDocument?
  let cleanup ← Record.fieldWith Cleanup.default "cleanup" Cleanup.ofDocument?
  let orchestration ← Record.fieldWith Orchestration.default "orchestration" Orchestration.ofDocument?
  let vm ← Record.fieldWith Machines.default "vm" Machines.ofDocument?
  pure { state, network, allocator, lock, quotas, reconcile, cleanup, orchestration, vm }

/-! ### Files -/

/-- Why a settings file cannot be used. -/
inductive LoadError where
  /-- The text is not well formed, or a setting has the wrong type. -/
  | unreadable
  | refused (error : Error)
deriving Repr, Inhabited, DecidableEq

/-- Read and check the text of a settings file. -/
def load (text : String) : Except LoadError Config :=
  match (Toml.read? text).bind ofDocument? with
  | none => .error .unreadable
  | some c =>
    match c.validate with
    | .ok () => .ok c
    | .error e => .error (.refused e)

/-- The text of a settings file that gives every setting. -/
def render (c : Config) : String := Toml.write c.toDocument

end Config

end Testbed
