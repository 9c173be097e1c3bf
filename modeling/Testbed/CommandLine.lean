import Testbed.CommandLine.Host
import Testbed.CommandLine.Invocation
import Testbed.Document.Json
import Testbed.Provision.DryRun
import Testbed.Store.Document

/-!
Running commands.  A command reads its settings, then its files or the store, does its work and answers
with a document, with nothing, or with an error.  The store is a file in the data folder and is written
back after every command that opens it.
-/

namespace Testbed

/-- Why a command has failed. -/
inductive CommandError where
  | settingsUnreadable (failure : ReadFailure)
  | settingsMalformed
  | settingsRefused (error : Config.Error)
  | reading (path : String)
  | parsing (path : String)
  | creating (path : String)
  | opening (path : String)
  /-- There are no machines for a run that is not dry. -/
  | noMachines (target : Target)
  | failed (error : ProvisionError)
deriving Inhabited

/-- The wording of an error. -/
def CommandError.message : CommandError → String
  | .settingsUnreadable failure => failure.message
  | .settingsMalformed => "TOML parse error"
  | .settingsRefused error => error.message
  | .reading path => s!"reading {path}"
  | .parsing path => s!"parsing {path}"
  | .creating path => s!"creating {path}"
  | .opening path => s!"opening {path}"
  | .noMachines target =>
    s!"no VM backend is configured for target {target.name}; rerun with --dry-run"
  | .failed error => error.message

/-- How a command line has ended. -/
inductive Ending where
  /-- It is not a command line of the program. -/
  | misused
  /-- It asked for help, or for the version. -/
  | informed
  /-- The command was done and has nothing to say. -/
  | silent
  | printed (document : Document)
  | failed (error : CommandError)
deriving Inhabited

namespace CommandLine

variable {m : Type → Type} [Monad m]

/-- The name of the file that the store is kept in. -/
def stateFile : String := "benchgrid.redb"

/-- The path of the store in a data folder. -/
def statePath (dataDir : String) : String :=
  if dataDir = "" ∨ dataDir.endsWith "/" then dataDir ++ stateFile else dataDir ++ "/" ++ stateFile

/-- The store that the text of a file holds; an empty file holds an empty store. -/
def storeOfText? (text : String) : Option Store :=
  if text.isEmpty then some .empty else (Json.read? text).bind Store.ofDocument?

/-- Read and check the settings of a command. -/
def settings (h : Host m) (i : Invocation) : m (Except CommandError Config) := do
  let loaded ← match i.config with
    | none => pure (Except.ok Config.default)
    | some path => do
      match ← h.readFile path with
      | .error failure => pure (.error (.settingsUnreadable failure))
      | .ok text =>
        match Config.load text with
        | .ok c => pure (.ok c)
        | .error .unreadable => pure (.error .settingsMalformed)
        | .error (.refused error) => pure (.error (.settingsRefused error))
  return loaded.map fun c =>
    match i.dataDir with
    | some dataDir => { c with state := ⟨dataDir⟩ }
    | none => c

/-- Read a file that describes something. -/
def readDescription {α : Type} (h : Host m) (read : Document → Option α) (path : String) :
    m (Except CommandError α) := do
  match ← h.readFile path with
  | .error _ => return .error (.reading path)
  | .ok text =>
    match (Toml.read? text).bind read with
    | some a => return .ok a
    | none => return .error (.parsing path)

/-- Open the store of a data folder. -/
def openStore (h : Host m) (dataDir : String) : m (Except CommandError Store) := do
  if dataDir ≠ "" ∧ !(← h.createFolder dataDir) then return .error (.creating dataDir)
  let path := statePath dataDir
  match ← h.readFile path with
  | .error failure =>
    return if failure = .missing then .ok .empty else .error (.opening path)
  | .ok text =>
    match storeOfText? text with
    | some s => return .ok s
    | none => return .error (.opening path)

/-- Do something with the store, and keep what becomes of it. -/
def withStore (h : Host m) (c : Config) (action : Store → m (Ending × Store)) : m Ending := do
  match ← openStore h c.state.dataDir with
  | .error error => return .failed error
  | .ok s =>
    let (ending, s) ← action s
    h.writeFile (statePath c.state.dataDir) (Json.write s.toDocument)
    return ending

/-- Reserve a network in the range of a target. -/
def reserveNetwork (h : Host m) (c : Config) (target : Target) (count : Nat) (s : Store) :
    m (Ending × Store) := do
  match LockOptions.ofConfig c.lock with
  | .error error => return (.failed (.settingsRefused error), s)
  | .ok options =>
    let range := c.network.rangeFor target
    let tokens ← h.firstToken
    let session := { Session.start (← h.clock) s with tokens := tokens + 1 }
    let request : SubnetRequest := {
      identifier := { id := token (tokens + 1), name := range.name, target }
      base := range.baseCidr, length := range.subnetLength.toNat, count }
    match session.reserveNetwork options c.allocator.padding.toNat request .never with
    | (.ok network, session) => return (.printed network.toDocument, session.store)
    | (.error error, session) => return (.failed (.failed (.network error)), session.store)

/-- Give a network of the range of a target back. -/
def freeNetwork (c : Config) (target : Target) (cidr : String) (s : Store) : Ending × Store :=
  let network : Network := ⟨{ id := "", name := (c.network.rangeFor target).name, target }, cidr, []⟩
  (.silent, network.giveBack s)

/-- A line of the list of quotas. -/
def quotaLine (s : Store) (l : QuotaLimit) : Document :=
  .table [("scope", l.scope.toDocument), ("kind", l.kind.toDocument),
    ("maximum", .int l.maximum.toInt),
    ("available", .optional .int (Ledger.available l.scope l.kind s))]

/-- Show what is left of the quotas that have a limit. -/
def showQuotas (c : Config) (s : Store) : Ending × Store :=
  let s := Ledger.init c.quotas.toLimits s
  (.printed (.list (c.quotas.toLimits.map (quotaLine s))), s)

/-- Take a quota. -/
def reserveQuota (c : Config) (q : Quota) (s : Store) : Ending × Store :=
  match Ledger.reserve [q] (Ledger.init c.quotas.toLimits s) with
  | (.ok (), s) => (.silent, s)
  | (.error error, s) => (.failed (.failed (.store error)), s)

/-- Give a quota back. -/
def freeQuota (c : Config) (q : Quota) (s : Store) : Ending × Store :=
  (.silent, Ledger.free [q] (Ledger.init c.quotas.toLimits s))

/-- Provision a run on remembered machines and take it down. -/
def provisionDry (h : Host m) (c : Config) (request : ProvisionRequest) (target : Target) :
    m Ending := do
  match dryProvisioner c with
  | .error error => return .failed (.settingsRefused error)
  | .ok (provisioner, store) =>
    let tokens ← h.firstToken
    let session := { Session.start (← h.clock) store with tokens := tokens + 1 }
    match dryRun provisioner ⟨token (tokens + 1), target⟩ request
        ⟨session, .new (some dryReadyAfter)⟩ with
    | .ok run => return .printed run.toDocument
    | .error error => return .failed (.failed error)

/-- Run a command with its settings. -/
def runCommand (h : Host m) (c : Config) : Command → m Ending
  | .plan path target => do
    match ← readDescription h DatabaseTemplate.ofDocument? path with
    | .error error => return .failed error
    | .ok template =>
      let tokens ← h.firstToken
      match dryPlan c template target (token (tokens + 1)) with
      | .ok intent => return .printed intent.toDocument
      | .error error => return .failed (.failed error)
  | .reserveNetwork target count => withStore h c (reserveNetwork h c target count)
  | .freeNetwork target cidr => withStore h c fun s => pure (freeNetwork c target cidr s)
  | .showQuotas => withStore h c fun s => pure (showQuotas c s)
  | .reserveQuota quota => withStore h c fun s => pure (reserveQuota c quota s)
  | .freeQuota quota => withStore h c fun s => pure (freeQuota c quota s)
  | .provision path target dry => do
    if !dry then return .failed (.noMachines target)
    match ← readDescription h ProvisionRequest.ofDocument? path with
    | .error error => return .failed error
    | .ok request => provisionDry h c request target

/-- Run a command line. -/
def run (h : Host m) (args : List String) : m Ending := do
  match Invocation.read args with
  | (_, some invocation) =>
    match ← settings h invocation with
    | .error error => return .failed error
    | .ok c => runCommand h c invocation.command
  | (.informative, none) => return .informed
  | _ => return .misused

end CommandLine

end Testbed
