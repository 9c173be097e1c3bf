import Testbed.Placement.Intent

/-!
What is asked of the provisioner: a run, the database that it is about, and the machine that generates the
load.  A database is either placed from a template or exists already, somewhere else.
-/

namespace Testbed

/-- A run, and where it takes place. -/
structure RunContext where
  runId : String
  target : Target
deriving Repr, Inhabited, DecidableEq

namespace RunContext

def toDocument (r : RunContext) : Document :=
  .table [("run_id", .text r.runId), ("target", r.target.toDocument)]

def ofDocument? : Document → Option RunContext := Document.record? do
  let runId ← Record.field "run_id" Document.text?
  let target ← Record.field "target" Target.ofDocument?
  pure { runId, target }

end RunContext

/-- The database that a run is about. -/
inductive Database where
  /-- A database that is placed for the run. -/
  | placed (template : DatabaseTemplate)
  /-- A database that exists already. -/
  | existing (connectionString : String)
deriving Repr, Inhabited, DecidableEq

namespace Database

/-- How many machines the database of a run needs. -/
def vmCount : Database → Nat
  | .placed template => template.requiredAddresses
  | .existing _ => 0

def ofDocument? : Document → Option Database
  | .table [("template", d)] => (DatabaseTemplate.ofDocument? d).map .placed
  | .table [("connection_string", .text s)] => some (.existing s)
  | _ => none

end Database

/-- What is asked of the provisioner for a run. -/
structure ProvisionRequest where
  database : Database
  /-- The machine that generates load. -/
  loadHardware : Hardware
deriving Repr, Inhabited, DecidableEq

namespace ProvisionRequest

def ofDocument? : Document → Option ProvisionRequest := Document.record? do
  let database ← Record.field "database" Database.ofDocument?
  let loadHardware ← Record.field "stroppy_hardware" Hardware.ofDocument?
  pure { database, loadHardware }

end ProvisionRequest

end Testbed
