import Testbed.Config
import Testbed.Container
import Testbed.Task

/-!
Workers.  Every machine runs one worker, which learns its name and the tasks it may accept from the
environment that the machine is started with.
-/

namespace Testbed

/-- The worker of a machine. -/
structure Worker where
  name : String
  acceptableTasks : List Task
  metadata : Table String
deriving Repr, Inhabited, DecidableEq

namespace Worker

/-- The name of the worker that plays a role in a run. -/
def nameOf (runId role : String) : String := s!"edge-wrk-{role}-{runId}"

/-- The label that holds the role of a worker. -/
def roleLabel : String := "METADATA_ROLE"

/-- What a worker is told about its role. -/
def roleLabels (runId role : String) : List (String × String) :=
  [(roleLabel, role), ("METADATA_RUN_ID", runId)]

/-- The role of the machines that the database runs on. -/
def databaseRole : String := "database"

/-- The role of the machine that generates load. -/
def loadRole : String := "stroppy"

/-- A worker with one new task of each kind.  The tasks' identifiers are drawn from the counter of
tokens. -/
def new (tokens : Nat) (runId role : String) (kinds : List TaskKind) (metadata : Table String) :
    Worker where
  name := nameOf runId role
  acceptableTasks := kinds.zipIdx.map fun (kind, i) => { kind, runId, taskId := token (tokens + i) }
  metadata := metadata

/-- The task of a kind. -/
def task? (w : Worker) (kind : TaskKind) : Option Task := w.acceptableTasks.find? (·.kind = kind)

/-- The environment that a worker is started with. -/
def environment (w : Worker) (o : Config.Orchestration) : Table String :=
  .ofList [("HATCHET_EDGE_WORKER_NAME", w.name),
    ("HATCHET_EDGE_ACCEPTABLE_TASKS", Task.listText w.acceptableTasks),
    ("HATCHET_CLIENT_HOST_PORT", o.hostPort), ("HATCHET_CLIENT_TOKEN", o.token),
    ("HATCHET_CLIENT_TLS_STRATEGY", o.tlsStrategy), ("LOG_LEVEL", o.logLevel)]

def toDocument (w : Worker) : Document :=
  .table [("name", .text w.name), ("acceptable_tasks", .list (w.acceptableTasks.map Task.toDocument)),
    ("metadata", w.metadata.toDocument)]

def ofDocument? : Document → Option Worker := Document.record? do
  let name ← Record.field "name" Document.text?
  let acceptableTasks ← Record.field "acceptable_tasks" (Document.list? Task.ofDocument?)
  let metadata ← Record.field "metadata" (Document.entries? Document.text?)
  pure { name, acceptableTasks, metadata }

end Worker

end Testbed
