import Testbed.Document.Record
import Testbed.Identity
import Testbed.Text.Quoted
import Testbed.Text.Split

/-!
Tasks that a worker may accept.  A task is written as its kind, the run it belongs to and an identifier
of its own, with dashes between; a list of tasks is written with semicolons between.  Reading splits at
the first two dashes, so a run's name with a dash in it does not survive, while the last part may hold
anything but a semicolon.
-/

namespace Testbed

/-- What a worker can do. -/
inductive TaskKind where
  | setupContainers
  | installStroppy
  | runStroppy
deriving Repr, Inhabited, DecidableEq

/-- Why a text is no task. -/
inductive TaskError where
  | unknownKind (text : String)
  | malformed (text : String)
deriving Repr, Inhabited, DecidableEq

/-- The wording of an error. -/
def TaskError.message : TaskError → String
  | .unknownKind text => s!"unknown task kind {Text.quote text}"
  | .malformed text => s!"invalid edge task string {Text.quote text}"

namespace TaskKind

/-- All kinds. -/
def all : List TaskKind := [.setupContainers, .installStroppy, .runStroppy]

/-- The written form of a kind. -/
def text : TaskKind → String
  | .setupContainers => "setup_containers"
  | .installStroppy => "install_stroppy"
  | .runStroppy => "run_stroppy"

/-- The name of a kind in documents. -/
def name : TaskKind → String
  | .setupContainers => "SETUP_CONTAINERS"
  | .installStroppy => "INSTALL_STROPPY"
  | .runStroppy => "RUN_STROPPY"

/-- The kind of a name in documents. -/
def ofName? : String → Option TaskKind
  | "SETUP_CONTAINERS" => some .setupContainers
  | "INSTALL_STROPPY" => some .installStroppy
  | "RUN_STROPPY" => some .runStroppy
  | _ => none

/-- Read a kind; the case of its letters does not matter. -/
def parse (cs : List Char) : Except TaskError TaskKind :=
  let lower := cs.map Char.toLower
  match all.find? fun kind => kind.text.toList = lower with
  | some kind => .ok kind
  | none => .error (.unknownKind (String.ofList lower))

def toDocument (k : TaskKind) : Document := .text k.name

def ofDocument? : Document → Option TaskKind := Document.name? ofName?

end TaskKind

/-- A task of a run. -/
structure Task where
  kind : TaskKind
  runId : String
  taskId : String
deriving Repr, Inhabited, DecidableEq

namespace Task

/-- The characters of a task's written form. -/
def chars (t : Task) : List Char :=
  t.kind.text.toList ++ '-' :: t.runId.toList ++ '-' :: t.taskId.toList

/-- The written form of a task. -/
def text (t : Task) : String := String.ofList t.chars

/-- Read a task. -/
def parse (cs : List Char) : Except TaskError Task :=
  match Text.cutAt '-' cs with
  | (kind, some rest) =>
    match Text.cutAt '-' rest with
    | (runId, some taskId) =>
      if runId.isEmpty || taskId.isEmpty then .error (.malformed (String.ofList cs))
      else do
        let kind ← TaskKind.parse kind
        pure { kind, runId := String.ofList runId, taskId := String.ofList taskId }
    | (_, none) => .error (.malformed (String.ofList cs))
  | (_, none) => .error (.malformed (String.ofList cs))

/-- The written form of a list of tasks. -/
def listText (tasks : List Task) : String := String.ofList (List.intercalate [';'] (tasks.map chars))

/-- Read a list of tasks; no text is no tasks. -/
def parseList (s : String) : Except TaskError (List Task) :=
  if s.toList.isEmpty then .ok [] else (Text.splitAt ';' s.toList).mapM parse

def toDocument (t : Task) : Document :=
  .table [("kind", t.kind.toDocument), ("run_id", .text t.runId), ("task_id", .text t.taskId)]

def ofDocument? : Document → Option Task := Document.record? do
  let kind ← Record.field "kind" TaskKind.ofDocument?
  let runId ← Record.field "run_id" Document.text?
  let taskId ← Record.field "task_id" Document.text?
  pure { kind, runId, taskId }

end Task

end Testbed
