import Testbed.Document.Record

/-!
Backups: when they run, how many are kept, which tool makes them and where they go.
-/

namespace Testbed

/-- The tool that makes backups. -/
inductive BackupTool where
  | walG
  | pgBackRest
deriving Repr, Inhabited, DecidableEq

namespace BackupTool

/-- The name of a tool in a template. -/
def name : BackupTool → String
  | .walG => "wal_g"
  | .pgBackRest => "pg_back_rest"

/-- The program that a tool runs. -/
def program : BackupTool → String
  | .walG => "wal-g"
  | .pgBackRest => "pgbackrest"

/-- The tool of a name. -/
def ofName? : String → Option BackupTool
  | "wal_g" => some .walG
  | "pg_back_rest" => some .pgBackRest
  | _ => none

end BackupTool

/-- Where backups go. -/
inductive BackupStorage where
  /-- A directory of the machine. -/
  | localDirectory (path : String)
  /-- A bucket of an object store; `folder` is put in front of every object's name. -/
  | objectStore (bucket endpoint folder : String)
deriving Repr, Inhabited, DecidableEq

namespace BackupStorage

def toDocument : BackupStorage → Document
  | .localDirectory path => .table [("type", .text "local"), ("path", .text path)]
  | .objectStore bucket endpoint folder =>
    .table [("type", .text "s3"), ("bucket", .text bucket), ("endpoint", .text endpoint),
      ("prefix", .text folder)]

def ofDocument? : Document → Option BackupStorage :=
    Document.innerVariant? "type" ["local", "s3"] fun
  | "local" => Document.record? do
    let path ← Record.field "path" Document.text?
    pure (.localDirectory path)
  | "s3" => Document.record? do
    let bucket ← Record.field "bucket" Document.text?
    let endpoint ← Record.field "endpoint" Document.text?
    let folder ← Record.field "prefix" Document.text?
    pure (.objectStore bucket endpoint folder)
  | _ => fun _ => none

end BackupStorage

/-- How backups are made. -/
structure BackupConfig where
  schedule : String
  /-- How many backups are kept. -/
  retention : UInt32
  tool : BackupTool
  storage : BackupStorage
deriving Repr, Inhabited, DecidableEq

namespace BackupConfig

/-- The fields of a backup's document. -/
def fields (c : BackupConfig) : List (String × Document) :=
  [("schedule", .text c.schedule), ("retention", .nat c.retention.toNat),
    ("tool", .text c.tool.name), ("storage", c.storage.toDocument)]

def toDocument (c : BackupConfig) : Document := .table c.fields

/-- Read a backup; seven backups are kept unless the template says otherwise. -/
def ofDocument? : Document → Option BackupConfig := Document.record? do
  let schedule ← Record.field "schedule" Document.text?
  let retention ← Record.fieldWith 7 "retention" Document.uint32?
  let tool ← Record.fieldWith .walG "tool" (Document.innerName? BackupTool.ofName?)
  let storage ← Record.field "storage" BackupStorage.ofDocument?
  pure { schedule, retention, tool, storage }

end BackupConfig

end Testbed
