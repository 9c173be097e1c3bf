import Testbed.Template.Picodata
import Testbed.Template.Postgres

/-!
Containers.  A container has one shape for all roles; what it runs is its `Runtime`.  This module holds
the well-known images, ports and labels, and builds the containers that do not depend on a topology.
-/

namespace Testbed

/-- A port that a container listens on. -/
structure ContainerPort where
  name : String
  containerPort : UInt16
deriving Repr, Inhabited, DecidableEq

/-- A volume that is mounted into a container. -/
structure VolumeMount where
  name : String
  mountPath : String
deriving Repr, Inhabited, DecidableEq

/-- The part that a Postgres server plays. -/
inductive PostgresRole where
  | master
  | replica
deriving Repr, Inhabited, DecidableEq

namespace PostgresRole

def name : PostgresRole → String
  | .master => "master"
  | .replica => "replica"

def ofName? : String → Option PostgresRole
  | "master" => some .master
  | "replica" => some .replica
  | _ => none

end PostgresRole

/-- What an exporter watches. -/
inductive ExporterKind where
  | node
  | postgres
  | pgbouncer
deriving Repr, Inhabited, DecidableEq

namespace ExporterKind

def name : ExporterKind → String
  | .node => "node"
  | .postgres => "postgres"
  | .pgbouncer => "pgbouncer"

def ofName? : String → Option ExporterKind
  | "node" => some .node
  | "postgres" => some .postgres
  | "pgbouncer" => some .pgbouncer
  | _ => none

end ExporterKind

/-- What a container runs. -/
inductive Runtime where
  | postgres (role : PostgresRole) (replicaIndex : UInt32) (settings : PostgresSettings)
  | picodata (nodeIndex : UInt32) (settings : PicodataSettings)
  | etcd (memberIndex clusterSize : UInt32) (clientPort peerPort : UInt16)
  | pgbouncer (poolSize : UInt32) (poolMode : PoolMode) (maxClientConn : Option UInt32)
      (port : UInt16)
  | exporter (kind : ExporterKind) (port : UInt16) (customQueriesPaths : List String)
  | backup (config : BackupConfig)
deriving Repr, Inhabited, DecidableEq

/-- A container of an item. -/
structure Container where
  id : String
  name : String
  image : String
  command : List String
  args : List String
  env : Table String
  ports : List ContainerPort
  volumes : List VolumeMount
  metadata : Table String
  /-- Whether monitoring reads from it. -/
  monitor : Bool
  runtime : Runtime
deriving Repr, Inhabited, DecidableEq

namespace Image

def postgresRepository : String := "postgres"
def etcd : String := "quay.io/coreos/etcd:v3.5.17"
def pgbouncer : String := "edoburu/pgbouncer:latest"
def nodeExporter : String := "prom/node-exporter:latest"
def postgresExporter : String := "prometheuscommunity/postgres-exporter:latest"
def pgbouncerExporter : String := "quay.io/prometheuscommunity/pgbouncer-exporter:latest"
def picodata : String := "docker.binary.picodata.io/picodata:latest"

end Image

namespace Port

def postgres : UInt16 := 5432
def patroniApi : UInt16 := 8008
def pgbouncer : UInt16 := 6432
def etcdClient : UInt16 := 2379
def etcdPeer : UInt16 := 2380
def nodeExporter : UInt16 := 9100
def postgresExporter : UInt16 := 9187
def pgbouncerExporter : UInt16 := 9127
def picodataPg : UInt16 := 4327
def picodataIproto : UInt16 := 3301
def picodataHttp : UInt16 := 8081

end Port

namespace Label

/-- The address of the item that a container belongs to. -/
def address : String := "docker.network.ipv4"

/-- The name of the item that a container belongs to. -/
def item : String := "docker.placement.node"

/-- The logical name of a container. -/
def logicalName : String := "docker.logical_name"

end Label

namespace Container

/-- A container that is known by its name and has nothing set up yet. -/
def new (name image : String) (runtime : Runtime) : Container where
  id := name
  name := name
  image := image
  command := []
  args := []
  env := .empty
  ports := []
  volumes := []
  metadata := .empty
  monitor := false
  runtime := runtime

/-- Listen on one more port. -/
def withPort (c : Container) (name : String) (port : UInt16) : Container :=
  { c with ports := c.ports ++ [⟨name, port⟩] }

/-- Mount one more volume. -/
def withVolume (c : Container) (name mountPath : String) : Container :=
  { c with volumes := c.volumes ++ [⟨name, mountPath⟩] }

/-- Set an environment variable. -/
def withEnv (c : Container) (key value : String) : Container :=
  { c with env := c.env.insert key value }

/-- Set several environment variables from left to right. -/
def withEnvs (c : Container) (entries : List (String × String)) : Container :=
  { c with env := c.env.insertAll entries }

/-- Append arguments. -/
def withArgs (c : Container) (args : List String) : Container :=
  { c with args := c.args ++ args }

/-- Say whether monitoring reads from the container. -/
def monitored (c : Container) (monitor : Bool) : Container := { c with monitor }

/-- The name by which others know the container. -/
def logicalName (c : Container) : String :=
  if c.name ≠ "" then c.name else if c.id ≠ "" then c.id else "container"

/-- Watches the machine that an item runs on. -/
def nodeExporter (suffix : String) (port : Option UInt16) : Container :=
  let port := port.getD Port.nodeExporter
  ((new s!"node-exporter-{suffix}" Image.nodeExporter (.exporter .node port [])).withPort
    "metrics" port).monitored true

/-- Watches a Postgres server. -/
def postgresExporter (suffix : String) (port : Option UInt16) (paths : List String) : Container :=
  let port := port.getD Port.postgresExporter
  let container := ((new s!"postgres-exporter-{suffix}" Image.postgresExporter
    (.exporter .postgres port paths)).withPort "metrics" port).monitored true
  if paths.isEmpty then container
  else container.withEnv "PG_EXPORTER_EXTEND_QUERY_PATH" (",".intercalate paths)

/-- Watches a connection pooler. -/
def pgbouncerExporter (suffix : String) : Container :=
  ((new s!"pgbouncer-exporter-{suffix}" Image.pgbouncerExporter
    (.exporter .pgbouncer Port.pgbouncerExporter [])).withPort
      "metrics" Port.pgbouncerExporter).monitored true

/-- Makes backups.  The agent runs from the image of the server that it backs up, so that their tools
agree. -/
def backupAgent (name image : String) (config : BackupConfig) : Container :=
  let container := (new name image (.backup config)).withEnvs
    [("BACKUP_SCHEDULE", config.schedule), ("BACKUP_RETENTION", toString config.retention.toNat),
      ("BACKUP_TOOL", config.tool.program)]
  match config.storage with
  | .localDirectory path =>
    (container.withEnv "BACKUP_LOCAL_PATH" path).withVolume s!"{name}-data" path
  | .objectStore bucket endpoint folder =>
    container.withEnvs [("BACKUP_S3_BUCKET", bucket), ("BACKUP_S3_ENDPOINT", endpoint),
      ("BACKUP_S3_PREFIX", folder)]

/-- Parameters as repeated arguments, in key order. -/
def confArgs (flag : String) (conf : Table String) : List String :=
  conf.entries.flatMap fun (key, value) => [flag, s!"{key}={value}"]

end Container

/-! ### Documents -/

namespace ContainerPort

def toDocument (p : ContainerPort) : Document :=
  .table [("name", .text p.name), ("container_port", .nat p.containerPort.toNat)]

def ofDocument? : Document → Option ContainerPort := Document.record? do
  let name ← Record.field "name" Document.text?
  let containerPort ← Record.field "container_port" Document.uint16?
  pure { name, containerPort }

end ContainerPort

namespace VolumeMount

def toDocument (v : VolumeMount) : Document :=
  .table [("name", .text v.name), ("mount_path", .text v.mountPath)]

def ofDocument? : Document → Option VolumeMount := Document.record? do
  let name ← Record.field "name" Document.text?
  let mountPath ← Record.field "mount_path" Document.text?
  pure { name, mountPath }

end VolumeMount

namespace Runtime

def toDocument : Runtime → Document
  | .postgres role replicaIndex settings =>
    .table [("type", .text "postgres"), ("role", .text role.name),
      ("replica_index", .nat replicaIndex.toNat), ("settings", settings.toDocument)]
  | .picodata nodeIndex settings =>
    .table [("type", .text "picodata"), ("node_index", .nat nodeIndex.toNat),
      ("settings", settings.toDocument)]
  | .etcd memberIndex clusterSize clientPort peerPort =>
    .table [("type", .text "etcd"), ("member_index", .nat memberIndex.toNat),
      ("cluster_size", .nat clusterSize.toNat), ("client_port", .nat clientPort.toNat),
      ("peer_port", .nat peerPort.toNat)]
  | .pgbouncer poolSize poolMode maxClientConn port =>
    .table [("type", .text "pgbouncer"), ("pool_size", .nat poolSize.toNat),
      ("pool_mode", .text poolMode.name),
      ("max_client_conn", .optional (fun n => .nat n.toNat) maxClientConn),
      ("port", .nat port.toNat)]
  | .exporter kind port paths =>
    .table [("type", .text "exporter"), ("kind", .text kind.name), ("port", .nat port.toNat),
      ("custom_queries_paths", .texts paths)]
  | .backup config => .table [("type", .text "backup"), ("config", config.toDocument)]

def ofDocument? : Document → Option Runtime := Document.variant? "type" fun
  | "postgres" => Document.record? do
    let role ← Record.field "role" (Document.innerName? PostgresRole.ofName?)
    let replicaIndex ← Record.field "replica_index" Document.uint32?
    let settings ← Record.field "settings" PostgresSettings.ofDocument?
    pure (.postgres role replicaIndex settings)
  | "picodata" => Document.record? do
    let nodeIndex ← Record.field "node_index" Document.uint32?
    let settings ← Record.field "settings" PicodataSettings.ofDocument?
    pure (.picodata nodeIndex settings)
  | "etcd" => Document.record? do
    let memberIndex ← Record.field "member_index" Document.uint32?
    let clusterSize ← Record.field "cluster_size" Document.uint32?
    let clientPort ← Record.field "client_port" Document.uint16?
    let peerPort ← Record.field "peer_port" Document.uint16?
    pure (.etcd memberIndex clusterSize clientPort peerPort)
  | "pgbouncer" => Document.record? do
    let poolSize ← Record.field "pool_size" Document.uint32?
    let poolMode ← Record.field "pool_mode" (Document.innerName? PoolMode.ofName?)
    let maxClientConn ← Record.nullableField "max_client_conn" Document.uint32?
    let port ← Record.field "port" Document.uint16?
    pure (.pgbouncer poolSize poolMode maxClientConn port)
  | "exporter" => Document.record? do
    let kind ← Record.field "kind" (Document.innerName? ExporterKind.ofName?)
    let port ← Record.field "port" Document.uint16?
    let paths ← Record.field "custom_queries_paths" (Document.list? Document.text?)
    pure (.exporter kind port paths)
  | "backup" => Document.record? do
    let config ← Record.field "config" BackupConfig.ofDocument?
    pure (.backup config)
  | _ => fun _ => none

end Runtime

namespace Container

def toDocument (c : Container) : Document :=
  .table [("id", .text c.id), ("name", .text c.name), ("image", .text c.image),
    ("command", .texts c.command), ("args", .texts c.args), ("env", c.env.toDocument),
    ("ports", .list (c.ports.map ContainerPort.toDocument)),
    ("volumes", .list (c.volumes.map VolumeMount.toDocument)),
    ("metadata", c.metadata.toDocument), ("monitor", .bool c.monitor),
    ("runtime", c.runtime.toDocument)]

def ofDocument? : Document → Option Container := Document.record? do
  let id ← Record.field "id" Document.text?
  let name ← Record.field "name" Document.text?
  let image ← Record.field "image" Document.text?
  let command ← Record.field "command" (Document.list? Document.text?)
  let args ← Record.field "args" (Document.list? Document.text?)
  let env ← Record.field "env" (Document.entries? Document.text?)
  let ports ← Record.field "ports" (Document.list? ContainerPort.ofDocument?)
  let volumes ← Record.field "volumes" (Document.list? VolumeMount.ofDocument?)
  let metadata ← Record.field "metadata" (Document.entries? Document.text?)
  let monitor ← Record.field "monitor" Document.bool?
  let runtime ← Record.field "runtime" Runtime.ofDocument?
  pure { id, name, image, command, args, env, ports, volumes, metadata, monitor, runtime }

end Container

end Testbed
