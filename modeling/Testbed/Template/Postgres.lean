import Testbed.Hardware
import Testbed.Template.Backup

/-!
Templates of Postgres databases: a single instance with sidecars, or a cluster of a master and its
replicas with addons.  An addon runs next to existing nodes or on nodes of its own.
-/

namespace Testbed

/-- Which nodes of a cluster an addon runs next to. -/
inductive PlacementScope where
  | master
  | replicas
  | allNodes
  /-- One replica, which must be named by its index. -/
  | replica
deriving Repr, Inhabited, DecidableEq

namespace PlacementScope

def name : PlacementScope → String
  | .master => "master"
  | .replicas => "replicas"
  | .allNodes => "all_nodes"
  | .replica => "replica"

def ofName? : String → Option PlacementScope
  | "master" => some .master
  | "replicas" => some .replicas
  | "all_nodes" => some .allNodes
  | "replica" => some .replica
  | _ => none

end PlacementScope

/-- Where an addon runs. -/
inductive AddonPlacement where
  /-- Next to existing nodes. -/
  | colocate (scope : PlacementScope) (replicaIndex : Option UInt32)
  /-- On nodes of its own. -/
  | dedicated (instancesCount : UInt32) (hardware : Option Hardware)
deriving Repr, Inhabited, DecidableEq

namespace AddonPlacement

def toDocument : AddonPlacement → Document
  | .colocate scope replicaIndex =>
    .table [("mode", .text "colocate"), ("scope", .text scope.name),
      ("replica_index", .optional (fun n => .nat n.toNat) replicaIndex)]
  | .dedicated instancesCount hardware =>
    .table [("mode", .text "dedicated"), ("instances_count", .nat instancesCount.toNat),
      ("hardware", .optional Hardware.toDocument hardware)]

def ofDocument? : Document → Option AddonPlacement :=
    Document.innerVariant? "mode" ["colocate", "dedicated"] fun
  | "colocate" => Document.record? do
    let scope ← Record.field "scope" (Document.innerName? PlacementScope.ofName?)
    let replicaIndex ← Record.maybe "replica_index" Document.uint32?
    pure (.colocate scope replicaIndex)
  | "dedicated" => Document.record? do
    let instancesCount ← Record.field "instances_count" Document.uint32?
    let hardware ← Record.maybe "hardware" Hardware.ofDocument?
    pure (.dedicated instancesCount hardware)
  | _ => fun _ => none

end AddonPlacement

/-- The storage engine of a Postgres server. -/
inductive StorageEngine where
  | heap
  | orioledb
deriving Repr, Inhabited, DecidableEq

namespace StorageEngine

def name : StorageEngine → String
  | .heap => "heap"
  | .orioledb => "orioledb"

def ofName? : String → Option StorageEngine
  | "heap" => some .heap
  | "orioledb" => some .orioledb
  | _ => none

end StorageEngine

/-- The settings of a Postgres server. -/
structure PostgresSettings where
  version : UInt32
  storageEngine : StorageEngine
  /-- Whether Patroni manages the server; it needs an etcd addon. -/
  patroni : Bool
  /-- Server parameters. -/
  conf : Table String
deriving Repr, DecidableEq

namespace PostgresSettings

/-- The settings of a template that gives none. -/
def default : PostgresSettings := ⟨17, .heap, false, .empty⟩

instance : Inhabited PostgresSettings := ⟨default⟩

def toDocument (s : PostgresSettings) : Document :=
  .table [("version", .nat s.version.toNat), ("storage_engine", .text s.storageEngine.name),
    ("patroni", .table [("enabled", .bool s.patroni)]),
    ("postgresql_conf", .table (s.conf.entries.map fun e => (e.1, .text e.2)))]

def ofDocument? : Document → Option PostgresSettings := Document.record? do
  let version ← Record.fieldWith 17 "version" Document.uint32?
  let storageEngine ←
    Record.fieldWith .heap "storage_engine" (Document.innerName? StorageEngine.ofName?)
  let patroni ← Record.fieldWith false "patroni"
    (Document.record? (Record.fieldWith false "enabled" Document.bool?))
  let conf ← Record.fieldWith .empty "postgresql_conf" (Document.entries? Document.text?)
  pure { version, storageEngine, patroni, conf }

end PostgresSettings

/-- What runs beside a single Postgres server. -/
inductive PostgresSidecar where
  | nodeExporter (port : Option UInt16)
  | postgresExporter (port : Option UInt16) (customQueriesPaths : List String)
  | backup (config : BackupConfig)
deriving Repr, Inhabited, DecidableEq

namespace PostgresSidecar

def toDocument : PostgresSidecar → Document
  | .nodeExporter port =>
    .table [("type", .text "node_exporter"), ("port", .optional (fun n => .nat n.toNat) port)]
  | .postgresExporter port paths =>
    .table [("type", .text "postgres_exporter"), ("port", .optional (fun n => .nat n.toNat) port),
      ("custom_queries_paths", .texts paths)]
  | .backup config => .table (("type", .text "backup") :: config.fields)

def ofDocument? : Document → Option PostgresSidecar :=
    Document.innerVariant? "type" ["node_exporter", "postgres_exporter", "backup"] fun
  | "node_exporter" => Document.record? do
    let port ← Record.maybe "port" Document.uint16?
    pure (.nodeExporter port)
  | "postgres_exporter" => Document.record? do
    let port ← Record.maybe "port" Document.uint16?
    let paths ← Record.fieldWith [] "custom_queries_paths" (Document.list? Document.text?)
    pure (.postgresExporter port paths)
  | "backup" => fun d => (BackupConfig.ofDocument? d).map .backup
  | _ => fun _ => none

end PostgresSidecar

/-- A single Postgres server. -/
structure PostgresInstance where
  settings : PostgresSettings
  hardware : Option Hardware
  sidecars : List PostgresSidecar
deriving Repr, Inhabited, DecidableEq

namespace PostgresInstance

def fields (t : PostgresInstance) : List (String × Document) :=
  [("settings", t.settings.toDocument), ("hardware", .optional Hardware.toDocument t.hardware),
    ("sidecars", .list (t.sidecars.map PostgresSidecar.toDocument))]

def ofDocument? : Document → Option PostgresInstance := Document.record? do
  let settings ← Record.fieldWith .default "settings" PostgresSettings.ofDocument?
  let hardware ← Record.maybe "hardware" Hardware.ofDocument?
  let sidecars ← Record.fieldWith [] "sidecars" (Document.list? PostgresSidecar.ofDocument?)
  pure { settings, hardware, sidecars }

end PostgresInstance

/-- The nodes of a Postgres cluster. -/
structure PostgresTopology where
  settings : PostgresSettings
  masterHardware : Option Hardware
  replicaHardware : Option Hardware
  replicasCount : UInt32
  /-- Whether exporters run on every node. -/
  monitor : Bool
deriving Repr, Inhabited, DecidableEq

namespace PostgresTopology

def toDocument (t : PostgresTopology) : Document :=
  .table [("settings", t.settings.toDocument),
    ("master_hardware", .optional Hardware.toDocument t.masterHardware),
    ("replica_hardware", .optional Hardware.toDocument t.replicaHardware),
    ("replicas_count", .nat t.replicasCount.toNat), ("monitor", .bool t.monitor)]

def ofDocument? : Document → Option PostgresTopology := Document.record? do
  let settings ← Record.fieldWith .default "settings" PostgresSettings.ofDocument?
  let masterHardware ← Record.maybe "master_hardware" Hardware.ofDocument?
  let replicaHardware ← Record.maybe "replica_hardware" Hardware.ofDocument?
  let replicasCount ← Record.fieldWith 0 "replicas_count" Document.uint32?
  let monitor ← Record.fieldWith false "monitor" Document.bool?
  pure { settings, masterHardware, replicaHardware, replicasCount, monitor }

end PostgresTopology

/-- What is different about one replica. -/
structure ReplicaOverride where
  replicaIndex : UInt32
  hardware : Option Hardware
  settings : Option PostgresSettings
deriving Repr, Inhabited, DecidableEq

namespace ReplicaOverride

def toDocument (o : ReplicaOverride) : Document :=
  .table [("replica_index", .nat o.replicaIndex.toNat),
    ("hardware", .optional Hardware.toDocument o.hardware),
    ("settings", .optional PostgresSettings.toDocument o.settings)]

def ofDocument? : Document → Option ReplicaOverride := Document.record? do
  let replicaIndex ← Record.field "replica_index" Document.uint32?
  let hardware ← Record.maybe "hardware" Hardware.ofDocument?
  let settings ← Record.maybe "settings" PostgresSettings.ofDocument?
  pure { replicaIndex, hardware, settings }

end ReplicaOverride

/-- The configuration store that Patroni needs. -/
structure EtcdAddon where
  /-- How many members are expected; zero expects as many as the placement yields. -/
  size : UInt32
  placement : Option AddonPlacement
  clientPort : Option UInt16
  monitor : Bool
deriving Repr, Inhabited, DecidableEq

namespace EtcdAddon

def toDocument (a : EtcdAddon) : Document :=
  .table [("size", .nat a.size.toNat),
    ("placement", .optional AddonPlacement.toDocument a.placement),
    ("client_port", .optional (fun n => .nat n.toNat) a.clientPort), ("monitor", .bool a.monitor)]

def ofDocument? : Document → Option EtcdAddon := Document.record? do
  let size ← Record.fieldWith 0 "size" Document.uint32?
  let placement ← Record.maybe "placement" AddonPlacement.ofDocument?
  let clientPort ← Record.maybe "client_port" Document.uint16?
  let monitor ← Record.fieldWith false "monitor" Document.bool?
  pure { size, placement, clientPort, monitor }

end EtcdAddon

/-- When a pooled connection goes back to the pool. -/
inductive PoolMode where
  | session
  | transaction
  | statement
deriving Repr, Inhabited, DecidableEq

namespace PoolMode

def name : PoolMode → String
  | .session => "session"
  | .transaction => "transaction"
  | .statement => "statement"

def ofName? : String → Option PoolMode
  | "session" => some .session
  | "transaction" => some .transaction
  | "statement" => some .statement
  | _ => none

end PoolMode

/-- The connection pooler. -/
structure PgbouncerAddon where
  enabled : Bool
  poolSize : UInt32
  poolMode : PoolMode
  maxClientConn : Option UInt32
  port : Option UInt16
  placement : Option AddonPlacement
  monitor : Bool
deriving Repr, Inhabited, DecidableEq

namespace PgbouncerAddon

def toDocument (a : PgbouncerAddon) : Document :=
  .table [("enabled", .bool a.enabled), ("pool_size", .nat a.poolSize.toNat),
    ("pool_mode", .text a.poolMode.name),
    ("max_client_conn", .optional (fun n => .nat n.toNat) a.maxClientConn),
    ("port", .optional (fun n => .nat n.toNat) a.port),
    ("placement", .optional AddonPlacement.toDocument a.placement), ("monitor", .bool a.monitor)]

def ofDocument? : Document → Option PgbouncerAddon := Document.record? do
  let enabled ← Record.fieldWith false "enabled" Document.bool?
  let poolSize ← Record.fieldWith 20 "pool_size" Document.uint32?
  let poolMode ← Record.fieldWith .transaction "pool_mode" (Document.innerName? PoolMode.ofName?)
  let maxClientConn ← Record.maybe "max_client_conn" Document.uint32?
  let port ← Record.maybe "port" Document.uint16?
  let placement ← Record.maybe "placement" AddonPlacement.ofDocument?
  let monitor ← Record.fieldWith false "monitor" Document.bool?
  pure { enabled, poolSize, poolMode, maxClientConn, port, placement, monitor }

end PgbouncerAddon

/-- Backups of the nodes of a cluster. -/
structure BackupAddon where
  enabled : Bool
  scope : Option PlacementScope
  replicaIndex : Option UInt32
  config : Option BackupConfig
deriving Repr, Inhabited, DecidableEq

namespace BackupAddon

def toDocument (a : BackupAddon) : Document :=
  .table [("enabled", .bool a.enabled), ("scope", .optional (fun s => .text s.name) a.scope),
    ("replica_index", .optional (fun n => .nat n.toNat) a.replicaIndex),
    ("config", .optional BackupConfig.toDocument a.config)]

def ofDocument? : Document → Option BackupAddon := Document.record? do
  let enabled ← Record.fieldWith false "enabled" Document.bool?
  let scope ← Record.maybe "scope" (Document.innerName? PlacementScope.ofName?)
  let replicaIndex ← Record.maybe "replica_index" Document.uint32?
  let config ← Record.maybe "config" BackupConfig.ofDocument?
  pure { enabled, scope, replicaIndex, config }

end BackupAddon

/-- What a Postgres cluster has besides its nodes. -/
structure PostgresAddons where
  etcd : Option EtcdAddon
  pgbouncer : Option PgbouncerAddon
  backup : Option BackupAddon
deriving Repr, Inhabited, DecidableEq

namespace PostgresAddons

def toDocument (a : PostgresAddons) : Document :=
  .table [("etcd", .optional EtcdAddon.toDocument a.etcd),
    ("pgbouncer", .optional PgbouncerAddon.toDocument a.pgbouncer),
    ("backup", .optional BackupAddon.toDocument a.backup)]

def ofDocument? : Document → Option PostgresAddons := Document.record? do
  let etcd ← Record.maybe "etcd" EtcdAddon.ofDocument?
  let pgbouncer ← Record.maybe "pgbouncer" PgbouncerAddon.ofDocument?
  let backup ← Record.maybe "backup" BackupAddon.ofDocument?
  pure { etcd, pgbouncer, backup }

end PostgresAddons

/-- A Postgres cluster. -/
structure PostgresCluster where
  topology : Option PostgresTopology
  replicaOverrides : List ReplicaOverride
  addons : PostgresAddons
deriving Repr, Inhabited, DecidableEq

namespace PostgresCluster

def fields (t : PostgresCluster) : List (String × Document) :=
  [("topology", .optional PostgresTopology.toDocument t.topology),
    ("replica_overrides", .list (t.replicaOverrides.map ReplicaOverride.toDocument)),
    ("addons", t.addons.toDocument)]

def ofDocument? : Document → Option PostgresCluster := Document.record? do
  let topology ← Record.maybe "topology" PostgresTopology.ofDocument?
  let replicaOverrides ←
    Record.fieldWith [] "replica_overrides" (Document.list? ReplicaOverride.ofDocument?)
  let addons ← Record.fieldWith ⟨none, none, none⟩ "addons" PostgresAddons.ofDocument?
  pure { topology, replicaOverrides, addons }

end PostgresCluster

end Testbed
