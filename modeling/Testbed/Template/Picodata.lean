import Testbed.Hardware
import Testbed.Template.Backup

/-!
Templates of Picodata databases: a single instance with sidecars, or a cluster of equal nodes.
-/

namespace Testbed

/-- The settings of a Picodata node. -/
structure PicodataSettings where
  /-- Node parameters. -/
  conf : Table String
deriving Repr, Inhabited, DecidableEq

namespace PicodataSettings

def toDocument (s : PicodataSettings) : Document :=
  .table [("picodata_conf", .table (s.conf.entries.map fun e => (e.1, .text e.2)))]

def ofDocument? : Document → Option PicodataSettings := Document.record? do
  let conf ← Record.fieldWith .empty "picodata_conf" (Document.entries? Document.text?)
  pure { conf }

end PicodataSettings

/-- What runs beside a single Picodata node. -/
inductive PicodataSidecar where
  | nodeExporter (port : Option UInt16)
  | httpMetrics (port : Option UInt16)
  | backup (config : BackupConfig)
deriving Repr, Inhabited, DecidableEq

namespace PicodataSidecar

def toDocument : PicodataSidecar → Document
  | .nodeExporter port =>
    .table [("type", .text "node_exporter"), ("port", .optional (fun n => .nat n.toNat) port)]
  | .httpMetrics port =>
    .table [("type", .text "http_metrics"), ("port", .optional (fun n => .nat n.toNat) port)]
  | .backup config => .table (("type", .text "backup") :: config.fields)

def ofDocument? : Document → Option PicodataSidecar :=
    Document.innerVariant? "type" ["node_exporter", "http_metrics", "backup"] fun
  | "node_exporter" => Document.record? do
    let port ← Record.maybe "port" Document.uint16?
    pure (.nodeExporter port)
  | "http_metrics" => Document.record? do
    let port ← Record.maybe "port" Document.uint16?
    pure (.httpMetrics port)
  | "backup" => fun d => (BackupConfig.ofDocument? d).map .backup
  | _ => fun _ => none

end PicodataSidecar

/-- A single Picodata node. -/
structure PicodataInstance where
  settings : PicodataSettings
  hardware : Option Hardware
  sidecars : List PicodataSidecar
deriving Repr, Inhabited, DecidableEq

namespace PicodataInstance

def fields (t : PicodataInstance) : List (String × Document) :=
  [("settings", t.settings.toDocument), ("hardware", .optional Hardware.toDocument t.hardware),
    ("sidecars", .list (t.sidecars.map PicodataSidecar.toDocument))]

def ofDocument? : Document → Option PicodataInstance := Document.record? do
  let settings ← Record.fieldWith ⟨.empty⟩ "settings" PicodataSettings.ofDocument?
  let hardware ← Record.maybe "hardware" Hardware.ofDocument?
  let sidecars ← Record.fieldWith [] "sidecars" (Document.list? PicodataSidecar.ofDocument?)
  pure { settings, hardware, sidecars }

end PicodataInstance

/-- The nodes of a Picodata cluster. -/
structure PicodataTopology where
  nodesCount : UInt32
  nodeHardware : Option Hardware
  settings : PicodataSettings
  /-- Whether every node is watched. -/
  monitor : Bool
deriving Repr, Inhabited, DecidableEq

namespace PicodataTopology

def toDocument (t : PicodataTopology) : Document :=
  .table [("nodes_count", .nat t.nodesCount.toNat),
    ("node_hardware", .optional Hardware.toDocument t.nodeHardware),
    ("settings", t.settings.toDocument), ("monitor", .bool t.monitor)]

def ofDocument? : Document → Option PicodataTopology := Document.record? do
  let nodesCount ← Record.field "nodes_count" Document.uint32?
  let nodeHardware ← Record.maybe "node_hardware" Hardware.ofDocument?
  let settings ← Record.fieldWith ⟨.empty⟩ "settings" PicodataSettings.ofDocument?
  let monitor ← Record.fieldWith false "monitor" Document.bool?
  pure { nodesCount, nodeHardware, settings, monitor }

end PicodataTopology

/-- What is different about one node. -/
structure NodeOverride where
  nodeIndex : UInt32
  hardware : Option Hardware
  settings : Option PicodataSettings
deriving Repr, Inhabited, DecidableEq

namespace NodeOverride

def toDocument (o : NodeOverride) : Document :=
  .table [("node_index", .nat o.nodeIndex.toNat),
    ("hardware", .optional Hardware.toDocument o.hardware),
    ("settings", .optional PicodataSettings.toDocument o.settings)]

def ofDocument? : Document → Option NodeOverride := Document.record? do
  let nodeIndex ← Record.field "node_index" Document.uint32?
  let hardware ← Record.maybe "hardware" Hardware.ofDocument?
  let settings ← Record.maybe "settings" PicodataSettings.ofDocument?
  pure { nodeIndex, hardware, settings }

end NodeOverride

/-- Which nodes of a Picodata cluster are backed up. -/
inductive PicodataScope where
  | allNodes
  /-- One node, which must be named by its index. -/
  | node
deriving Repr, Inhabited, DecidableEq

namespace PicodataScope

def name : PicodataScope → String
  | .allNodes => "all_nodes"
  | .node => "node"

def ofName? : String → Option PicodataScope
  | "all_nodes" => some .allNodes
  | "node" => some .node
  | _ => none

end PicodataScope

/-- Backups of the nodes of a Picodata cluster. -/
structure PicodataBackupAddon where
  enabled : Bool
  scope : Option PicodataScope
  nodeIndex : Option UInt32
  config : Option BackupConfig
deriving Repr, Inhabited, DecidableEq

namespace PicodataBackupAddon

def toDocument (a : PicodataBackupAddon) : Document :=
  .table [("enabled", .bool a.enabled), ("scope", .optional (fun s => .text s.name) a.scope),
    ("node_index", .optional (fun n => .nat n.toNat) a.nodeIndex),
    ("config", .optional BackupConfig.toDocument a.config)]

def ofDocument? : Document → Option PicodataBackupAddon := Document.record? do
  let enabled ← Record.fieldWith false "enabled" Document.bool?
  let scope ← Record.maybe "scope" (Document.innerName? PicodataScope.ofName?)
  let nodeIndex ← Record.maybe "node_index" Document.uint32?
  let config ← Record.maybe "config" BackupConfig.ofDocument?
  pure { enabled, scope, nodeIndex, config }

end PicodataBackupAddon

/-- A Picodata cluster. -/
structure PicodataCluster where
  topology : Option PicodataTopology
  nodeOverrides : List NodeOverride
  backup : Option PicodataBackupAddon
deriving Repr, Inhabited, DecidableEq

namespace PicodataCluster

def fields (t : PicodataCluster) : List (String × Document) :=
  [("topology", .optional PicodataTopology.toDocument t.topology),
    ("node_overrides", .list (t.nodeOverrides.map NodeOverride.toDocument)),
    ("addons", .table [("backup", .optional PicodataBackupAddon.toDocument t.backup)])]

def ofDocument? : Document → Option PicodataCluster := Document.record? do
  let topology ← Record.maybe "topology" PicodataTopology.ofDocument?
  let nodeOverrides ←
    Record.fieldWith [] "node_overrides" (Document.list? NodeOverride.ofDocument?)
  let backup ← Record.fieldWith none "addons"
    (Document.record? (Record.maybe "backup" PicodataBackupAddon.ofDocument?))
  pure { topology, nodeOverrides, backup }

end PicodataCluster

end Testbed
