import Testbed.Document.Json
import Testbed.Placement.Item
import Testbed.Template
import Testbed.Text.Decimal

/-!
Placing a Picodata database: one node or a cluster of equal nodes, with backups.  `plan` expands a
template into items in node order, and `wire` joins the nodes into one cluster after binding.  A watched
node serves its own metrics over HTTP.
-/

namespace Testbed.Picodata

/-- The name of the item that a node runs on. -/
def nodeItem (index : Nat) : String := s!"picodata-node-{index}"

def dataDirectory : String := "/pico/data"

/-- The variable that says where a node serves its metrics. -/
def httpListen : String := "PICODATA_HTTP_LISTEN"

/-! ### Plan -/

/-- The container of a node. -/
def nodeContainer (item : String) (index : Nat) (settings : PicodataSettings) (monitor : Bool) :
    Container :=
  ((((Container.new s!"{item}-container" Image.picodata
    (.picodata (.ofNat index) settings)).withPort "pg" Port.picodataPg).withPort
      "iproto" Port.picodataIproto).withVolume s!"{item}-data" dataDirectory).monitored monitor

/-- Whether a container is a node. -/
def isNode (c : Container) : Bool :=
  match c.runtime with
  | .picodata .. => true
  | _ => false

/-- Make a node serve its metrics on a port. -/
def serveMetrics (port : UInt16) (c : Container) : Container :=
  if isNode c then (c.monitored true).withEnv httpListen s!"0.0.0.0:{port.toNat}" else c

/-- The container of a backup agent; agents are counted from one. -/
def backupContainer (number : Nat) (config : BackupConfig) : Container :=
  .backupAgent s!"picodata-backup-{number}" Image.picodata config

/-- Add a sidecar to a single node.  `backups` counts the backup agents added so far. -/
def addSidecar (state : Item × Nat) (sidecar : PicodataSidecar) :
    Except PlacementError (Item × Nat) :=
  let (item, backups) := state
  match sidecar with
  | .nodeExporter port =>
    let exporter := Container.nodeExporter (nodeItem 0) port
    if item.hasContainer exporter.name then defect .duplicateNodeExporter
    else .ok (item.addContainer exporter, backups)
  | .httpMetrics port =>
    let port := port.getD Port.picodataHttp
    .ok ({ item with containers := item.containers.map (serveMetrics port) }, backups)
  | .backup config =>
    .ok (item.addContainer (backupContainer (backups + 1) config), backups + 1)

/-- The items of a single node. -/
def planInstance (t : PicodataInstance) : Except PlacementError ItemSet := do
  let name := nodeItem 0
  let items ← ItemSet.empty.ensure name t.hardware
  match items.get? name with
  | none => pure items
  | some item =>
    let item := item.addContainer (nodeContainer name 0 t.settings false)
    let (item, _) ← t.sidecars.foldlM addSidecar (item, 0)
    pure (items.modify name fun _ => item)

/-- The override of a node. -/
def overrideOf (t : PicodataCluster) (index : Nat) : Option NodeOverride :=
  t.nodeOverrides.find? (·.nodeIndex.toNat = index)

/-- The hardware of a node: its override's, or else the topology's. -/
def nodeHardware (t : PicodataCluster) (topology : PicodataTopology) (index : Nat) :
    Option Hardware :=
  ((overrideOf t index).bind (·.hardware)).or topology.nodeHardware

/-- The settings of a node: its override's, or else the topology's. -/
def nodeSettings (t : PicodataCluster) (topology : PicodataTopology) (index : Nat) :
    PicodataSettings :=
  ((overrideOf t index).bind (·.settings)).getD topology.settings

/-- Add a node of a cluster. -/
def addNode (t : PicodataCluster) (topology : PicodataTopology) (items : ItemSet) (index : Nat) :
    Except PlacementError ItemSet := do
  let name := nodeItem index
  let items ← items.ensure name (nodeHardware t topology index)
  pure (items.modify name fun item =>
    let item := item.addContainer
      (nodeContainer name index (nodeSettings t topology index) topology.monitor)
    if topology.monitor then item.addContainer (.nodeExporter name none) else item)

/-- The nodes that are backed up. -/
def backupTargets (backup : PicodataBackupAddon) (nodes : List String) :
    Except PlacementError (List String) :=
  match backup.scope with
  | none => defect .backupScopeMissing
  | some .allNodes => .ok nodes
  | some .node =>
    match backup.nodeIndex with
    | none => defect .nodeIndexMissing
    | some index =>
      match nodes[index.toNat]? with
      | some name => .ok [name]
      | none => defect (.nodeIndexOutOfRange index.toNat nodes.length)

/-- Place the backup agents. -/
def planBackup (items : ItemSet) (backup : PicodataBackupAddon) (nodes : List String) :
    Except PlacementError ItemSet :=
  match backup.config with
  | none => defect .backupConfigMissing
  | some config => do
    let targets ← backupTargets backup nodes
    targets.zipIdx.foldlM (fun items (target, i) =>
      match items.get? target with
      | some _ => .ok (items.modify target (·.addContainer (backupContainer (i + 1) config)))
      | none => defect (.targetMissing .backup target)) items

/-- The items of a cluster. -/
def planCluster (t : PicodataCluster) : Except PlacementError ItemSet :=
  match t.topology with
  | none => defect (.topologyMissing .picodata)
  | some topology => do
    if topology.nodesCount = 0 then defect .noNodes
    else
      let count := topology.nodesCount.toNat
      validateOverrides .picodata count [] (t.nodeOverrides.map (·.nodeIndex.toNat))
      let items ← ItemSet.empty.addEach (addNode t topology) count 0
      match t.backup with
      | some backup =>
        if backup.enabled then planBackup items backup ((List.range count).map nodeItem)
        else pure items
      | none => pure items

/-! ### Wire -/

/-- The port at the end of a listening address, if there is one. -/
def listeningPort (listen : String) : UInt16 :=
  let last := (listen.toList.reverse.takeWhile (· ≠ ':')).reverse
  match Text.readUnsigned? UInt16.size last with
  | some port => .ofNat port
  | none => Port.picodataHttp

/-- Expose the metrics of a watched node, where its settings say or at the default port. -/
def exposeMetrics (c : Container) : Container :=
  let listen := (c.env.get? httpListen).getD s!"0.0.0.0:{Port.picodataHttp.toNat}"
  let c := (c.withEnv httpListen listen).withArgs ["--http-listen", listen]
  if c.ports.any (·.name = "http-metrics") then c
  else c.withPort "http-metrics" (listeningPort listen)

/-- Set up a container. -/
def wireContainer (peers : String) (address : Address) (item : String) (c : Container) : Container :=
  match c.runtime with
  | .picodata _ settings =>
    let c := c.withEnvs [("PICODATA_INSTANCE_NAME", item), ("PICODATA_PEER", peers),
      ("PICODATA_ADVERTISE", s!"{address.text}:{Port.picodataIproto.toNat}"),
      ("PICODATA_PG_LISTEN", s!"0.0.0.0:{Port.picodataPg.toNat}")]
    let c :=
      if settings.conf.isEmpty then c
      else (c.withEnv "PICODATA_CONF_JSON" (Json.write settings.conf.toDocument)).withArgs
        (Container.confArgs "--set" settings.conf)
    if c.monitor then exposeMetrics c else c
  | .backup _ => c.withEnvs [("PICODATA_HOST", address.text),
      ("PGPORT", toString Port.picodataPg.toNat)]
  | _ => c

/-- The addresses of the nodes, in item order. -/
def nodeAddresses (items : List Item) : Except PlacementError (List Address) :=
  (items.filter fun item => item.containers.any isNode).mapM Item.boundAddress

/-- Set up all items; returns the string by which clients connect. -/
def wire (items : List Item) : Except PlacementError (List Item × String) := do
  let addresses ← nodeAddresses items
  match addresses with
  | [] => defect .nodeNotFound
  | first :: _ =>
    let peers := ",".intercalate
      (addresses.map fun a => s!"{a.text}:{Port.picodataIproto.toNat}")
    let items ← items.mapM fun item => do
      let address ← item.boundAddress
      pure { item with containers := item.containers.map (wireContainer peers address item.name) }
    pure (items, s!"postgres://postgres:postgres@{first.text}:{Port.picodataPg.toNat}/postgres?sslmode=disable")

end Testbed.Picodata
