import Testbed.Document.Json
import Testbed.Placement.Item
import Testbed.Template

/-!
Placing a Postgres database.

`plan` expands a template into items: the master, the replicas in index order, then the nodes that etcd
and the pooler have for themselves.  Addresses are bound in that order, so the master has the first.
`wire` runs after binding and sets what depends on the addresses of other items: the member list of
etcd, the primary of the replicas, the upstream of the poolers, the targets of exporters and backups.
-/

namespace Testbed.Postgres

/-- The name of the item that the master runs on. -/
def masterItem : String := "postgres-master"

/-- The name of the item that a replica runs on. -/
def replicaItem (index : Nat) : String := s!"postgres-replica-{index}"

/-- The name of an item that an addon has for itself. -/
def dedicatedItem (addon : Addon) (index : Nat) : String := s!"{addon.name}-dedicated-{index}"

/-- The image of a server. -/
def image (settings : PostgresSettings) : String :=
  s!"{Image.postgresRepository}:{settings.version.toNat}-alpine"

def dataDirectory : String := "/var/lib/postgresql/data"
def etcdDirectory : String := "/etcd-data"
def user : String := "postgres"
def password : String := "postgres"
def database : String := "postgres"

/-! ### Plan -/

/-- The container of a server. -/
def serverContainer (item : String) (role : PostgresRole) (replicaIndex : Nat)
    (settings : PostgresSettings) (monitor : Bool) : Container :=
  let container := (((Container.new s!"{item}-container" (image settings)
    (.postgres role (.ofNat replicaIndex) settings)).withPort "postgres" Port.postgres).withVolume
      s!"{item}-pgdata" dataDirectory).monitored monitor
  if settings.patroni then container.withPort "patroni" Port.patroniApi else container

/-- The container of a sidecar of a single server. -/
def sidecarContainer (settings : PostgresSettings) : PostgresSidecar → Container
  | .nodeExporter port => .nodeExporter masterItem port
  | .postgresExporter port paths => .postgresExporter masterItem port paths
  | .backup config => .backupAgent s!"backup-{masterItem}" (image settings) config

/-- Run one more container on an item, unless it has one of that name. -/
def addSidecar (item : Item) (c : Container) : Except PlacementError Item :=
  if item.hasContainer c.name then defect (.duplicateSidecar c.name) else .ok (item.addContainer c)

/-- The items of a single server. -/
def planInstance (t : PostgresInstance) : Except PlacementError ItemSet := do
  let items ← ItemSet.empty.ensure masterItem t.hardware
  let server := serverContainer masterItem .master 0 t.settings false
  match items.get? masterItem with
  | none => pure items
  | some item =>
    let item ← (t.sidecars.map (sidecarContainer t.settings)).foldlM addSidecar
      (item.addContainer server)
    pure (items.modify masterItem fun _ => item)

/-- What addons need to know about the nodes of a cluster. -/
structure Nodes where
  replicas : List String
  monitor : Bool
  image : String
deriving Repr, Inhabited, DecidableEq

/-- Whether a node exporter runs on an item. -/
def hasNodeExporter (item : Item) : Bool :=
  item.containers.any fun c => match c.runtime with
    | .exporter .node _ _ => true
    | _ => false

/-- Watch an item and its server. -/
def addMonitoring (item : Item) : Item :=
  (item.addContainer (.nodeExporter item.name none)).addContainer
    (.postgresExporter item.name none [])

/-- Watch an item, unless it is watched already. -/
def ensureNodeExporter (item : Item) : Item :=
  if hasNodeExporter item then item else item.addContainer (.nodeExporter item.name none)

/-- Add a node of a cluster. -/
def addNode (items : ItemSet) (name : String) (hardware : Option Hardware) (role : PostgresRole)
    (index : Nat) (settings : PostgresSettings) (monitor : Bool) :
    Except PlacementError ItemSet := do
  let items ← items.ensure name hardware
  pure (items.modify name fun item =>
    let item := item.addContainer (serverContainer name role index settings monitor)
    if monitor then addMonitoring item else item)

/-- The override of a replica. -/
def overrideOf (t : PostgresCluster) (index : Nat) : Option ReplicaOverride :=
  t.replicaOverrides.find? (·.replicaIndex.toNat = index)

/-- The hardware of a replica: its override's, or else the topology's. -/
def replicaHardware (t : PostgresCluster) (topology : PostgresTopology) (index : Nat) :
    Option Hardware :=
  ((overrideOf t index).bind (·.hardware)).or topology.replicaHardware

/-- The settings of a replica: its override's, or else the topology's. -/
def replicaSettings (t : PostgresCluster) (topology : PostgresTopology) (index : Nat) :
    PostgresSettings :=
  ((overrideOf t index).bind (·.settings)).getD topology.settings

/-- The nodes of a cluster. -/
def planTopology (t : PostgresCluster) (topology : PostgresTopology) :
    Except PlacementError ItemSet := do
  let items ← addNode .empty masterItem topology.masterHardware .master 0 topology.settings
    topology.monitor
  items.addEach (fun items index =>
    addNode items (replicaItem index) (replicaHardware t topology index) .replica index
      (replicaSettings t topology index) topology.monitor) topology.replicasCount.toNat 0

/-- What addons need to know about the nodes of a topology. -/
def nodesOf (topology : PostgresTopology) : Nodes where
  replicas := (List.range topology.replicasCount.toNat).map replicaItem
  monitor := topology.monitor
  image := image topology.settings

/-- The nodes that a scope names. -/
def scopeTargets (addon : Addon) (scope : PlacementScope) (replicaIndex : Option UInt32)
    (nodes : Nodes) : Except PlacementError (List String) := do
  let targets ← match scope with
    | .master => pure [masterItem]
    | .replicas => pure nodes.replicas
    | .allNodes => pure (masterItem :: nodes.replicas)
    | .replica =>
      match replicaIndex with
      | none => defect (.replicaIndexMissing addon)
      | some index =>
        match nodes.replicas[index.toNat]? with
        | some name => pure [name]
        | none => defect (.replicaIndexOutOfRange addon index.toNat nodes.replicas.length)
  if targets.isEmpty then defect (.placementEmpty addon) else pure targets

/-- Add an item that an addon has for itself. -/
def addDedicated (addon : Addon) (hardware : Option Hardware) (items : ItemSet) (index : Nat) :
    Except PlacementError ItemSet :=
  let name := dedicatedItem addon index
  match items.get? name with
  | some _ => defect (.dedicatedExists name)
  | none => items.ensure name hardware

/-- Where an addon runs. -/
structure Targets where
  names : List String
  /-- Whether the items were made for the addon. -/
  dedicated : Bool
deriving Repr, Inhabited, DecidableEq

/-- Resolve where an addon runs, adding the items that it has for itself. -/
def expandPlacement (items : ItemSet) (addon : Addon) (placement : Option AddonPlacement)
    (nodes : Nodes) : Except PlacementError (ItemSet × Targets) :=
  match placement with
  | none => defect (.placementMissing addon)
  | some (.colocate scope replicaIndex) => do
    pure (items, ⟨← scopeTargets addon scope replicaIndex nodes, false⟩)
  | some (.dedicated instancesCount hardware) => do
    if instancesCount = 0 then defect (.noInstances addon)
    else
      let items ← items.addEach (addDedicated addon hardware) instancesCount.toNat 0
      pure (items, ⟨(List.range instancesCount.toNat).map (dedicatedItem addon), true⟩)

/-- Change an item that an addon runs on. -/
def changeTarget (addon : Addon) (items : ItemSet) (name : String) (change : Item → Item) :
    Except PlacementError ItemSet :=
  match items.get? name with
  | some _ => .ok (items.modify name change)
  | none => defect (.targetMissing addon name)

/-- The names of the items that an addon runs on, counted from one. -/
def numbered (names : List String) : List (Nat × String) :=
  names.zipIdx.map fun (name, i) => (i + 1, name)

/-- The container of an etcd member. -/
def etcdContainer (etcd : EtcdAddon) (memberIndex : Nat) (clusterSize : UInt32) : Container :=
  let name := s!"etcd-{memberIndex}"
  let clientPort := etcd.clientPort.getD Port.etcdClient
  (((((Container.new name Image.etcd
    (.etcd (.ofNat memberIndex) clusterSize clientPort Port.etcdPeer)).withPort
      "etcd-client" clientPort).withPort "etcd-peer" Port.etcdPeer).withVolume
        s!"{name}-data" etcdDirectory).withEnv "ETCD_DATA_DIR" etcdDirectory).monitored etcd.monitor

/-- Place the configuration store. -/
def planEtcd (items : ItemSet) (etcd : EtcdAddon) (nodes : Nodes) :
    Except PlacementError ItemSet := do
  let (items, targets) ← expandPlacement items .etcd etcd.placement nodes
  let clusterSize : UInt32 := .ofNat targets.names.length
  if etcd.size ≠ 0 ∧ etcd.size ≠ clusterSize then
    defect (.etcdSizeMismatch etcd.size.toNat clusterSize.toNat)
  else
    let watch := (etcd.monitor || nodes.monitor) && (targets.dedicated || etcd.monitor)
    (numbered targets.names).foldlM (fun items (memberIndex, target) =>
      changeTarget .etcd items target fun item =>
        let item := item.addContainer (etcdContainer etcd memberIndex clusterSize)
        if watch then ensureNodeExporter item else item) items

/-- The container of a pooler. -/
def poolerContainer (pgbouncer : PgbouncerAddon) (index : Nat) : Container :=
  let port := pgbouncer.port.getD Port.pgbouncer
  let container := ((((Container.new s!"pgbouncer-{index}" Image.pgbouncer
    (.pgbouncer pgbouncer.poolSize pgbouncer.poolMode pgbouncer.maxClientConn port)).withPort
      "pgbouncer" port).withEnv "PGBOUNCER_LISTEN_PORT" (toString port.toNat)).withEnvs
        [("PGBOUNCER_POOL_MODE", pgbouncer.poolMode.name),
          ("PGBOUNCER_DEFAULT_POOL_SIZE", toString pgbouncer.poolSize.toNat)]).monitored
            pgbouncer.monitor
  match pgbouncer.maxClientConn with
  | some connections =>
    container.withEnv "PGBOUNCER_MAX_CLIENT_CONN" (toString connections.toNat)
  | none => container

/-- Place the poolers. -/
def planPgbouncer (items : ItemSet) (pgbouncer : PgbouncerAddon) (nodes : Nodes) :
    Except PlacementError ItemSet := do
  let (items, targets) ← expandPlacement items .pgbouncer pgbouncer.placement nodes
  let watch := pgbouncer.monitor || nodes.monitor
  (numbered targets.names).foldlM (fun items (index, target) =>
    changeTarget .pgbouncer items target fun item =>
      let item := item.addContainer (poolerContainer pgbouncer index)
      if watch then
        let item := item.addContainer (.pgbouncerExporter (toString index))
        if targets.dedicated then ensureNodeExporter item else item
      else item) items

/-- Place the backup agents. -/
def planBackup (items : ItemSet) (backup : BackupAddon) (nodes : Nodes) :
    Except PlacementError ItemSet :=
  match backup.config, backup.scope with
  | none, _ => defect .backupConfigMissing
  | some _, none => defect .backupScopeMissing
  | some config, some scope => do
    let targets ← scopeTargets .backup scope backup.replicaIndex nodes
    targets.foldlM (fun items target =>
      changeTarget .backup items target fun item =>
        item.addContainer (.backupAgent s!"backup-{target}" nodes.image config)) items

/-- The items of a cluster. -/
def planCluster (t : PostgresCluster) : Except PlacementError ItemSet :=
  match t.topology with
  | none => defect (.topologyMissing .postgres)
  | some topology => do
    validateOverrides .postgres topology.replicasCount.toNat []
      (t.replicaOverrides.map (·.replicaIndex.toNat))
    let items ← planTopology t topology
    let nodes := nodesOf topology
    let items ← match t.addons.etcd with
      | some etcd => planEtcd items etcd nodes
      | none => pure items
    let items ← match t.addons.pgbouncer with
      | some pgbouncer => if pgbouncer.enabled then planPgbouncer items pgbouncer nodes else pure items
      | none => pure items
    match t.addons.backup with
    | some backup => if backup.enabled then planBackup items backup nodes else pure items
    | none => pure items

/-! ### Wire -/

/-- A member of the configuration store. -/
structure EtcdMember where
  name : String
  address : Address
  clientPort : UInt16
  peerPort : UInt16
deriving Repr, Inhabited, DecidableEq

/-- What the items have to know about each other. -/
structure Survey where
  master : Address
  members : List EtcdMember
  /-- Where the first pooler listens. -/
  pooler : Option (Address × UInt16)
deriving Repr, Inhabited, DecidableEq

/-- Whether a container is the master's server. -/
def isMaster (c : Container) : Bool :=
  match c.runtime with
  | .postgres .master _ _ => true
  | _ => false

/-- Whether a container is a server. -/
def isServer (c : Container) : Bool :=
  match c.runtime with
  | .postgres .. => true
  | _ => false

/-- The port of a pooler. -/
def poolerPort? (c : Container) : Option UInt16 :=
  match c.runtime with
  | .pgbouncer _ _ _ port => some port
  | _ => none

/-- The member of the configuration store that a container is. -/
def etcdMember? (address : Address) (c : Container) : Option EtcdMember :=
  match c.runtime with
  | .etcd _ _ clientPort peerPort => some ⟨c.name, address, clientPort, peerPort⟩
  | _ => none

/-- The addresses of the items, with the items. -/
def boundItems (items : List Item) : Except PlacementError (List (Address × Item)) :=
  items.mapM fun item => do pure (← item.boundAddress, item)

/-- Find the master, the members of the configuration store and the first pooler. -/
def survey (items : List (Address × Item)) : Except PlacementError Survey :=
  match items.find? fun (_, item) => item.containers.any isMaster with
  | none => defect .masterNotFound
  | some (master, _) => .ok
    { master
      members := items.flatMap fun (address, item) => item.containers.filterMap (etcdMember? address)
      pooler := (items.flatMap fun (address, item) =>
        (item.containers.filterMap poolerPort?).map fun port => (address, port)).head? }

/-- The list by which the members of the configuration store find each other. -/
def initialCluster (members : List EtcdMember) : String :=
  ",".intercalate (members.map fun m => s!"{m.name}=http://{m.address.text}:{m.peerPort.toNat}")

/-- The list by which servers find the configuration store. -/
def etcdHosts (members : List EtcdMember) : String :=
  ",".intercalate (members.map fun m => s!"{m.address.text}:{m.clientPort.toNat}")

/-- The string by which clients connect. -/
def connectionString (host : Address) (port : UInt16) : String :=
  s!"postgres://{user}:{password}@{host.text}:{port.toNat}/{database}?sslmode=disable"

/-- Set up a server. -/
def wireServer (s : Survey) (address : Address) (role : PostgresRole) (settings : PostgresSettings)
    (c : Container) : Except PlacementError Container :=
  let c := c.withEnvs [("POSTGRES_USER", user), ("POSTGRES_PASSWORD", password),
    ("POSTGRES_DB", database)]
  if settings.patroni then
    if s.members.isEmpty then defect (.patroniWithoutEtcd c.name)
    else
      let c := c.withEnvs [("PATRONI_NAME", c.name), ("PATRONI_ETCD3_HOSTS", etcdHosts s.members),
        ("PATRONI_POSTGRESQL_CONNECT_ADDRESS", s!"{address.text}:{Port.postgres.toNat}"),
        ("PATRONI_RESTAPI_CONNECT_ADDRESS", s!"{address.text}:{Port.patroniApi.toNat}")]
      .ok (if settings.conf.isEmpty then c
        else c.withEnv "PATRONI_POSTGRESQL_PARAMETERS" (Json.write settings.conf.toDocument))
  else
    let c := match role with
      | .master => c
      | .replica => c.withEnvs [("POSTGRES_PRIMARY_HOST", s.master.text),
        ("POSTGRES_PRIMARY_PORT", toString Port.postgres.toNat)]
    .ok (c.withArgs (Container.confArgs "-c" settings.conf))

/-- Set up a member of the configuration store. -/
def wireEtcd (s : Survey) (address : Address) (clientPort peerPort : UInt16) (c : Container) :
    Container :=
  c.withEnvs [("ETCD_NAME", c.name), ("ETCD_INITIAL_CLUSTER", initialCluster s.members),
    ("ETCD_INITIAL_CLUSTER_STATE", "new"), ("ETCD_INITIAL_CLUSTER_TOKEN", "postgres-etcd-cluster"),
    ("ETCD_LISTEN_PEER_URLS", s!"http://0.0.0.0:{peerPort.toNat}"),
    ("ETCD_INITIAL_ADVERTISE_PEER_URLS", s!"http://{address.text}:{peerPort.toNat}"),
    ("ETCD_LISTEN_CLIENT_URLS", s!"http://0.0.0.0:{clientPort.toNat}"),
    ("ETCD_ADVERTISE_CLIENT_URLS", s!"http://{address.text}:{clientPort.toNat}")]

/-- Set up a container.  `server` is the address of the server that the item's exporters and backups
are about, and `pooler` the port of a pooler on the same item. -/
def wireContainer (s : Survey) (address server : Address) (pooler : Option UInt16) (c : Container) :
    Except PlacementError Container :=
  match c.runtime with
  | .etcd _ _ clientPort peerPort => .ok (wireEtcd s address clientPort peerPort c)
  | .postgres role _ settings => wireServer s address role settings c
  | .pgbouncer .. => .ok (c.withEnvs [("PGBOUNCER_UPSTREAM_HOST", s.master.text),
      ("PGBOUNCER_UPSTREAM_PORT", toString Port.postgres.toNat)])
  | .exporter .postgres _ _ => .ok (c.withEnvs
      [("PG_EXPORTER_TARGET", s!"{server.text}:{Port.postgres.toNat}"),
        ("DATA_SOURCE_NAME", connectionString server Port.postgres)])
  | .exporter .pgbouncer _ _ =>
    match pooler with
    | some port => .ok (c.withEnv "PGBOUNCER_EXPORTER_TARGET" s!"{address.text}:{port.toNat}")
    | none => .ok c
  | .backup _ => .ok (c.withEnvs [("PGHOST", server.text),
      ("PGPORT", toString Port.postgres.toNat), ("PGUSER", user), ("PGPASSWORD", password)])
  | .exporter .node _ _ => .ok c
  | .picodata .. => .ok c

/-- Set up the containers of an item. -/
def wireItem (s : Survey) (address : Address) (item : Item) : Except PlacementError Item := do
  let server := if item.containers.any isServer then address else s.master
  let pooler := (item.containers.filterMap poolerPort?).head?
  let containers ← item.containers.mapM (wireContainer s address server pooler)
  pure { item with containers }

/-- Set up all items; returns the string by which clients connect. -/
def wire (items : List Item) : Except PlacementError (List Item × String) := do
  let bound ← boundItems items
  let s ← survey bound
  let items ← bound.mapM fun (address, item) => wireItem s address item
  let (host, port) := s.pooler.getD (s.master, Port.postgres)
  pure (items, connectionString host port)

end Testbed.Postgres
