import Testbed.Proofs.Placement.Availability
import Testbed.Proofs.Placement.Layout

/-!
What wiring finds on the items of a Postgres database.

Wiring takes the first item that runs a master for the primary, and the first pooler that it meets for the
one that clients use.  For an exporter or a backup agent it looks on the same item for what that is about,
and where there is nothing it takes something else, or leaves the target out.  That it always finds the
right thing is owed to planning: the master is on the first item and on no other, the poolers are numbered
in the order of the items, and no exporter or agent is put on an item that does not run what it is about.
-/

namespace Testbed

open Postgres

/-! ### What a container needs next to it -/

/-- What a container is about runs on the same item; and a server has not been told of a primary. -/
def Container.SuppliedBy (others : List Container) (c : Container) : Prop :=
  match c.runtime with
  | .postgres .. => c.env.get? "POSTGRES_PRIMARY_HOST" = none
  | .exporter .postgres _ _ => ∃ d ∈ others, isServer d = true
  | .exporter .pgbouncer _ _ => ∃ d ∈ others, ∃ port, poolerPort? d = some port
  | .backup _ => ∃ d ∈ others, isServer d = true
  | _ => True

namespace Container

/-- What one list of containers runs, another one runs too. -/
def RunsAgain (ds es : List Container) : Prop := ∀ d ∈ ds, ∃ e ∈ es, e.runtime = d.runtime

namespace RunsAgain

variable {ds es : List Container}

/-- With more containers, those that ran before still run. -/
theorem append (ds es : List Container) : RunsAgain ds (ds ++ es) :=
  fun d mem => ⟨d, List.mem_append_left _ mem, rfl⟩

/-- A server that ran still runs. -/
theorem server (again : RunsAgain ds es) (h : ∃ d ∈ ds, isServer d = true) : ∃ e ∈ es, isServer e = true := by
  obtain ⟨d, mem, runs⟩ := h
  obtain ⟨e, there, same⟩ := again d mem
  exact ⟨e, there, (isServer_congr same).trans runs⟩

/-- A pooler that ran still runs, at the same port. -/
theorem pooler (again : RunsAgain ds es) {d : Container} (mem : d ∈ ds) {port : UInt16}
    (listens : poolerPort? d = some port) : ∃ e ∈ es, poolerPort? e = some port := by
  obtain ⟨e, there, same⟩ := again d mem
  exact ⟨e, there, by rw [← listens, poolerPort?.eq_def, poolerPort?.eq_def, same]⟩

end RunsAgain

/-- What a container needs is still there with more containers. -/
theorem SuppliedBy.again {c : Container} {ds es : List Container} (h : c.SuppliedBy ds)
    (again : RunsAgain ds es) : c.SuppliedBy es := by
  rw [SuppliedBy] at h ⊢
  cases runs : c.runtime with
  | postgres role index settings => rwa [runs] at h
  | exporter kind port paths =>
      rw [runs] at h
      cases kind with
      | node => trivial
      | postgres => exact again.server h
      | pgbouncer =>
          obtain ⟨d, mem, port, listens⟩ := h
          obtain ⟨e, there, listens_e⟩ := again.pooler mem listens
          exact ⟨e, there, port, listens_e⟩
  | backup config =>
      rw [runs] at h
      exact again.server h
  | picodata index settings => trivial
  | etcd index size clientPort peerPort => trivial
  | pgbouncer poolSize poolMode connections port => trivial

/-- What watches a server runs at its port, or at the usual one. -/
theorem runtime_postgresExporter (suffix : String) (port : Option UInt16) (paths : List String) :
    (postgresExporter suffix port paths).runtime =
      .exporter .postgres (port.getD Port.postgresExporter) paths := by
  rw [postgresExporter]
  split <;> rfl

/-- A backup agent runs the backup it was given. -/
theorem runtime_backupAgent (name image : String) (config : BackupConfig) :
    (backupAgent name image config).runtime = .backup config := by
  rw [backupAgent]
  split <;> rfl

end Container

/-- The name and the port of a pooler. -/
def Container.outlet? (c : Container) : Option (String × UInt16) :=
  (poolerPort? c).map fun port => (c.name, port)

/-- The port of what runs, if that is a pooler. -/
def Runtime.outlet? : Runtime → Option UInt16
  | .pgbouncer _ _ _ port => some port
  | _ => none

/-- Whether a container has an outlet depends only on what it runs. -/
theorem Container.outlet?_of_runtime {c : Container} {runtime : Runtime} (runs : c.runtime = runtime) :
    c.outlet? = runtime.outlet?.map fun port => (c.name, port) := by
  subst runs
  rw [outlet?, poolerPort?.eq_def]
  cases c.runtime <;> rfl

/-- Whether it is a master that runs. -/
def Runtime.leads : Runtime → Bool
  | .postgres .master _ _ => true
  | _ => false

/-! ### Items -/

namespace Item

/-- The poolers of an item, with the ports on which they listen. -/
def outlets (item : Item) : List (String × UInt16) := item.containers.filterMap Container.outlet?

/-- Whether the master runs on an item. -/
def runsMaster (item : Item) : Bool := item.containers.any isMaster

/-- The master runs on an item exactly if its sketch has a server that leads. -/
theorem runsMaster_eq (item : Item) : item.runsMaster = item.sketch.servers.any Runtime.leads := by
  have same : ∀ c : Container, isMaster c = (isServer c && c.runtime.leads) := by
    intro c
    rw [isMaster.eq_def, isServer.eq_def]
    cases c.runtime with
    | postgres role index settings =>
        cases role with
        | master => rfl
        | replica => rfl
    | _ => rfl
  rw [runsMaster, funext same]
  simp [sketch, List.any_map, List.any_filter, Function.comp_def]

/-- One more container has its outlet behind those of the item. -/
theorem outlets_addContainer (item : Item) (c : Container) :
    (item.addContainer c).outlets = item.outlets ++ c.outlet?.toList := by
  rw [outlets, addContainer, List.filterMap_append]
  cases listens : c.outlet? <;> simp [outlets, listens]

/-- A container without an outlet leaves those of the item. -/
theorem outlets_addContainer_of_none (item : Item) {c : Container} (other : c.outlet? = none) :
    (item.addContainer c).outlets = item.outlets := by
  rw [outlets_addContainer, other]
  exact List.append_nil _

/-- An item whose containers have what they need, and which runs a server if it is a node. -/
structure Stocked (node : Prop) (item : Item) : Prop where
  supplied : ∀ c ∈ item.containers, c.SuppliedBy item.containers
  serves : node → ∃ c ∈ item.containers, isServer c = true

namespace Stocked

variable {node : Prop} {item : Item}

/-- An item on which nothing runs is stocked, if it is no node. -/
theorem of_empty (empty : item.containers = []) (own : ¬ node) : item.Stocked node := by
  refine ⟨?_, fun is_node => absurd is_node own⟩
  rw [empty]
  exact List.forall_mem_nil _

/-- What runs a server will do for a node. -/
theorem of_true (h : item.Stocked True) (node : Prop) : item.Stocked node :=
  ⟨h.supplied, fun _ => h.serves trivial⟩

/-- A container joins that has what it needs. -/
theorem join (h : item.Stocked node) {c : Container} (supplied : c.SuppliedBy (item.containers ++ [c])) :
    (item.addContainer c).Stocked node := by
  constructor
  · intro d mem
    rcases List.mem_append.1 mem with old | new
    · exact (h.supplied d old).again (Container.RunsAgain.append _ _)
    · rwa [List.mem_singleton.1 new]
  · exact fun is_node => (Container.RunsAgain.append _ _).server (h.serves is_node)

/-- Watching an item leaves it stocked. -/
theorem watch (h : item.Stocked node) : (ensureNodeExporter item).Stocked node := by
  rw [ensureNodeExporter]
  split
  · exact h
  · exact h.join trivial

/-- What watches a server may join the server on its node. -/
theorem joinServerExporter (h : item.Stocked node) (is_node : node) (suffix : String) (port : Option UInt16)
    (paths : List String) : (item.addContainer (.postgresExporter suffix port paths)).Stocked node := by
  apply h.join
  rw [Container.SuppliedBy, Container.runtime_postgresExporter]
  exact (Container.RunsAgain.append _ _).server (h.serves is_node)

/-- A backup agent may join the server on its node. -/
theorem joinAgent (h : item.Stocked node) (is_node : node) (name image : String) (config : BackupConfig) :
    (item.addContainer (.backupAgent name image config)).Stocked node := by
  apply h.join
  rw [Container.SuppliedBy, Container.runtime_backupAgent]
  exact (Container.RunsAgain.append _ _).server (h.serves is_node)

end Stocked

end Item

namespace Postgres

variable {t : PostgresCluster} {topology : PostgresTopology} {item : Item} {node : Prop}

/-! ### What the passes leave behind -/

/-- A server begins with no variables. -/
theorem env_serverContainer (item : String) (role : PostgresRole) (index : Nat) (settings : PostgresSettings)
    (monitor : Bool) : (serverContainer item role index settings monitor).env = .empty := by
  rw [serverContainer]
  split <;> rfl

/-- A pooler runs with the settings of the addon, at its port or at the usual one. -/
theorem runtime_poolerContainer (pgbouncer : PgbouncerAddon) (index : Nat) :
    (poolerContainer pgbouncer index).runtime = .pgbouncer pgbouncer.poolSize pgbouncer.poolMode
      pgbouncer.maxClientConn (pgbouncer.port.getD Port.pgbouncer) := by
  rw [poolerContainer]
  split <;> rfl

/-- A server on an item of its own. -/
theorem stocked_server (name : String) (given : Hardware) (role : PostgresRole) (index : Nat)
    (settings : PostgresSettings) (monitor : Bool) :
    ((Item.new name given).addContainer
      (serverContainer name role index settings monitor)).Stocked True := by
  have runs := runtime_serverContainer name role index settings monitor
  constructor
  · intro c mem
    obtain rfl := List.mem_singleton.1 mem
    rw [Container.SuppliedBy, runs, env_serverContainer]
    exact Table.get?_empty _
  · exact fun _ => ⟨_, List.mem_singleton.2 rfl, by rw [isServer, runs]⟩

/-- A node with its server is stocked. -/
theorem stocked_serve (n : NodeSpec) (given : Hardware) (monitor : Bool) :
    (serve n.name n.role n.index n.settings monitor (Item.new n.name given)).Stocked True := by
  have server := stocked_server n.name given n.role n.index n.settings monitor
  rw [serve]
  split
  · have watched := server.join (c := .nodeExporter n.name none) trivial
    exact watched.joinServerExporter trivial n.name none []
  · exact server

/-- Running a member of the store leaves an item stocked. -/
theorem stocked_runMember (h : item.Stocked node) (etcd : EtcdAddon) (watch : Bool) (clusterSize : UInt32)
    (p : Nat × String) : (runMember etcd watch clusterSize p item).Stocked node := by
  have joined : (item.addContainer (etcdContainer etcd p.1 clusterSize)).Stocked node := h.join trivial
  rw [runMember]
  split
  · exact joined.watch
  · exact joined

theorem stocked_runPooler (h : item.Stocked node) (pgbouncer : PgbouncerAddon) (watch dedicated : Bool)
    (p : Nat × String) : (runPooler pgbouncer watch dedicated p item).Stocked node := by
  have runs := runtime_poolerContainer pgbouncer p.1
  have joined : (item.addContainer (poolerContainer pgbouncer p.1)).Stocked node := by
    apply h.join
    rw [Container.SuppliedBy, runs]
    trivial
  have watched : ((item.addContainer (poolerContainer pgbouncer p.1)).addContainer
      (.pgbouncerExporter (toString p.1))).Stocked node := by
    apply joined.join
    refine ⟨poolerContainer pgbouncer p.1, ?_, _, by rw [poolerPort?, runs]⟩
    exact List.mem_append_left _ (List.mem_append_right _ (List.mem_singleton.2 rfl))
  rw [runPooler]
  split
  · split
    · exact watched.watch
    · exact watched
  · exact joined

/-- Addons put nothing on an item that does not run what it is about.  Backups are made of nodes only. -/
theorem stocked_furnished
    (nodesOnly : ∀ config targets, backupOf t topology = some (config, targets) →
      targets.Sublist (nodeNames topology))
    (h : item.Stocked (item.name ∈ nodeNames topology)) :
    (furnished t topology item).Stocked (item.name ∈ nodeNames topology) := by
  have stored : (enlisted t topology item).Stocked (item.name ∈ nodeNames topology) := by
    rcases enlisted_cases t topology item with ⟨-, alone⟩ | ⟨etcd, _, p, -, -, -, changed⟩
    · rwa [alone]
    · rw [changed]
      exact stocked_runMember h etcd _ _ p
  have pooling : (pooled t topology (enlisted t topology item)).Stocked (item.name ∈ nodeNames topology) := by
    rcases pooled_cases t topology (enlisted t topology item) with ⟨-, alone⟩ | ⟨pgbouncer, p, -, -, -, changed⟩
    · rwa [alone]
    · rw [changed]
      exact stocked_runPooler stored pgbouncer _ _ p
  have name : (pooled t topology (enlisted t topology item)).name = item.name := by
    rw [pooled_name, enlisted_name]
  rw [furnished]
  rcases backedUp_cases t topology (pooled t topology (enlisted t topology item)) with
    alone | ⟨config, targets, planned, mem, changed⟩
  · rwa [alone]
  · have is_node : item.name ∈ nodeNames topology := (nodesOnly config targets planned).subset (name ▸ mem)
    rw [changed, runAgent]
    exact pooling.joinAgent is_node _ _ config

/-! ### Poolers -/

/-- Watching an item leaves its outlets. -/
theorem outlets_ensureNodeExporter (item : Item) : (ensureNodeExporter item).outlets = item.outlets := by
  rw [ensureNodeExporter]
  split
  · rfl
  · exact item.outlets_addContainer_of_none rfl

/-- A pooler is an outlet under its number. -/
theorem outlet?_pooler (pgbouncer : PgbouncerAddon) (index : Nat) :
    (poolerContainer pgbouncer index).outlet? =
      some (s!"pgbouncer-{index}", pgbouncer.port.getD Port.pgbouncer) := by
  have name : (poolerContainer pgbouncer index).name = s!"pgbouncer-{index}" := by
    rw [poolerContainer]
    split <;> rfl
  rw [Container.outlet?_of_runtime (runtime_poolerContainer pgbouncer index), name]
  rfl

/-- A node with its server has no outlet. -/
theorem outlets_serve (n : NodeSpec) (given : Hardware) (monitor : Bool) :
    (serve n.name n.role n.index n.settings monitor (Item.new n.name given)).outlets = [] := by
  have server := (Item.new n.name given).outlets_addContainer_of_none
    (Container.outlet?_of_runtime (runtime_serverContainer n.name n.role n.index n.settings monitor))
  rw [serve]
  split
  · have exporter := Container.outlet?_of_runtime (Container.runtime_postgresExporter n.name none [])
    exact (Item.outlets_addContainer_of_none _ exporter).trans
      ((Item.outlets_addContainer_of_none _ rfl).trans server)
  · rw [server]
    rfl

/-- The pass of the configuration store leaves the outlets. -/
theorem outlets_enlisted (t : PostgresCluster) (topology : PostgresTopology) (item : Item) :
    (enlisted t topology item).outlets = item.outlets := by
  rcases enlisted_cases t topology item with ⟨-, alone⟩ | ⟨etcd, clusterSize, p, -, -, -, changed⟩
  · rw [alone]
  · have joined : (item.addContainer (etcdContainer etcd p.1 clusterSize)).outlets = item.outlets :=
      item.outlets_addContainer_of_none rfl
    rw [changed, runMember]
    split
    · rw [outlets_ensureNodeExporter, joined]
    · exact joined

/-- Running a pooler on an item adds one outlet. -/
theorem outlets_runPooler (pgbouncer : PgbouncerAddon) (watch dedicated : Bool) (p : Nat × String)
    (item : Item) : (runPooler pgbouncer watch dedicated p item).outlets =
      item.outlets ++ [(s!"pgbouncer-{p.1}", pgbouncer.port.getD Port.pgbouncer)] := by
  have joined : (item.addContainer (poolerContainer pgbouncer p.1)).outlets =
      item.outlets ++ [(s!"pgbouncer-{p.1}", pgbouncer.port.getD Port.pgbouncer)] := by
    rw [Item.outlets_addContainer, outlet?_pooler]
    rfl
  have watched : ((item.addContainer (poolerContainer pgbouncer p.1)).addContainer
      (.pgbouncerExporter (toString p.1))).outlets = _ :=
    Item.outlets_addContainer_of_none _ rfl
  rw [runPooler]
  split
  · split
    · rw [outlets_ensureNodeExporter, watched, joined]
    · rw [watched, joined]
  · exact joined

/-- The pass of the backup agents leaves the outlets. -/
theorem outlets_backedUp (t : PostgresCluster) (topology : PostgresTopology) (item : Item) :
    (backedUp t topology item).outlets = item.outlets := by
  rcases backedUp_cases t topology item with alone | ⟨config, _, -, -, changed⟩
  · rw [alone]
  · rw [changed]
    exact item.outlets_addContainer_of_none (Container.outlet?_of_runtime (Container.runtime_backupAgent ..))

/-- An item gets the poolers that are to run on it. -/
theorem outlets_furnished {pgbouncer : PgbouncerAddon} (given : poolerOf t = some pgbouncer) (item : Item) :
    (furnished t topology item).outlets = item.outlets ++
      ((poolerTargets t topology).filter fun p => p.2 = item.name).map fun p =>
        (s!"pgbouncer-{p.1}", pgbouncer.port.getD Port.pgbouncer) := by
  rw [furnished, outlets_backedUp, pooled, poolerTargets, given]
  dsimp only
  rw [Item.visited_adds (g := Item.outlets) (outlets_runPooler pgbouncer _ _), outlets_enlisted,
    enlisted_name]

/-! ### Clusters -/

section Layout

variable {nodes own items : List Item}

/-- Before addons come to it, an item runs a server and what watches it, or nothing. -/
theorem Layout.seat (layout : Layout t topology nodes own items) (mem : item ∈ nodes ++ own) :
    item.Stocked (item.name ∈ nodeNames topology) ∧ item.outlets = [] := by
  rcases layout.seat_cases mem with ⟨n, -, given, -, rfl⟩ | ⟨empty, own_name⟩
  · exact ⟨(stocked_serve n given topology.monitor).of_true _, outlets_serve n given topology.monitor⟩
  · have fresh : item.name ∉ nodeNames topology := by
      rcases own_name with store | pool
      · obtain ⟨i, -, same⟩ := List.mem_map.1 store
        exact same ▸ dedicatedItem_notMem_nodeNames .etcd topology i
      · obtain ⟨i, -, same⟩ := List.mem_map.1 pool
        exact same ▸ dedicatedItem_notMem_nodeNames .pgbouncer topology i
    exact ⟨.of_empty empty fresh, by rw [Item.outlets, empty]; rfl⟩

/-- Whatever a container of a cluster needs is on its own item. -/
theorem Layout.supplied (layout : Layout t topology nodes own items) (mem : item ∈ items) :
    ∀ c ∈ item.containers, c.SuppliedBy item.containers := by
  rw [layout.eq_furnished] at mem
  obtain ⟨seat, listed, rfl⟩ := List.mem_map.1 mem
  exact (stocked_furnished layout.backup (layout.seat listed).1).supplied

/-- The master runs on the first item, and on no other. -/
theorem Layout.runsMaster (layout : Layout t topology nodes own items) :
    ∃ others, items.map Item.runsMaster = true :: others ∧ true ∉ others := by
  have seen : Item.runsMaster = (·.any Runtime.leads) ∘ Sketch.servers ∘ Item.sketch :=
    funext Item.runsMaster_eq
  rw [seen, ← List.map_map, ← List.map_map, layout.sketched, servers_clusterSketches, engines, List.map_cons]
  refine ⟨_, rfl, ?_⟩
  simp [Runtime.leads]

/-- The poolers of a cluster are numbered in the order of the items. -/
theorem Layout.outlets (layout : Layout t topology nodes own items) (named : t.topology = some topology)
    {pgbouncer : PgbouncerAddon} (given : poolerOf t = some pgbouncer) :
    items.flatMap Item.outlets = (poolerTargets t topology).map fun p =>
      (s!"pgbouncer-{p.1}", pgbouncer.port.getD Port.pgbouncer) := by
  have distinct : ((nodes ++ own).map Item.name).Nodup := layout.names_seats ▸ layout.nodup_names named
  have listed : ((poolerTargets t topology).map Prod.snd).Sublist ((nodes ++ own).map Item.name) := by
    rw [layout.names_seats, layout.names, pgbouncerCount_eq, poolerTargets, given]
    dsimp only
    rw [snd_numbered]
    exact (targetNames_sublist .pgbouncer (layout.pooler pgbouncer given)).trans
      ((List.Sublist.refl _).append (List.sublist_append_right ..))
  have each : ∀ seat ∈ nodes ++ own, (furnished t topology seat).outlets =
      ((poolerTargets t topology).filter fun p => p.2 = seat.name).map fun p =>
        (s!"pgbouncer-{p.1}", pgbouncer.port.getD Port.pgbouncer) := by
    intro seat mem
    rw [outlets_furnished given, (layout.seat mem).2, List.nil_append]
  calc items.flatMap Item.outlets
    _ = (nodes ++ own).flatMap fun seat => (furnished t topology seat).outlets := by
        rw [layout.eq_furnished, List.flatMap_map]
    _ = (((nodes ++ own).map Item.name).flatMap fun name =>
          (poolerTargets t topology).filter fun p => p.2 = name).map fun p =>
            (s!"pgbouncer-{p.1}", pgbouncer.port.getD Port.pgbouncer) := by
        rw [List.flatMap_congr each, List.map_flatMap, List.flatMap_map]
    _ = _ := by rw [flatMap_filter_of_sublist listed distinct]

/-- A cluster without a pooler has no outlet. -/
theorem Layout.outlets_of_none (layout : Layout t topology nodes own items) (without : poolerOf t = none) :
    items.flatMap Item.outlets = [] := by
  rw [layout.eq_furnished, List.flatMap_map]
  refine List.flatMap_eq_nil_iff.2 fun seat mem => ?_
  rw [furnished, outlets_backedUp, pooled, without]
  exact (outlets_enlisted t topology seat).trans (layout.seat mem).2

end Layout

/-! ### Plans -/

/-- What wiring finds on planned items, where `port` is the port of the poolers, if there are any. -/
structure Provided (port : Option UInt16) (items : List Item) : Prop where
  supplied : ∀ item ∈ items, ∀ c ∈ item.containers, c.SuppliedBy item.containers
  /-- The master is on the first item. -/
  master : ∃ others, items.map Item.runsMaster = true :: others ∧ true ∉ others
  /-- The first pooler is the one with the number one. -/
  outlet : (items.flatMap Item.outlets).head? = port.map fun port => ("pgbouncer-1", port)

/-- The port of the poolers of a cluster that has some. -/
def poolerPort (t : PostgresCluster) : Option UInt16 :=
  (poolerOf t).map fun pgbouncer => pgbouncer.port.getD Port.pgbouncer

/-- A planned cluster provides what wiring looks for. -/
theorem planCluster_provided (t : PostgresCluster) :
    Yields (fun s => Provided (poolerPort t) s.items) (planCluster t) := by
  cases named : t.topology with
  | none =>
      rw [planCluster, named]
      exact Yields.defect _
  | some topology =>
      apply (planCluster_layout named).mono
      rintro s ⟨nodes, own, layout⟩
      refine ⟨fun item mem => layout.supplied mem, layout.runsMaster, ?_⟩
      rw [poolerPort]
      cases given : poolerOf t with
      | none =>
          rw [layout.outlets_of_none given]
          rfl
      | some pgbouncer =>
          rw [layout.outlets named given, poolerTargets, given]
          have resolves := layout.pooler pgbouncer given
          have positive := AddonPlacement.size_pos resolves
          rw [← length_targetNames .pgbouncer resolves] at positive
          obtain ⟨first, rest, targets⟩ := List.exists_cons_of_length_pos positive
          have name : s!"pgbouncer-{1}" = "pgbouncer-1" := by decide
          dsimp only
          rw [targets, ← name]
          rfl

/-- The item of a single server, with the sidecars that have joined it. -/
structure Single (item : Item) : Prop where
  stocked : item.Stocked True
  outlets : item.outlets = []
  runsMaster : item.runsMaster = true

/-- Each sidecar finds the server that it is about. -/
theorem Single.join {item : Item} (h : Single item) (settings : PostgresSettings)
    (sidecar : PostgresSidecar) : Single (item.addContainer (sidecarContainer settings sidecar)) := by
  have other : (sidecarContainer settings sidecar).outlet? = none := by
    match sidecar with
    | .nodeExporter port => rfl
    | .postgresExporter port paths =>
        exact Container.outlet?_of_runtime (Container.runtime_postgresExporter masterItem port paths)
    | .backup config => exact Container.outlet?_of_runtime (Container.runtime_backupAgent ..)
  constructor
  · match sidecar with
    | .nodeExporter port => exact h.stocked.join trivial
    | .postgresExporter port paths => exact h.stocked.joinServerExporter trivial _ port paths
    | .backup config => exact h.stocked.joinAgent trivial _ _ config
  · rw [item.outlets_addContainer_of_none other, h.outlets]
  · have before := h.runsMaster
    rw [Item.runsMaster] at before ⊢
    rw [Item.addContainer, List.any_append, before, Bool.true_or]

/-- A planned single server provides what wiring looks for. -/
theorem planInstance_provided (t : PostgresInstance) :
    Yields (fun s => Provided none s.items) (planInstance t) := by
  apply (planInstance_items t).mono
  rintro s ⟨given, item, -, items_eq, joined⟩
  have runs := runtime_serverContainer masterItem .master 0 t.settings false
  have alone : Single ((Item.new masterItem given).addContainer
      (serverContainer masterItem .master 0 t.settings false)) := by
    have other := Container.outlet?_of_runtime runs
    refine ⟨stocked_server .., Item.outlets_addContainer_of_none _ other, ?_⟩
    exact List.any_eq_true.2 ⟨_, List.mem_singleton.2 rfl, by rw [isMaster, runs]⟩
  have step : ∀ i sidecar, Single i → Yields Single (addSidecar i (sidecarContainer t.settings sidecar)) := by
    intro i sidecar single
    rw [addSidecar]
    split
    · exact Yields.defect _
    · exact Yields.pure (single.join t.settings sidecar)
  rw [List.foldlM_map] at joined
  have single : Single item := (Yields.foldlM step alone t.sidecars).of_ok joined
  rw [items_eq]
  refine ⟨List.forall_mem_singleton.2 single.stocked.supplied, ⟨[], ?_, List.not_mem_nil⟩, ?_⟩
  · rw [List.map_singleton, single.runsMaster]
  · rw [List.flatMap_singleton, single.outlets]
    rfl

end Postgres

/-- The port of the poolers of a template that has some. -/
def DatabaseTemplate.poolerPort : DatabaseTemplate → Option UInt16
  | .postgresCluster t => Postgres.poolerPort t
  | _ => none

/-- Planning a Postgres database provides for its wiring. -/
theorem DatabaseTemplate.plan_provided {t : DatabaseTemplate} (family : t.family = .postgres) :
    Yields (fun s => Provided t.poolerPort s.items) t.plan := by
  cases t with
  | postgresInstance t => exact planInstance_provided t
  | postgresCluster t => exact planCluster_provided t
  | picodataInstance t => cases family
  | picodataCluster t => cases family

end Testbed
