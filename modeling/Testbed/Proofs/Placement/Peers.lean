import Testbed.Proofs.Placement.Layout
import Testbed.Proofs.Placement.Rewiring
import Testbed.Proofs.Text

/-!
How the nodes of a Picodata database find each other, and where they serve their metrics.

A node knows where it serves its metrics from a sidecar, which leaves a listening address in its
environment; wiring reads the address back, repeats it as an argument and takes the port for metrics from
it.  `Prepared` is what planning makes of a node, and sidecars of a single node change it one after the
other, so that the last word is with the last of them.  `Serves` is what wiring makes of a prepared node.
-/

namespace Testbed

namespace Picodata

/-- The address on which a node listens on a port. -/
def listenAddress (port : UInt16) : String := s!"0.0.0.0:{port.toNat}"

/-- The port of a listening address reads back from it. -/
theorem listeningPort_listenAddress (port : UInt16) : listeningPort (listenAddress port) = port := by
  have digits : ∀ c ∈ (Nat.toDigits 10 port.toNat).reverse, c ≠ ':' := by
    intro c mem same
    exact notMem_toDigits ':' rfl port.toNat (same ▸ List.mem_reverse.1 mem)
  have written : (listenAddress port).toList.reverse =
      (Nat.toDigits 10 port.toNat).reverse ++ ':' :: "0.0.0.0".toList.reverse := by
    simp [listenAddress, ToString.toString]
  have last : ((listenAddress port).toList.reverse.takeWhile (· ≠ ':')).reverse =
      Nat.toDigits 10 port.toNat := by
    rw [written, List.takeWhile_append_of_pos fun c mem => by simpa using digits c mem]
    simp
  rw [listeningPort, last, Text.readUnsigned?_toDigits port.toNat_lt]
  exact UInt16.ofNat_toNat

/-- A node that planning has made ready to serve its metrics at a port, or not to serve them. -/
structure Prepared (metrics : Option UInt16) (node : Container) : Prop where
  watched : node.monitor = metrics.isSome
  args : node.args = []
  ports : ∀ p ∈ node.ports, p.name ≠ "http-metrics"
  /-- Where it is to serve them.  A node that is not told serves them at the default port. -/
  heard : ∀ port, metrics = some port → listens node = listenAddress port
  untold : metrics = none → node.env.get? httpListen = none

section Only

variable {cs : List Container} {node : Container} (only : cs.filter isNode = [node])

include only

/-- The only node on an item is there, and is a node. -/
theorem node_of_only : node ∈ cs ∧ isNode node = true :=
  List.mem_filter.1 (only ▸ List.mem_singleton_self node)

/-- What is done to all containers is done to the only node among them. -/
theorem only_map {f : Container → Container} (stays : ∀ c, isNode (f c) = isNode c) :
    (cs.map f).filter isNode = [f node] := by
  have same : isNode ∘ f = isNode := funext stays
  rw [List.filter_map, same, only, List.map_singleton]

end Only

/-- An item that runs one node, which is prepared. -/
def Ready (metrics : Option UInt16) (item : Item) : Prop :=
  ∃ node, item.containers.filter isNode = [node] ∧ Prepared metrics node

/-! ### Planning -/

/-- A backup agent is no node. -/
theorem isNode_backupContainer (number : Nat) (config : BackupConfig) :
    isNode (backupContainer number config) = false := by
  rw [backupContainer, Container.backupAgent]
  cases config.storage <;> rfl

/-- A node that has just been planned is prepared, with a port for metrics if it is monitored. -/
theorem prepared_nodeContainer (item : String) (index : Nat) (settings : PicodataSettings)
    (monitor : Bool) : Prepared (if monitor then some Port.picodataHttp else none)
      (nodeContainer item index settings monitor) := by
  have ports : ∀ p ∈ (nodeContainer item index settings monitor).ports, p.name ≠ "http-metrics" := by
    simp [nodeContainer, Container.new, Container.withPort, Container.withVolume, Container.monitored]
  cases monitor with
  | false =>
      refine ⟨rfl, rfl, ports, ?_, fun _ => rfl⟩
      rintro port ⟨⟩
  | true =>
      refine ⟨rfl, rfl, ports, ?_, ?_⟩
      · rintro _ ⟨⟩
        rfl
      · rintro ⟨⟩

/-- A sidecar of a node decides where the node serves its metrics, whatever was decided before. -/
theorem Prepared.served {metrics : Option UInt16} {node : Container} (h : Prepared metrics node)
    (port : UInt16) :
    Prepared (some port) ((node.monitored true).withEnv httpListen (listenAddress port)) := by
  refine ⟨rfl, h.args, h.ports, ?_, ?_⟩
  · rintro _ ⟨⟩
    simp [listens, Container.withEnv]
  · rintro ⟨⟩

namespace Ready

variable {metrics : Option UInt16} {item : Item}

/-- A new item with a node on it is ready to be wired. -/
theorem of_new (item : String) (hardware : Hardware) (index : Nat) (settings : PicodataSettings)
    (monitor : Bool) : Ready (if monitor then some Port.picodataHttp else none)
      ((Item.new item hardware).addContainer (nodeContainer item index settings monitor)) :=
  ⟨_, rfl, prepared_nodeContainer item index settings monitor⟩

/-- What is no node may join. -/
theorem addContainer (h : Ready metrics item) {c : Container} (other : isNode c = false) :
    Ready metrics (item.addContainer c) := by
  obtain ⟨node, only, prepared⟩ := h
  refine ⟨node, ?_, prepared⟩
  rw [Item.addContainer, List.filter_append, only, List.filter_singleton, other]
  rfl

/-- What every node of an item is made to do, its one node is made to do. -/
theorem serveMetrics (h : Ready metrics item) (port : UInt16) :
    Ready (some port) { item with containers := item.containers.map (serveMetrics port) } := by
  obtain ⟨node, only, prepared⟩ := h
  have stays : ∀ c, isNode (Picodata.serveMetrics port c) = isNode c := by
    intro c
    rw [Picodata.serveMetrics]
    split <;> rfl
  refine ⟨_, only_map only stays, ?_⟩
  rw [Picodata.serveMetrics, if_pos (node_of_only only).2]
  exact prepared.served port

/-- An item is still ready when it was bound to an address. -/
theorem bindTo (h : Ready metrics item) (address : Address) : Ready metrics (item.bindTo address) := by
  obtain ⟨node, only, prepared⟩ := h
  exact ⟨_, only_map only fun _ => rfl,
    ⟨prepared.watched, prepared.args, prepared.ports, prepared.heard, prepared.untold⟩⟩

end Ready

end Picodata

/-- The port at which a sidecar lets a node serve its metrics. -/
def PicodataSidecar.metricsPort? : PicodataSidecar → Option UInt16
  | .httpMetrics port => some (port.getD Port.picodataHttp)
  | _ => none

namespace Picodata

/-- Where a node serves its metrics after these sidecars: where the last of them says that is for metrics,
and otherwise where it did before. -/
def portAfter (metrics : Option UInt16) (sidecars : List PicodataSidecar) : Option UInt16 :=
  (sidecars.filterMap PicodataSidecar.metricsPort?).getLast?.or metrics

/-- The first sidecar sets the port for metrics before the others do, or leaves it. -/
theorem portAfter_cons (metrics : Option UInt16) (sidecar : PicodataSidecar)
    (rest : List PicodataSidecar) :
    portAfter metrics (sidecar :: rest) = portAfter (sidecar.metricsPort?.or metrics) rest := by
  rw [portAfter, portAfter, List.filterMap_cons]
  cases sidecar.metricsPort? with
  | none => rfl
  | some port =>
      rw [List.getLast?_cons]
      cases (rest.filterMap PicodataSidecar.metricsPort?).getLast? <;> rfl

/-- A sidecar leaves an item ready, and has its say on the metrics. -/
theorem ready_addSidecar {metrics : Option UInt16} {state : Item × Nat} (h : Ready metrics state.1)
    (sidecar : PicodataSidecar) :
    Yields (fun next => Ready (sidecar.metricsPort?.or metrics) next.1) (addSidecar state sidecar) := by
  obtain ⟨item, backups⟩ := state
  rw [addSidecar.eq_def]
  cases sidecar with
  | nodeExporter port =>
      dsimp only
      split
      · exact Yields.defect _
      · exact Yields.pure (h.addContainer rfl)
  | httpMetrics port => exact Yields.pure (h.serveMetrics _)
  | backup config => exact Yields.pure (h.addContainer (isNode_backupContainer _ _))

/-- Sidecars leave an item ready, with the port for metrics that they ask for. -/
theorem ready_sidecars (sidecars : List PicodataSidecar) {metrics : Option UInt16} {state : Item × Nat}
    (h : Ready metrics state.1) :
    Yields (fun last => Ready (portAfter metrics sidecars) last.1) (sidecars.foldlM addSidecar state) := by
  induction sidecars generalizing metrics state with
  | nil => exact Yields.pure h
  | cons sidecar rest ih =>
      rw [List.foldlM_cons, portAfter_cons]
      exact (ready_addSidecar h sidecar).bind fun _ next => ih next

/-- The items of a planned instance are ready to be wired. -/
theorem planInstance_ready (t : PicodataInstance) :
    Yields (fun s => ∀ item ∈ s.items, Ready (portAfter none t.sidecars) item) (planInstance t) := by
  apply (planInstance_items t).mono
  rintro ⟨_⟩ ⟨given, item, backups, -, rfl, added⟩
  rw [List.forall_mem_singleton]
  exact (ready_sidecars t.sidecars (Ready.of_new (nodeItem 0) given 0 t.settings false)).of_ok added

/-- The items of a planned cluster are ready to be wired. -/
theorem planCluster_ready {t : PicodataCluster} {topology : PicodataTopology}
    (named : t.topology = some topology) :
    Yields (fun s => ∀ item ∈ s.items,
      Ready (if topology.monitor then some Port.picodataHttp else none) item) (planCluster t) := by
  apply (planCluster_layout named).mono
  rintro ⟨_⟩ ⟨nodes, config, targets, met, -, rfl⟩
  rw [List.forall_mem_map]
  intro node mem
  obtain ⟨index, -, given, -, rfl⟩ := exists_mem_of_forall₂ met mem
  have alone := Ready.of_new (nodeItem index) given index (nodeSettings t topology index) topology.monitor
  generalize (if topology.monitor then some Port.picodataHttp else none) = metrics at alone ⊢
  apply Item.visited_keeps
  · exact fun p _ _ item ready => ready.addContainer (isNode_backupContainer p.1 config)
  · rw [runNode]
    split
    · exact alone.addContainer rfl
    · exact alone

end Picodata

namespace DatabaseTemplate

/-- Where the nodes of a Picodata template serve their metrics, if they are watched.  A single node serves
them where the last of its sidecars for metrics says, and the nodes of a cluster at the default port. -/
def metricsPort? : DatabaseTemplate → Option UInt16
  | .picodataInstance t => (t.sidecars.filterMap PicodataSidecar.metricsPort?).getLast?
  | .picodataCluster t =>
      t.topology.bind fun topology => if topology.monitor then some Port.picodataHttp else none
  | _ => none

example (settings : PicodataSettings) (hardware : Option Hardware) :
    metricsPort? (.picodataInstance ⟨settings, hardware,
      [.httpMetrics (some 9090), .nodeExporter none, .httpMetrics none]⟩) = some Port.picodataHttp := rfl

/-- The items of a Picodata template are planned as nodes. -/
theorem plan_ready {t : DatabaseTemplate} (family : t.family = .picodata) :
    Yields (fun s => ∀ item ∈ s.items, Picodata.Ready t.metricsPort? item) t.plan := by
  cases t with
  | postgresInstance t => cases family
  | postgresCluster t => cases family
  | picodataInstance t =>
      have port : Picodata.portAfter none t.sidecars = metricsPort? (.picodataInstance t) := Option.or_none
      exact port ▸ Picodata.planInstance_ready t
  | picodataCluster t =>
      cases named : t.topology with
      | none =>
          rw [plan, Picodata.planCluster, named]
          exact Yields.defect _
      | some topology =>
          have port : metricsPort? (.picodataCluster t) =
              if topology.monitor then some Port.picodataHttp else none := by
            rw [metricsPort?, named]
            rfl
          rw [port]
          exact Picodata.planCluster_ready named

end DatabaseTemplate

/-! ### Wiring -/

namespace Picodata

/-- A node that serves its metrics at a port: its environment, its arguments and its ports agree on it. -/
structure Exposes (port : UInt16) (node : Container) : Prop where
  watched : node.monitor = true
  told : node.env.get? httpListen = some (listenAddress port)
  args : ∃ before, node.args = before ++ ["--http-listen", listenAddress port] ∧ "--http-listen" ∉ before
  ports : node.ports.filter (·.name = "http-metrics") = [⟨"http-metrics", port⟩]

/-- A node that does not serve its metrics: nothing that it is given mentions them. -/
structure Silent (node : Container) : Prop where
  unwatched : node.monitor = false
  untold : node.env.get? httpListen = none
  args : "--http-listen" ∉ node.args
  ports : node.ports.filter (·.name = "http-metrics") = []

/-- Whether a node serves its metrics, and where. -/
def Serves (node : Container) : Option UInt16 → Prop
  | some port => Exposes port node
  | none => Silent node

/-- What is given to a node as a parameter is not taken for the argument that says where it listens. -/
theorem httpListen_notMem_confArgs (conf : Table String) :
    "--http-listen" ∉ Container.confArgs "--set" conf := by
  intro mem
  obtain ⟨⟨key, value⟩, -, mem⟩ := List.mem_flatMap.1 mem
  rcases List.mem_cons.1 mem with same | mem
  · exact absurd same (by decide)
  · have same := congrArg String.toList (List.mem_singleton.1 mem)
    have equals : '=' ∈ "--http-listen".toList := by
      rw [same]
      simp [ToString.toString]
    exact absurd equals (by decide)

section Joined

variable (peers : String) (address : Address) (item : String) (settings : PicodataSettings) (c : Container)

/-- Wiring puts more behind the arguments of a node, and does not set where it listens for requests. -/
theorem args_joined : ∃ more, (joined peers address item settings c).args = c.args ++ more ∧
    "--http-listen" ∉ more := by
  rw [joined]
  split
  · exact ⟨[], (List.append_nil _).symm, List.not_mem_nil⟩
  · exact ⟨_, rfl, httpListen_notMem_confArgs settings.conf⟩

/-- Wiring leaves the ports of a node. -/
theorem ports_joined : (joined peers address item settings c).ports = c.ports := by
  rw [joined]
  split <;> rfl

variable {key value : String} (mem : (key, value) ∈ told peers address item)

include mem

/-- What a node is told is what it finds. -/
theorem told_joined : (joined peers address item settings c).env.get? key = some value := by
  have found : (c.withEnvs (told peers address item)).env.get? key = some value :=
    Table.get?_insertAll_of_mem _ (by simp [told]) mem
  have other : "PICODATA_CONF_JSON" ≠ key := by
    rintro rfl
    simp [told] at mem
  rw [joined]
  split
  · exact found
  · exact (Table.get?_insert_of_ne _ _ other).trans found

/-- What a node is told stands, whether or not it serves its metrics. -/
theorem told_wireContainer {index : UInt32} (runs : c.runtime = .picodata index settings) :
    (wireContainer peers address item c).env.get? key = some value := by
  have found := told_joined peers address item settings c mem
  have other : httpListen ≠ key := by
    rintro rfl
    simp [told, httpListen] at mem
  rw [wireContainer_node runs]
  split
  · rw [exposeMetrics]
    split <;> exact (Table.get?_insert_of_ne _ _ other).trans found
  · exact found

end Joined

/-- A node that has no port for its metrics is given that of its listening address. -/
theorem exposes_exposeMetrics {port : UInt16} {c : Container} (watched : c.monitor = true)
    (heard : listens c = listenAddress port) (apart : "--http-listen" ∉ c.args)
    (none_yet : c.ports.filter (·.name = "http-metrics") = []) : Exposes port (exposeMetrics c) := by
  have hidden : ¬ c.ports.any (·.name = "http-metrics") = true := by
    rw [List.any_eq_true]
    rintro ⟨p, mem, named⟩
    exact List.filter_eq_nil_iff.1 none_yet p mem named
  have exposed : exposeMetrics c =
      ((c.withEnv httpListen (listenAddress port)).withArgs
        ["--http-listen", listenAddress port]).withPort "http-metrics" port := by
    rw [listens] at heard
    rw [exposeMetrics, heard, listeningPort_listenAddress]
    exact if_neg hidden
  rw [exposed]
  refine ⟨watched, Table.get?_insert_self _ _ _, ⟨c.args, rfl, apart⟩, ?_⟩
  rw [Container.withPort, List.filter_append]
  change c.ports.filter (·.name = "http-metrics") ++ _ = _
  rw [none_yet]
  rfl

/-- A prepared node is wired to serve its metrics where it was to. -/
theorem serves_wireContainer {metrics : Option UInt16} {c : Container} (h : Prepared metrics c)
    {index : UInt32} {settings : PicodataSettings} (runs : c.runtime = .picodata index settings)
    (peers : String) (address : Address) (item : String) :
    Serves (wireContainer peers address item c) metrics := by
  obtain ⟨more, args, apart⟩ := args_joined peers address item settings c
  have ports := ports_joined peers address item settings c
  have none_yet : c.ports.filter (·.name = "http-metrics") = [] :=
    List.filter_eq_nil_iff.2 fun p mem => by simpa using h.ports p mem
  rw [h.args, List.nil_append] at args
  rw [wireContainer_node runs, h.watched]
  cases metrics with
  | none =>
      refine ⟨?_, ?_, ?_, ?_⟩
      · exact (configured_joined peers address item settings c).monitor.trans h.watched
      · exact (env_joined peers address item settings c).trans (h.untold rfl)
      · exact args ▸ apart
      · exact ports ▸ none_yet
  | some port =>
      apply exposes_exposeMetrics
      · exact (configured_joined peers address item settings c).monitor.trans h.watched
      · exact (listens_joined peers address item settings c).trans (h.heard port rfl)
      · exact args ▸ apart
      · exact ports ▸ none_yet

/-- An item of an address runs a node that has joined the others: it is told of its peers, and it announces
itself at the address of the item, which is where the backup agents of the item look for it. -/
structure NodeOn (peers : String) (metrics : Option UInt16) (address : Address) (node : Container)
    (item : Item) : Prop where
  bound : item.address = some address
  only : item.containers.filter isNode = [node]
  peers : node.env.get? "PICODATA_PEER" = some peers
  announced : node.env.get? "PICODATA_ADVERTISE" = some (endpoint address)
  serves : Serves node metrics
  agents : ∀ c ∈ item.containers, ∀ config, c.runtime = .backup config →
    c.env.get? "PICODATA_HOST" = some address.text

/-- A ready item that is bound and wired has one node, which knows its peers and where it listens. -/
theorem nodeOn_of_ready {metrics : Option UInt16} {item : Item} (ready : Ready metrics item)
    {address : Address} (bound : item.address = some address) (peers : String) :
    ∃ node, NodeOn peers metrics address node
      { item with containers := item.containers.map (wireContainer peers address item.name) } := by
  obtain ⟨node, only, prepared⟩ := ready
  have node_is := (node_of_only only).2
  obtain ⟨index, settings, runs⟩ : ∃ index settings, node.runtime = .picodata index settings := by
    rw [isNode] at node_is
    split at node_is
    · exact ⟨_, _, ‹_›⟩
    · cases node_is
  have stays : ∀ c, isNode (wireContainer peers address item.name c) = isNode c :=
    fun c => isNode_configured (wireContainer_configured peers address item.name c)
  refine ⟨wireContainer peers address item.name node, bound, only_map only stays, ?_, ?_, ?_, ?_⟩
  · exact told_wireContainer peers address item.name settings node (by simp [told]) runs
  · exact told_wireContainer peers address item.name settings node (by simp [told]) runs
  · exact serves_wireContainer prepared runs peers address item.name
  · rw [List.forall_mem_map]
    intro c _ config runs_wired
    have runs_agent := (wireContainer_configured peers address item.name c).runtime.symm.trans runs_wired
    rw [wireContainer.eq_def, runs_agent]
    exact Table.get?_insertAll_of_mem _ (by simp) (by simp)

/-- The nodes that run on some items. -/
def nodes (items : List Item) : List Container := items.flatMap (·.containers.filter isNode)

/-- The nodes on some items are one cluster: they are all given one list of peers, in which each of them
finds what it announces, in the order of the items, and clients are sent to the first of them. -/
structure Meshed (peers : String) (metrics : Option UInt16) (items : List Item) (connection : String) :
    Prop where
  joined : ∀ item ∈ items, ∃ address node, NodeOn peers metrics address node item
  listed : (entriesOf peers).map some = (nodes items).map (·.env.get? "PICODATA_ADVERTISE")
  clients : ∃ first address, items.head? = some first ∧ first.address = some address ∧
    connection =
      s!"postgres://postgres:postgres@{address.text}:{Port.picodataPg.toNat}/postgres?sslmode=disable"

/-- The peers are read back from the text that joins them. -/
theorem entriesOf_peersOf {addresses : List Address} (some_address : addresses ≠ []) :
    entriesOf (peersOf addresses) = addresses.map endpoint := by
  refine entriesOf_intercalate ?_ (by simpa using some_address)
  rw [List.forall_mem_map]
  intro address _
  have digits := notMem_toDigits ',' rfl
  simp [endpoint, ToString.toString, address.comma_notMem_text, digits]

/-- What nodes announce, where each item runs one. -/
theorem announced_nodes {peers : String} {metrics : Option UInt16} {items : List Item}
    (joined : ∀ item ∈ items, ∃ address node, NodeOn peers metrics address node item) :
    (nodes items).map (·.env.get? "PICODATA_ADVERTISE") =
      items.map fun item => item.address.map endpoint := by
  rw [nodes, List.map_flatMap, List.map_eq_flatMap]
  refine List.flatMap_congr fun item mem => ?_
  obtain ⟨address, node, on⟩ := joined item mem
  rw [on.only, List.map_singleton, on.announced, on.bound]
  rfl

/-- Bound items that each run a prepared node are wired into one cluster. -/
theorem wire_meshes {metrics : Option UInt16} {items : List Item}
    (ready : ∀ item ∈ items, Ready metrics item) :
    Yields (fun wired => ∃ peers, Meshed peers metrics wired.1 wired.2) (wire items) := by
  have all_nodes : (items.filter fun item => item.containers.any isNode) = items := by
    refine List.filter_eq_self.2 fun item mem => ?_
    obtain ⟨node, only, -⟩ := ready item mem
    exact List.any_eq_true.2 ⟨node, node_of_only only⟩
  rw [wire]
  apply (nodeAddresses_decides items).toYields.bind
  rintro addresses ⟨-, bound⟩
  rw [all_nodes] at bound
  cases addresses with
  | nil => exact Yields.defect _
  | cons first rest =>
      have each : ∀ item ∈ items, Yields (fun j => j.address = item.address ∧ ∃ address node,
          NodeOn (peersOf (first :: rest)) metrics address node j)
          (wireItem (peersOf (first :: rest)) item) := by
        intro item mem
        apply item.boundAddress_yields.bind
        intro address bound_item
        exact Yields.pure ⟨rfl, address, nodeOn_of_ready (ready item mem) bound_item _⟩
      apply (Yields.mapM each).bind
      intro wired related
      have joined : ∀ j ∈ wired, ∃ address node,
          NodeOn (peersOf (first :: rest)) metrics address node j := by
        intro j mem
        obtain ⟨item, -, -, on⟩ := exists_mem_of_forall₂ related mem
        exact on
      have addresses : wired.map (·.address) = (first :: rest).map some :=
        (map_eq_map_of_forall₂ related fun _ _ both => both.1.symm).symm.trans
          (map_eq_map_of_forall₂ bound fun _ _ same => same)
      refine Yields.pure ⟨peersOf (first :: rest), joined, ?_, ?_⟩
      · calc (entriesOf (peersOf (first :: rest))).map some
            = ((first :: rest).map some).map (Option.map endpoint) := by
              rw [entriesOf_peersOf (List.cons_ne_nil _ _), List.map_map, List.map_map]
              rfl
          _ = wired.map fun j => j.address.map endpoint := by
              rw [← addresses, List.map_map]
              rfl
          _ = (nodes wired).map (·.env.get? "PICODATA_ADVERTISE") := (announced_nodes joined).symm
      · obtain ⟨j, js, rfl, address, -⟩ := List.map_eq_cons_iff.1 addresses
        exact ⟨j, first, rfl, address, rfl⟩

end Picodata

namespace DatabaseTemplate

/-- A database of this family that is placed on a network with addresses enough is meshed. -/
theorem place_meshed {t : DatabaseTemplate} {network : Network} (family : t.family = .picodata)
    (enough : t.requiredAddresses ≤ network.ips.length) :
    Yields (fun intent => ∃ peers,
        Picodata.Meshed peers t.metricsPort? intent.items intent.connectionString)
      (t.place network) := by
  rw [place]
  apply (t.plan_yields.and (plan_ready family)).bind
  rintro planned ⟨names, ready⟩
  split
  · exact Yields.defect _
  · have size : planned.size ≤ network.ips.length := by
      rwa [← ItemSet.length_names, names, length_roster]
    rw [ItemSet.bind_of_enough size, family]
    have bound : ∀ item ∈ List.zipWith Item.bindTo planned.items network.ips,
        Picodata.Ready t.metricsPort? item := by
      intro item mem
      obtain ⟨i, at_i⟩ := List.mem_iff_getElem?.1 mem
      obtain ⟨plain, address, plain_at_i, -, rfl⟩ := List.getElem?_zipWith_eq_some.1 at_i
      exact (ready plain (List.mem_of_getElem? plain_at_i)).bindTo address
    apply (Picodata.wire_meshes bound).bind
    rintro ⟨wired, connectionString⟩ meshed
    exact Yields.pure meshed

/-- The roster of a Picodata template lists its nodes in the order of their numbers. -/
theorem roster_picodata {t : DatabaseTemplate} (family : t.family = .picodata) :
    t.roster = (List.range t.roster.length).map Picodata.nodeItem := by
  cases t with
  | postgresInstance t => cases family
  | postgresCluster t => cases family
  | picodataInstance t => rfl
  | picodataCluster t =>
      rw [roster, Picodata.clusterNames]
      split
      · rw [List.length_map, List.length_range]
      · rfl

/-- A placed Picodata database is one cluster.  Its items are its nodes, in the order of their numbers; each
runs one node, which announces itself at the address of its item and is given the same list of peers as all
others, in which exactly what the nodes announce is listed, in their order; clients are sent to the first
node; backup agents go to the node on their own item; and a node serves its metrics if it is watched, at one
port on which its environment, its arguments and its ports agree. -/
theorem nodes_form_one_cluster {t : DatabaseTemplate} {network : Network} {intent : PlacementIntent}
    (family : t.family = .picodata) (placed : t.place network = .ok intent) :
    intent.items.map Item.name = (List.range intent.items.length).map Picodata.nodeItem ∧
      ∃ peers, Picodata.Meshed peers t.metricsPort? intent.items intent.connectionString := by
  have names := (placed_of_place placed).names
  constructor
  · have length := congrArg List.length names
    rw [List.length_map] at length
    rw [names, length]
    exact roster_picodata family
  · exact (place_meshed family (enough_of_place placed)).of_ok placed

/-- Two nodes, both of which are watched and backed up. -/
def watchedPair : DatabaseTemplate :=
  .picodataCluster {
    topology := some {
      nodesCount := 2
      nodeHardware := some ⟨2, 4, 50⟩
      settings := ⟨.ofList [("log_level", "info")]⟩
      monitor := true }
    nodeOverrides := []
    backup := some ⟨true, some .allNodes, none, some ⟨"0 3 * * *", 7, .walG, .localDirectory "/backup"⟩⟩ }

/-- Two monitored nodes know of each other and have their metrics scraped. -/
theorem watchedPair_forms_one_cluster :
    let network : Network := ⟨⟨token 1, "net", .docker⟩, "10.0.0.0/29", [.ofNat 1, .ofNat 2, .ofNat 3]⟩
    ∃ intent, watchedPair.place network = .ok intent ∧
      intent.items.map Item.name = ["picodata-node-0", "picodata-node-1"] ∧
      ∃ peers, Picodata.Meshed peers (some Port.picodataHttp) intent.items intent.connectionString := by
  intro network
  obtain ⟨intent, placed⟩ := exists_ok_of_isOk
    (show (watchedPair.place network).isOk = true by decide +kernel)
  obtain ⟨names, meshed⟩ := nodes_form_one_cluster (t := watchedPair) rfl placed
  have two : intent.items.length = 2 := by
    rw [← List.length_map (f := Item.name), (placed_of_place placed).names]
    rfl
  refine ⟨intent, placed, ?_, meshed⟩
  rw [names, two]
  decide

end DatabaseTemplate

end Testbed
