import Mathlib
import Testbed.Placement.Intent
import Testbed.Proofs.Placement.Item

/-!
Which items a template plans, and in which order.

The roster of a template lists the names of its items: the nodes of the topology in index order, then the
nodes that the configuration store has for itself, then those of the pooler.  It is read off the template
alone, without planning.  Planning either reports a defect or makes exactly the items of the roster, in
that order; a pass that places containers of an addon on items that exist adds none.

No two names of a roster agree, so the passes that look an item up by name find the one item that is
meant, and a roster is as long as the number of addresses that the template asks for.
-/

namespace Testbed

/-- Overrides are refused because of a defect only. -/
theorem validateOverrides_yields (family : Family) (count : Nat) (seen indices : List Nat) :
    Yields (fun _ => True) (validateOverrides family count seen indices) := by
  induction indices generalizing seen with
  | nil => exact Yields.pure trivial
  | cons index rest ih =>
      rw [validateOverrides]
      split
      · exact Yields.defect _
      · split
        · exact Yields.defect _
        · exact ih _

namespace Postgres

/-! ### Names -/

/-- Replicas are told apart by their items. -/
theorem replicaItem_injective (i j : Nat) (h : replicaItem i = replicaItem j) : i = j := by
  simpa [replicaItem] using h

/-- The items that an addon has for itself are told apart by their names. -/
theorem dedicatedItem_injective (addon : Addon) (i j : Nat)
    (h : dedicatedItem addon i = dedicatedItem addon j) : i = j := by
  simpa [dedicatedItem] using h

/-- The item of the master is not that of a replica. -/
theorem masterItem_ne_replicaItem (i : Nat) : masterItem ≠ replicaItem i := by
  intro same
  have start := congrArg (·.toList.take 10) same
  simp [ToString.toString, masterItem, replicaItem] at start

/-- The item of the master is not that of an addon. -/
theorem masterItem_ne_dedicatedItem (addon : Addon) (i : Nat) :
    masterItem ≠ dedicatedItem addon i := by
  intro same
  have start := congrArg (·.toList.take 2) same
  cases addon <;> simp [ToString.toString, masterItem, dedicatedItem, Addon.name] at start

/-- The item of a replica is not that of an addon. -/
theorem replicaItem_ne_dedicatedItem (addon : Addon) (i j : Nat) :
    replicaItem i ≠ dedicatedItem addon j := by
  intro same
  have start := congrArg (·.toList.take 2) same
  cases addon <;> simp [ToString.toString, replicaItem, dedicatedItem, Addon.name] at start

/-- The name of an item that was made for an addon tells which addon that is. -/
theorem addon_eq_of_dedicatedItem {a b : Addon} {i j : Nat}
    (same : dedicatedItem a i = dedicatedItem b j) : a = b := by
  have start := congrArg (·.toList.take 1) same
  cases a <;> cases b <;> simp [ToString.toString, dedicatedItem, Addon.name] at start ⊢

/-- The names of the nodes of a topology. -/
def nodeNames (topology : PostgresTopology) : List String :=
  masterItem :: (List.range topology.replicasCount.toNat).map replicaItem

/-- The names of the items that are made for an addon. -/
def dedicatedNames (addon : Addon) (count : Nat) : List String :=
  (List.range count).map (dedicatedItem addon)

/-- How many items are made for the configuration store. -/
def etcdCount (addons : PostgresAddons) : Nat :=
  match addons.etcd with
  | some etcd => AddonPlacement.dedicatedCount etcd.placement
  | none => 0

/-- How many items are made for the pooler. -/
def pgbouncerCount (addons : PostgresAddons) : Nat :=
  match addons.pgbouncer with
  | some pgbouncer =>
      if pgbouncer.enabled then AddonPlacement.dedicatedCount pgbouncer.placement else 0
  | none => 0

/-- The names of the items of a cluster. -/
def clusterNames (t : PostgresCluster) : List String :=
  match t.topology with
  | some topology =>
      nodeNames topology ++ dedicatedNames .etcd (etcdCount t.addons) ++
        dedicatedNames .pgbouncer (pgbouncerCount t.addons)
  | none => []

/-- No item that an addon has for itself is a node. -/
theorem dedicatedItem_notMem_nodeNames (addon : Addon) (topology : PostgresTopology) (i : Nat) :
    dedicatedItem addon i ∉ nodeNames topology := by
  intro mem
  rcases List.mem_cons.1 mem with master | replica
  · exact masterItem_ne_dedicatedItem addon i master.symm
  · obtain ⟨j, -, same⟩ := List.mem_map.1 replica
    exact replicaItem_ne_dedicatedItem addon j i same

/-- No item belongs to two addons. -/
theorem dedicatedItem_notMem_dedicatedNames {a b : Addon} (different : a ≠ b) (count i : Nat) :
    dedicatedItem b i ∉ dedicatedNames a count := by
  intro mem
  obtain ⟨j, -, same⟩ := List.mem_map.1 mem
  exact different (addon_eq_of_dedicatedItem same)

/-- Names that no item of an addon has are apart from the names of its items. -/
theorem disjoint_dedicatedNames {names : List String} {addon : Addon} (count : Nat)
    (fresh : ∀ i, dedicatedItem addon i ∉ names) : names.Disjoint (dedicatedNames addon count) := by
  intro name old new
  obtain ⟨i, -, rfl⟩ := List.mem_map.1 new
  exact fresh i old

/-- No two nodes share a name. -/
theorem nodup_nodeNames (topology : PostgresTopology) : (nodeNames topology).Nodup := by
  apply List.nodup_cons.2
  constructor
  · intro mem
    obtain ⟨i, -, same⟩ := List.mem_map.1 mem
    exact masterItem_ne_replicaItem i same.symm
  · exact List.nodup_range.map replicaItem_injective

/-- No two items of one addon share a name. -/
theorem nodup_dedicatedNames (addon : Addon) (count : Nat) : (dedicatedNames addon count).Nodup :=
  List.nodup_range.map (dedicatedItem_injective addon)

/-- The items of a topology and of its configuration store leave the names of the pooler's items free. -/
theorem pgbouncerItem_fresh (topology : PostgresTopology) (count i : Nat) :
    dedicatedItem .pgbouncer i ∉ nodeNames topology ++ dedicatedNames .etcd count := by
  intro mem
  rcases List.mem_append.1 mem with node | member
  · exact dedicatedItem_notMem_nodeNames .pgbouncer topology i node
  · exact dedicatedItem_notMem_dedicatedNames (by decide) count i member

/-- No two items of a cluster share a name. -/
theorem nodup_clusterNames (t : PostgresCluster) : (clusterNames t).Nodup := by
  rw [clusterNames]
  split
  · next topology _ =>
    have nodes := (nodup_nodeNames topology).append (nodup_dedicatedNames .etcd (etcdCount t.addons))
      (disjoint_dedicatedNames _ (dedicatedItem_notMem_nodeNames .etcd topology))
    exact nodes.append (nodup_dedicatedNames .pgbouncer _)
      (disjoint_dedicatedNames _ (pgbouncerItem_fresh topology _))
  · exact List.nodup_nil

/-- A cluster is made of its nodes, the items of its store and those of its pooler. -/
theorem clusterNames_eq {t : PostgresCluster} {topology : PostgresTopology}
    (named : t.topology = some topology) :
    clusterNames t = nodeNames topology ++ dedicatedNames .etcd (etcdCount t.addons) ++
      dedicatedNames .pgbouncer (pgbouncerCount t.addons) := by
  rw [clusterNames, named]

/-- A cluster has as many items as it needs addresses. -/
theorem length_clusterNames (t : PostgresCluster) :
    (clusterNames t).length = t.requiredAddresses := by
  rw [clusterNames, PostgresCluster.requiredAddresses]
  cases t.topology with
  | none => rfl
  | some topology =>
      change _ = 1 + topology.replicasCount.toNat + etcdCount t.addons + pgbouncerCount t.addons
      simp only [nodeNames, dedicatedNames, List.length_append, List.length_cons, List.length_map,
        List.length_range]
      omega

/-! ### Steps -/

/-- Adding a node under a new name adds that name. -/
theorem addNode_yields {items : ItemSet} {name : String} (fresh : name ∉ items.names)
    (hardware : Option Hardware) (role : PostgresRole) (index : Nat) (settings : PostgresSettings)
    (monitor : Bool) :
    Yields (·.names = items.names ++ [name])
      (addNode items name hardware role index settings monitor) := by
  rw [addNode]
  apply (ItemSet.ensure_yields fresh hardware).bind
  intro added names_added
  apply Yields.pure
  rw [ItemSet.names_modify, names_added]
  intro item same
  cases monitor with
  | true => exact same
  | false => exact same

/-- A sidecar leaves the name of its item. -/
theorem addSidecar_yields (item : Item) (c : Container) :
    Yields (·.name = item.name) (addSidecar item c) := by
  rw [addSidecar]
  split
  · exact Yields.defect _
  · exact Yields.pure rfl

theorem planInstance_yields (t : PostgresInstance) :
    Yields (·.names = [masterItem]) (planInstance t) := by
  rw [planInstance]
  apply (ItemSet.ensure_yields (s := .empty) List.not_mem_nil t.hardware).bind
  intro items names_items
  split
  · exact Yields.pure names_items
  · next item found =>
    have named : item.name = masterItem := ItemSet.name_of_get? found
    apply Yields.bind (P := fun item => item.name = masterItem)
    · exact Yields.foldlM (fun _ c kept => (addSidecar_yields _ c).mono fun _ same => same.trans kept)
        (b := item.addContainer _) named _
    · intro last named_last
      apply Yields.pure
      rw [ItemSet.names_modify fun _ _ => named_last]
      exact names_items

/-- Planning the nodes makes one item for each, in order. -/
theorem planTopology_yields (t : PostgresCluster) (topology : PostgresTopology) :
    Yields (·.names = nodeNames topology) (planTopology t topology) := by
  rw [planTopology]
  have unused : masterItem ∉ ItemSet.empty.names := List.not_mem_nil
  apply (addNode_yields unused _ _ _ _ _).bind
  intro items names_items
  have fresh : ∀ i, 0 ≤ i → replicaItem i ∉ items.names := by
    intro i _ mem
    rw [names_items] at mem
    exact masterItem_ne_replicaItem i (List.mem_singleton.1 mem).symm
  apply (ItemSet.addEach_yields replicaItem_injective
    (fun _ _ unused => addNode_yields unused _ _ _ _ _) _ 0 fresh).mono
  intro all names_all
  rw [names_all, names_items, nodeNames, List.range_eq_range']
  rfl

/-- A scope is resolved, or there is something wrong with it. -/
theorem scopeTargets_yields (addon : Addon) (scope : PlacementScope) (replicaIndex : Option UInt32)
    (nodes : Nodes) : Yields (fun _ => True) (scopeTargets addon scope replicaIndex nodes) := by
  have checked : ∀ targets : List String, Yields (fun _ => True)
      (if targets.isEmpty then defect (.placementEmpty addon) else Pure.pure targets) := by
    intro targets
    split
    · exact Yields.defect _
    · exact Yields.pure trivial
  rw [scopeTargets.eq_def]
  cases scope with
  | master => exact checked [masterItem]
  | replicas => exact checked nodes.replicas
  | allNodes => exact checked (masterItem :: nodes.replicas)
  | replica =>
      cases replicaIndex with
      | none => exact Yields.defect _
      | some index =>
          dsimp only
          split
          · next name _ => exact checked [name]
          · exact Yields.defect _

/-- An item of an addon under a new name adds that name. -/
theorem addDedicated_yields {addon : Addon} {items : ItemSet} {index : Nat}
    (fresh : dedicatedItem addon index ∉ items.names) (hardware : Option Hardware) :
    Yields (·.names = items.names ++ [dedicatedItem addon index])
      (addDedicated addon hardware items index) := by
  rw [addDedicated, ItemSet.get?_eq_none.2 fresh]
  exact ItemSet.ensure_yields fresh hardware

/-- Resolving where an addon runs adds the items that are made for it, and no others. -/
theorem expandPlacement_yields {items : ItemSet} {addon : Addon}
    (fresh : ∀ i, dedicatedItem addon i ∉ items.names) (placement : Option AddonPlacement)
    (nodes : Nodes) :
    Yields (·.1.names =
        items.names ++ dedicatedNames addon (AddonPlacement.dedicatedCount placement))
      (expandPlacement items addon placement nodes) := by
  rw [expandPlacement.eq_def]
  match placement with
  | none => exact Yields.defect _
  | some (.colocate scope replicaIndex) =>
      apply (scopeTargets_yields addon scope replicaIndex nodes).bind
      intro targets _
      apply Yields.pure
      exact (List.append_nil _).symm
  | some (.dedicated instancesCount hardware) =>
      dsimp only
      split
      · exact Yields.defect _
      · apply (ItemSet.addEach_yields (dedicatedItem_injective addon)
          (fun _ _ unused => addDedicated_yields unused hardware) instancesCount.toNat 0
          fun i _ => fresh i).bind
        intro all names_all
        apply Yields.pure
        dsimp only
        rw [names_all, dedicatedNames, List.range_eq_range']
        rfl

/-- A change that keeps the name of its target keeps all names. -/
theorem changeTarget_yields {addon : Addon} {items : ItemSet} {name : String} {change : Item → Item}
    (keep : ∀ item, (change item).name = item.name) :
    Yields (·.names = items.names) (changeTarget addon items name change) := by
  rw [changeTarget]
  split
  · exact Yields.pure (ItemSet.names_modify fun item same => (keep item).trans same)
  · exact Yields.defect _

/-- A pass over the items that an addon runs on adds no items. -/
theorem changeTargets_yields {α : Type} {addon : Addon} {name : α → String}
    {change : α → Item → Item} (keep : ∀ a item, (change a item).name = item.name)
    (items : ItemSet) (targets : List α) :
    Yields (·.names = items.names)
      (targets.foldlM (fun items a => changeTarget addon items (name a) (change a)) items) :=
  Yields.foldlM (fun _ a kept => (changeTarget_yields (keep a)).mono fun _ same => same.trans kept)
    rfl targets

/-- Watching an item leaves its name. -/
theorem ensureNodeExporter_name (item : Item) : (ensureNodeExporter item).name = item.name := by
  rw [ensureNodeExporter]
  split
  · rfl
  · rfl

/-- Planning a store adds the items that it has for itself. -/
theorem planEtcd_yields {items : ItemSet} (fresh : ∀ i, dedicatedItem .etcd i ∉ items.names)
    (etcd : EtcdAddon) (nodes : Nodes) :
    Yields (·.names =
        items.names ++ dedicatedNames .etcd (AddonPlacement.dedicatedCount etcd.placement))
      (planEtcd items etcd nodes) := by
  rw [planEtcd]
  apply (expandPlacement_yields fresh etcd.placement nodes).bind
  rintro ⟨expanded, targets⟩ names_expanded
  dsimp only at names_expanded ⊢
  rw [← names_expanded]
  split
  · exact Yields.defect _
  · apply changeTargets_yields
    rintro ⟨memberIndex, target⟩ item
    dsimp only
    split
    · exact ensureNodeExporter_name _
    · rfl

/-- Planning a pooler adds the items that it has for itself. -/
theorem planPgbouncer_yields {items : ItemSet}
    (fresh : ∀ i, dedicatedItem .pgbouncer i ∉ items.names) (pgbouncer : PgbouncerAddon)
    (nodes : Nodes) :
    Yields (·.names =
        items.names ++
          dedicatedNames .pgbouncer (AddonPlacement.dedicatedCount pgbouncer.placement))
      (planPgbouncer items pgbouncer nodes) := by
  rw [planPgbouncer]
  apply (expandPlacement_yields fresh pgbouncer.placement nodes).bind
  rintro ⟨expanded, targets⟩ names_expanded
  dsimp only at names_expanded ⊢
  rw [← names_expanded]
  apply changeTargets_yields
  rintro ⟨index, target⟩ item
  dsimp only
  split
  · split
    · exact ensureNodeExporter_name _
    · rfl
  · rfl

/-- Planning a backup adds no item. -/
theorem planBackup_yields (items : ItemSet) (backup : BackupAddon) (nodes : Nodes) :
    Yields (·.names = items.names) (planBackup items backup nodes) := by
  rw [planBackup]
  split
  · exact Yields.defect _
  · exact Yields.defect _
  · apply (scopeTargets_yields _ _ _ _).bind
    intro targets _
    apply changeTargets_yields
    exact fun _ _ => rfl

/-! ### Clusters -/

/-- The pass of the configuration store. -/
def placeEtcd (addons : PostgresAddons) (nodes : Nodes) (items : ItemSet) :
    Except PlacementError ItemSet :=
  match addons.etcd with
  | some etcd => planEtcd items etcd nodes
  | none => .ok items

/-- The pass of the pooler. -/
def placePgbouncer (addons : PostgresAddons) (nodes : Nodes) (items : ItemSet) :
    Except PlacementError ItemSet :=
  match addons.pgbouncer with
  | some pgbouncer => if pgbouncer.enabled then planPgbouncer items pgbouncer nodes else .ok items
  | none => .ok items

/-- The pass of the backup agents. -/
def placeBackup (addons : PostgresAddons) (nodes : Nodes) (items : ItemSet) :
    Except PlacementError ItemSet :=
  match addons.backup with
  | some backup => if backup.enabled then planBackup items backup nodes else .ok items
  | none => .ok items

/-- Planning a cluster is planning its nodes, and then one pass for each addon. -/
theorem planCluster_eq {t : PostgresCluster} {topology : PostgresTopology}
    (h : t.topology = some topology) :
    planCluster t = (do
      validateOverrides .postgres topology.replicasCount.toNat []
        (t.replicaOverrides.map (·.replicaIndex.toNat))
      let items ← planTopology t topology
      let items ← placeEtcd t.addons (nodesOf topology) items
      let items ← placePgbouncer t.addons (nodesOf topology) items
      placeBackup t.addons (nodesOf topology) items) := by
  unfold planCluster placeEtcd placePgbouncer placeBackup
  rw [h]
  dsimp only
  congr 1
  funext _
  congr 1
  funext nodes
  cases t.addons.pgbouncer with
  | none =>
      cases t.addons.etcd with
      | none => rfl
      | some etcd => rfl
  | some pgbouncer =>
      by_cases enabled : pgbouncer.enabled
      · simp only [if_pos enabled]
        cases t.addons.etcd with
        | none => rfl
        | some etcd => rfl
      · simp only [if_neg enabled]
        cases t.addons.etcd with
        | none => rfl
        | some etcd => rfl

/-- A store that there is adds the items that it has for itself. -/
theorem placeEtcd_yields {items : ItemSet} (fresh : ∀ i, dedicatedItem .etcd i ∉ items.names)
    (addons : PostgresAddons) (nodes : Nodes) :
    Yields (·.names = items.names ++ dedicatedNames .etcd (etcdCount addons))
      (placeEtcd addons nodes items) := by
  rw [placeEtcd, etcdCount]
  split
  · exact planEtcd_yields fresh _ _
  · exact Yields.pure (List.append_nil _).symm

/-- A pooler that is enabled adds the items that it has for itself. -/
theorem placePgbouncer_yields {items : ItemSet}
    (fresh : ∀ i, dedicatedItem .pgbouncer i ∉ items.names) (addons : PostgresAddons)
    (nodes : Nodes) :
    Yields (·.names = items.names ++ dedicatedNames .pgbouncer (pgbouncerCount addons))
      (placePgbouncer addons nodes items) := by
  rw [placePgbouncer, pgbouncerCount]
  split
  · split
    · exact planPgbouncer_yields fresh _ _
    · exact Yields.pure (List.append_nil _).symm
  · exact Yields.pure (List.append_nil _).symm

/-- Backups add no item. -/
theorem placeBackup_yields (addons : PostgresAddons) (nodes : Nodes) (items : ItemSet) :
    Yields (·.names = items.names) (placeBackup addons nodes items) := by
  rw [placeBackup]
  split
  · split
    · exact planBackup_yields items _ _
    · exact Yields.pure rfl
  · exact Yields.pure rfl

/-- A planned cluster of servers has the items of its roster. -/
theorem planCluster_yields (t : PostgresCluster) :
    Yields (·.names = clusterNames t) (planCluster t) := by
  rw [clusterNames]
  cases h : t.topology with
  | none =>
      rw [planCluster, h]
      exact Yields.defect _
  | some topology =>
      rw [planCluster_eq h]
      apply (validateOverrides_yields _ _ _ _).bind
      intro _ _
      apply (planTopology_yields t topology).bind
      intro nodes names_nodes
      -- Each pass starts from the names that the passes before it left, and finds its own unused.
      apply (placeEtcd_yields (fun i => names_nodes ▸
        dedicatedItem_notMem_nodeNames .etcd topology i) t.addons _).bind
      intro stored names_stored
      rw [names_nodes] at names_stored
      apply (placePgbouncer_yields (fun i => names_stored ▸
        pgbouncerItem_fresh topology _ i) t.addons _).bind
      intro pooled names_pooled
      rw [names_stored] at names_pooled
      exact (placeBackup_yields t.addons _ pooled).mono fun _ same => same.trans names_pooled

end Postgres

namespace Picodata

/-- Nodes are told apart by their items. -/
theorem nodeItem_injective (i j : Nat) (h : nodeItem i = nodeItem j) : i = j := by
  simpa [nodeItem] using h

/-- The names of the items of a cluster. -/
def clusterNames (t : PicodataCluster) : List String :=
  match t.topology with
  | some topology => (List.range topology.nodesCount.toNat).map nodeItem
  | none => []

/-- No two nodes of a cluster share a name. -/
theorem nodup_clusterNames (t : PicodataCluster) : (clusterNames t).Nodup := by
  rw [clusterNames]
  split
  · exact List.nodup_range.map nodeItem_injective
  · exact List.nodup_nil

theorem addSidecar_yields (state : Item × Nat) (sidecar : PicodataSidecar) :
    Yields (·.1.name = state.1.name) (addSidecar state sidecar) := by
  obtain ⟨item, backups⟩ := state
  cases sidecar with
  | nodeExporter port =>
      rw [addSidecar]
      split
      · exact Yields.defect _
      · exact Yields.pure rfl
  | httpMetrics port => exact Yields.pure rfl
  | backup config => exact Yields.pure rfl

theorem planInstance_yields (t : PicodataInstance) :
    Yields (·.names = [nodeItem 0]) (planInstance t) := by
  rw [planInstance]
  apply (ItemSet.ensure_yields (s := .empty) List.not_mem_nil t.hardware).bind
  intro items names_items
  split
  · exact Yields.pure names_items
  · next item found =>
    have named : item.name = nodeItem 0 := ItemSet.name_of_get? found
    apply Yields.bind (P := fun state => state.1.name = nodeItem 0)
    · exact Yields.foldlM (fun _ s kept => (addSidecar_yields _ s).mono fun _ same => same.trans kept)
        (b := (item.addContainer _, 0)) named _
    · rintro ⟨last, backups⟩ named_last
      apply Yields.pure
      rw [ItemSet.names_modify fun _ _ => named_last]
      exact names_items

theorem addNode_yields {items : ItemSet} {index : Nat} (fresh : nodeItem index ∉ items.names)
    (t : PicodataCluster) (topology : PicodataTopology) :
    Yields (·.names = items.names ++ [nodeItem index]) (addNode t topology items index) := by
  rw [addNode]
  apply (ItemSet.ensure_yields fresh _).bind
  intro added names_added
  apply Yields.pure
  rw [ItemSet.names_modify, names_added]
  intro item same
  dsimp only
  split
  · exact same
  · exact same

/-- The targets of a backup are refused because of a defect only. -/
theorem backupTargets_yields (backup : PicodataBackupAddon) (nodes : List String) :
    Yields (fun _ => True) (backupTargets backup nodes) := by
  rw [backupTargets]
  split
  · exact Yields.defect _
  · exact Yields.pure trivial
  · split
    · exact Yields.defect _
    · split
      · exact Yields.pure trivial
      · exact Yields.defect _

theorem planBackup_yields (items : ItemSet) (backup : PicodataBackupAddon) (nodes : List String) :
    Yields (·.names = items.names) (planBackup items backup nodes) := by
  rw [planBackup]
  split
  · exact Yields.defect _
  · apply (backupTargets_yields backup nodes).bind
    intro targets _
    apply Yields.foldlM (P := fun s : ItemSet => s.names = items.names)
    · rintro s ⟨target, i⟩ kept
      dsimp only
      split
      · apply Yields.pure
        rw [ItemSet.names_modify, kept]
        exact fun _ same => same
      · exact Yields.defect _
    · rfl

/-- A planned cluster of nodes has the items of its roster. -/
theorem planCluster_yields (t : PicodataCluster) :
    Yields (·.names = clusterNames t) (planCluster t) := by
  rw [planCluster, clusterNames]
  cases t.topology with
  | none => exact Yields.defect _
  | some topology =>
      dsimp only
      split
      · exact Yields.defect _
      · apply (validateOverrides_yields _ _ _ _).bind
        intro _ _
        apply (ItemSet.addEach_yields nodeItem_injective
          (fun _ _ unused => addNode_yields unused t topology) _ 0 (s := .empty)
          fun _ _ => List.not_mem_nil).bind
        intro items names_items
        have names : items.names = (List.range topology.nodesCount.toNat).map nodeItem := by
          rw [names_items, List.range_eq_range']
          rfl
        split
        · split
          · exact (planBackup_yields items _ _).mono fun _ same => same.trans names
          · exact Yields.pure names
        · exact Yields.pure names

end Picodata

/-! ### Templates -/

namespace DatabaseTemplate

/-- The names of the items of a template, in order. -/
def roster : DatabaseTemplate → List String
  | .postgresInstance _ => [Postgres.masterItem]
  | .postgresCluster t => Postgres.clusterNames t
  | .picodataInstance _ => [Picodata.nodeItem 0]
  | .picodataCluster t => Picodata.clusterNames t

/-- A template asks for one address for each item of its roster. -/
theorem length_roster (t : DatabaseTemplate) : t.roster.length = t.requiredAddresses := by
  cases t with
  | postgresInstance t => rfl
  | postgresCluster t => exact Postgres.length_clusterNames t
  | picodataInstance t => rfl
  | picodataCluster t =>
      rw [roster, Picodata.clusterNames, requiredAddresses]
      cases t.topology with
      | none => rfl
      | some topology => rw [List.length_map, List.length_range]

/-- No roster names an item twice. -/
theorem nodup_roster (t : DatabaseTemplate) : t.roster.Nodup := by
  cases t with
  | postgresInstance t => exact List.nodup_singleton _
  | postgresCluster t => exact Postgres.nodup_clusterNames t
  | picodataInstance t => exact List.nodup_singleton _
  | picodataCluster t => exact Picodata.nodup_clusterNames t

/-- Planning makes the items of the roster, or reports a defect. -/
theorem plan_yields (t : DatabaseTemplate) : Yields (·.names = t.roster) t.plan := by
  cases t with
  | postgresInstance t => exact Postgres.planInstance_yields t
  | postgresCluster t => exact Postgres.planCluster_yields t
  | picodataInstance t => exact Picodata.planInstance_yields t
  | picodataCluster t => exact Picodata.planCluster_yields t

/-- A plan has as many items as the database needs addresses. -/
theorem size_of_plan {t : DatabaseTemplate} {items : ItemSet} (planned : t.plan = .ok items) :
    items.size = t.requiredAddresses := by
  have names : items.names = t.roster := t.plan_yields.of_ok planned
  rw [← length_roster, ← names, ItemSet.length_names]

end DatabaseTemplate

end Testbed
