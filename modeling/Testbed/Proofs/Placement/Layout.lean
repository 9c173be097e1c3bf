import Testbed.Proofs.Placement.Cluster

/-!
How the items of a database are laid out.

Planning makes the items of the nodes first, and then goes over the items once for each addon.  Such a
pass looks its items up by name and changes them one after the other.  No two items share a name, so what
the pass makes of an item depends on that item alone, and planning a cluster comes to a list of bare nodes
and of empty items to each of which the same function, `furnished`, is applied.

What a planned item runs is then a question about one item and the targets that bear its name.
-/

namespace Testbed

namespace Item

/-- What a pass over the items that an addon runs on makes of an item. -/
def visited {α : Type} (name : α → String) (change : α → Item → Item) (targets : List α) (item : Item) :
    Item :=
  (targets.filter fun a => name a = item.name).foldl (fun item a => change a item) item

section Visited

variable {α : Type} {name : α → String} {change : α → Item → Item} {targets : List α} {item : Item}

/-- A pass over some targets changes an item for the first one and then goes on. -/
theorem visited_cons (keep : ∀ a item, (change a item).name = item.name) (a : α) (rest : List α) :
    item.visited name change (a :: rest) =
      (if item.name = name a then change a item else item).visited name change rest := by
  by_cases here : name a = item.name
  · rw [if_pos here.symm, visited, visited, keep, List.filter_cons_of_pos (by simpa using here)]
    rfl
  · have elsewhere : ¬ item.name = name a := fun same => here same.symm
    rw [if_neg elsewhere, visited, visited, List.filter_cons_of_neg (by simpa using here)]

/-- An item that is no target is left alone. -/
theorem visited_of_notMem (elsewhere : ∀ a ∈ targets, name a ≠ item.name) :
    item.visited name change targets = item := by
  have nobody : (targets.filter fun a => name a = item.name) = [] :=
    List.filter_eq_nil_iff.2 fun a mem => by simpa using elsewhere a mem
  rw [visited, nobody]
  rfl

/-- What every change keeps is kept by the pass. -/
theorem visited_keeps {P : Item → Prop}
    (step : ∀ a ∈ targets, name a = item.name → ∀ i, P i → P (change a i)) (h : P item) :
    P (item.visited name change targets) := by
  rw [visited]
  have here : ∀ a ∈ targets.filter (fun a => name a = item.name), ∀ i, P i → P (change a i) := by
    intro a mem
    obtain ⟨listed, same⟩ := List.mem_filter.1 mem
    exact step a listed (of_decide_eq_true same)
  generalize targets.filter (fun a => name a = item.name) = visitors at here
  clear step
  induction visitors generalizing item with
  | nil => exact h
  | cons a rest ih =>
      exact ih (here a List.mem_cons_self item h) fun b mem => here b (List.mem_cons_of_mem a mem)

/-- A pass that keeps names keeps the name of every item. -/
theorem visited_name (keep : ∀ a item, (change a item).name = item.name) :
    (item.visited name change targets).name = item.name :=
  visited_keeps (P := fun i => i.name = item.name) (fun a _ _ i same => (keep a i).trans same) rfl

/-- What every change adds to the end of a list is there after the pass, in the order of the targets. -/
theorem visited_adds {β : Type} {g : Item → List β} {f : α → β}
    (step : ∀ a i, g (change a i) = g i ++ [f a]) :
    g (item.visited name change targets) =
      g item ++ (targets.filter fun a => name a = item.name).map f := by
  rw [visited]
  generalize targets.filter (fun a => name a = item.name) = visitors
  induction visitors generalizing item with
  | nil => exact (List.append_nil _).symm
  | cons a rest ih =>
      rw [List.foldl_cons, ih, step, List.append_assoc]
      rfl

/-- A pass that names no item twice changes an item once, or not at all. -/
theorem visited_cases (distinct : (targets.map name).Nodup) (change : α → Item → Item) (item : Item) :
    (∀ a ∈ targets, name a ≠ item.name) ∧ item.visited name change targets = item ∨
      ∃ a ∈ targets, name a = item.name ∧ item.visited name change targets = change a item := by
  by_cases elsewhere : ∀ a ∈ targets, name a ≠ item.name
  · exact .inl ⟨elsewhere, visited_of_notMem elsewhere⟩
  · obtain ⟨a, mem, here⟩ : ∃ a ∈ targets, name a = item.name := by
      by_contra none_left
      exact elsewhere fun a mem here => none_left ⟨a, mem, here⟩
    refine .inr ⟨a, mem, here, ?_⟩
    obtain ⟨before, after, rfl⟩ := List.append_of_mem mem
    have others : ∀ b ∈ before ++ after, ¬ name b = item.name := by
      intro b listed same
      rw [List.map_append, List.map_cons, List.nodup_middle, ← List.map_append] at distinct
      apply (List.nodup_cons.1 distinct).1
      rw [here, ← same]
      exact List.mem_map_of_mem listed
    have none_before : (before.filter fun b => name b = item.name) = [] :=
      List.filter_eq_nil_iff.2 fun b listed => by simpa using others b (List.mem_append_left _ listed)
    have none_after : (after.filter fun b => name b = item.name) = [] :=
      List.filter_eq_nil_iff.2 fun b listed => by simpa using others b (List.mem_append_right _ listed)
    rw [visited, List.filter_append, none_before, List.filter_cons_of_pos (by simpa using here), none_after]
    rfl

end Visited

end Item

namespace ItemSet

/-- Changing the item of a name, where no two items share one. -/
theorem modify_eq_map {s : ItemSet} (distinct : s.names.Nodup) (name : String) (change : Item → Item) :
    (s.modify name change).items =
      s.items.map fun item => if item.name = name then change item else item := by
  obtain ⟨items⟩ := s
  simp only [modify]
  induction items with
  | nil => rfl
  | cons item rest ih =>
      obtain ⟨fresh, distinctRest⟩ := List.nodup_cons.1 distinct
      rw [modify.go]
      by_cases same : item.name = name
      · have untouched : rest.map (fun item => if item.name = name then change item else item) = rest := by
          refine (List.map_congr_left fun other mem => if_neg fun again => fresh ?_).trans (List.map_id _)
          exact List.mem_map.2 ⟨other, mem, again.trans same.symm⟩
        rw [if_pos same, List.map_cons, if_pos same, untouched]
      · rw [if_neg same, List.map_cons, if_neg same, ih distinctRest]

/-- Items that are added one after the other, each under a name of its own. -/
theorem addEach_items {add : ItemSet → Nat → Except PlacementError ItemSet} {name : Nat → String}
    {R : Nat → Item → Prop} (injective : ∀ i j, name i = name j → i = j)
    (named : ∀ i item, R i item → item.name = name i)
    (step : ∀ s index, name index ∉ s.names →
      Yields (fun t => ∃ item, R index item ∧ t.items = s.items ++ [item]) (add s index))
    (count index : Nat) {s : ItemSet} (fresh : ∀ i, index ≤ i → name i ∉ s.names) :
    Yields (fun t => ∃ added, List.Forall₂ R (List.range' index count) added ∧
      t.items = s.items ++ added) (addEach add count index s) := by
  induction count generalizing index s with
  | zero => exact Yields.pure ⟨[], .nil, (List.append_nil _).symm⟩
  | succ count ih =>
      have added := step s index (fresh index (Nat.le_refl index))
      rw [addEach]
      cases result : add s index with
      | error e => exact added.of_error result
      | ok next =>
          obtain ⟨item, related, items_next⟩ := added.of_ok result
          have fresh_next : ∀ i, index + 1 ≤ i → name i ∉ next.names := by
            intro i later mem
            rw [names, items_next, List.map_append, List.map_singleton, List.mem_append] at mem
            rcases mem with old | new
            · exact fresh i (by omega) old
            · have same := (List.mem_singleton.1 new).trans (named index item related)
              have := injective i index same
              omega
          apply (ih (index + 1) fresh_next).mono
          rintro last ⟨rest, related_rest, items_last⟩
          refine ⟨item :: rest, ?_, by rw [items_last, items_next, List.append_assoc]; rfl⟩
          rw [List.range'_succ]
          exact .cons related related_rest

/-- Ensuring an item under a new name puts it behind the others, if its hardware is known. -/
theorem ensure_items {s : ItemSet} {name : String} (fresh : name ∉ s.names) (hardware : Option Hardware) :
    Yields (fun t => ∃ given, hardware = some given ∧ t.items = s.items ++ [Item.new name given])
      (s.ensure name hardware) := by
  rw [ensure.eq_def, get?_eq_none.2 fresh]
  cases hardware with
  | none => exact Yields.defect _
  | some given => exact Yields.pure ⟨given, rfl, rfl⟩

/-- The first item of a placement. -/
theorem ensure_first (name : String) (hardware : Option Hardware) :
    Yields (fun s => ∃ given, hardware = some given ∧ s = ⟨[Item.new name given]⟩ ∧
        s.get? name = some (Item.new name given) ∧ ∀ item, s.modify name (fun _ => item) = ⟨[item]⟩)
      (empty.ensure name hardware) := by
  cases hardware with
  | none => exact Yields.defect _
  | some given =>
      refine Yields.pure ⟨given, rfl, rfl, ?_, fun item => ?_⟩
      · simp [get?, empty, Item.new]
      · exact @modify_concat [] (Item.new name given) List.not_mem_nil fun _ => item

end ItemSet

namespace Postgres

/-- A pass over the items that an addon runs on changes each item by itself. -/
theorem changeTargets_items {α : Type} (addon : Addon) {change : α → Item → Item}
    (keep : ∀ a item, (change a item).name = item.name) (targets : List α) {items : ItemSet}
    (distinct : items.names.Nodup) (name : α → String) :
    Yields (·.items = items.items.map (Item.visited name change targets))
      (targets.foldlM (fun items a => changeTarget addon items (name a) (change a)) items) := by
  induction targets generalizing items with
  | nil =>
      exact Yields.pure (List.map_id _).symm
  | cons a rest ih =>
      rw [List.foldlM_cons, changeTarget]
      split
      · have changed := ItemSet.modify_eq_map distinct (name a) (change a)
        have names : (items.modify (name a) (change a)).names = items.names :=
          ItemSet.names_modify fun item same => (keep a item).trans same
        apply (ih (names ▸ distinct)).mono
        intro last items_last
        rw [items_last, changed, List.map_map]
        exact List.map_congr_left fun item _ => (Item.visited_cons keep a rest).symm
      · exact Yields.defect _

/-! ### Single servers -/

/-- The item of a single server: the server runs first, and its sidecars join one after the other. -/
theorem planInstance_items (t : PostgresInstance) :
    Yields (fun s => ∃ given item, t.hardware = some given ∧ s.items = [item] ∧
        (t.sidecars.map (sidecarContainer t.settings)).foldlM addSidecar
          ((Item.new masterItem given).addContainer
            (serverContainer masterItem .master 0 t.settings false)) = .ok item)
      (planInstance t) := by
  rw [planInstance]
  apply (ItemSet.ensure_first masterItem t.hardware).bind
  rintro items ⟨given, hardware, -, found, alone⟩
  rw [found]
  dsimp only
  cases added : (t.sidecars.map (sidecarContainer t.settings)).foldlM addSidecar
      ((Item.new masterItem given).addContainer (serverContainer masterItem .master 0 t.settings false)) with
  | ok item => exact Yields.pure ⟨given, item, hardware, congrArg ItemSet.items (alone item), added⟩
  | error e =>
      have sidecars : ∀ item cs, Yields (fun _ : Item => True) (List.foldlM addSidecar item cs) :=
        fun _ cs => Yields.foldlM (fun item c _ => (addSidecar_yields item c).mono fun _ _ => trivial)
          trivial cs
      exact (sidecars _ _).of_error added

/-! ### The nodes of a cluster -/

/-- What a node of a cluster is to be. -/
structure NodeSpec where
  name : String
  hardware : Option Hardware
  role : PostgresRole
  index : Nat
  settings : PostgresSettings

/-- Run a server on an item, and watch both. -/
def serve (name : String) (role : PostgresRole) (index : Nat) (settings : PostgresSettings)
    (monitor : Bool) (item : Item) : Item :=
  let item := item.addContainer (serverContainer name role index settings monitor)
  if monitor then addMonitoring item else item

/-- An item is a node as it was to be, with nothing on it but its server and what watches it. -/
def NodeSpec.Met (monitor : Bool) (n : NodeSpec) (item : Item) : Prop :=
  ∃ given, n.hardware = some given ∧
    item = serve n.name n.role n.index n.settings monitor (Item.new n.name given)

/-- An item keeps its name when a server comes to run on it. -/
theorem serve_name (name : String) (role : PostgresRole) (index : Nat) (settings : PostgresSettings)
    (monitor : Bool) (item : Item) : (serve name role index settings monitor item).name = item.name := by
  rw [serve]
  split
  · rfl
  · rfl

/-- A node has the name that was meant for it. -/
theorem NodeSpec.Met.name {monitor : Bool} {n : NodeSpec} {item : Item} (h : n.Met monitor item) :
    item.name = n.name := by
  obtain ⟨given, -, rfl⟩ := h
  exact serve_name ..

/-- Adding a node under a new name puts it behind the others, with its server. -/
theorem addNode_items {items : ItemSet} {n : NodeSpec} (fresh : n.name ∉ items.names) (monitor : Bool) :
    Yields (fun s => ∃ item, n.Met monitor item ∧ s.items = items.items ++ [item])
      (addNode items n.name n.hardware n.role n.index n.settings monitor) := by
  rw [addNode]
  apply (ItemSet.ensure_items fresh n.hardware).bind
  rintro ⟨grown⟩ ⟨given, hardware, items_grown⟩
  obtain rfl : grown = items.items ++ [Item.new n.name given] := items_grown
  apply Yields.pure
  have last := ItemSet.modify_concat (Item.new n.name given) fresh
    (serve n.name n.role n.index n.settings monitor)
  exact ⟨_, ⟨given, hardware, rfl⟩, congrArg ItemSet.items last⟩

variable {t : PostgresCluster} {topology : PostgresTopology}

/-- What the master is to be. -/
def masterSpec (topology : PostgresTopology) : NodeSpec :=
  ⟨masterItem, topology.masterHardware, .master, 0, topology.settings⟩

/-- What a replica is to be. -/
def replicaSpec (t : PostgresCluster) (topology : PostgresTopology) (index : Nat) : NodeSpec :=
  ⟨replicaItem index, replicaHardware t topology index, .replica, index, replicaSettings t topology index⟩

/-- What the nodes of a cluster are to be. -/
def nodeSpecs (t : PostgresCluster) (topology : PostgresTopology) : List NodeSpec :=
  masterSpec topology :: (List.range topology.replicasCount.toNat).map (replicaSpec t topology)

/-- What nodes are to be is in the order of their names. -/
theorem names_nodeSpecs (t : PostgresCluster) (topology : PostgresTopology) :
    (nodeSpecs t topology).map NodeSpec.name = nodeNames topology := by
  simp [nodeSpecs, nodeNames, masterSpec, replicaSpec, Function.comp_def]

/-- Planning the nodes makes them what they are to be. -/
theorem planTopology_items (t : PostgresCluster) (topology : PostgresTopology) :
    Yields (fun s => List.Forall₂ (NodeSpec.Met topology.monitor) (nodeSpecs t topology) s.items)
      (planTopology t topology) := by
  rw [planTopology]
  have unused : (masterSpec topology).name ∉ ItemSet.empty.names := List.not_mem_nil
  apply (addNode_items unused topology.monitor).bind
  rintro items ⟨master, met, items_eq⟩
  have names : items.names = [masterItem] := by
    rw [ItemSet.names, items_eq]
    exact congrArg (fun name => [name]) met.name
  have fresh : ∀ i, 0 ≤ i → replicaItem i ∉ items.names := by
    intro i _ mem
    rw [names] at mem
    exact masterItem_ne_replicaItem i (List.mem_singleton.1 mem).symm
  apply (ItemSet.addEach_items (R := fun i => (replicaSpec t topology i).Met topology.monitor)
    replicaItem_injective (fun i item met => met.name)
    (fun _ i unused => addNode_items (n := replicaSpec t topology i) unused topology.monitor) _ 0
    fresh).mono
  rintro all ⟨replicas, met_replicas, items_all⟩
  rw [items_all, items_eq, nodeSpecs, List.range_eq_range']
  exact .cons met (List.forall₂_map_left_iff.2 met_replicas)

/-! ### Items of an addon's own -/

/-- Items that were made for an addon: they have its names, and nothing runs on them yet. -/
structure OwnItems (names : List String) (items : List Item) : Prop where
  names : items.map Item.name = names
  empty : ∀ item ∈ items, item.containers = []

/-- No items of an addon are the items of no names. -/
theorem OwnItems.nil : OwnItems [] [] := ⟨rfl, List.forall_mem_nil _⟩

/-- Items of an addon, and more of them behind, are the items of all their names. -/
theorem OwnItems.append {ns ms : List String} {is js : List Item} (h : OwnItems ns is)
    (h' : OwnItems ms js) : OwnItems (ns ++ ms) (is ++ js) := by
  constructor
  · rw [List.map_append, h.names, h'.names]
  · exact List.forall_mem_append.2 ⟨h.empty, h'.empty⟩

/-- New items under the names of an addon are items of its own. -/
theorem ownItems_of_forall₂ {addon : Addon} {indices : List Nat} {items : List Item}
    (h : List.Forall₂ (fun i item => ∃ given, item = Item.new (dedicatedItem addon i) given) indices items) :
    OwnItems (indices.map (dedicatedItem addon)) items := by
  induction h with
  | nil => exact .nil
  | @cons i item indices items head _ ih =>
      obtain ⟨given, rfl⟩ := head
      have first : OwnItems [dedicatedItem addon i] [Item.new (dedicatedItem addon i) given] :=
        ⟨rfl, List.forall_mem_singleton.2 rfl⟩
      exact first.append ih

end Postgres

/-- Whether a placement makes items for an addon. -/
def AddonPlacement.isDedicated : Option AddonPlacement → Bool
  | some (.dedicated ..) => true
  | _ => false

namespace Postgres

/-- Resolving where an addon runs puts its own items behind the others. -/
theorem expandPlacement_items {items : ItemSet} {addon : Addon}
    (fresh : ∀ i, dedicatedItem addon i ∉ items.names) (placement : Option AddonPlacement)
    (topology : PostgresTopology) :
    Yields (fun r => r.2 = ⟨targetNames addon topology.replicasCount.toNat placement,
        AddonPlacement.isDedicated placement⟩ ∧
      ∃ own, OwnItems (dedicatedNames addon (AddonPlacement.dedicatedCount placement)) own ∧
        r.1.items = items.items ++ own)
      (expandPlacement items addon placement (nodesOf topology)) := by
  rw [expandPlacement.eq_def]
  rcases placement with _ | ⟨scope, replicaIndex⟩ | ⟨instancesCount, hardware⟩
  · exact Yields.defect _
  · apply (scopeTargets_decides addon scope replicaIndex topology).toYields.bind
    rintro _ ⟨-, rfl⟩
    exact Yields.pure ⟨rfl, [], .nil, (List.append_nil _).symm⟩
  · have named : ∀ i item, (∃ given, item = Item.new (dedicatedItem addon i) given) →
        item.name = dedicatedItem addon i := by
      rintro i _ ⟨given, rfl⟩
      rfl
    have each : ∀ s index, dedicatedItem addon index ∉ s.names →
        Yields (fun t => ∃ item, (∃ given, item = Item.new (dedicatedItem addon index) given) ∧
          t.items = s.items ++ [item]) (addDedicated addon hardware s index) := by
      intro s index unused
      rw [addDedicated, ItemSet.get?_eq_none.2 unused]
      apply (ItemSet.ensure_items unused hardware).mono
      rintro t ⟨given, -, items_eq⟩
      exact ⟨_, ⟨given, rfl⟩, items_eq⟩
    dsimp only
    split
    · exact Yields.defect _
    · apply (ItemSet.addEach_items (dedicatedItem_injective addon) named each instancesCount.toNat 0
        fun i _ => fresh i).bind
      rintro all ⟨own, made, items_all⟩
      refine Yields.pure ⟨rfl, own, ?_, items_all⟩
      rw [dedicatedNames, AddonPlacement.dedicatedCount, List.range_eq_range']
      exact ownItems_of_forall₂ made

/-! ### The passes -/

/-- Run a member of the configuration store on an item. -/
def runMember (etcd : EtcdAddon) (watch : Bool) (clusterSize : UInt32) (p : Nat × String) (item : Item) :
    Item :=
  let item := item.addContainer (etcdContainer etcd p.1 clusterSize)
  if watch then ensureNodeExporter item else item

/-- Run a pooler on an item. -/
def runPooler (pgbouncer : PgbouncerAddon) (watch dedicated : Bool) (p : Nat × String) (item : Item) :
    Item :=
  let item := item.addContainer (poolerContainer pgbouncer p.1)
  if watch then
    let item := item.addContainer (.pgbouncerExporter (toString p.1))
    if dedicated then ensureNodeExporter item else item
  else item

/-- Run a backup agent on an item. -/
def runAgent (image : String) (config : BackupConfig) (target : String) (item : Item) : Item :=
  item.addContainer (.backupAgent s!"backup-{target}" image config)

section Keeps

variable {P : Item → Prop} (add : ∀ i c, P i → P (i.addContainer c)) {item : Item} (h : P item)

include add h

/-! Addons do nothing to an item but run containers on it.  What one more container leaves alone is left
alone by all of them. -/

/-- Watching an item keeps what a container on it keeps. -/
theorem ensureNodeExporter_keeps : P (ensureNodeExporter item) := by
  rw [ensureNodeExporter]
  split
  · exact h
  · exact add item _ h

/-- Running a member of the store keeps what a container keeps. -/
theorem runMember_keeps (etcd : EtcdAddon) (watch : Bool) (clusterSize : UInt32) (p : Nat × String) :
    P (runMember etcd watch clusterSize p item) := by
  have joined := add item (etcdContainer etcd p.1 clusterSize) h
  rw [runMember]
  split
  · exact ensureNodeExporter_keeps add joined
  · exact joined

/-- Running a pooler keeps what a container keeps. -/
theorem runPooler_keeps (pgbouncer : PgbouncerAddon) (watch dedicated : Bool) (p : Nat × String) :
    P (runPooler pgbouncer watch dedicated p item) := by
  have joined := add item (poolerContainer pgbouncer p.1) h
  have watched := add _ (.pgbouncerExporter (toString p.1)) joined
  rw [runPooler]
  split
  · split
    · exact ensureNodeExporter_keeps add watched
    · exact watched
  · exact joined

end Keeps

/-- An item keeps its name when a member of the store comes to run on it. -/
theorem runMember_name (etcd : EtcdAddon) (watch : Bool) (clusterSize : UInt32) (p : Nat × String)
    (item : Item) : (runMember etcd watch clusterSize p item).name = item.name :=
  runMember_keeps (P := (·.name = item.name)) (fun _ _ same => same) rfl etcd watch clusterSize p

theorem runPooler_name (pgbouncer : PgbouncerAddon) (watch dedicated : Bool) (p : Nat × String)
    (item : Item) : (runPooler pgbouncer watch dedicated p item).name = item.name :=
  runPooler_keeps (P := (·.name = item.name)) (fun _ _ same => same) rfl pgbouncer watch dedicated p

theorem runAgent_name (image : String) (config : BackupConfig) (target : String) (item : Item) :
    (runAgent image config target item).name = item.name := rfl

variable {t : PostgresCluster} {topology : PostgresTopology}

/-- Whether the items of the configuration store are watched. -/
def storeWatched (topology : PostgresTopology) (etcd : EtcdAddon) : Bool :=
  (etcd.monitor || topology.monitor) && (AddonPlacement.isDedicated etcd.placement || etcd.monitor)

/-- What the pass of the configuration store makes of an item. -/
def enlisted (t : PostgresCluster) (topology : PostgresTopology) : Item → Item :=
  match t.addons.etcd with
  | some etcd =>
      let targets := targetNames .etcd topology.replicasCount.toNat etcd.placement
      Item.visited Prod.snd (runMember etcd (storeWatched topology etcd) (.ofNat targets.length))
        (numbered targets)
  | none => id

/-- The pooler of a cluster that has one. -/
def poolerOf (t : PostgresCluster) : Option PgbouncerAddon := t.addons.pgbouncer.filter (·.enabled)

/-- What the pass of the pooler makes of an item. -/
def pooled (t : PostgresCluster) (topology : PostgresTopology) : Item → Item :=
  match poolerOf t with
  | some pgbouncer =>
      Item.visited Prod.snd (runPooler pgbouncer (pgbouncer.monitor || topology.monitor)
        (AddonPlacement.isDedicated pgbouncer.placement))
        (numbered (targetNames .pgbouncer topology.replicasCount.toNat pgbouncer.placement))
  | none => id

/-- How a cluster is backed up, and which of its nodes. -/
def backupOf (t : PostgresCluster) (topology : PostgresTopology) : Option (BackupConfig × List String) := do
  let backup ← t.addons.backup.filter (·.enabled)
  let config ← backup.config
  let scope ← backup.scope
  pure (config, scopeNames topology.replicasCount.toNat backup.replicaIndex scope)

/-- What the pass of the backup agents makes of an item. -/
def backedUp (t : PostgresCluster) (topology : PostgresTopology) : Item → Item :=
  match backupOf t topology with
  | some (config, targets) => Item.visited id (runAgent (image topology.settings) config) targets
  | none => id

/-- What the addons of a cluster make of an item. -/
def furnished (t : PostgresCluster) (topology : PostgresTopology) (item : Item) : Item :=
  backedUp t topology (pooled t topology (enlisted t topology item))

section Keeps

variable {P : Item → Prop} (add : ∀ i c, P i → P (i.addContainer c)) {item : Item} (h : P item)

include add h

/-- The pass of the configuration store keeps what a container keeps. -/
theorem enlisted_keeps (t : PostgresCluster) (topology : PostgresTopology) : P (enlisted t topology item) := by
  rw [enlisted]
  cases t.addons.etcd with
  | none => exact h
  | some etcd => exact Item.visited_keeps (fun p _ _ i kept => runMember_keeps add kept etcd _ _ p) h

theorem pooled_keeps (t : PostgresCluster) (topology : PostgresTopology) : P (pooled t topology item) := by
  rw [pooled]
  cases poolerOf t with
  | none => exact h
  | some pgbouncer => exact Item.visited_keeps (fun p _ _ i kept => runPooler_keeps add kept pgbouncer _ _ p) h

theorem backedUp_keeps (t : PostgresCluster) (topology : PostgresTopology) : P (backedUp t topology item) := by
  rw [backedUp]
  cases backupOf t topology with
  | none => exact h
  | some planned => exact Item.visited_keeps (fun _ _ _ i kept => add i _ kept) h

/-- All addons together keep what a container keeps. -/
theorem furnished_keeps (t : PostgresCluster) (topology : PostgresTopology) :
    P (furnished t topology item) :=
  backedUp_keeps add (pooled_keeps add (enlisted_keeps add h t topology) t topology) t topology

end Keeps

/-- The pass of the configuration store leaves the names of items. -/
theorem enlisted_name (t : PostgresCluster) (topology : PostgresTopology) (item : Item) :
    (enlisted t topology item).name = item.name :=
  enlisted_keeps (P := (·.name = item.name)) (fun _ _ same => same) rfl t topology

theorem pooled_name (t : PostgresCluster) (topology : PostgresTopology) (item : Item) :
    (pooled t topology item).name = item.name :=
  pooled_keeps (P := (·.name = item.name)) (fun _ _ same => same) rfl t topology

/-- Addons leave the names of items. -/
theorem furnished_name (t : PostgresCluster) (topology : PostgresTopology) (item : Item) :
    (furnished t topology item).name = item.name :=
  furnished_keeps (P := (·.name = item.name)) (fun _ _ same => same) rfl t topology

section Passes

variable {items : ItemSet}

/-- Items of an addon come with its names behind the others. -/
theorem names_append_own {own : List Item} {names : List String} (h : OwnItems names own) :
    ItemSet.names ⟨items.items ++ own⟩ = items.names ++ names := by
  rw [ItemSet.names, List.map_append, h.names]
  rfl

/-- Planning a store makes its own items and runs a member on each of its targets. -/
theorem planEtcd_items (nodes : items.names = nodeNames topology) (etcd : EtcdAddon) :
    Yields (fun s => ∃ own,
        OwnItems (dedicatedNames .etcd (AddonPlacement.dedicatedCount etcd.placement)) own ∧
        s.items = (items.items ++ own).map (Item.visited Prod.snd
          (runMember etcd (storeWatched topology etcd)
            (.ofNat (targetNames .etcd topology.replicasCount.toNat etcd.placement).length))
          (numbered (targetNames .etcd topology.replicasCount.toNat etcd.placement))))
      (planEtcd items etcd (nodesOf topology)) := by
  have fresh : ∀ i, dedicatedItem .etcd i ∉ items.names := fun i =>
    nodes ▸ dedicatedItem_notMem_nodeNames .etcd topology i
  rw [planEtcd]
  apply (expandPlacement_items fresh etcd.placement topology).bind
  rintro ⟨⟨_⟩, _⟩ ⟨rfl, own, made, rfl⟩
  dsimp only
  split
  · exact Yields.defect _
  · have distinct : (ItemSet.names ⟨items.items ++ own⟩).Nodup := by
      rw [names_append_own made, nodes]
      exact (nodup_nodeNames topology).append (nodup_dedicatedNames .etcd _)
        (disjoint_dedicatedNames _ (dedicatedItem_notMem_nodeNames .etcd topology))
    exact (changeTargets_items .etcd (runMember_name _ _ _) _ distinct Prod.snd).mono fun _ items_eq =>
      ⟨own, made, items_eq⟩

/-- Planning a pooler makes its own items and runs one on each of its targets. -/
theorem planPgbouncer_items {members : Nat}
    (names : items.names = nodeNames topology ++ dedicatedNames .etcd members) (pgbouncer : PgbouncerAddon) :
    Yields (fun s => ∃ own,
        OwnItems (dedicatedNames .pgbouncer (AddonPlacement.dedicatedCount pgbouncer.placement)) own ∧
        s.items = (items.items ++ own).map (Item.visited Prod.snd
          (runPooler pgbouncer (pgbouncer.monitor || topology.monitor)
            (AddonPlacement.isDedicated pgbouncer.placement))
          (numbered (targetNames .pgbouncer topology.replicasCount.toNat pgbouncer.placement))))
      (planPgbouncer items pgbouncer (nodesOf topology)) := by
  have fresh : ∀ i, dedicatedItem .pgbouncer i ∉ items.names := fun i =>
    names ▸ pgbouncerItem_fresh topology members i
  rw [planPgbouncer]
  apply (expandPlacement_items fresh pgbouncer.placement topology).bind
  rintro ⟨⟨_⟩, _⟩ ⟨rfl, own, made, rfl⟩
  have distinct : (ItemSet.names ⟨items.items ++ own⟩).Nodup := by
    have stored := (nodup_nodeNames topology).append (nodup_dedicatedNames .etcd members)
      (disjoint_dedicatedNames _ (dedicatedItem_notMem_nodeNames .etcd topology))
    rw [names_append_own made, names]
    exact stored.append (nodup_dedicatedNames .pgbouncer _)
      (disjoint_dedicatedNames _ (pgbouncerItem_fresh topology members))
  exact (changeTargets_items .pgbouncer (runPooler_name _ _ _) _ distinct Prod.snd).mono fun _ items_eq =>
    ⟨own, made, items_eq⟩

/-- A cluster with a store has its items behind the nodes, and members enlisted on the targets. -/
theorem placeEtcd_items (nodes : items.names = nodeNames topology) :
    Yields (fun s => ∃ own, OwnItems (dedicatedNames .etcd (etcdCount t.addons)) own ∧
        s.items = (items.items ++ own).map (enlisted t topology))
      (placeEtcd t.addons (nodesOf topology) items) := by
  rw [placeEtcd, etcdCount, enlisted]
  cases t.addons.etcd with
  | none => exact Yields.pure ⟨[], .nil, by simp⟩
  | some etcd => exact planEtcd_items nodes etcd

/-- A cluster with a pooler has its items behind the others, and poolers on the targets. -/
theorem placePgbouncer_items {members : Nat}
    (names : items.names = nodeNames topology ++ dedicatedNames .etcd members) :
    Yields (fun s => ∃ own, OwnItems (dedicatedNames .pgbouncer (pgbouncerCount t.addons)) own ∧
        s.items = (items.items ++ own).map (pooled t topology))
      (placePgbouncer t.addons (nodesOf topology) items) := by
  rw [placePgbouncer, pgbouncerCount, pooled, poolerOf]
  cases t.addons.pgbouncer with
  | none => exact Yields.pure ⟨[], .nil, by simp⟩
  | some pgbouncer =>
      rw [Option.filter_some]
      dsimp only
      by_cases enabled : pgbouncer.enabled = true
      · rw [if_pos enabled, if_pos enabled, if_pos enabled]
        exact planPgbouncer_items names pgbouncer
      · rw [if_neg enabled, if_neg enabled, if_neg enabled]
        exact Yields.pure ⟨[], .nil, by simp⟩

/-- Planning a backup runs an agent on each of its targets and adds no item. -/
theorem planBackup_items (distinct : items.names.Nodup) (backup : BackupAddon) :
    Yields (fun s => ∃ config scope, backup.config = some config ∧ backup.scope = some scope ∧
        s.items = items.items.map (Item.visited id (runAgent (image topology.settings) config)
          (scopeNames topology.replicasCount.toNat backup.replicaIndex scope)))
      (planBackup items backup (nodesOf topology)) := by
  rw [planBackup]
  split
  · exact Yields.defect _
  · exact Yields.defect _
  · next config scope given limited =>
      apply (scopeTargets_decides .backup scope backup.replicaIndex topology).toYields.bind
      rintro _ ⟨-, rfl⟩
      have pass := changeTargets_items .backup (runAgent_name (image topology.settings) config)
        (scopeNames topology.replicasCount.toNat backup.replicaIndex scope) distinct
      exact Yields.mono (pass id) fun _ items_eq => ⟨config, scope, given, limited, items_eq⟩

/-- A cluster that is backed up has agents on the targets, and one that is not is left as it is. -/
theorem placeBackup_items (distinct : items.names.Nodup) :
    Yields (fun s => s.items = items.items.map (backedUp t topology))
      (placeBackup t.addons (nodesOf topology) items) := by
  have bare : items.items = items.items.map id := (List.map_id _).symm
  rw [placeBackup, backedUp, backupOf]
  cases t.addons.backup with
  | none => exact Yields.pure bare
  | some backup =>
      rw [Option.filter_some]
      dsimp only
      by_cases enabled : backup.enabled = true
      · rw [if_pos enabled, if_pos enabled]
        apply (planBackup_items distinct backup).mono
        rintro s ⟨config, scope, given, limited, items_eq⟩
        simp only [Option.bind_eq_bind, Option.bind_some, given, limited, items_eq]
        rfl
      · rw [if_neg enabled, if_neg enabled]
        exact Yields.pure bare

end Passes

/-! ### Clusters -/

/-- What planning leaves of a cluster: its nodes as they were to be, then the items that its addons have
for themselves, all of them furnished. -/
structure Layout (t : PostgresCluster) (topology : PostgresTopology) (nodes own items : List Item) :
    Prop where
  met : List.Forall₂ (NodeSpec.Met topology.monitor) (nodeSpecs t topology) nodes
  made : OwnItems (dedicatedNames .etcd (etcdCount t.addons) ++
    dedicatedNames .pgbouncer (pgbouncerCount t.addons)) own
  eq_furnished : items = (nodes ++ own).map (furnished t topology)
  sketched : items.map Item.sketch = clusterSketches t topology
  /-- Addons run on items that are there. -/
  etcd : ∀ etcd, t.addons.etcd = some etcd →
    AddonPlacement.Resolves topology.replicasCount.toNat etcd.placement
  pooler : ∀ pgbouncer, poolerOf t = some pgbouncer →
    AddonPlacement.Resolves topology.replicasCount.toNat pgbouncer.placement
  backup : ∀ config targets, backupOf t topology = some (config, targets) →
    targets.Sublist (nodeNames topology)

section Layout

variable {nodes own items : List Item}

/-- Addons leave the names of the items alone. -/
theorem Layout.names_seats (layout : Layout t topology nodes own items) :
    (nodes ++ own).map Item.name = items.map Item.name := by
  rw [layout.eq_furnished, List.map_map]
  exact List.map_congr_left fun item _ => (furnished_name t topology item).symm

/-- The items of a cluster have the names of its nodes and of what its addons have for themselves. -/
theorem Layout.names (layout : Layout t topology nodes own items) :
    items.map Item.name = nodeNames topology ++ (dedicatedNames .etcd (etcdCount t.addons) ++
      dedicatedNames .pgbouncer (pgbouncerCount t.addons)) := by
  have names_nodes : nodes.map Item.name = nodeNames topology := by
    rw [← names_nodeSpecs t topology]
    exact (map_eq_map_of_forall₂ layout.met fun _ _ met => met.name.symm).symm
  rw [← layout.names_seats, List.map_append, names_nodes, layout.made.names]

/-- No two items of a cluster share a name. -/
theorem Layout.nodup_names (layout : Layout t topology nodes own items) (named : t.topology = some topology) :
    (items.map Item.name).Nodup := by
  rw [layout.names, ← List.append_assoc, ← clusterNames_eq named]
  exact nodup_clusterNames t

/-- Before addons come to it, an item is a node with its server and what watches it, or it is empty and was
made for an addon. -/
theorem Layout.seat_cases (layout : Layout t topology nodes own items) {seat : Item}
    (mem : seat ∈ nodes ++ own) :
    (∃ n ∈ nodeSpecs t topology, n.Met topology.monitor seat) ∨
      seat.containers = [] ∧ (seat.name ∈ dedicatedNames .etcd (etcdCount t.addons) ∨
        seat.name ∈ dedicatedNames .pgbouncer (pgbouncerCount t.addons)) := by
  rcases List.mem_append.1 mem with node | made
  · exact .inl (exists_mem_of_forall₂ layout.met node)
  · have named : seat.name ∈ dedicatedNames .etcd (etcdCount t.addons) ++
        dedicatedNames .pgbouncer (pgbouncerCount t.addons) :=
      layout.made.names ▸ List.mem_map_of_mem made
    exact .inr ⟨layout.made.empty seat made, List.mem_append.1 named⟩

end Layout

/-- Items that the configuration store does not run on are left alone by its pass. -/
theorem enlisted_of_fresh {item : Item}
    (resolves : ∀ etcd, t.addons.etcd = some etcd →
      AddonPlacement.Resolves topology.replicasCount.toNat etcd.placement)
    (fresh : item.name ∉ nodeNames topology ++ dedicatedNames .etcd (etcdCount t.addons)) :
    enlisted t topology item = item := by
  rw [etcdCount] at fresh
  rw [enlisted]
  cases given : t.addons.etcd with
  | none => rfl
  | some etcd =>
      rw [given] at fresh
      apply Item.visited_of_notMem
      rintro p mem same
      exact fresh (same ▸ (targetNames_sublist .etcd (resolves etcd given)).subset (mem_of_mem_numbered mem))

/-- A scope that resolves is made of nodes, in their order. -/
theorem scopeNames_sublist {scope : PlacementScope} {replicaIndex : Option UInt32}
    (resolves : scope.Resolves topology.replicasCount.toNat replicaIndex) :
    (scopeNames topology.replicasCount.toNat replicaIndex scope).Sublist (nodeNames topology) := by
  have placed : AddonPlacement.Resolves topology.replicasCount.toNat
    (some (.colocate scope replicaIndex)) := resolves
  simpa [targetNames, AddonPlacement.dedicatedCount, dedicatedNames] using
    targetNames_sublist .backup placed

/-- A backup that resolves is made of nodes, in their order. -/
theorem backupOf_sublist
    (resolves : ∀ backup, t.addons.backup = some backup → backup.enabled = true →
      backup.config.isSome = true ∧ ∃ scope, backup.scope = some scope ∧
        scope.Resolves topology.replicasCount.toNat backup.replicaIndex)
    {config : BackupConfig} {targets : List String} (planned : backupOf t topology = some (config, targets)) :
    targets.Sublist (nodeNames topology) := by
  rw [backupOf] at planned
  obtain ⟨backup, filtered, planned⟩ := Option.bind_eq_some_iff.1 planned
  obtain ⟨_, -, planned⟩ := Option.bind_eq_some_iff.1 planned
  obtain ⟨scope, limited, planned⟩ := Option.bind_eq_some_iff.1 planned
  obtain ⟨given, enabled⟩ := Option.filter_eq_some_iff.1 filtered
  obtain ⟨-, other, limited', resolves⟩ := resolves backup given enabled
  obtain rfl : scope = other := Option.some.inj (limited.symm.trans limited')
  obtain ⟨-, rfl⟩ := Prod.mk.inj (Option.some.inj planned)
  exact scopeNames_sublist resolves

/-- Planning lays out the items of a cluster, or reports a defect. -/
theorem planCluster_layout (named : t.topology = some topology) :
    Yields (fun s => ∃ nodes own, Layout t topology nodes own s.items) (planCluster t) := by
  rw [planCluster_eq named]
  apply (validateOverrides_yields _ _ _ _).bind
  intro _ _
  apply ((planTopology_decides t topology).yields (planTopology_items t topology)).toYields.bind
  rintro ⟨nodes⟩ ⟨-, sketch_nodes, met⟩
  have names_nodes : ItemSet.names ⟨nodes⟩ = nodeNames topology := by
    rw [ItemSet.names_eq, sketch_nodes, names_nodeSketches]
  apply ((placeEtcd_decides sketch_nodes).yields (placeEtcd_items names_nodes)).toYields.bind
  rintro ⟨stored⟩ ⟨resolves, sketch_stored, ownStore, made, rfl⟩
  have names_stored : ItemSet.names ⟨(nodes ++ ownStore).map (enlisted t topology)⟩ =
      nodeNames topology ++ dedicatedNames .etcd (etcdCount t.addons) := by
    rw [ItemSet.names_eq, sketch_stored, names_storeSketches]
  apply ((placePgbouncer_decides sketch_stored).yields (placePgbouncer_items names_stored)).toYields.bind
  rintro ⟨pooling⟩ ⟨resolves', sketch_pooling, ownPool, made', rfl⟩
  have distinct : (ItemSet.names ⟨((nodes ++ ownStore).map (enlisted t topology) ++ ownPool).map
      (pooled t topology)⟩).Nodup := by
    have roster := nodup_clusterNames t
    rw [clusterNames_eq named] at roster
    rw [ItemSet.names_eq, sketch_pooling, clusterSketches, List.map_append, names_storeSketches]
    simpa [Sketch.plain, Function.comp_def] using roster
  apply ((placeBackup_decides sketch_pooling named).yields (placeBackup_items distinct)).toYields.mono
  rintro ⟨_⟩ ⟨resolves'', sketched, rfl⟩
  refine ⟨nodes, ownStore ++ ownPool, met, made.append made', ?_, sketched,
    fun etcd given => (resolves etcd given).1, ?_, fun _ _ => backupOf_sublist resolves''⟩
  · -- The pooler's own items come after the pass of the configuration store, which would not touch them.
    have untouched : ownPool.map (enlisted t topology) = ownPool := by
      refine (List.map_congr_left fun item mem => ?_).trans (List.map_id _)
      apply enlisted_of_fresh fun etcd given => (resolves etcd given).1
      have own_name : item.name ∈ dedicatedNames .pgbouncer (pgbouncerCount t.addons) :=
        made'.names ▸ List.mem_map_of_mem mem
      obtain ⟨i, -, same⟩ := List.mem_map.1 own_name
      rw [← same]
      exact pgbouncerItem_fresh topology _ i
    have joined : (nodes ++ ownStore).map (enlisted t topology) ++ ownPool =
        (nodes ++ (ownStore ++ ownPool)).map (enlisted t topology) := by simp [untouched]
    dsimp only
    rw [joined, List.map_map, List.map_map]
    rfl
  · intro pgbouncer given
    obtain ⟨listed, enabled⟩ := Option.filter_eq_some_iff.1 given
    exact resolves' pgbouncer listed enabled

/-- A pooler that is not enabled has no items of its own. -/
theorem pgbouncerCount_eq (t : PostgresCluster) : pgbouncerCount t.addons =
    match poolerOf t with
    | some pgbouncer => AddonPlacement.dedicatedCount pgbouncer.placement
    | none => 0 := by
  rw [pgbouncerCount, poolerOf]
  cases t.addons.pgbouncer with
  | none => rfl
  | some pgbouncer =>
      rw [Option.filter_some]
      dsimp only
      split <;> rfl

/-- Who is to run a member of the configuration store, counted from one. -/
def memberTargets (t : PostgresCluster) (topology : PostgresTopology) : List (Nat × String) :=
  match t.addons.etcd with
  | some etcd => numbered (targetNames .etcd topology.replicasCount.toNat etcd.placement)
  | none => []

/-- Who is to run a pooler, counted from one. -/
def poolerTargets (t : PostgresCluster) (topology : PostgresTopology) : List (Nat × String) :=
  match poolerOf t with
  | some pgbouncer => numbered (targetNames .pgbouncer topology.replicasCount.toNat pgbouncer.placement)
  | none => []

/-- A scope names no node twice. -/
theorem nodup_scopeNames (replicas : Nat) (replicaIndex : Option UInt32) (scope : PlacementScope) :
    (scopeNames replicas replicaIndex scope).Nodup := by
  have numbers : ((List.range replicas).map replicaItem).Nodup := List.nodup_range.map replicaItem_injective
  match scope with
  | .master => exact List.nodup_singleton _
  | .replicas => exact numbers
  | .allNodes =>
      refine List.nodup_cons.2 ⟨fun mem => ?_, numbers⟩
      obtain ⟨i, -, same⟩ := List.mem_map.1 mem
      exact masterItem_ne_replicaItem i same.symm
  | .replica =>
      cases replicaIndex with
      | none => exact List.nodup_nil
      | some index => exact List.nodup_singleton _

/-- An addon runs on no item twice. -/
theorem nodup_targetNames (addon : Addon) (replicas : Nat) (placement : Option AddonPlacement) :
    (targetNames addon replicas placement).Nodup := by
  match placement with
  | none => exact List.nodup_nil
  | some (.colocate scope replicaIndex) => exact nodup_scopeNames replicas replicaIndex scope
  | some (.dedicated instancesCount _) => exact nodup_dedicatedNames addon instancesCount.toNat

/-- Numbering names does not make two of one. -/
theorem snd_numbered_nodup {names : List String} (distinct : names.Nodup) :
    ((numbered names).map Prod.snd).Nodup := by
  rwa [snd_numbered]

/-- An item runs a member of the configuration store if it is a target, and is left alone otherwise. -/
theorem enlisted_cases (t : PostgresCluster) (topology : PostgresTopology) (item : Item) :
    (∀ p ∈ memberTargets t topology, p.2 ≠ item.name) ∧ enlisted t topology item = item ∨
      ∃ etcd clusterSize, ∃ p ∈ memberTargets t topology, t.addons.etcd = some etcd ∧ p.2 = item.name ∧
        enlisted t topology item = runMember etcd (storeWatched topology etcd) clusterSize p item := by
  rw [memberTargets, enlisted]
  cases t.addons.etcd with
  | none => exact .inl ⟨List.forall_mem_nil _, rfl⟩
  | some etcd =>
      rcases Item.visited_cases (snd_numbered_nodup (nodup_targetNames .etcd _ etcd.placement)) _ item with
        alone | ⟨p, mem, here, changed⟩
      · exact .inl alone
      · exact .inr ⟨etcd, _, p, mem, rfl, here, changed⟩

/-- An item runs a pooler if it is a target, and is left alone otherwise. -/
theorem pooled_cases (t : PostgresCluster) (topology : PostgresTopology) (item : Item) :
    (∀ p ∈ poolerTargets t topology, p.2 ≠ item.name) ∧ pooled t topology item = item ∨
      ∃ pgbouncer, ∃ p ∈ poolerTargets t topology, poolerOf t = some pgbouncer ∧ p.2 = item.name ∧
        pooled t topology item = runPooler pgbouncer (pgbouncer.monitor || topology.monitor)
          (AddonPlacement.isDedicated pgbouncer.placement) p item := by
  rw [poolerTargets, pooled]
  cases poolerOf t with
  | none => exact .inl ⟨List.forall_mem_nil _, rfl⟩
  | some pgbouncer =>
      rcases Item.visited_cases (snd_numbered_nodup (nodup_targetNames .pgbouncer _ pgbouncer.placement)) _
          item with alone | ⟨p, mem, here, changed⟩
      · exact .inl alone
      · exact .inr ⟨pgbouncer, p, mem, rfl, here, changed⟩

/-- An item runs a backup agent if it is a node that is backed up, and is left alone otherwise. -/
theorem backedUp_cases (t : PostgresCluster) (topology : PostgresTopology) (item : Item) :
    backedUp t topology item = item ∨
      ∃ config targets, backupOf t topology = some (config, targets) ∧ item.name ∈ targets ∧
        backedUp t topology item = runAgent (image topology.settings) config item.name item := by
  rw [backedUp]
  cases planned : backupOf t topology with
  | none => exact .inl rfl
  | some plan =>
      obtain ⟨config, targets⟩ := plan
      have distinct : (targets.map id).Nodup := by
        rw [List.map_id]
        simp only [backupOf, Option.bind_eq_bind, Option.bind_eq_some_iff, Option.pure_def,
          Option.some.injEq, Prod.mk.injEq] at planned
        obtain ⟨backup, -, -, -, scope, -, -, rfl⟩ := planned
        exact nodup_scopeNames _ _ _
      rcases Item.visited_cases distinct (runAgent (image topology.settings) config) item with
        ⟨-, alone⟩ | ⟨_, mem, rfl, changed⟩
      · exact .inl alone
      · exact .inr ⟨config, targets, rfl, mem, changed⟩

end Postgres

namespace Picodata

/-- The item of a single node: the node runs first, and its sidecars join one after the other. -/
theorem planInstance_items (t : PicodataInstance) :
    Yields (fun s => ∃ given item backups, t.hardware = some given ∧ s.items = [item] ∧
        t.sidecars.foldlM addSidecar ((Item.new (nodeItem 0) given).addContainer
          (nodeContainer (nodeItem 0) 0 t.settings false), 0) = .ok (item, backups))
      (planInstance t) := by
  rw [planInstance]
  apply (ItemSet.ensure_first (nodeItem 0) t.hardware).bind
  rintro items ⟨given, hardware, -, found, alone⟩
  rw [found]
  dsimp only
  cases added : t.sidecars.foldlM addSidecar ((Item.new (nodeItem 0) given).addContainer
      (nodeContainer (nodeItem 0) 0 t.settings false), 0) with
  | ok state =>
      have items_eq := congrArg ItemSet.items (alone state.1)
      exact Yields.pure ⟨given, state.1, state.2, hardware, items_eq, added⟩
  | error e =>
      have sidecars : ∀ state ss, Yields (fun _ : Item × Nat => True) (List.foldlM addSidecar state ss) :=
        fun _ ss => Yields.foldlM (fun state s _ => (addSidecar_yields state s).mono fun _ _ => trivial)
          trivial ss
      exact (sidecars _ _).of_error added

/-! ### Clusters of equal nodes -/

/-- Run a node on an item, and watch the item. -/
def runNode (t : PicodataCluster) (topology : PicodataTopology) (index : Nat) (item : Item) : Item :=
  let item := item.addContainer
    (nodeContainer (nodeItem index) index (nodeSettings t topology index) topology.monitor)
  if topology.monitor then item.addContainer (.nodeExporter (nodeItem index) none) else item

/-- An item is a node as it was to be, with nothing on it but the node and what watches it. -/
def Met (t : PicodataCluster) (topology : PicodataTopology) (index : Nat) (item : Item) : Prop :=
  ∃ given, nodeHardware t topology index = some given ∧
    item = runNode t topology index (Item.new (nodeItem index) given)

/-- Run a numbered backup agent on an item. -/
def runAgent (config : BackupConfig) (p : Nat × String) (item : Item) : Item :=
  item.addContainer (backupContainer p.1 config)

variable {t : PicodataCluster} {topology : PicodataTopology}

/-- A node has the name of its index. -/
theorem Met.name {index : Nat} {item : Item} (h : Met t topology index item) :
    item.name = nodeItem index := by
  obtain ⟨given, -, rfl⟩ := h
  rw [runNode]
  split
  · rfl
  · rfl

/-- Adding a node under a new name puts it behind the others, with its server. -/
theorem addNode_items {items : ItemSet} {index : Nat} (fresh : nodeItem index ∉ items.names) :
    Yields (fun s => ∃ item, Met t topology index item ∧ s.items = items.items ++ [item])
      (addNode t topology items index) := by
  rw [addNode]
  apply (ItemSet.ensure_items fresh _).bind
  rintro ⟨grown⟩ ⟨given, hardware, items_grown⟩
  obtain rfl : grown = items.items ++ [Item.new (nodeItem index) given] := items_grown
  apply Yields.pure
  have last := ItemSet.modify_concat (Item.new (nodeItem index) given) fresh (runNode t topology index)
  exact ⟨_, ⟨given, hardware, rfl⟩, congrArg ItemSet.items last⟩

/-- A backup names no node twice, or its scope does not fit. -/
theorem backupTargets_nodup (backup : PicodataBackupAddon) {nodes : List String} (distinct : nodes.Nodup) :
    Yields List.Nodup (backupTargets backup nodes) := by
  rw [backupTargets]
  split
  · exact Yields.defect _
  · exact Yields.pure distinct
  · split
    · exact Yields.defect _
    · split
      · exact Yields.pure (List.nodup_singleton _)
      · exact Yields.defect _

/-- The agents of a cluster, each on a node of its own. -/
theorem planBackup_items {items : ItemSet} (distinct : items.names.Nodup) (backup : PicodataBackupAddon)
    {nodes : List String} (distinctNodes : nodes.Nodup) :
    Yields (fun s => ∃ config targets, targets.Nodup ∧
        s.items = items.items.map (Item.visited Prod.snd (runAgent config) (Postgres.numbered targets)))
      (planBackup items backup nodes) := by
  rw [planBackup]
  split
  · exact Yields.defect _
  · next config given =>
      apply (backupTargets_nodup backup distinctNodes).bind
      intro targets distinctTargets
      have keep : ∀ p item, (runAgent config p item).name = item.name := fun _ _ => rfl
      have pass := Postgres.changeTargets_items .backup keep (Postgres.numbered targets) distinct Prod.snd
      nth_rewrite 2 [Postgres.numbered] at pass
      rw [List.foldlM_map] at pass
      exact Yields.mono pass fun _ items_eq => ⟨config, targets, distinctTargets, items_eq⟩

/-- Planning lays out the nodes of a cluster, and puts agents on some of them, or reports a defect. -/
theorem planCluster_layout (named : t.topology = some topology) :
    Yields (fun s => ∃ nodes config targets,
        List.Forall₂ (Met t topology) (List.range topology.nodesCount.toNat) nodes ∧ targets.Nodup ∧
        s.items = nodes.map (Item.visited Prod.snd (runAgent config) (Postgres.numbered targets)))
      (planCluster t) := by
  rw [planCluster, named]
  dsimp only
  split
  · exact Yields.defect _
  · apply (validateOverrides_yields _ _ _ _).bind
    intro _ _
    apply (ItemSet.addEach_items nodeItem_injective (fun _ _ met => Met.name met)
      (fun _ _ unused => addNode_items unused) _ 0 (s := .empty) fun _ _ => List.not_mem_nil).bind
    rintro items ⟨nodes, met, items_eq⟩
    rw [← List.range_eq_range'] at met
    obtain rfl : items = ⟨nodes⟩ := congrArg ItemSet.mk items_eq
    have names : ItemSet.names ⟨nodes⟩ = (List.range topology.nodesCount.toNat).map nodeItem :=
      (map_eq_map_of_forall₂ met fun i item met => met.name.symm).symm
    have distinct : ((List.range topology.nodesCount.toNat).map nodeItem).Nodup :=
      List.nodup_range.map nodeItem_injective
    have bare : Yields (fun s => ∃ nodes config targets,
        List.Forall₂ (Met t topology) (List.range topology.nodesCount.toNat) nodes ∧ targets.Nodup ∧
        s.items = nodes.map (Item.visited Prod.snd (runAgent config) (Postgres.numbered targets)))
        (Except.ok (ItemSet.mk nodes)) :=
      Yields.pure ⟨nodes, default, [], met, List.nodup_nil, (List.map_id _).symm⟩
    split
    · split
      · apply (planBackup_items (names ▸ distinct) _ distinct).mono
        rintro _ ⟨config, targets, distinctTargets, items_eq⟩
        exact ⟨nodes, config, targets, met, distinctTargets, items_eq⟩
      · exact bare
    · exact bare

end Picodata

end Testbed
