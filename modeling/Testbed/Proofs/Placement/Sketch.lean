import Testbed.Proofs.Placement.Decision
import Testbed.Proofs.Placement.Plan

/-!
Which servers and which members of the configuration store a cluster plans, and on what planning depends.

The sketch of an item leaves out all but its name, its servers and its members of the configuration store.
Every pass of planning is described by what it does to the sketches: the pass of the topology draws the
nodes, the pass of the configuration store adds its own items and its numbered members, and the later
passes at most add items.  Each pass comes with the exact condition on which it succeeds.
-/

namespace Testbed

namespace Postgres

/-- Whether a container is a member of the configuration store. -/
def isMember (c : Container) : Bool :=
  match c.runtime with
  | .etcd .. => true
  | _ => false

/-- Whether a container is a server depends only on what it runs. -/
theorem isServer_congr {c d : Container} (same : c.runtime = d.runtime) : isServer c = isServer d := by
  rw [isServer.eq_def, isServer.eq_def, same]

/-- Whether a container is a member of a store depends only on what it runs. -/
theorem isMember_congr {c d : Container} (same : c.runtime = d.runtime) : isMember c = isMember d := by
  rw [isMember.eq_def, isMember.eq_def, same]

end Postgres

/-- An item, seen for its servers and its members of the configuration store only. -/
structure Sketch where
  name : String
  servers : List Runtime
  /-- The members, with the names of their containers. -/
  members : List (String × Runtime)

namespace Sketch

/-- An item without servers and members. -/
def plain (name : String) : Sketch := ⟨name, [], []⟩

/-- Run one more container. -/
def run (k : Sketch) (c : Container) : Sketch where
  name := k.name
  servers := k.servers ++ if Postgres.isServer c then [c.runtime] else []
  members := k.members ++ if Postgres.isMember c then [(c.name, c.runtime)] else []

end Sketch

/-- A container that is neither a server nor a member of the configuration store. -/
def Container.Bystander (c : Container) : Prop :=
  Postgres.isServer c = false ∧ Postgres.isMember c = false

/-- A bystander is not seen in a sketch. -/
theorem Sketch.run_of_bystander (k : Sketch) {c : Container} (h : c.Bystander) : k.run c = k := by
  simp [run, h.1, h.2]

namespace Item

def sketch (item : Item) : Sketch where
  name := item.name
  servers := (item.containers.filter Postgres.isServer).map (·.runtime)
  members := (item.containers.filter Postgres.isMember).map fun c => (c.name, c.runtime)

/-- One more container on an item is one more in its sketch. -/
theorem sketch_addContainer (item : Item) (c : Container) :
    (item.addContainer c).sketch = item.sketch.run c := by
  cases server : Postgres.isServer c <;> cases member : Postgres.isMember c <;>
    simp [sketch, addContainer, Sketch.run, server, member]

/-- A bystander on an item is not seen in its sketch. -/
theorem sketch_addContainer_of_bystander (item : Item) {c : Container} (h : c.Bystander) :
    (item.addContainer c).sketch = item.sketch := by
  rw [sketch_addContainer, Sketch.run_of_bystander _ h]

end Item

namespace ItemSet

/-- The sketches of the items, in order. -/
def sketch (s : ItemSet) : List Sketch := s.items.map Item.sketch

/-- The names of items are those of their sketches. -/
theorem names_eq (s : ItemSet) : s.names = s.sketch.map Sketch.name := by
  simp [names, sketch, Item.sketch, Function.comp_def]

/-- Changing an item that has just been added leaves the others alone. -/
theorem modify_concat {items : List Item} (item : Item) (fresh : item.name ∉ items.map Item.name)
    (change : Item → Item) :
    modify ⟨items ++ [item]⟩ item.name change = ⟨items ++ [change item]⟩ := by
  rw [modify]
  congr 1
  induction items with
  | nil => simp [modify.go]
  | cons head rest ih =>
      have other : head.name ≠ item.name := fun same => fresh (by simp [same])
      have later : item.name ∉ rest.map Item.name := fun mem => fresh (List.mem_cons_of_mem _ mem)
      rw [List.cons_append, modify.go, if_neg other, ih later]
      rfl

/-- Changing the item of a name changes the one sketch of that name. -/
theorem sketch_modify {s : ItemSet} {name : String} {change : Item → Item} {f : Sketch → Sketch}
    (distinct : s.names.Nodup)
    (changed : ∀ item, item.name = name → (change item).sketch = f item.sketch) :
    (s.modify name change).sketch = s.sketch.map fun k => if k.name = name then f k else k := by
  obtain ⟨items⟩ := s
  simp only [sketch, modify, List.map_map]
  induction items with
  | nil => rfl
  | cons item rest ih =>
      obtain ⟨fresh, distinctRest⟩ := List.nodup_cons.1 distinct
      rw [modify.go]
      by_cases same : item.name = name
      · have untouched : rest.map Item.sketch =
            rest.map ((fun k => if k.name = name then f k else k) ∘ Item.sketch) := by
          refine List.map_congr_left fun other mem => (if_neg fun again => fresh ?_).symm
          exact List.mem_map.2 ⟨other, mem, again.trans same.symm⟩
        rw [if_pos same, List.map_cons, List.map_cons, changed item same, untouched]
        exact congrArg (· :: _) (if_pos same).symm
      · rw [if_neg same, List.map_cons, List.map_cons, ih distinctRest]
        exact congrArg (· :: _) (if_neg same).symm

/-- An item under a new name is ensured exactly if its hardware is known. -/
theorem ensure_decides {s : ItemSet} {name : String} (fresh : name ∉ s.names)
    (hardware : Option Hardware) :
    Decides (hardware.isSome = true)
      (fun t => ∃ given, t.items = s.items ++ [Item.new name given]) (s.ensure name hardware) := by
  rw [ensure.eq_def, get?_eq_none.2 fresh]
  cases hardware with
  | none => exact (Decides.defect _).iff (by simp)
  | some given => exact (Decides.pure ⟨given, rfl⟩).iff (by simp)

end ItemSet

namespace Postgres

/-! ### The nodes -/

/-- The node that a server runs on. -/
def nodeSketch (name : String) (role : PostgresRole) (index : Nat) (settings : PostgresSettings) :
    Sketch := ⟨name, [.postgres role (.ofNat index) settings], []⟩

/-- The node of a replica. -/
def replicaSketch (t : PostgresCluster) (topology : PostgresTopology) (index : Nat) : Sketch :=
  nodeSketch (replicaItem index) .replica index (replicaSettings t topology index)

/-- The master and the first replicas of a topology. -/
def firstNodes (t : PostgresCluster) (topology : PostgresTopology) (replicas : Nat) : List Sketch :=
  nodeSketch masterItem .master 0 topology.settings ::
    (List.range replicas).map (replicaSketch t topology)

/-- The nodes of a topology. -/
def nodeSketches (t : PostgresCluster) (topology : PostgresTopology) : List Sketch :=
  firstNodes t topology topology.replicasCount.toNat

/-- The first nodes of a cluster are the master and the replicas in order. -/
theorem names_firstNodes (t : PostgresCluster) (topology : PostgresTopology) (replicas : Nat) :
    (firstNodes t topology replicas).map Sketch.name =
      masterItem :: (List.range replicas).map replicaItem := by
  simp [firstNodes, nodeSketch, replicaSketch, Function.comp_def]

/-- A server container runs the engine that was asked for. -/
theorem runtime_serverContainer (item : String) (role : PostgresRole) (index : Nat)
    (settings : PostgresSettings) (monitor : Bool) :
    (serverContainer item role index settings monitor).runtime =
      .postgres role (.ofNat index) settings := by
  unfold serverContainer
  split
  · rfl
  · rfl

/-- What watches a machine is a bystander. -/
theorem bystander_nodeExporter (suffix : String) (port : Option UInt16) :
    (Container.nodeExporter suffix port).Bystander := ⟨rfl, rfl⟩

theorem bystander_postgresExporter (suffix : String) :
    (Container.postgresExporter suffix none []).Bystander := ⟨rfl, rfl⟩

/-- Watching an item is not seen in its sketch. -/
theorem sketch_ensureNodeExporter (item : Item) : (ensureNodeExporter item).sketch = item.sketch := by
  rw [ensureNodeExporter]
  split
  · rfl
  · exact item.sketch_addContainer_of_bystander (bystander_nodeExporter ..)

/-- Running a server on an item, and watching it. -/
theorem sketch_serve (item : Item) (role : PostgresRole) (index : Nat) (settings : PostgresSettings)
    (monitor : Bool) (empty : item.containers = []) :
    (if monitor then addMonitoring
          (item.addContainer (serverContainer item.name role index settings monitor))
      else item.addContainer (serverContainer item.name role index settings monitor)).sketch =
      nodeSketch item.name role index settings := by
  have runs := runtime_serverContainer item.name role index settings monitor
  have server : isServer (serverContainer item.name role index settings monitor) = true := by
    rw [isServer, runs]
  have member : isMember (serverContainer item.name role index settings monitor) = false := by
    rw [isMember, runs]
  have served : (item.addContainer (serverContainer item.name role index settings monitor)).sketch =
      nodeSketch item.name role index settings := by
    rw [Item.sketch_addContainer]
    simp [Sketch.run, Item.sketch, empty, server, member, runs, nodeSketch]
  split
  · rw [addMonitoring, Item.sketch_addContainer_of_bystander _ (bystander_postgresExporter _),
      Item.sketch_addContainer_of_bystander _ (bystander_nodeExporter ..), served]
  · exact served

/-- A node under a new name is added exactly if its hardware is known. -/
theorem addNode_decides {items : ItemSet} {name : String} (fresh : name ∉ items.names)
    (hardware : Option Hardware) (role : PostgresRole) (index : Nat) (settings : PostgresSettings)
    (monitor : Bool) :
    Decides (hardware.isSome = true)
      (·.sketch = items.sketch ++ [nodeSketch name role index settings])
      (addNode items name hardware role index settings monitor) := by
  rw [addNode]
  apply (ItemSet.ensure_decides fresh hardware).map
  rintro ⟨grown⟩ - ⟨given, items_grown⟩
  obtain rfl : grown = items.items ++ [Item.new name given] := items_grown
  have last := ItemSet.modify_concat (Item.new name given) fresh fun item =>
    if monitor then addMonitoring (item.addContainer (serverContainer name role index settings monitor))
    else item.addContainer (serverContainer name role index settings monitor)
  have node := sketch_serve (Item.new name given) role index settings monitor rfl
  dsimp only [Item.new] at last node ⊢
  rw [last, ItemSet.sketch, List.map_append, List.map_singleton, node]
  rfl

/-- Planning the nodes depends on their hardware. -/
theorem planTopology_decides (t : PostgresCluster) (topology : PostgresTopology) :
    Decides (topology.masterHardware.isSome = true ∧
        ∀ i < topology.replicasCount.toNat, (replicaHardware t topology i).isSome = true)
      (·.sketch = nodeSketches t topology) (planTopology t topology) := by
  have step : ∀ index (items : ItemSet), items.sketch = firstNodes t topology index →
      Decides ((replicaHardware t topology index).isSome = true)
        (·.sketch = firstNodes t topology (index + 1))
        (addNode items (replicaItem index) (replicaHardware t topology index) .replica index
          (replicaSettings t topology index) topology.monitor) := by
    intro index items known
    have fresh : replicaItem index ∉ items.names := by
      rw [ItemSet.names_eq, known, names_firstNodes, List.mem_cons, List.mem_map]
      rintro (master | ⟨earlier, before, same⟩)
      · exact masterItem_ne_replicaItem index master.symm
      · exact Nat.ne_of_lt (List.mem_range.1 before) (replicaItem_injective earlier index same)
    apply (addNode_decides fresh _ _ _ _ _).mono
    intro more sketch_more
    rw [sketch_more, known]
    simp [firstNodes, List.range_succ, replicaSketch]
  have unused : masterItem ∉ ItemSet.empty.names := List.not_mem_nil
  have nodes := (addNode_decides unused topology.masterHardware .master 0 topology.settings
    topology.monitor).bind fun items _ sketch_items =>
      ItemSet.addEach_decides step topology.replicasCount.toNat 0 sketch_items
  rw [Nat.zero_add] at nodes
  exact nodes.iff (and_congr_right fun _ => ⟨fun all i => all i (Nat.zero_le i), fun all i _ => all i⟩)

/-! ### Where addons run -/

end Postgres

/-- A scope names at least one node of a topology with so many replicas. -/
def PlacementScope.Resolves (replicas : Nat) (replicaIndex : Option UInt32) : PlacementScope → Prop
  | .master => True
  | .allNodes => True
  | .replicas => 0 < replicas
  | .replica => ∃ index, replicaIndex = some index ∧ index.toNat < replicas

/-- How many nodes a scope names. -/
def PlacementScope.size (replicas : Nat) : PlacementScope → Nat
  | .master => 1
  | .allNodes => replicas + 1
  | .replicas => replicas
  | .replica => 1

/-- A placement is set, and gives an addon at least one item to run on. -/
def AddonPlacement.Resolves (replicas : Nat) : Option AddonPlacement → Prop
  | none => False
  | some (.colocate scope replicaIndex) => scope.Resolves replicas replicaIndex
  | some (.dedicated instancesCount hardware) => 0 < instancesCount.toNat ∧ hardware.isSome = true

/-- How many items a placement gives an addon. -/
def AddonPlacement.size (replicas : Nat) : Option AddonPlacement → Nat
  | none => 0
  | some (.colocate scope _) => scope.size replicas
  | some (.dedicated instancesCount _) => instancesCount.toNat

namespace Postgres

/-- The names of the nodes that a scope names. -/
def scopeNames (replicas : Nat) (replicaIndex : Option UInt32) : PlacementScope → List String
  | .master => [masterItem]
  | .allNodes => masterItem :: (List.range replicas).map replicaItem
  | .replicas => (List.range replicas).map replicaItem
  | .replica => (replicaIndex.map fun index => replicaItem index.toNat).toList

/-- The names of the items that a placement gives an addon. -/
def targetNames (addon : Addon) (replicas : Nat) : Option AddonPlacement → List String
  | none => []
  | some (.colocate scope replicaIndex) => scopeNames replicas replicaIndex scope
  | some (.dedicated instancesCount _) => dedicatedNames addon instancesCount.toNat

/-- A placement that resolves has as many targets as its size says. -/
theorem length_targetNames (addon : Addon) {replicas : Nat} {placement : Option AddonPlacement}
    (resolves : AddonPlacement.Resolves replicas placement) :
    (targetNames addon replicas placement).length = AddonPlacement.size replicas placement := by
  match placement, resolves with
  | some (.colocate .master _), _ => rfl
  | some (.colocate .allNodes _), _ => simp [targetNames, scopeNames, AddonPlacement.size, PlacementScope.size]
  | some (.colocate .replicas _), _ => simp [targetNames, scopeNames, AddonPlacement.size, PlacementScope.size]
  | some (.colocate .replica (some _)), _ => rfl
  | some (.colocate .replica none), h =>
      obtain ⟨index, given, -⟩ := h
      cases given
  | some (.dedicated _ _), _ => simp [targetNames, dedicatedNames, AddonPlacement.size]

/-- An addon runs on items of the cluster, in their order. -/
theorem targetNames_sublist (addon : Addon) {topology : PostgresTopology}
    {placement : Option AddonPlacement}
    (resolves : AddonPlacement.Resolves topology.replicasCount.toNat placement) :
    (targetNames addon topology.replicasCount.toNat placement).Sublist
      (nodeNames topology ++ dedicatedNames addon (AddonPlacement.dedicatedCount placement)) := by
  match placement, resolves with
  | some (.colocate scope replicaIndex), resolves =>
      apply List.Sublist.trans _ (List.sublist_append_left ..)
      match scope, resolves with
      | .master, _ => exact (List.nil_sublist _).cons_cons _
      | .allNodes, _ => exact List.Sublist.refl _
      | .replicas, _ => exact List.sublist_cons_self ..
      | .replica, ⟨index, given, inRange⟩ =>
          subst given
          apply List.singleton_sublist.2
          exact List.mem_cons_of_mem _ (List.mem_map.2 ⟨index.toNat, List.mem_range.2 inRange, rfl⟩)
  | some (.dedicated _ _), _ => exact List.sublist_append_right ..

/-- A scope names its nodes exactly if it resolves. -/
theorem scopeTargets_decides (addon : Addon) (scope : PlacementScope) (replicaIndex : Option UInt32)
    (topology : PostgresTopology) :
    Decides (scope.Resolves topology.replicasCount.toNat replicaIndex)
      (· = scopeNames topology.replicasCount.toNat replicaIndex scope)
      (scopeTargets addon scope replicaIndex (nodesOf topology)) := by
  have checked : ∀ targets : List String, Decides (targets ≠ []) (· = targets)
      (if targets.isEmpty then defect (.placementEmpty addon) else Pure.pure targets) := by
    intro targets
    have found := Decides.check (C := targets.isEmpty = true) (d := .placementEmpty addon) fun _ =>
      Decides.pure (P := (· = targets)) rfl
    exact found.iff (by simp)
  rw [scopeTargets.eq_def]
  cases scope with
  | master => exact (checked [masterItem]).iff (by simp [PlacementScope.Resolves])
  | allNodes => exact (checked (masterItem :: _)).iff (by simp [PlacementScope.Resolves])
  | replicas =>
      apply (checked _).iff
      simp [scopeNames, PlacementScope.Resolves, Nat.pos_iff_ne_zero]
  | replica =>
      cases replicaIndex with
      | none => exact (Decides.defect _).iff (by simp [PlacementScope.Resolves])
      | some index =>
          dsimp only
          by_cases inRange : index.toNat < topology.replicasCount.toNat
          · have known : (nodesOf topology).replicas[index.toNat]? = some (replicaItem index.toNat) := by
              simp [nodesOf, inRange]
            rw [known]
            exact (checked [replicaItem index.toNat]).iff (by simp [PlacementScope.Resolves, inRange])
          · have unknown : (nodesOf topology).replicas[index.toNat]? = none := by
              simpa [nodesOf] using inRange
            rw [unknown]
            exact (Decides.defect _).iff (by simp [PlacementScope.Resolves, inRange])

/-- Items are made for an addon if there is hardware for them. -/
theorem addDedicated_decides {addon : Addon} {items : ItemSet} {index : Nat}
    (fresh : dedicatedItem addon index ∉ items.names) (hardware : Option Hardware) :
    Decides (hardware.isSome = true) (·.sketch = items.sketch ++ [.plain (dedicatedItem addon index)])
      (addDedicated addon hardware items index) := by
  rw [addDedicated, ItemSet.get?_eq_none.2 fresh]
  apply (ItemSet.ensure_decides fresh hardware).mono
  rintro added ⟨given, items_added⟩
  rw [ItemSet.sketch, items_added, List.map_append]
  rfl

/-- Instances of an addon's own that are added one after the other have new names. -/
theorem addDedicated_next {items : ItemSet} {addon : Addon}
    (fresh : ∀ i, dedicatedItem addon i ∉ items.names) (hardware : Option Hardware) {index : Nat}
    {more : ItemSet} (known : more.sketch = items.sketch ++ (dedicatedNames addon index).map Sketch.plain) :
    Decides (hardware.isSome = true)
      (·.sketch = items.sketch ++ (dedicatedNames addon (index + 1)).map Sketch.plain)
      (addDedicated addon hardware more index) := by
  have unused : dedicatedItem addon index ∉ more.names := by
    rw [ItemSet.names_eq, known, List.map_append, ← ItemSet.names_eq, List.mem_append]
    rintro (old | new)
    · exact fresh index old
    · obtain ⟨earlier, before, same⟩ : ∃ earlier < index,
          dedicatedItem addon earlier = dedicatedItem addon index := by
        simpa [dedicatedNames, Sketch.plain] using new
      exact Nat.ne_of_lt before (dedicatedItem_injective addon earlier index same)
  apply (addDedicated_decides unused hardware).mono
  intro last sketch_last
  rw [sketch_last, known]
  simp [dedicatedNames, List.range_succ]

/-- Where an addon runs depends on its placement. -/
theorem expandPlacement_decides {items : ItemSet} {addon : Addon}
    (fresh : ∀ i, dedicatedItem addon i ∉ items.names) (placement : Option AddonPlacement)
    (topology : PostgresTopology) :
    Decides (AddonPlacement.Resolves topology.replicasCount.toNat placement)
      (fun r => r.1.sketch = items.sketch ++
          (dedicatedNames addon (AddonPlacement.dedicatedCount placement)).map Sketch.plain ∧
        r.2.names = targetNames addon topology.replicasCount.toNat placement)
      (expandPlacement items addon placement (nodesOf topology)) := by
  rw [expandPlacement.eq_def]
  cases placement with
  | none => exact Decides.defect _
  | some placement =>
      cases placement with
      | colocate scope replicaIndex =>
          apply (scopeTargets_decides addon scope replicaIndex topology).map
          intro targets _ named
          exact ⟨(List.append_nil _).symm, named⟩
      | dedicated instancesCount hardware =>
          have start : items.sketch = items.sketch ++ (dedicatedNames addon 0).map Sketch.plain :=
            (List.append_nil _).symm
          have made := (ItemSet.addEach_decides
            (P := fun index more => more.sketch = items.sketch ++ (dedicatedNames addon index).map Sketch.plain)
            (fun _ _ => addDedicated_next fresh hardware) instancesCount.toNat 0 start).map
            (f := fun all => (all, (⟨dedicatedNames addon instancesCount.toNat, true⟩ : Targets)))
            (Q := fun r => r.1.sketch = items.sketch ++
                (dedicatedNames addon instancesCount.toNat).map Sketch.plain ∧
              r.2.names = dedicatedNames addon instancesCount.toNat)
            fun all _ sketch_all => ⟨by rw [sketch_all, Nat.zero_add], rfl⟩
          have some_instance : ¬ instancesCount = 0 ↔ 0 < instancesCount.toNat := by
            rw [← UInt32.toNat_inj, UInt32.toNat_zero, Nat.pos_iff_ne_zero]
          apply (Decides.check (d := .noInstances addon) fun _ => made).iff
          rw [some_instance]
          refine and_congr_right fun positive => ⟨fun all => ?_, fun given _ _ _ => given⟩
          exact all 0 (Nat.le_refl 0) (by omega)

/-! ### Members of the configuration store -/

end Postgres

/-- Take members in. -/
def Sketch.join (k : Sketch) (members : List (String × Runtime)) : Sketch :=
  { k with members := k.members ++ members }

namespace Postgres

/-- A pass over the items that an addon runs on adds to the members what each of its steps adds.  The
items of a cluster have names of their own, and so each step finds the item that it is about. -/
theorem changeTargets_decides {α : Type} (addon : Addon) {name : α → String}
    {change : α → Item → Item} {joins : α → List (String × Runtime)}
    (changed : ∀ a item, (change a item).sketch = item.sketch.join (joins a)) {targets : List α}
    {items : ItemSet} (distinct : items.names.Nodup) (listed : ∀ a ∈ targets, name a ∈ items.names) :
    Decides True
      (·.sketch = items.sketch.map fun k =>
        k.join ((targets.filter fun a => name a = k.name).flatMap joins))
      (targets.foldlM (fun items a => changeTarget addon items (name a) (change a)) items) := by
  induction targets generalizing items with
  | nil =>
      apply Decides.pure
      simp [Sketch.join]
  | cons a rest ih =>
      have found : changeTarget addon items (name a) (change a) =
          .ok (items.modify (name a) (change a)) := by
        have known := listed a List.mem_cons_self
        rw [changeTarget]
        cases h : items.get? (name a) with
        | none => exact absurd known (ItemSet.get?_eq_none.1 h)
        | some item => rfl
      have drawn : (items.modify (name a) (change a)).sketch =
          items.sketch.map fun k => if k.name = name a then k.join (joins a) else k :=
        ItemSet.sketch_modify distinct fun item _ => changed a item
      have names : (items.modify (name a) (change a)).names = items.names := by
        rw [ItemSet.names_eq, drawn, ItemSet.names_eq, List.map_map]
        refine List.map_congr_left fun k _ => ?_
        simp only [Function.comp_apply]
        split
        · rfl
        · rfl
      rw [List.foldlM_cons, found]
      apply (ih (names ▸ distinct) fun b mem => names ▸ listed b (List.mem_cons_of_mem a mem)).mono
      intro last sketch_last
      rw [sketch_last, drawn, List.map_map]
      refine List.map_congr_left fun k _ => ?_
      by_cases here : name a = k.name
      · simp [Sketch.join, here]
      · have elsewhere : ¬ k.name = name a := fun same => here same.symm
        simp [Sketch.join, here, elsewhere]

/-- A member of the configuration store: the name of its container, and what it runs. -/
def memberOf (etcd : EtcdAddon) (clusterSize : UInt32) (memberIndex : Nat) : String × Runtime :=
  (s!"etcd-{memberIndex}", .etcd (.ofNat memberIndex) clusterSize (etcd.clientPort.getD Port.etcdClient)
    Port.etcdPeer)

/-- A member of the store is sketched with its number and the size of its cluster. -/
theorem run_etcdContainer (k : Sketch) (etcd : EtcdAddon) (memberIndex : Nat) (clusterSize : UInt32) :
    k.run (etcdContainer etcd memberIndex clusterSize) =
      k.join [memberOf etcd clusterSize memberIndex] := by
  have runs : (etcdContainer etcd memberIndex clusterSize).runtime =
      (memberOf etcd clusterSize memberIndex).2 := rfl
  have member : isMember (etcdContainer etcd memberIndex clusterSize) = true := rfl
  have server : isServer (etcdContainer etcd memberIndex clusterSize) = false := rfl
  simp only [Sketch.run, Sketch.join, server, member, runs, Bool.false_eq_true, if_false, if_true,
    List.append_nil]
  rfl

/-- Running a member on an item, and watching the item. -/
theorem sketch_runMember (etcd : EtcdAddon) (watch : Bool) (clusterSize : UInt32) (p : Nat × String)
    (item : Item) :
    (if watch then ensureNodeExporter (item.addContainer (etcdContainer etcd p.1 clusterSize))
      else item.addContainer (etcdContainer etcd p.1 clusterSize)).sketch =
      item.sketch.join [memberOf etcd clusterSize p.1] := by
  split
  · rw [sketch_ensureNodeExporter, Item.sketch_addContainer, run_etcdContainer]
  · rw [Item.sketch_addContainer, run_etcdContainer]

/-- The items that an addon runs on take its numbered members in. -/
def enrol (etcd : EtcdAddon) (targets : List String) (k : Sketch) : Sketch :=
  k.join (((numbered targets).filter fun p => p.2 = k.name).map fun p =>
    memberOf etcd (.ofNat targets.length) p.1)

/-- Numbering leaves the names. -/
theorem snd_numbered (names : List String) : (numbered names).map Prod.snd = names := by
  simp [numbered, Function.comp_def]

/-- A numbered name is one of the names. -/
theorem mem_of_mem_numbered {names : List String} {p : Nat × String} (mem : p ∈ numbered names) :
    p.2 ∈ names := by
  have listed : p.2 ∈ (numbered names).map Prod.snd := List.mem_map_of_mem mem
  rwa [snd_numbered] at listed

section Expanded

variable {items expanded : ItemSet} {addon : Addon} {count : Nat}

/-- Items of an addon's own stand behind the others. -/
theorem names_expanded
    (known : expanded.sketch = items.sketch ++ (dedicatedNames addon count).map Sketch.plain) :
    expanded.names = items.names ++ dedicatedNames addon count := by
  rw [ItemSet.names_eq, known, List.map_append, ← ItemSet.names_eq]
  simp [Sketch.plain, Function.comp_def]

/-- Items with some more of an addon's own have different names, if they had before. -/
theorem nodup_expanded (distinct : items.names.Nodup) (fresh : ∀ i, dedicatedItem addon i ∉ items.names)
    (known : expanded.sketch = items.sketch ++ (dedicatedNames addon count).map Sketch.plain) :
    expanded.names.Nodup := by
  rw [names_expanded known]
  exact distinct.append (nodup_dedicatedNames addon count) (disjoint_dedicatedNames count fresh)

end Expanded

/-- A store is planned exactly if its placement resolves and its size is not contradicted. -/
theorem planEtcd_decides {items : ItemSet} {topology : PostgresTopology}
    (nodes : items.names = nodeNames topology) (etcd : EtcdAddon) :
    Decides (AddonPlacement.Resolves topology.replicasCount.toNat etcd.placement ∧
        (etcd.size = 0 ∨ etcd.size = .ofNat
          (targetNames .etcd topology.replicasCount.toNat etcd.placement).length))
      (·.sketch = (items.sketch ++ (dedicatedNames .etcd
          (AddonPlacement.dedicatedCount etcd.placement)).map Sketch.plain).map
        (enrol etcd (targetNames .etcd topology.replicasCount.toNat etcd.placement)))
      (planEtcd items etcd (nodesOf topology)) := by
  have fresh : ∀ i, dedicatedItem .etcd i ∉ items.names := fun i =>
    nodes ▸ dedicatedItem_notMem_nodeNames .etcd topology i
  rw [planEtcd]
  apply (expandPlacement_decides fresh etcd.placement topology).bind
  rintro ⟨expanded, targets⟩ resolves ⟨sketch_expanded, named⟩
  dsimp only at sketch_expanded named ⊢
  have distinct := nodup_expanded (nodes ▸ nodup_nodeNames topology) fresh sketch_expanded
  have listed : ∀ p ∈ numbered targets.names, p.2 ∈ expanded.names := by
    intro p mem
    rw [names_expanded sketch_expanded, nodes]
    apply (targetNames_sublist .etcd resolves).subset
    rw [← named]
    exact mem_of_mem_numbered mem
  rw [← named, ← sketch_expanded]
  have enrolled := (changeTargets_decides .etcd (sketch_runMember etcd
    ((etcd.monitor || (nodesOf topology).monitor) && (targets.dedicated || etcd.monitor))
    (.ofNat targets.names.length)) distinct listed).mono
      (Q := fun s : ItemSet => s.sketch = expanded.sketch.map (enrol etcd targets.names))
      fun last sketch_last => by
        rw [sketch_last]
        refine List.map_congr_left fun k _ => ?_
        rw [enrol, List.map_eq_flatMap]
  exact (Decides.check fun _ => enrolled).iff (by simp [or_iff_not_imp_left])

/-! ### The later passes -/

/-- A pass that places bystanders on items that exist shows in no sketch. -/
theorem changeTargets_of_bystanders {α : Type} (addon : Addon) {name : α → String}
    {change : α → Item → Item} (keeps : ∀ a item, (change a item).sketch = item.sketch)
    {targets : List α} {items : ItemSet} (distinct : items.names.Nodup)
    (listed : ∀ a ∈ targets, name a ∈ items.names) :
    Decides True (·.sketch = items.sketch)
      (targets.foldlM (fun items a => changeTarget addon items (name a) (change a)) items) := by
  have joins : ∀ a item, (change a item).sketch = item.sketch.join [] := by
    intro a item
    rw [keeps]
    simp [Sketch.join]
  apply (changeTargets_decides addon joins distinct listed).mono
  intro last sketch_last
  rw [sketch_last]
  refine (List.map_congr_left fun k _ => ?_).trans (List.map_id _)
  rw [List.flatMap_eq_nil_iff.2 fun _ _ => rfl]
  simp [Sketch.join]

/-- A pooler is a bystander. -/
theorem bystander_poolerContainer (pgbouncer : PgbouncerAddon) (index : Nat) :
    (poolerContainer pgbouncer index).Bystander := by
  unfold poolerContainer
  split
  · exact ⟨rfl, rfl⟩
  · exact ⟨rfl, rfl⟩

theorem bystander_pgbouncerExporter (suffix : String) :
    (Container.pgbouncerExporter suffix).Bystander := ⟨rfl, rfl⟩

theorem bystander_backupAgent (name image : String) (config : BackupConfig) :
    (Container.backupAgent name image config).Bystander := by
  unfold Container.backupAgent
  split
  · exact ⟨rfl, rfl⟩
  · exact ⟨rfl, rfl⟩

/-- Running a pooler on an item, and watching it. -/
theorem sketch_runPooler (pgbouncer : PgbouncerAddon) (watch dedicated : Bool) (p : Nat × String)
    (item : Item) :
    (if watch then
        if dedicated then ensureNodeExporter ((item.addContainer (poolerContainer pgbouncer p.1)).addContainer
          (.pgbouncerExporter (toString p.1)))
        else (item.addContainer (poolerContainer pgbouncer p.1)).addContainer
          (.pgbouncerExporter (toString p.1))
      else item.addContainer (poolerContainer pgbouncer p.1)).sketch = item.sketch := by
  have pooled := item.sketch_addContainer_of_bystander (bystander_poolerContainer pgbouncer p.1)
  have watched := Item.sketch_addContainer_of_bystander
    (item.addContainer (poolerContainer pgbouncer p.1)) (bystander_pgbouncerExporter (toString p.1))
  split
  · split
    · rw [sketch_ensureNodeExporter, watched, pooled]
    · rw [watched, pooled]
  · exact pooled

/-- A pooler is planned exactly if its placement resolves, and is not seen in the sketch. -/
theorem planPgbouncer_decides {items : ItemSet} {topology : PostgresTopology} {members : Nat}
    (names : items.names = nodeNames topology ++ dedicatedNames .etcd members)
    (pgbouncer : PgbouncerAddon) :
    Decides (AddonPlacement.Resolves topology.replicasCount.toNat pgbouncer.placement)
      (·.sketch = items.sketch ++ (dedicatedNames .pgbouncer
        (AddonPlacement.dedicatedCount pgbouncer.placement)).map Sketch.plain)
      (planPgbouncer items pgbouncer (nodesOf topology)) := by
  have fresh : ∀ i, dedicatedItem .pgbouncer i ∉ items.names := fun i =>
    names ▸ pgbouncerItem_fresh topology members i
  rw [planPgbouncer]
  refine ((expandPlacement_decides fresh pgbouncer.placement topology).bind (D := True) ?_).iff
    (and_iff_left trivial)
  rintro ⟨expanded, targets⟩ resolves ⟨sketch_expanded, named⟩
  dsimp only at sketch_expanded named ⊢
  have distinct : items.names.Nodup := by
    rw [names]
    exact (nodup_nodeNames topology).append (nodup_dedicatedNames .etcd _)
      (disjoint_dedicatedNames _ (dedicatedItem_notMem_nodeNames .etcd topology))
  have listed : ∀ p ∈ numbered targets.names, p.2 ∈ expanded.names := by
    intro p mem
    have target := mem_of_mem_numbered mem
    rw [named] at target
    rw [names_expanded sketch_expanded, names]
    rcases List.mem_append.1 ((targetNames_sublist .pgbouncer resolves).subset target) with node | own
    · exact List.mem_append_left _ (List.mem_append_left _ node)
    · exact List.mem_append_right _ own
  rw [← sketch_expanded]
  exact changeTargets_of_bystanders .pgbouncer (sketch_runPooler pgbouncer
    (pgbouncer.monitor || (nodesOf topology).monitor) targets.dedicated)
    (nodup_expanded distinct fresh sketch_expanded) listed

/-- A backup is planned exactly if it says how and what and its scope resolves, and is not seen in the
sketch. -/
theorem planBackup_decides {items : ItemSet} {topology : PostgresTopology} (distinct : items.names.Nodup)
    (nodes : nodeNames topology ⊆ items.names) (backup : BackupAddon) :
    Decides (backup.config.isSome = true ∧ ∃ scope, backup.scope = some scope ∧
        scope.Resolves topology.replicasCount.toNat backup.replicaIndex)
      (·.sketch = items.sketch) (planBackup items backup (nodesOf topology)) := by
  rw [planBackup]
  split
  · next missing => exact (Decides.defect _).iff (by simp [missing])
  · next missing => exact (Decides.defect _).iff (by simp [missing])
  · next config scope given limited =>
      have resolved := scopeTargets_decides .backup scope backup.replicaIndex topology
      apply (resolved.bind (D := True) ?_).iff
      · simp [given, limited]
      · rintro targets resolves rfl
        apply changeTargets_of_bystanders .backup _ distinct
        · intro name mem
          apply nodes
          have placed : AddonPlacement.Resolves topology.replicasCount.toNat
            (some (.colocate scope backup.replicaIndex)) := resolves
          simpa [AddonPlacement.dedicatedCount, dedicatedNames] using
            (targetNames_sublist .backup placed).subset mem
        · intro target item
          exact item.sketch_addContainer_of_bystander (bystander_backupAgent ..)

end Postgres

end Testbed
