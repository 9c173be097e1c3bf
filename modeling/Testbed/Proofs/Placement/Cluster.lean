import Testbed.Proofs.Placement.Sketch

/-!
Which clusters can be planned, and what is planned for them.

`PostgresCluster.WellFormed` says what a template has to be like, section by section and without the code
of the passes.  Planning succeeds exactly for the well-formed templates, and its items are then those of
`clusterSketches`: one server on each node, with the settings that are in effect there, and the members of
the configuration store, numbered from one in the order of the items.
-/

namespace Testbed

/-- What a cluster with a topology has to be like. -/
structure PostgresCluster.WellFormed (t : PostgresCluster) (topology : PostgresTopology) : Prop where
  /-- Overrides are about replicas that exist. -/
  overridesInRange : ∀ o ∈ t.replicaOverrides, o.replicaIndex < topology.replicasCount
  /-- No replica is overridden twice. -/
  overridesDistinct : (t.replicaOverrides.map (·.replicaIndex)).Nodup
  masterHardware : topology.masterHardware.isSome = true
  /-- Every replica gets hardware from the topology or from its override. -/
  replicaHardware : ∀ index < topology.replicasCount.toNat, topology.replicaHardware.isSome = true ∨
    ∃ o ∈ t.replicaOverrides, o.replicaIndex.toNat = index ∧ o.hardware.isSome = true
  /-- The configuration store has somewhere to run; if its size is given, it is how many members it has
  there. -/
  etcd : ∀ etcd, t.addons.etcd = some etcd →
    AddonPlacement.Resolves topology.replicasCount.toNat etcd.placement ∧
      (etcd.size ≠ 0 →
        etcd.size.toNat = AddonPlacement.size topology.replicasCount.toNat etcd.placement)
  /-- A pooler that is enabled has somewhere to run. -/
  pgbouncer : ∀ pgbouncer, t.addons.pgbouncer = some pgbouncer → pgbouncer.enabled = true →
    AddonPlacement.Resolves topology.replicasCount.toNat pgbouncer.placement
  /-- Backups that are enabled are configured, and there are nodes to back up. -/
  backup : ∀ backup, t.addons.backup = some backup → backup.enabled = true →
    backup.config.isSome = true ∧ ∃ scope, backup.scope = some scope ∧
      scope.Resolves topology.replicasCount.toNat backup.replicaIndex

/-- Overrides are accepted exactly if each is of a node that there is, and none of a node seen before. -/
theorem validateOverrides_decides (family : Family) (count : Nat) (seen indices : List Nat) :
    Decides ((∀ index ∈ indices, index < count ∧ index ∉ seen) ∧ indices.Nodup) (fun _ => True)
      (validateOverrides family count seen indices) := by
  induction indices generalizing seen with
  | nil => exact (Decides.pure trivial).iff (by simp)
  | cons index rest ih =>
      rw [validateOverrides]
      apply (Decides.check fun _ => Decides.check fun _ => ih (index :: seen)).iff
      simp only [List.mem_cons, List.nodup_cons, List.contains_iff_mem, not_or, Nat.not_le]
      constructor
      · rintro ⟨inRange, unseen, others, distinct⟩
        refine ⟨?_, fun again => (others index again).2.1 rfl, distinct⟩
        rintro i (rfl | later)
        · exact ⟨inRange, unseen⟩
        · exact ⟨(others i later).1, (others i later).2.2⟩
      · rintro ⟨all, fresh, distinct⟩
        obtain ⟨inRange, unseen⟩ := all index (.inl rfl)
        refine ⟨inRange, unseen, fun i later => ⟨(all i (.inr later)).1, ?_, (all i (.inr later)).2⟩,
          distinct⟩
        rintro rfl
        exact fresh later

/-- Elements with different keys are found by their keys. -/
theorem find?_key_eq_some {α κ : Type} [DecidableEq κ] {key : α → κ} {l : List α}
    (distinct : (l.map key).Nodup) {k : κ} {a : α} :
    l.find? (key · = k) = some a ↔ a ∈ l ∧ key a = k := by
  constructor
  · intro found
    exact ⟨List.mem_of_find?_eq_some found, by simpa using List.find?_some found⟩
  · rintro ⟨mem, here⟩
    cases found : l.find? (key · = k) with
    | none => exact absurd here (by simpa using List.find?_eq_none.1 found a mem)
    | some b =>
        have there : key b = k := by simpa using List.find?_some found
        exact congrArg some
          (List.inj_on_of_nodup_map distinct (List.mem_of_find?_eq_some found) mem (there.trans here.symm))

/-- Words that differ are different numbers. -/
theorem nodup_map_toNat {α : Type} {index : α → UInt32} {l : List α} :
    (l.map fun a => (index a).toNat).Nodup ↔ (l.map index).Nodup := by
  have composed : l.map (fun a => (index a).toNat) = (l.map index).map UInt32.toNat := by simp
  rw [composed, List.nodup_map_iff fun _ _ same => UInt32.toNat_inj.1 same]

namespace Postgres

variable {t : PostgresCluster} {topology : PostgresTopology}

/-! ### Overrides -/

/-- Overrides of different replicas are found by their indices. -/
theorem overrideOf_eq_some (distinct : (t.replicaOverrides.map (·.replicaIndex)).Nodup)
    {o : ReplicaOverride} {index : Nat} :
    overrideOf t index = some o ↔ o ∈ t.replicaOverrides ∧ o.replicaIndex.toNat = index :=
  find?_key_eq_some (nodup_map_toNat.2 distinct)

/-- A replica has hardware exactly if the topology or its override names some. -/
theorem isSome_replicaHardware (distinct : (t.replicaOverrides.map (·.replicaIndex)).Nodup)
    (index : Nat) :
    (replicaHardware t topology index).isSome = true ↔ topology.replicaHardware.isSome = true ∨
      ∃ o ∈ t.replicaOverrides, o.replicaIndex.toNat = index ∧ o.hardware.isSome = true := by
  have overridden : ((overrideOf t index).bind (·.hardware)).isSome = true ↔
      ∃ o ∈ t.replicaOverrides, o.replicaIndex.toNat = index ∧ o.hardware.isSome = true := by
    constructor
    · intro given
      cases found : overrideOf t index with
      | none => simp [found] at given
      | some o =>
          obtain ⟨mem, about⟩ := (overrideOf_eq_some distinct).1 found
          exact ⟨o, mem, about, by simpa [found] using given⟩
    · rintro ⟨o, mem, about, given⟩
      rw [(overrideOf_eq_some distinct).2 ⟨mem, about⟩]
      exact given
  rw [replicaHardware, Option.isSome_or, Bool.or_eq_true, overridden, or_comm]

/-! ### Passes -/

/-- The nodes of a cluster and the items of its configuration store. -/
def storeSketches (t : PostgresCluster) (topology : PostgresTopology) : List Sketch :=
  match t.addons.etcd with
  | some etcd =>
      (nodeSketches t topology ++ (dedicatedNames .etcd
        (AddonPlacement.dedicatedCount etcd.placement)).map Sketch.plain).map
          (enrol etcd (targetNames .etcd topology.replicasCount.toNat etcd.placement))
  | none => nodeSketches t topology

/-- The items of a cluster. -/
def clusterSketches (t : PostgresCluster) (topology : PostgresTopology) : List Sketch :=
  storeSketches t topology ++ (dedicatedNames .pgbouncer (pgbouncerCount t.addons)).map Sketch.plain

/-- The plans of the nodes have the names of the nodes. -/
theorem names_nodeSketches (t : PostgresCluster) (topology : PostgresTopology) :
    (nodeSketches t topology).map Sketch.name = nodeNames topology := names_firstNodes ..

/-- Behind the nodes come the items that the configuration store has for itself. -/
theorem names_storeSketches (t : PostgresCluster) (topology : PostgresTopology) :
    (storeSketches t topology).map Sketch.name =
      nodeNames topology ++ dedicatedNames .etcd (etcdCount t.addons) := by
  have named : ∀ etcd targets, Sketch.name ∘ enrol etcd targets = Sketch.name := fun _ _ => rfl
  have plain : ∀ etcd targets, Sketch.name ∘ enrol etcd targets ∘ Sketch.plain = id := fun _ _ => rfl
  rw [storeSketches, etcdCount]
  cases t.addons.etcd with
  | none => simp [names_nodeSketches, dedicatedNames]
  | some etcd => simp [named, plain, names_nodeSketches]

/-- The configuration store is placed exactly if its placement resolves and its size is not contradicted. -/
theorem placeEtcd_decides {items : ItemSet} (known : items.sketch = nodeSketches t topology) :
    Decides (∀ etcd, t.addons.etcd = some etcd →
        AddonPlacement.Resolves topology.replicasCount.toNat etcd.placement ∧
          (etcd.size = 0 ∨ etcd.size = .ofNat
            (targetNames .etcd topology.replicasCount.toNat etcd.placement).length))
      (·.sketch = storeSketches t topology) (placeEtcd t.addons (nodesOf topology) items) := by
  have nodes : items.names = nodeNames topology := by
    rw [ItemSet.names_eq, known, names_nodeSketches]
  rw [placeEtcd, storeSketches]
  cases t.addons.etcd with
  | none => exact (Decides.pure known).iff (by simp)
  | some etcd =>
      dsimp only
      rw [← known]
      exact (planEtcd_decides nodes etcd).iff (by simp)

/-- The pooler is placed exactly if its placement resolves, or it is not enabled. -/
theorem placePgbouncer_decides {items : ItemSet} (known : items.sketch = storeSketches t topology) :
    Decides (∀ pgbouncer, t.addons.pgbouncer = some pgbouncer → pgbouncer.enabled = true →
        AddonPlacement.Resolves topology.replicasCount.toNat pgbouncer.placement)
      (·.sketch = clusterSketches t topology)
      (placePgbouncer t.addons (nodesOf topology) items) := by
  have names : items.names = nodeNames topology ++ dedicatedNames .etcd (etcdCount t.addons) := by
    rw [ItemSet.names_eq, known, names_storeSketches]
  have unchanged : items.sketch = storeSketches t topology ++
      (dedicatedNames .pgbouncer 0).map Sketch.plain := known.trans (List.append_nil _).symm
  rw [placePgbouncer, clusterSketches, pgbouncerCount]
  cases t.addons.pgbouncer with
  | none => exact (Decides.pure unchanged).iff (by simp)
  | some pgbouncer =>
      dsimp only
      split
      · next enabled =>
          rw [← known]
          exact (planPgbouncer_decides names pgbouncer).iff (by simp [enabled])
      · next disabled => exact (Decides.pure unchanged).iff (by simp [disabled])

/-- The backup is placed exactly if it says how and what, and its scope resolves, or it is not enabled. -/
theorem placeBackup_decides {items : ItemSet} (known : items.sketch = clusterSketches t topology)
    (named : t.topology = some topology) :
    Decides (∀ backup, t.addons.backup = some backup → backup.enabled = true →
        backup.config.isSome = true ∧ ∃ scope, backup.scope = some scope ∧
          scope.Resolves topology.replicasCount.toNat backup.replicaIndex)
      (·.sketch = clusterSketches t topology) (placeBackup t.addons (nodesOf topology) items) := by
  have names : items.names = nodeNames topology ++ dedicatedNames .etcd (etcdCount t.addons) ++
      dedicatedNames .pgbouncer (pgbouncerCount t.addons) := by
    rw [ItemSet.names_eq, known, clusterSketches, List.map_append, names_storeSketches]
    simp [Sketch.plain, Function.comp_def]
  have distinct : items.names.Nodup := by
    rw [names, ← clusterNames_eq named]
    exact nodup_clusterNames t
  have nodes : nodeNames topology ⊆ items.names := by
    rw [names, List.append_assoc]
    exact List.subset_append_left ..
  rw [placeBackup]
  cases t.addons.backup with
  | none => exact (Decides.pure known).iff (by simp)
  | some backup =>
      dsimp only
      split
      · next enabled =>
          rw [← known]
          exact (planBackup_decides distinct nodes backup).iff (by simp [enabled])
      · next disabled => exact (Decides.pure known).iff (by simp [disabled])

/-! ### Clusters -/

/-- A word can hold how many items an addon runs on. -/
theorem size_lt (few : topology.replicasCount.toNat + 1 < UInt32.size)
    (placement : Option AddonPlacement) :
    AddonPlacement.size topology.replicasCount.toNat placement < UInt32.size := by
  have one : 1 < UInt32.size := by decide
  match placement with
  | none => exact Nat.zero_lt_of_lt one
  | some (.colocate .master _) => exact one
  | some (.colocate .allNodes _) => exact few
  | some (.colocate .replicas _) => exact Nat.lt_of_succ_lt few
  | some (.colocate .replica _) => exact one
  | some (.dedicated instancesCount _) => exact instancesCount.toNat_lt

/-- The size of a store is compared as a number of 32 bits, which is no different for so few nodes. -/
theorem size_agrees {etcd : EtcdAddon} (few : topology.replicasCount.toNat + 1 < UInt32.size)
    (resolves : AddonPlacement.Resolves topology.replicasCount.toNat etcd.placement) :
    (etcd.size = 0 ∨ etcd.size = .ofNat
        (targetNames .etcd topology.replicasCount.toNat etcd.placement).length) ↔
      (etcd.size ≠ 0 →
        etcd.size.toNat = AddonPlacement.size topology.replicasCount.toNat etcd.placement) := by
  rw [length_targetNames .etcd resolves, or_iff_not_imp_left]
  apply imp_congr_right
  intro _
  rw [← UInt32.toNat_inj, UInt32.toNat_ofNat_of_lt' (size_lt few etcd.placement)]

/-- Exactly the well-formed clusters can be planned. -/
theorem planCluster_decides (named : t.topology = some topology)
    (few : topology.replicasCount.toNat + 1 < UInt32.size) :
    Decides (t.WellFormed topology) (·.sketch = clusterSketches t topology) (planCluster t) := by
  rw [planCluster_eq named]
  have passes := (validateOverrides_decides .postgres topology.replicasCount.toNat []
    (t.replicaOverrides.map (·.replicaIndex.toNat))).bind fun _ _ _ =>
      (planTopology_decides t topology).bind fun nodes _ known =>
        (placeEtcd_decides known).bind fun stored _ known =>
          (placePgbouncer_decides known).bind fun pooled _ known => placeBackup_decides known named
  apply passes.iff
  have indices : (t.replicaOverrides.map (·.replicaIndex.toNat)).Nodup ↔
      (t.replicaOverrides.map (·.replicaIndex)).Nodup := nodup_map_toNat
  constructor
  · rintro ⟨⟨inRange, distinct⟩, ⟨master, replicas⟩, etcd, pgbouncer, backup⟩
    rw [indices] at distinct
    constructor
    · intro o mem
      exact UInt32.lt_iff_toNat_lt.2 (inRange _ (List.mem_map_of_mem mem)).1
    · exact distinct
    · exact master
    · exact fun index less => (isSome_replicaHardware distinct index).1 (replicas index less)
    · intro addon given
      obtain ⟨resolves, size⟩ := etcd addon given
      exact ⟨resolves, (size_agrees few resolves).1 size⟩
    · exact pgbouncer
    · exact backup
  · intro wellFormed
    refine ⟨⟨?_, indices.2 wellFormed.overridesDistinct⟩, ⟨wellFormed.masterHardware, ?_⟩, ?_,
      wellFormed.pgbouncer, wellFormed.backup⟩
    · intro index mem
      obtain ⟨o, listed, rfl⟩ := List.mem_map.1 mem
      exact ⟨UInt32.lt_iff_toNat_lt.1 (wellFormed.overridesInRange o listed), List.not_mem_nil⟩
    · intro index less
      exact (isSome_replicaHardware wellFormed.overridesDistinct index).2
        (wellFormed.replicaHardware index less)
    · intro addon given
      obtain ⟨resolves, size⟩ := wellFormed.etcd addon given
      exact ⟨resolves, (size_agrees few resolves).2 size⟩

/-! ### Engines and members -/

/-- The servers of a cluster: the master with the settings of the topology, and the replicas in index
order, each with the settings of its override, or else with those of the topology. -/
def engines (t : PostgresCluster) (topology : PostgresTopology) : List Runtime :=
  .postgres .master 0 topology.settings :: (List.range topology.replicasCount.toNat).map fun index =>
    .postgres .replica (.ofNat index) (replicaSettings t topology index)

/-- Each node runs the one server that was meant for it. -/
theorem servers_nodeSketches (t : PostgresCluster) (topology : PostgresTopology) :
    (nodeSketches t topology).map Sketch.servers = (engines t topology).map fun engine => [engine] := by
  simp [nodeSketches, firstNodes, nodeSketch, replicaSketch, engines, Function.comp_def]

/-- Items that addons have for themselves run no server. -/
theorem servers_plain (names : List String) :
    (names.map Sketch.plain).map Sketch.servers = List.replicate names.length [] := by
  rw [List.map_map]
  exact List.map_eq_replicate_iff.2 fun _ _ => rfl

/-- Each node runs its one server, and the items that addons have for themselves run none. -/
theorem servers_clusterSketches (t : PostgresCluster) (topology : PostgresTopology) :
    (clusterSketches t topology).map Sketch.servers =
      (engines t topology).map (fun engine => [engine]) ++
        List.replicate (etcdCount t.addons + pgbouncerCount t.addons) [] := by
  have enrolled : ∀ etcd targets, Sketch.servers ∘ enrol etcd targets = Sketch.servers :=
    fun _ _ => rfl
  have stored : (storeSketches t topology).map Sketch.servers =
      (engines t topology).map (fun engine => [engine]) ++ List.replicate (etcdCount t.addons) [] := by
    rw [storeSketches, etcdCount]
    cases t.addons.etcd with
    | none => simp [servers_nodeSketches]
    | some etcd =>
        dsimp only
        rw [List.map_map, enrolled, List.map_append, servers_nodeSketches, servers_plain]
        simp [dedicatedNames]
  rw [clusterSketches, List.map_append, stored, servers_plain, List.append_assoc,
    List.replicate_append_replicate]
  simp [dedicatedNames]

/-- Numbered pairs are met in their order by who goes through the names in their order. -/
theorem flatMap_filter_of_sublist {α : Type} {pairs : List (α × String)} {names : List String}
    (sub : (pairs.map Prod.snd).Sublist names) (distinct : names.Nodup) :
    names.flatMap (fun name => pairs.filter fun p => p.2 = name) = pairs := by
  induction names generalizing pairs with
  | nil => simpa using sub
  | cons name rest ih =>
      obtain ⟨fresh, distinctRest⟩ := List.nodup_cons.1 distinct
      have none_of_sublist : ∀ {others : List (α × String)}, (others.map Prod.snd).Sublist rest →
          (others.filter fun p => p.2 = name) = [] := by
        intro others sub
        rw [List.filter_eq_nil_iff]
        intro p mem same
        have : p.2 ∈ rest := sub.subset (List.mem_map_of_mem mem)
        exact fresh (of_decide_eq_true same ▸ this)
      rw [List.flatMap_cons]
      cases pairs with
      | nil => simp
      | cons p ps =>
          rw [List.map_cons] at sub
          by_cases here : p.2 = name
          · subst here
            have later : (ps.map Prod.snd).Sublist rest := List.cons_sublist_cons.1 sub
            have others : ∀ n ∈ rest, ((p :: ps).filter fun q => q.2 = n) = ps.filter fun q => q.2 = n := by
              intro n mem
              have elsewhere : p.2 ≠ n := fun same => fresh (same ▸ mem)
              simp [elsewhere]
            have alone : ((p :: ps).filter fun q => q.2 = p.2) = [p] := by
              simp [none_of_sublist later]
            rw [alone, List.flatMap_congr others, ih later distinctRest]
            rfl
          · have later : ((p :: ps).map Prod.snd).Sublist rest := by
              cases sub with
              | cons _ sub => exact sub
              | cons_cons _ _ => exact absurd rfl here
            rw [none_of_sublist later, ih later distinctRest]
            rfl

/-- Before the store is placed no member runs on a node. -/
theorem members_nodeSketches {k : Sketch} (mem : k ∈ nodeSketches t topology) : k.members = [] := by
  rcases List.mem_cons.1 mem with rfl | replica
  · rfl
  · obtain ⟨index, -, rfl⟩ := List.mem_map.1 replica
    rfl

/-- Items that nothing runs on yet have no members. -/
theorem members_plain {names : List String} {k : Sketch} (mem : k ∈ names.map Sketch.plain) :
    k.members = [] := by
  obtain ⟨name, -, rfl⟩ := List.mem_map.1 mem
  rfl

/-- Without a configuration store there are no members. -/
theorem members_clusterSketches_of_none (without : t.addons.etcd = none) :
    (clusterSketches t topology).flatMap Sketch.members = [] := by
  rw [List.flatMap_eq_nil_iff, clusterSketches, storeSketches, without]
  intro k mem
  rcases List.mem_append.1 mem with node | pooler
  · exact members_nodeSketches node
  · exact members_plain pooler

/-- Numbering begins with one. -/
theorem map_numbered {α : Type} (names : List String) (f : Nat → α) :
    (numbered names).map (fun p => f p.1) = (List.range names.length).map fun k => f (k + 1) := by
  rw [numbered, List.map_map, List.range_eq_range', ← List.zipIdx_map_snd, List.map_map]
  rfl

/-- The members of the configuration store are numbered from one in the order of the items. -/
theorem members_clusterSketches {etcd : EtcdAddon} (given : t.addons.etcd = some etcd)
    (resolves : AddonPlacement.Resolves topology.replicasCount.toNat etcd.placement) :
    (clusterSketches t topology).flatMap Sketch.members =
      (List.range (AddonPlacement.size topology.replicasCount.toNat etcd.placement)).map fun k =>
        memberOf etcd (.ofNat (AddonPlacement.size topology.replicasCount.toNat etcd.placement)) (k + 1) := by
  have poolers : ((dedicatedNames .pgbouncer (pgbouncerCount t.addons)).map Sketch.plain).flatMap
      Sketch.members = [] := List.flatMap_eq_nil_iff.2 fun _ => members_plain
  rw [clusterSketches, storeSketches, given, List.flatMap_append, poolers, List.append_nil]
  dsimp only
  let targets := targetNames .etcd topology.replicasCount.toNat etcd.placement
  let seats := nodeSketches t topology ++ (dedicatedNames .etcd
    (AddonPlacement.dedicatedCount etcd.placement)).map Sketch.plain
  have names : seats.map Sketch.name =
      nodeNames topology ++ dedicatedNames .etcd (AddonPlacement.dedicatedCount etcd.placement) := by
    simp [seats, names_nodeSketches, Sketch.plain, Function.comp_def]
  have distinct : (seats.map Sketch.name).Nodup := by
    rw [names]
    exact (nodup_nodeNames topology).append (nodup_dedicatedNames .etcd _)
      (disjoint_dedicatedNames _ (dedicatedItem_notMem_nodeNames .etcd topology))
  have listed : ((numbered targets).map Prod.snd).Sublist (seats.map Sketch.name) := by
    rw [snd_numbered, names]
    exact targetNames_sublist .etcd resolves
  have taken : ∀ k ∈ seats, (enrol etcd targets k).members =
      ((numbered targets).filter fun p => p.2 = k.name).map fun p =>
        memberOf etcd (.ofNat targets.length) p.1 := by
    intro k mem
    have before : k.members = [] := by
      rcases List.mem_append.1 mem with node | own
      · exact members_nodeSketches node
      · exact members_plain own
    rw [enrol, Sketch.join, before, List.nil_append]
  calc (seats.map (enrol etcd targets)).flatMap Sketch.members
    _ = seats.flatMap fun k => (enrol etcd targets k).members := List.flatMap_map ..
    _ = seats.flatMap fun k => ((numbered targets).filter fun p => p.2 = k.name).map fun p =>
          memberOf etcd (.ofNat targets.length) p.1 := List.flatMap_congr taken
    _ = ((seats.map Sketch.name).flatMap fun name => (numbered targets).filter fun p => p.2 = name).map
          fun p => memberOf etcd (.ofNat targets.length) p.1 := by
        rw [List.map_flatMap, List.flatMap_map]
    _ = (numbered targets).map fun p => memberOf etcd (.ofNat targets.length) p.1 := by
        rw [flatMap_filter_of_sublist listed distinct]
    _ = _ := by
        rw [← length_targetNames .etcd resolves]
        exact map_numbered targets fun k => memberOf etcd (.ofNat targets.length) k

end Postgres

end Testbed
