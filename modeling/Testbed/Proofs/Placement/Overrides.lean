import Testbed.Proofs.Placement.Layout

/-!
What the overrides of a cluster come to.

Overrides are a list, in any order, of what is different about single nodes.  They are checked first, and
looked up by index when the nodes are planned.  An accepted list has at most one override for each node, and
so the order in which they are given does not matter: each field of a node has the value that its override
gives it, or else the one that all nodes share.

Both families of databases read their overrides in this way.  `Overriding` says what they have in common,
and `Overriding.Lawful` is the law that both of them obey.
-/

namespace Testbed

/-- Elements with different keys are found in whatever order they stand. -/
theorem find?_key_perm {α κ : Type} [DecidableEq κ] {key : α → κ} {l l' : List α} (perm : l.Perm l')
    (distinct : (l.map key).Nodup) (k : κ) : l.find? (key · = k) = l'.find? (key · = k) := by
  have distinct' : (l'.map key).Nodup := (perm.map key).nodup_iff.1 distinct
  apply Option.ext
  intro a
  rw [find?_key_eq_some distinct, find?_key_eq_some distinct', perm.mem_iff]

/-! ### Defects of overrides -/

/-- Whether a defect is one of the overrides. -/
def Defect.blamesOverrides : Defect → Bool
  | .overrideOutOfRange .. => true
  | .overrideRepeated .. => true
  | _ => false

/-- A step of placing a database that does not fail on account of overrides. -/
structure SparesOverrides {α : Type} (x : Except PlacementError α) : Prop where
  of_error : ∀ d, x = .error (.configurationInvalid d) → d.blamesOverrides = false

namespace SparesOverrides

variable {α β : Type}

/-- A step that succeeds blames no override. -/
theorem ok (a : α) : SparesOverrides (.ok a) := ⟨fun _ failed => by cases failed⟩

/-- A defect of another kind does not blame the overrides. -/
theorem defect {d : Defect} (other : d.blamesOverrides = false) :
    SparesOverrides (Testbed.defect d : Except PlacementError α) := by
  refine ⟨fun d' failed => ?_⟩
  cases failed
  exact other

/-- One step after another. -/
theorem bind {x : Except PlacementError α} {f : α → Except PlacementError β} (first : SparesOverrides x)
    (second : ∀ a, SparesOverrides (f a)) : SparesOverrides (x >>= f) := by
  cases x with
  | ok a => exact second a
  | error e =>
      exact ⟨fun d failed => first.of_error d (congrArg Except.error (Except.error.inj failed))⟩

/-- A step for each element of a list. -/
theorem foldlM {f : β → α → Except PlacementError β} (step : ∀ b a, SparesOverrides (f b a)) (as : List α)
    (b : β) : SparesOverrides (as.foldlM f b) := by
  induction as generalizing b with
  | nil => exact ok b
  | cons a rest ih =>
      rw [List.foldlM_cons]
      exact (step b a).bind ih

/-- A step for each of some indices. -/
theorem addEach {add : ItemSet → Nat → Except PlacementError ItemSet}
    (step : ∀ items index, SparesOverrides (add items index)) (count index : Nat) (items : ItemSet) :
    SparesOverrides (items.addEach add count index) := by
  induction count generalizing index items with
  | zero => exact ok items
  | succ count ih =>
      have first := step items index
      rw [ItemSet.addEach]
      cases added : add items index with
      | ok items' => exact ih (index + 1) items'
      | error e =>
          rw [added] at first
          exact ⟨fun d failed => first.of_error d (congrArg Except.error (Except.error.inj failed))⟩

/-- Ensuring an item fails for want of hardware only. -/
theorem ensure (items : ItemSet) (name : String) (hardware : Option Hardware) :
    SparesOverrides (items.ensure name hardware) := by
  rw [ItemSet.ensure.eq_def]
  split
  · exact ok _
  · split
    · exact ok _
    · exact defect rfl

end SparesOverrides

/-! ### Overriding -/

/-- How the nodes of a cluster are overridden: what an override is about and what it can set, what the nodes
have in common, and what is planned with a list of overrides. -/
structure Overriding (ω σ : Type) where
  family : Family
  /-- Number of nodes that can be overridden. -/
  count : Nat
  index : ω → UInt32
  hardware : ω → Option Hardware
  settings : ω → Option σ
  commonHardware : Option Hardware
  commonSettings : σ
  /-- Whether planning comes to the overrides. -/
  looksAt : Prop
  plan : List ω → Except PlacementError ItemSet
  /-- The place of a node among the items. -/
  place : Nat → Nat
  isEngine : Container → Bool
  /-- What the engine of a node runs. -/
  engine : Nat → σ → Runtime

namespace Overriding

variable {ω σ α : Type} {v : Overriding ω σ} {os : List ω} {i : Nat}

/-- The check that overrides have to pass. -/
def check (v : Overriding ω σ) (os : List ω) : Except PlacementError Unit :=
  validateOverrides v.family v.count [] (os.map fun o => (v.index o).toNat)

/-- Overrides are about nodes that there are, and no two about the same. -/
def Accepts (v : Overriding ω σ) (os : List ω) : Prop :=
  (∀ o ∈ os, (v.index o).toNat < v.count) ∧ (os.map v.index).Nodup

/-- A field of a node has a value: the one that the override of the node gives it, or else the common one. -/
def InEffect (v : Overriding ω σ) (os : List ω) (field : ω → Option α) (common : Option α) (i : Nat)
    (a : α) : Prop :=
  (∃ o ∈ os, (v.index o).toNat = i ∧ field o = some a) ∨
    (∀ o ∈ os, (v.index o).toNat = i → field o = none) ∧ common = some a

/-- A node is planned as its override and the cluster have it. -/
structure Node (v : Overriding ω σ) (os : List ω) (i : Nat) (item : Item) : Prop where
  hardware : v.InEffect os v.hardware v.commonHardware i item.hardware
  settings : ∃ settings, v.InEffect os v.settings (some v.commonSettings) i settings ∧
    (item.containers.filter v.isEngine).map (·.runtime) = [v.engine i settings]

/-- How overrides are read. -/
structure Lawful (v : Overriding ω σ) : Prop where
  /-- The check passes exactly the lists that name nodes, and none twice. -/
  checked : ∀ os, v.check os = .ok () ↔ v.Accepts os
  /-- Without the check there is no plan. -/
  refused : ∀ os, ¬ v.Accepts os → ∃ d, v.plan os = .error (.configurationInvalid d)
  /-- What the check finds wrong is what planning reports when it comes to the overrides. -/
  linked : v.looksAt → ∀ os e, v.check os = .error e → v.plan os = .error e
  /-- Planning fails on account of the overrides exactly if it comes to them and they are not accepted. -/
  blamed : ∀ os, (∃ d, d.blamesOverrides = true ∧ v.plan os = .error (.configurationInvalid d)) ↔
    v.looksAt ∧ ¬ v.Accepts os
  resolved : ∀ os planned, v.plan os = .ok planned → ∀ i < v.count, ∃ item,
    planned.items[v.place i]? = some item ∧ v.Node os i item
  /-- The order of the overrides does not matter. -/
  permuted : ∀ os os', os.Perm os' → v.plan os = v.plan os' ∨
    (∃ d, v.plan os = .error (.configurationInvalid d)) ∧
      ∃ d, v.plan os' = .error (.configurationInvalid d)

/-- The check passes exactly the overrides that are accepted. -/
theorem check_iff (v : Overriding ω σ) (os : List ω) : v.check os = .ok () ↔ v.Accepts os := by
  have decides := validateOverrides_decides v.family v.count [] (os.map fun o => (v.index o).toNat)
  have condition : ((∀ index ∈ os.map (fun o => (v.index o).toNat), index < v.count ∧ index ∉ []) ∧
      (os.map fun o => (v.index o).toNat).Nodup) ↔ v.Accepts os := by
    rw [List.forall_mem_map, nodup_map_toNat]
    simp [Accepts]
  rw [check, ← condition]
  constructor
  · exact fun ok => (decides.of_ok ok).1
  · intro accepts
    obtain ⟨_, ok, -⟩ := decides.exists_ok accepts
    exact ok

/-- Whether overrides are accepted does not depend on their order. -/
theorem Accepts.perm {os' : List ω} (perm : os.Perm os') : v.Accepts os ↔ v.Accepts os' :=
  and_congr (forall_congr' fun _ => imp_congr_left perm.mem_iff) (perm.map v.index).nodup_iff

/-- What is found under an index is in effect there. -/
theorem inEffect_of_find? (distinct : (os.map v.index).Nodup) {field : ω → Option α} {common : Option α}
    {a : α} (h : (((os.find? fun o => (v.index o).toNat = i).bind field).or common) = some a) :
    v.InEffect os field common i a := by
  cases found : os.find? fun o => (v.index o).toNat = i with
  | none =>
      rw [found] at h
      refine .inr ⟨fun o mem about => ?_, h⟩
      exact absurd about (by simpa using List.find?_eq_none.1 found o mem)
  | some o =>
      obtain ⟨mem, about⟩ := (find?_key_eq_some (nodup_map_toNat.2 distinct)).1 found
      rw [found] at h
      cases given : field o with
      | some b =>
          obtain rfl : b = a := by simpa [given] using h
          exact .inl ⟨o, mem, about, given⟩
      | none =>
          refine .inr ⟨fun other mem' about' => ?_, by simpa [given] using h⟩
          have same : v.index other = v.index o := UInt32.toNat_inj.1 (about'.trans about.symm)
          rwa [List.inj_on_of_nodup_map distinct mem' mem same]

/-- What the check finds wrong is a defect of the overrides. -/
theorem validateOverrides_blames {family : Family} {count : Nat} {seen indices : List Nat} {e : PlacementError}
    (failed : validateOverrides family count seen indices = .error e) :
    ∃ d, d.blamesOverrides = true ∧ e = .configurationInvalid d := by
  induction indices generalizing seen with
  | nil => cases failed
  | cons index rest ih =>
      rw [validateOverrides] at failed
      split at failed
      · exact ⟨_, rfl, (Except.error.inj failed).symm⟩
      · split at failed
        · exact ⟨_, rfl, (Except.error.inj failed).symm⟩
        · exact ih failed

/-- A list that is not accepted does not pass the check. -/
theorem exists_defect_of_not_accepts (h : ¬ v.Accepts os) :
    ∃ d, d.blamesOverrides = true ∧ v.check os = .error (.configurationInvalid d) := by
  cases result : v.check os with
  | ok _ => exact absurd ((v.check_iff os).1 result) h
  | error e =>
      obtain ⟨d, blames, rfl⟩ := validateOverrides_blames result
      exact ⟨d, blames, rfl⟩

/-- The law holds where planning checks the overrides, unless it fails for another reason before, and goes on
with `rest` without failing on their account, and where an accepted list is only looked up. -/
theorem lawful_of_lookup (rest : List ω → Except PlacementError ItemSet)
    (begun : v.looksAt → ∀ os, v.plan os = v.check os >>= fun _ => rest os)
    (stopped : ¬ v.looksAt → ∃ d, d.blamesOverrides = false ∧
      ∀ os, v.plan os = .error (.configurationInvalid d))
    (spares : ∀ os, SparesOverrides (rest os))
    (resolved : ∀ os planned, v.Accepts os → v.plan os = .ok planned → ∀ i < v.count, ∃ item,
      planned.items[v.place i]? = some item ∧ v.Node os i item)
    (lookedUp : ∀ os os', v.Accepts os → v.Accepts os' →
      (∀ i, (os.find? fun o => (v.index o).toNat = i) = os'.find? fun o => (v.index o).toNat = i) →
      rest os = rest os') : v.Lawful := by
  have linked : v.looksAt → ∀ os e, v.check os = .error e → v.plan os = .error e := by
    intro looks os e failed
    rw [begun looks, failed]
    rfl
  have goesOn : v.looksAt → ∀ os, v.Accepts os → v.plan os = rest os := by
    intro looks os accepts
    rw [begun looks, (v.check_iff os).2 accepts]
    rfl
  have refused : ∀ os, ¬ v.Accepts os → ∃ d, v.plan os = .error (.configurationInvalid d) := by
    intro os rejected
    by_cases looks : v.looksAt
    · obtain ⟨d, -, failed⟩ := exists_defect_of_not_accepts rejected
      exact ⟨d, linked looks os _ failed⟩
    · obtain ⟨d, -, failed⟩ := stopped looks
      exact ⟨d, failed os⟩
  refine ⟨v.check_iff, refused, linked, fun os => ?_, fun os planned h => ?_, fun os os' perm => ?_⟩
  · constructor
    · rintro ⟨d, blames, failed⟩
      by_cases looks : v.looksAt
      · refine ⟨looks, fun accepts => ?_⟩
        rw [goesOn looks os accepts] at failed
        cases blames.symm.trans ((spares os).of_error d failed)
      · obtain ⟨other, harmless, stops⟩ := stopped looks
        obtain rfl : d = other :=
          PlacementError.configurationInvalid.inj (Except.error.inj (failed.symm.trans (stops os)))
        cases blames.symm.trans harmless
    · rintro ⟨looks, rejected⟩
      obtain ⟨d, blames, failed⟩ := exists_defect_of_not_accepts rejected
      exact ⟨d, blames, linked looks os _ failed⟩
  · by_cases accepts : v.Accepts os
    · exact resolved os planned accepts h
    · obtain ⟨d, failed⟩ := refused os accepts
      rw [failed] at h
      cases h
  · by_cases accepts : v.Accepts os
    · have accepts' := (Accepts.perm perm).1 accepts
      left
      by_cases looks : v.looksAt
      · rw [goesOn looks os accepts, goesOn looks os' accepts']
        exact lookedUp os os' accepts accepts' (find?_key_perm perm (nodup_map_toNat.2 accepts.2))
      · obtain ⟨d, -, failed⟩ := stopped looks
        rw [failed, failed]
    · exact .inr ⟨refused os accepts, refused os' fun accepts' => accepts ((Accepts.perm perm).2 accepts')⟩

end Overriding

/-! ### Clusters of a master and its replicas -/

namespace Postgres

variable {t : PostgresCluster} {topology : PostgresTopology}

/-- How the replicas of a cluster are overridden. -/
def overriding (t : PostgresCluster) (topology : PostgresTopology) :
    Overriding ReplicaOverride PostgresSettings where
  family := .postgres
  count := topology.replicasCount.toNat
  index := (·.replicaIndex)
  hardware := (·.hardware)
  settings := (·.settings)
  commonHardware := topology.replicaHardware
  commonSettings := topology.settings
  looksAt := True
  plan os := planCluster { t with replicaOverrides := os }
  place i := i + 1
  isEngine := isServer
  engine i settings := .postgres .replica (.ofNat i) settings

/-- Addons leave the hardware of an item alone. -/
theorem furnished_hardware (t : PostgresCluster) (topology : PostgresTopology) (item : Item) :
    (furnished t topology item).hardware = item.hardware :=
  furnished_keeps (P := (·.hardware = item.hardware)) (fun _ _ same => same) rfl t topology

/-- A node stands at its place, with the hardware and the server that it was to have. -/
theorem Layout.node_at {nodes own items : List Item} (layout : Layout t topology nodes own items) {k : Nat}
    {spec : NodeSpec} (at_k : (nodeSpecs t topology)[k]? = some spec) :
    ∃ item, items[k]? = some item ∧ spec.hardware = some item.hardware ∧
      (item.containers.filter isServer).map (·.runtime) =
        [.postgres spec.role (.ofNat spec.index) spec.settings] := by
  obtain ⟨seat, seat_at_k, met⟩ := exists_getElem?_of_forall₂ layout.met.flip at_k
  have item_at_k : items[k]? = some (furnished t topology seat) := by
    have short : k < nodes.length := (List.getElem?_eq_some_iff.1 seat_at_k).1
    rw [layout.eq_furnished, List.getElem?_map, List.getElem?_append_left short, seat_at_k]
    rfl
  refine ⟨_, item_at_k, ?_, ?_⟩
  · obtain ⟨given, hardware, rfl⟩ := met
    rw [furnished_hardware, hardware, serve]
    split <;> rfl
  · have servers := servers_clusterSketches t topology
    have specs : engines t topology =
        (nodeSpecs t topology).map fun n => .postgres n.role (.ofNat n.index) n.settings := by
      simp [engines, nodeSpecs, masterSpec, replicaSpec, Function.comp_def]
    have there : ((items.map Item.sketch).map Sketch.servers)[k]? =
        some [.postgres spec.role (.ofNat spec.index) spec.settings] := by
      have short : k < (nodeSpecs t topology).length := (List.getElem?_eq_some_iff.1 at_k).1
      rw [layout.sketched, servers, specs, List.getElem?_append_left (by simpa using short)]
      simp [at_k]
    rw [List.getElem?_map, List.getElem?_map, item_at_k] at there
    exact Option.some.inj there

/-- Planning looks overrides up, and nothing else about them. -/
theorem planTopology_congr {u : PostgresCluster}
    (same : ∀ index, overrideOf t index = overrideOf u index) :
    planTopology t topology = planTopology u topology := by
  simp only [planTopology, replicaHardware, replicaSettings, same]

/-! What is done after the check does not fail on account of overrides. -/

/-- Adding a node blames no override. -/
theorem addNode_spares (items : ItemSet) (name : String) (hardware : Option Hardware) (role : PostgresRole)
    (index : Nat) (settings : PostgresSettings) (monitor : Bool) :
    SparesOverrides (addNode items name hardware role index settings monitor) :=
  (SparesOverrides.ensure items name hardware).bind fun _ => .ok _

theorem planTopology_spares (t : PostgresCluster) (topology : PostgresTopology) :
    SparesOverrides (planTopology t topology) :=
  (addNode_spares ..).bind fun items => .addEach (fun _ _ => addNode_spares ..) _ _ items

/-- A scope that does not fit is no fault of the overrides. -/
theorem scopeTargets_spares (addon : Addon) (scope : PlacementScope) (replicaIndex : Option UInt32)
    (nodes : Nodes) : SparesOverrides (scopeTargets addon scope replicaIndex nodes) := by
  have checked : ∀ targets : List String, SparesOverrides
      (if targets.isEmpty then defect (.placementEmpty addon) else pure targets) := by
    intro targets
    split
    · exact .defect rfl
    · exact .ok _
  rw [scopeTargets.eq_def]
  cases scope with
  | master => exact checked [masterItem]
  | replicas => exact checked nodes.replicas
  | allNodes => exact checked (masterItem :: nodes.replicas)
  | replica =>
      cases replicaIndex with
      | none => exact .defect rfl
      | some index =>
          dsimp only
          split
          · next name _ => exact checked [name]
          · exact .defect rfl

/-- A placement that does not fit is no fault of the overrides. -/
theorem expandPlacement_spares (items : ItemSet) (addon : Addon) (placement : Option AddonPlacement)
    (nodes : Nodes) : SparesOverrides (expandPlacement items addon placement nodes) := by
  rw [expandPlacement.eq_def]
  split
  · exact .defect rfl
  · exact (scopeTargets_spares ..).bind fun _ => .ok _
  · split
    · exact .defect rfl
    · refine (SparesOverrides.addEach (fun items index => ?_) _ _ _).bind fun _ => .ok _
      rw [addDedicated.eq_def]
      dsimp only
      split
      · exact .defect rfl
      · exact .ensure ..

/-- A target that is not there is no fault of the overrides. -/
theorem changeTarget_spares (addon : Addon) (items : ItemSet) (name : String) (change : Item → Item) :
    SparesOverrides (changeTarget addon items name change) := by
  rw [changeTarget]
  split
  · exact .ok _
  · exact .defect rfl

theorem placeEtcd_spares (addons : PostgresAddons) (nodes : Nodes) (items : ItemSet) :
    SparesOverrides (placeEtcd addons nodes items) := by
  rw [placeEtcd]
  split
  · refine (expandPlacement_spares ..).bind fun expanded => ?_
    dsimp only
    split
    · exact .defect rfl
    · exact .foldlM (fun _ _ => changeTarget_spares ..) _ _
  · exact .ok _

theorem placePgbouncer_spares (addons : PostgresAddons) (nodes : Nodes) (items : ItemSet) :
    SparesOverrides (placePgbouncer addons nodes items) := by
  rw [placePgbouncer]
  split
  · split
    · exact (expandPlacement_spares ..).bind fun _ => .foldlM (fun _ _ => changeTarget_spares ..) _ _
    · exact .ok _
  · exact .ok _

theorem placeBackup_spares (addons : PostgresAddons) (nodes : Nodes) (items : ItemSet) :
    SparesOverrides (placeBackup addons nodes items) := by
  rw [placeBackup]
  split
  · split
    · rw [planBackup]
      split
      · exact .defect rfl
      · exact .defect rfl
      · exact (scopeTargets_spares ..).bind fun _ => .foldlM (fun _ _ => changeTarget_spares ..) _ _
    · exact .ok _
  · exact .ok _

/-- What is done with an accepted list of overrides. -/
def planAccepted (t : PostgresCluster) (topology : PostgresTopology) : Except PlacementError ItemSet := do
  let items ← planTopology t topology
  let items ← placeEtcd t.addons (nodesOf topology) items
  let items ← placePgbouncer t.addons (nodesOf topology) items
  placeBackup t.addons (nodesOf topology) items

/-- Once the overrides of a cluster of servers are accepted, nothing blames them. -/
theorem planAccepted_spares (t : PostgresCluster) (topology : PostgresTopology) :
    SparesOverrides (planAccepted t topology) :=
  (planTopology_spares t topology).bind fun items => (placeEtcd_spares _ _ items).bind fun items =>
    (placePgbouncer_spares _ _ items).bind (placeBackup_spares _ _)

/-- The overrides of a cluster of servers are lawful. -/
theorem overriding_lawful (named : t.topology = some topology) : (overriding t topology).Lawful := by
  have named_with : ∀ os, ({ t with replicaOverrides := os } : PostgresCluster).topology = some topology :=
    fun _ => named
  apply Overriding.lawful_of_lookup fun os => planAccepted { t with replicaOverrides := os } topology
  · exact fun _ os => planCluster_eq (named_with os)
  · exact fun stopped => absurd trivial stopped
  · exact fun os => planAccepted_spares _ _
  · intro os planned accepts h i inRange
    have planned_with : planCluster { t with replicaOverrides := os } = .ok planned := h
    obtain ⟨nodes, own, layout⟩ := (planCluster_layout (named_with os)).of_ok planned_with
    have spec_at : (nodeSpecs { t with replicaOverrides := os } topology)[i + 1]? =
        some (replicaSpec { t with replicaOverrides := os } topology i) := by
      have inRange' : i < topology.replicasCount.toNat := inRange
      simp [nodeSpecs, inRange']
    obtain ⟨item, item_at, hardware, servers⟩ := layout.node_at spec_at
    refine ⟨item, item_at, Overriding.inEffect_of_find? accepts.2 hardware, _, ?_, servers⟩
    apply Overriding.inEffect_of_find? accepts.2
    exact Option.or_some
  · intro os os' accepts accepts' same
    have nodes : planTopology { t with replicaOverrides := os } topology =
        planTopology { t with replicaOverrides := os' } topology := planTopology_congr same
    rw [planAccepted, planAccepted, nodes]

/-- Overrides of replicas leave the master alone. -/
theorem master_of_overriding (named : t.topology = some topology) {os : List ReplicaOverride}
    {planned : ItemSet} (h : (overriding t topology).plan os = .ok planned) :
    ∃ item, planned.items[0]? = some item ∧ topology.masterHardware = some item.hardware ∧
      (item.containers.filter isServer).map (·.runtime) = [.postgres .master 0 topology.settings] := by
  have named_with : ({ t with replicaOverrides := os } : PostgresCluster).topology = some topology := named
  have planned_with : planCluster { t with replicaOverrides := os } = .ok planned := h
  obtain ⟨nodes, own, layout⟩ := (planCluster_layout named_with).of_ok planned_with
  have first : (nodeSpecs { t with replicaOverrides := os } topology)[0]? = some (masterSpec topology) := rfl
  exact layout.node_at first

end Postgres

/-! ### Clusters of equal nodes -/

namespace Picodata

variable {t : PicodataCluster} {topology : PicodataTopology}

/-- How the nodes of a cluster are overridden. -/
def overriding (t : PicodataCluster) (topology : PicodataTopology) :
    Overriding NodeOverride PicodataSettings where
  family := .picodata
  count := topology.nodesCount.toNat
  index := (·.nodeIndex)
  hardware := (·.hardware)
  settings := (·.settings)
  commonHardware := topology.nodeHardware
  commonSettings := topology.settings
  looksAt := topology.nodesCount ≠ 0
  plan os := planCluster { t with nodeOverrides := os }
  place i := i
  isEngine := isNode
  engine i settings := .picodata (.ofNat i) settings

/-- A node keeps its hardware and its engine when it is backed up. -/
theorem node_visited {index : Nat} {item : Item} (met : Met t topology index item) (config : BackupConfig)
    (targets : List (Nat × String)) :
    nodeHardware t topology index = some (item.visited Prod.snd (runAgent config) targets).hardware ∧
      ((item.visited Prod.snd (runAgent config) targets).containers.filter isNode).map (·.runtime) =
        [.picodata (.ofNat index) (nodeSettings t topology index)] := by
  obtain ⟨given, hardware, rfl⟩ := met
  apply Item.visited_keeps (P := fun i => nodeHardware t topology index = some i.hardware ∧
    (i.containers.filter isNode).map (·.runtime) = [.picodata (.ofNat index) (nodeSettings t topology index)])
  · rintro p - - i ⟨same, engine⟩
    refine ⟨same, ?_⟩
    have agent : isNode (backupContainer p.1 config) = false := by
      unfold backupContainer Container.backupAgent
      split <;> rfl
    simpa [runAgent, Item.addContainer, agent] using engine
  · rw [runNode]
    split
    · exact ⟨hardware, rfl⟩
    · exact ⟨hardware, rfl⟩

/-- Planning looks overrides up, and nothing else about them. -/
theorem addNode_congr {u : PicodataCluster} (same : ∀ index, overrideOf t index = overrideOf u index) :
    addNode t topology = addNode u topology := by
  funext items index
  simp only [addNode, nodeHardware, nodeSettings, same]

/-- What is done with an accepted list of overrides. -/
def planAccepted (t : PicodataCluster) (topology : PicodataTopology) : Except PlacementError ItemSet := do
  let count := topology.nodesCount.toNat
  let items ← ItemSet.empty.addEach (addNode t topology) count 0
  match t.backup with
  | some backup =>
    if backup.enabled then planBackup items backup ((List.range count).map nodeItem) else pure items
  | none => pure items

/-- The overrides are checked before the first node is planned. -/
theorem planCluster_eq (named : t.topology = some topology) :
    planCluster t =
      if topology.nodesCount = 0 then defect .noNodes
      else validateOverrides .picodata topology.nodesCount.toNat []
        (t.nodeOverrides.map (·.nodeIndex.toNat)) >>= fun _ => planAccepted t topology := by
  rw [planCluster, named]
  rfl

/-- Once the overrides of a cluster of nodes are accepted, nothing blames them. -/
theorem planAccepted_spares (t : PicodataCluster) (topology : PicodataTopology) :
    SparesOverrides (planAccepted t topology) := by
  refine (SparesOverrides.addEach (fun items index => ?_) _ _ _).bind fun items => ?_
  · exact (SparesOverrides.ensure ..).bind fun _ => .ok _
  · split
    · split
      · rw [planBackup]
        split
        · exact .defect rfl
        · refine SparesOverrides.bind ?_ fun targets => .foldlM (fun items target => ?_) _ _
          · rw [backupTargets]
            split
            · exact .defect rfl
            · exact .ok _
            · split
              · exact .defect rfl
              · split
                · exact .ok _
                · exact .defect rfl
          · dsimp only
            split
            · exact .ok _
            · exact .defect rfl
      · exact .ok _
    · exact .ok _

/-- The overrides of a cluster of nodes are lawful. -/
theorem overriding_lawful (named : t.topology = some topology) : (overriding t topology).Lawful := by
  have named_with : ∀ os, ({ t with nodeOverrides := os } : PicodataCluster).topology = some topology :=
    fun _ => named
  apply Overriding.lawful_of_lookup fun os => planAccepted { t with nodeOverrides := os } topology
  · exact fun looks os => (planCluster_eq (named_with os)).trans (if_neg looks)
  · intro stopped
    exact ⟨.noNodes, rfl, fun os => (planCluster_eq (named_with os)).trans (if_pos (not_not.1 stopped))⟩
  · exact fun os => planAccepted_spares _ _
  · intro os planned accepts h i inRange
    have planned_with : planCluster { t with nodeOverrides := os } = .ok planned := h
    obtain ⟨nodes, config, targets, met, -, items_eq⟩ :=
      (planCluster_layout (named_with os)).of_ok planned_with
    obtain ⟨node, node_at, met_i⟩ := exists_getElem?_of_forall₂ met.flip
      (List.getElem?_range inRange)
    obtain ⟨hardware, engine⟩ := node_visited met_i config (Postgres.numbered targets)
    refine ⟨_, ?_, Overriding.inEffect_of_find? accepts.2 hardware, _, ?_, engine⟩
    · rw [items_eq, List.getElem?_map]
      exact congrArg (Option.map _) node_at
    · apply Overriding.inEffect_of_find? accepts.2
      exact Option.or_some
  · intro os os' accepts accepts' same
    rw [planAccepted, planAccepted]
    rw [addNode_congr (t := { t with nodeOverrides := os }) (u := { t with nodeOverrides := os' }) same]

end Picodata

/-! ### Templates -/

/-- The overrides of a cluster of either family are read by index.  Exactly those lists are accepted that
name nodes which there are, and none twice, and planning fails on account of all others and of no other; a
node that is planned has the hardware and the settings of its
override where that sets them, and those of the topology where it does not, and the master, which no override
is about, has those of the topology; and the plan is the same for all orders of the overrides, or there is
none for any.  Without a topology there is no plan, whatever the overrides. -/
theorem overrides_resolve_by_index (t : PostgresCluster) (u : PicodataCluster) :
    (match t.topology with
      | some topology =>
          (Postgres.overriding t topology).Lawful ∧
            ∀ os planned, (Postgres.overriding t topology).plan os = .ok planned → ∃ item,
              planned.items[0]? = some item ∧ topology.masterHardware = some item.hardware ∧
                (item.containers.filter Postgres.isServer).map (·.runtime) =
                  [.postgres .master 0 topology.settings]
      | none => ∀ os, Postgres.planCluster { t with replicaOverrides := os } =
          .error (.configurationInvalid (.topologyMissing .postgres))) ∧
      match u.topology with
      | some topology => (Picodata.overriding u topology).Lawful
      | none => ∀ os, Picodata.planCluster { u with nodeOverrides := os } =
          .error (.configurationInvalid (.topologyMissing .picodata)) := by
  constructor
  · cases named : t.topology with
    | none =>
        intro os
        rw [Postgres.planCluster]
        rfl
    | some topology =>
        exact ⟨Postgres.overriding_lawful named, fun os planned => Postgres.master_of_overriding named⟩
  · cases named : u.topology with
    | none =>
        intro os
        rw [Picodata.planCluster]
        rfl
    | some topology => exact Picodata.overriding_lawful named

/-- Of two replicas the first has settings of its own and the second its own hardware, in whatever order the
two overrides are given. -/
theorem two_overrides_in_either_order :
    let topology : PostgresTopology :=
      { settings := default
        masterHardware := some ⟨4, 8, 100⟩
        replicaHardware := some ⟨2, 4, 100⟩
        replicasCount := 2
        monitor := false }
    let v := Postgres.overriding ⟨some topology, [], ⟨none, none, none⟩⟩ topology
    let managed : PostgresSettings := { PostgresSettings.default with patroni := true }
    let os : List ReplicaOverride := [⟨1, some ⟨8, 16, 200⟩, none⟩, ⟨0, none, some managed⟩]
    v.check os = .ok () ∧ v.Accepts os ∧ ∃ planned first second, v.plan os = .ok planned ∧
      v.plan os.reverse = .ok planned ∧
      planned.items[1]? = some first ∧ first.hardware = ⟨2, 4, 100⟩ ∧ v.Node os 0 first ∧
      planned.items[2]? = some second ∧ second.hardware = ⟨8, 16, 200⟩ ∧ v.Node os 1 second := by
  intro topology v managed os
  have law := (overrides_resolve_by_index ⟨some topology, [], ⟨none, none, none⟩⟩ ⟨none, [], none⟩).1
  obtain ⟨lawful, -⟩ := law
  have checked : v.check os = .ok () := rfl
  have hardware : (v.plan os).toOption.map (fun planned => planned.items.map Item.hardware) =
      some [⟨4, 8, 100⟩, ⟨2, 4, 100⟩, ⟨8, 16, 200⟩] := by decide +kernel
  cases made : v.plan os with
  | error e =>
      rw [made] at hardware
      cases hardware
  | ok planned =>
      rw [made] at hardware
      have hardware := Option.some.inj hardware
      obtain ⟨first, at_1, node_0⟩ := lawful.resolved os planned made 0 (by decide)
      obtain ⟨second, at_2, node_1⟩ := lawful.resolved os planned made 1 (by decide)
      have reversed : v.plan os.reverse = .ok planned := by
        rcases lawful.permuted os os.reverse (List.reverse_perm os).symm with same | ⟨⟨d, failed⟩, -⟩
        · exact same.symm.trans made
        · cases failed.symm.trans made
      have at_1 : planned.items[1]? = some first := at_1
      have at_2 : planned.items[2]? = some second := at_2
      have first_hardware := congrArg (·[1]?) hardware
      have second_hardware := congrArg (·[2]?) hardware
      rw [List.getElem?_map, at_1] at first_hardware
      rw [List.getElem?_map, at_2] at second_hardware
      exact ⟨checked, (lawful.checked os).1 checked, planned, first, second, rfl, reversed, at_1,
        Option.some.inj first_hardware, node_0, at_2, Option.some.inj second_hardware, node_1⟩

end Testbed
