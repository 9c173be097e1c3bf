import Testbed.Proofs.Placement.Intent
import Testbed.Proofs.Placement.Posts

/-!
Who runs where.

Whatever the passes of planning add to an item, they add for posts that are given out at that item and at
no other: those that are named after the item, and those whose numbers were counted for it.  The passes
come in ranks, and a pass gives out posts of its own rank only, which nobody can hold before it.  Exporters
of machines are the exception; they may be asked for in every pass, and the pass looks for one first.

So no two containers of a placement share a name or a volume, and no machine is watched twice.  In a
cluster whose topology is watched every machine is watched, those of addons included.
-/

namespace Testbed

/-! ### Posts of an item -/

/-- The numbered items that addons run on. -/
structure Rota where
  members : List (Nat × String)
  poolers : List (Nat × String)
  agents : List (Nat × String)

namespace Rota

/-- No number is given to two items. -/
structure Proper (r : Rota) : Prop where
  members : ∀ n x y, (n, x) ∈ r.members → (n, y) ∈ r.members → x = y
  poolers : ∀ n x y, (n, x) ∈ r.poolers → (n, y) ∈ r.poolers → x = y
  agents : ∀ n x y, (n, x) ∈ r.agents → (n, y) ∈ r.agents → x = y

end Rota

/-- The passes in which posts of a kind are given out. -/
def PostKind.rank : PostKind → Nat
  | .engine _ => 0
  | .nodeExporter _ => 0
  | .serverExporter _ => 0
  | .member => 1
  | .pooler => 2
  | .poolerExporter => 2
  | .agent _ => 3
  | .numberedAgent => 3

namespace Post

/-- A post may be given out at the item of a name. -/
def At (r : Rota) (x : String) (p : Post) : Prop :=
  match p.kind with
  | .engine k => (Seat.mk k p.number).name = x
  | .nodeExporter k => (Seat.mk k p.number).name = x
  | .serverExporter k => (Seat.mk k p.number).name = x
  | .agent k => (Seat.mk k p.number).name = x
  | .member => ∃ n, p.number = some n ∧ (n, x) ∈ r.members
  | .pooler => ∃ n, p.number = some n ∧ (n, x) ∈ r.poolers
  | .poolerExporter => ∃ n, p.number = some n ∧ (n, x) ∈ r.poolers
  | .numberedAgent => ∃ n, p.number = some n ∧ (n, x) ∈ r.agents

/-- A post is given out at the item of a name, in one of the first passes. -/
def Given (r : Rota) (rank : Nat) (x : String) (p : Post) : Prop := p.kind.rank ≤ rank ∧ p.At r x

variable {r : Rota} {rank : Nat} {x y : String} {p : Post}

/-- A post that was given out in some passes was given out in more of them. -/
theorem Given.mono {more : Nat} (h : p.Given r rank x) (le : rank ≤ more) : p.Given r more x :=
  ⟨h.1.trans le, h.2⟩

/-- A post is not given out before the pass of its kind. -/
theorem not_given (h : rank < p.kind.rank) : ¬ p.Given r rank x := fun given => Nat.not_le.2 h given.1

/-- No post is given out at two items. -/
theorem At.single (proper : r.Proper) (h : p.At r x) (h' : p.At r y) : x = y := by
  rw [At.eq_def] at h h'
  have numbered : ∀ {l : List (Nat × String)}, (∀ n x y, (n, x) ∈ l → (n, y) ∈ l → x = y) →
      (∃ n, p.number = some n ∧ (n, x) ∈ l) → (∃ n, p.number = some n ∧ (n, y) ∈ l) → x = y := by
    rintro l single ⟨n, number, here⟩ ⟨m, number', there⟩
    obtain rfl : n = m := Option.some.inj (number.symm.trans number')
    exact single n x y here there
  cases kind : p.kind <;> simp only [kind] at h h'
  case engine | nodeExporter | serverExporter | agent => exact h.symm.trans h'
  case member => exact numbered proper.members h h'
  case pooler | poolerExporter => exact numbered proper.poolers h h'
  case numberedAgent => exact numbered proper.agents h h'

/-- The exporter of a machine is named after its item. -/
theorem At.name_nodeExporter {seat : SeatKind} (h : p.At r x) (kind : p.kind = .nodeExporter seat) :
    p.name = "node-exporter-" ++ x := by
  obtain ⟨_, number⟩ := p
  subst kind
  obtain rfl : (Seat.mk seat number).name = x := h
  exact (Seat.mk seat number).name_nodeExporter

end Post

/-! ### Tidy placements -/

/-- No two containers share a name or a volume, and no machine is watched twice. -/
structure Tidy (items : List Item) : Prop where
  names : ((items.flatMap (·.containers)).map (·.name)).Nodup
  volumes : ((items.flatMap (·.containers)).flatMap fun c => c.volumes.map (·.name)).Nodup
  watchers : ∀ item ∈ items, (item.containers.filter Container.isNodeExporter).length ≤ 1

/-- Items are tidy if each is staffed by posts of its own. -/
theorem tidy_of_staff {items : List Item} {P : String → Post → Prop}
    (distinct : (items.map Item.name).Nodup) (staffed : ∀ item ∈ items, item.Staff (P item.name))
    (single : ∀ p x y, P x p → P y p → x = y)
    (own : ∀ x p, P x p → ∀ seat, p.kind = .nodeExporter seat → p.name = "node-exporter-" ++ x) :
    Tidy items := by
  have apart := containers_apart distinct staffed single
  constructor
  · exact List.pairwise_map.2 (apart.imp fun h => h.names)
  · refine List.nodup_flatMap.2 ⟨fun c mem => ?_, apart.imp fun h => h.volumes⟩
    obtain ⟨item, listed, running⟩ := List.mem_flatMap.1 mem
    obtain ⟨p, -, fills⟩ := (staffed item listed).filled c running
    exact fills.nodup_volumes
  · exact fun item mem => (staffed item mem).watched_once (own item.name)

/-- A single item that is staffed is tidy. -/
theorem tidy_singleton {item : Item} {Given : Post → Prop} (h : item.Staff Given)
    (own : ∀ p, Given p → ∀ seat, p.kind = .nodeExporter seat → p.name = "node-exporter-" ++ item.name) :
    Tidy [item] := by
  have staffed : ∀ i ∈ [item], i.Staff fun p => i.name = item.name ∧ Given p := by
    intro i mem
    obtain rfl := List.mem_singleton.1 mem
    exact h.mono fun _ given => ⟨rfl, given⟩
  have distinct : ([item].map Item.name).Nodup := List.nodup_singleton _
  apply tidy_of_staff (P := fun x p => x = item.name ∧ Given p) distinct staffed
  · exact fun p x y here there => here.1.trans there.1.symm
  · rintro x p ⟨rfl, given⟩ seat kind
    exact own p given seat kind

/-- Whether the machine of an item is watched. -/
def Item.Watched (item : Item) : Prop := item.containers.any Container.isNodeExporter = true

namespace Item.Watched

variable {item : Item}

/-- An item that is watched is still watched with one more container on it. -/
theorem addContainer (h : item.Watched) (c : Container) : (item.addContainer c).Watched := by
  rw [Watched, Item.addContainer, List.any_append, Bool.or_eq_true]
  exact .inl h

/-- A container that watches the machine makes its item watched. -/
theorem of_addContainer {c : Container} (watches : c.isNodeExporter = true) (item : Item) :
    (item.addContainer c).Watched := by
  rw [Watched, Item.addContainer, List.any_append, Bool.or_eq_true]
  exact .inr (by simpa using watches)

/-- An item is watched once that was ensured. -/
theorem ensure (item : Item) : (Postgres.ensureNodeExporter item).Watched := by
  rw [Postgres.ensureNodeExporter]
  split
  · next watched => exact watched
  · exact of_addContainer rfl item

/-- On an item that is watched something watches it. -/
theorem length_pos (h : item.Watched) : 0 < (item.containers.filter Container.isNodeExporter).length := by
  obtain ⟨c, running, watches⟩ := List.any_eq_true.1 h
  exact List.length_pos_of_mem (List.mem_filter.2 ⟨running, watches⟩)

end Item.Watched

/-! ### Numbered targets -/

namespace Postgres

/-- Numbers begin with one and follow the order of the names. -/
theorem mem_numbered {names : List String} {n : Nat} {x : String} :
    (n, x) ∈ numbered names ↔ ∃ i, n = i + 1 ∧ names[i]? = some x := by
  rw [numbered, List.mem_map]
  constructor
  · rintro ⟨⟨name, i⟩, listed, same⟩
    obtain ⟨rfl, rfl⟩ := Prod.mk.inj same
    exact ⟨i, rfl, List.mk_mem_zipIdx_iff_getElem?.1 listed⟩
  · rintro ⟨i, rfl, at_i⟩
    exact ⟨(x, i), List.mk_mem_zipIdx_iff_getElem?.2 at_i, rfl⟩

/-- A number was counted for one item. -/
theorem numbered_single {names : List String} (n : Nat) (x y : String) (here : (n, x) ∈ numbered names)
    (there : (n, y) ∈ numbered names) : x = y := by
  obtain ⟨i, rfl, at_i⟩ := mem_numbered.1 here
  obtain ⟨j, same, at_j⟩ := mem_numbered.1 there
  obtain rfl : i = j := Nat.succ.inj same
  exact Option.some.inj (at_i.symm.trans at_j)

/-- Every name has a number. -/
theorem exists_mem_numbered {names : List String} {x : String} (mem : x ∈ names) :
    ∃ p ∈ numbered names, p.2 = x := by
  rw [← snd_numbered names] at mem
  exact List.mem_map.1 mem

end Postgres

/-- What watches a seat is given out in every pass, at the item of the seat. -/
theorem Seat.given_nodeExporter {s : Seat} {x : String} (named : x = s.name) (r : Rota) (rank : Nat) :
    s.nodeExporter.Given r rank x := ⟨Nat.zero_le rank, named.symm⟩

/-! ### Clusters of a master and its replicas -/

namespace Postgres

variable {t : PostgresCluster} {topology : PostgresTopology} {item : Item} {s : Seat}

/-- The numbered items that the addons of a cluster run on. -/
def rota (t : PostgresCluster) (topology : PostgresTopology) : Rota :=
  ⟨memberTargets t topology, poolerTargets t topology, []⟩

/-- In a planned cluster no number is given to two items. -/
theorem rota_proper (t : PostgresCluster) (topology : PostgresTopology) : (rota t topology).Proper := by
  constructor
  · intro n x y
    change (n, x) ∈ memberTargets t topology → (n, y) ∈ memberTargets t topology → x = y
    rw [memberTargets]
    cases t.addons.etcd with
    | none => exact fun here => absurd here List.not_mem_nil
    | some etcd => exact numbered_single n x y
  · intro n x y
    change (n, x) ∈ poolerTargets t topology → (n, y) ∈ poolerTargets t topology → x = y
    rw [poolerTargets]
    cases poolerOf t with
    | none => exact fun here => absurd here List.not_mem_nil
    | some pgbouncer => exact numbered_single n x y
  · exact fun _ _ _ here => absurd here List.not_mem_nil

/-- A server, and what watches it, on an item that was empty. -/
theorem staff_serve (server : s.engine.kind.volumeBack = some "-pgdata") (given : Hardware)
    (role : PostgresRole) (index : Nat) (settings : PostgresSettings) (monitor : Bool) (r : Rota) :
    (serve s.name role index settings monitor (Item.new s.name given)).Staff (Post.Given r 0 s.name) := by
  have engine : ((Item.new s.name given).addContainer
      (serverContainer s.name role index settings monitor)).Staff (· = s.engine) :=
    Item.Staff.join_new (Item.Staff.of_empty rfl) (s.fills_server server role index settings monitor) id rfl
      fun _ => False.elim
  have other : s.nodeExporter ≠ s.engine := by
    intro same
    cases congrArg Post.kind same
  rw [serve]
  split
  · have machine : (Item.addContainer _ (.nodeExporter s.name none)).Staff
        fun p => p = s.engine ∨ p = s.nodeExporter :=
      engine.join_new (s.fills_nodeExporter none) other (.inr rfl) fun _ => .inl
    have vacant : ¬ (s.serverExporter = s.engine ∨ s.serverExporter = s.nodeExporter) := by
      rintro (same | same) <;> cases congrArg Post.kind same
    have watched : (Item.addContainer _ (.postgresExporter s.name none [])).Staff
        fun p => (p = s.engine ∨ p = s.nodeExporter) ∨ p = s.serverExporter :=
      machine.join_new (s.fills_serverExporter none []) vacant (.inr rfl) fun _ => .inl
    apply watched.mono
    rintro _ ((rfl | rfl) | rfl) <;> exact ⟨Nat.le_refl 0, rfl⟩
  · apply engine.mono
    rintro _ rfl
    exact ⟨Nat.le_refl 0, rfl⟩

variable {r : Rota} {n : Nat}

/-- The pass of the configuration store gives out its post on an item and leaves the others. -/
theorem staff_runMember (named : item.name = s.name) (h : item.Staff (Post.Given r 0 item.name))
    (counted : (n, item.name) ∈ r.members) (etcd : EtcdAddon) (watch : Bool) (clusterSize : UInt32) :
    (runMember etcd watch clusterSize (n, item.name) item).Staff (Post.Given r 1 item.name) := by
  have joined : (item.addContainer (etcdContainer etcd n clusterSize)).Staff (Post.Given r 1 item.name) :=
    h.join_new (Post.fills_member etcd n clusterSize) (Post.not_given Nat.one_pos)
      ⟨Nat.le_refl 1, n, rfl, counted⟩ fun _ given => given.mono (Nat.zero_le 1)
  rw [runMember]
  split
  · exact joined.watch named (Seat.given_nodeExporter named r 1)
  · exact joined

/-- The pass of the pooler gives out its posts on an item and leaves the others. -/
theorem staff_runPooler (named : item.name = s.name) (h : item.Staff (Post.Given r 1 item.name))
    (counted : (n, item.name) ∈ r.poolers) (pgbouncer : PgbouncerAddon) (watch dedicated : Bool) :
    (runPooler pgbouncer watch dedicated (n, item.name) item).Staff (Post.Given r 2 item.name) := by
  have more : ∀ p : Post, p.Given r 1 item.name → p.Given r 2 item.name :=
    fun _ given => given.mono (Nat.le_succ 1)
  have pooler : (Post.pooler n).Given r 2 item.name := ⟨Nat.le_refl 2, n, rfl, counted⟩
  have exporter : (Post.poolerExporter n).Given r 2 item.name := ⟨Nat.le_refl 2, n, rfl, counted⟩
  have joined : (item.addContainer (poolerContainer pgbouncer n)).Staff
      fun p => p.Given r 1 item.name ∨ p = Post.pooler n :=
    h.join_new (Post.fills_pooler pgbouncer n) (Post.not_given (Nat.lt_succ_self 1)) (.inr rfl) fun _ => .inl
  have vacant : ¬ ((Post.poolerExporter n).Given r 1 item.name ∨ Post.poolerExporter n = Post.pooler n) := by
    rintro (given | same)
    · exact Post.not_given (Nat.lt_succ_self 1) given
    · cases congrArg Post.kind same
  have watched : ((item.addContainer (poolerContainer pgbouncer n)).addContainer
      (.pgbouncerExporter (toString n))).Staff (Post.Given r 2 item.name) :=
    joined.join_new (Post.fills_poolerExporter n) vacant exporter fun p given =>
      given.elim (more p) fun same => same ▸ pooler
  rw [runPooler]
  split
  · split
    · exact watched.watch named (Seat.given_nodeExporter named r 2)
    · exact watched
  · exact joined.mono fun p given => given.elim (more p) fun same => same ▸ pooler

/-- The pass of the backup agents gives out its post on an item and leaves the others. -/
theorem staff_runAgent (named : item.name = s.name) (h : item.Staff (Post.Given r 2 item.name))
    (image : String) (config : BackupConfig) :
    (runAgent image config item.name item).Staff (Post.Given r 3 item.name) := by
  have fills := s.fills_agent image config
  rw [← named] at fills
  exact h.join_new fills (Post.not_given (Nat.lt_succ_self 2)) ⟨Nat.le_refl 3, named.symm⟩
    fun _ given => given.mono (Nat.le_succ 2)

/-- The addons of a cluster give out the posts of their own ranks. -/
theorem staff_furnished (named : item.name = s.name)
    (h : item.Staff (Post.Given (rota t topology) 0 item.name)) :
    (furnished t topology item).Staff (Post.Given (rota t topology) 3 item.name) := by
  have enlisted_staff : (enlisted t topology item).Staff (Post.Given (rota t topology) 1 item.name) := by
    rcases enlisted_cases t topology item with ⟨-, alone⟩ | ⟨etcd, clusterSize, ⟨n, _⟩, mem, -, rfl, changed⟩
    · rw [alone]
      exact h.mono fun _ given => given.mono (Nat.zero_le 1)
    · exact changed ▸ staff_runMember named h mem etcd _ clusterSize
  have same := enlisted_name t topology item
  rw [furnished]
  generalize enlisted t topology item = i at enlisted_staff same ⊢
  have pooled_staff : (pooled t topology i).Staff (Post.Given (rota t topology) 2 item.name) := by
    rw [← same] at enlisted_staff ⊢
    rcases pooled_cases t topology i with ⟨-, alone⟩ | ⟨pgbouncer, ⟨n, _⟩, mem, -, rfl, changed⟩
    · rw [alone]
      exact enlisted_staff.mono fun _ given => given.mono (Nat.le_succ 1)
    · exact changed ▸ staff_runPooler (same.trans named) enlisted_staff mem pgbouncer _ _
  have same' := (pooled_name t topology i).trans same
  generalize pooled t topology i = j at pooled_staff same' ⊢
  rw [← same'] at pooled_staff ⊢
  rcases backedUp_cases t topology j with alone | ⟨config, targets, -, -, changed⟩
  · rw [alone]
    exact pooled_staff.mono fun _ given => given.mono (Nat.le_succ 2)
  · exact changed ▸ staff_runAgent (same'.trans named) pooled_staff _ config

/-- The item of the master is a seat. -/
theorem seat_master : masterItem = (Seat.mk .master none).name := rfl

/-- The item of a replica is a seat with its index. -/
theorem seat_replica (i : Nat) : replicaItem i = (Seat.mk .replica (some i)).name :=
  (String.append_empty).symm

/-- An item that an addon has for itself is a seat with its index. -/
theorem seat_dedicated (addon : Addon) (i : Nat) :
    dedicatedItem addon i = (Seat.mk (.dedicated addon) (some i)).name :=
  (String.append_empty).symm

section Layout

variable {nodes own items : List Item}

/-- A node is planned with a server, and with what watches it. -/
theorem staff_of_met {spec : NodeSpec} (listed : spec ∈ nodeSpecs t topology)
    (met : spec.Met topology.monitor item) (r : Rota) :
    ∃ s : Seat, item.name = s.name ∧ item.Staff (Post.Given r 0 item.name) := by
  have name := met.name
  obtain ⟨given, -, rfl⟩ := met
  rw [name]
  rcases List.mem_cons.1 listed with rfl | replica
  · exact ⟨_, seat_master, staff_serve (s := ⟨.master, none⟩) rfl given _ _ _ _ r⟩
  · obtain ⟨i, -, rfl⟩ := List.mem_map.1 replica
    have seat := seat_replica i
    have staffed := staff_serve (s := ⟨.replica, some i⟩) rfl given .replica i (replicaSettings t topology i)
      topology.monitor r
    rw [← seat] at staffed
    exact ⟨_, seat, staffed⟩

/-- Before the passes every item is a seat, staffed with its server and what watches it. -/
theorem Layout.staffed (layout : Layout t topology nodes own items) (r : Rota) (mem : item ∈ nodes ++ own) :
    ∃ s : Seat, item.name = s.name ∧ item.Staff (Post.Given r 0 item.name) := by
  rcases layout.seat_cases mem with ⟨spec, listed, met⟩ | ⟨empty, store | pool⟩
  · exact staff_of_met listed met r
  · obtain ⟨i, -, same⟩ := List.mem_map.1 store
    exact ⟨_, same.symm.trans (seat_dedicated .etcd i), .of_empty empty⟩
  · obtain ⟨i, -, same⟩ := List.mem_map.1 pool
    exact ⟨_, same.symm.trans (seat_dedicated .pgbouncer i), .of_empty empty⟩

/-- The items of a planned cluster of servers are tidy. -/
theorem Layout.tidy (layout : Layout t topology nodes own items) (named : t.topology = some topology) :
    Tidy items := by
  have staffed : ∀ item ∈ items, item.Staff (Post.Given (rota t topology) 3 item.name) := by
    intro item mem
    rw [layout.eq_furnished] at mem
    obtain ⟨seat, listed, rfl⟩ := List.mem_map.1 mem
    obtain ⟨s, same, staffed⟩ := layout.staffed (rota t topology) listed
    rw [furnished_name]
    exact staff_furnished same staffed
  have single : ∀ p x y, Post.Given (rota t topology) 3 x p → Post.Given (rota t topology) 3 y p → x = y :=
    fun p x y here there => here.2.single (rota_proper t topology) there.2
  exact tidy_of_staff (layout.nodup_names named) staffed single
    fun x p given seat kind => given.2.name_nodeExporter kind

/-! ### Watched clusters -/

/-- An item that is made for an addon is one that the addon runs on. -/
theorem mem_targetNames_of_dedicated {addon : Addon} {placement : Option AddonPlacement} {x : String}
    (mem : x ∈ dedicatedNames addon (AddonPlacement.dedicatedCount placement)) (replicas : Nat) :
    AddonPlacement.isDedicated placement = true ∧ x ∈ targetNames addon replicas placement := by
  match placement, mem with
  | some (.dedicated _ _), mem => exact ⟨rfl, mem⟩

/-- The configuration store's own items are watched if the topology is. -/
theorem watched_ownStore (watched : topology.monitor = true)
    (own : item.name ∈ dedicatedNames .etcd (etcdCount t.addons)) : (enlisted t topology item).Watched := by
  rw [etcdCount] at own
  rcases enlisted_cases t topology item with ⟨alone, -⟩ | ⟨etcd, _, _, -, given, -, changed⟩
  · rw [memberTargets] at alone
    cases given : t.addons.etcd with
    | none =>
        rw [given] at own
        cases own
    | some etcd =>
        rw [given] at own alone
        obtain ⟨-, target⟩ := mem_targetNames_of_dedicated own topology.replicasCount.toNat
        obtain ⟨p, mem, here⟩ := exists_mem_numbered target
        exact absurd here (alone p mem)
  · rw [given] at own
    obtain ⟨dedicated, -⟩ := mem_targetNames_of_dedicated own 0
    have watch : storeWatched topology etcd = true := by simp [storeWatched, watched, dedicated]
    rw [changed, runMember, if_pos watch]
    exact .ensure _

/-- The pooler's own items are watched if the topology is. -/
theorem watched_ownPool (watched : topology.monitor = true)
    (own : item.name ∈ dedicatedNames .pgbouncer (pgbouncerCount t.addons)) :
    (pooled t topology item).Watched := by
  rw [pgbouncerCount_eq] at own
  rcases pooled_cases t topology item with ⟨alone, -⟩ | ⟨pgbouncer, _, -, given, -, changed⟩
  · rw [poolerTargets] at alone
    cases given : poolerOf t with
    | none =>
        rw [given] at own
        cases own
    | some pgbouncer =>
        rw [given] at own alone
        obtain ⟨-, target⟩ := mem_targetNames_of_dedicated own topology.replicasCount.toNat
        obtain ⟨p, mem, here⟩ := exists_mem_numbered target
        exact absurd here (alone p mem)
  · rw [given] at own
    obtain ⟨dedicated, -⟩ := mem_targetNames_of_dedicated own 0
    have watch : (pgbouncer.monitor || topology.monitor) = true := by simp [watched]
    rw [changed, runPooler, if_pos watch]
    dsimp only
    rw [if_pos dedicated]
    exact .ensure _

/-- A node that is to be monitored is watched. -/
theorem watched_of_met {spec : NodeSpec} (met : spec.Met true item) : item.Watched := by
  obtain ⟨given, -, rfl⟩ := met
  exact (Item.Watched.of_addContainer rfl _).addContainer _

/-- In a cluster whose topology is watched, every machine is. -/
theorem Layout.watched (layout : Layout t topology nodes own items) (watched : topology.monitor = true)
    (mem : item ∈ items) : item.Watched := by
  rw [layout.eq_furnished] at mem
  obtain ⟨seat, listed, rfl⟩ := List.mem_map.1 mem
  have more : ∀ (i : Item) c, i.Watched → (i.addContainer c).Watched := fun _ c h => h.addContainer c
  rw [furnished]
  apply backedUp_keeps more
  rcases layout.seat_cases listed with ⟨spec, -, met⟩ | ⟨-, store | pool⟩
  · rw [watched] at met
    exact pooled_keeps more (enlisted_keeps more (watched_of_met met) t topology) t topology
  · exact pooled_keeps more (watched_ownStore watched store) t topology
  · exact watched_ownPool watched (enlisted_name t topology seat ▸ pool)

end Layout

/-! ### Single servers -/

/-- What may run beside a single server. -/
theorem fills_sidecar (settings : PostgresSettings) (sidecar : PostgresSidecar) :
    ∃ p : Post, p.At ⟨[], [], []⟩ masterItem ∧ (sidecarContainer settings sidecar).Fills p := by
  let s : Seat := ⟨.master, none⟩
  cases sidecar with
  | nodeExporter port => exact ⟨s.nodeExporter, rfl, s.fills_nodeExporter port⟩
  | postgresExporter port paths => exact ⟨s.serverExporter, rfl, s.fills_serverExporter port paths⟩
  | backup config => exact ⟨s.agent, rfl, s.fills_agent (image settings) config⟩

/-- A sidecar joins if nobody has its name. -/
theorem staff_addSidecar {Given : Post → Prop} (h : item.Staff Given) {c : Container} {p : Post}
    (fills : c.Fills p) (given : Given p) : Yields (·.Staff Given) (addSidecar item c) := by
  rw [addSidecar]
  split
  · exact Yields.defect _
  · next unnamed => exact Yields.pure (h.join_of_name fills given (by simpa using unnamed))

/-- The item of a single server is tidy. -/
theorem tidy_instance (t : PostgresInstance) : Yields (fun s => Tidy s.items) (planInstance t) := by
  apply ((planInstance_items t).and (planInstance_yields t)).mono
  rintro ⟨_⟩ ⟨⟨given, item, -, rfl, added⟩, names⟩
  have name : item.name = masterItem := by simpa [ItemSet.names] using names
  have served : ((Item.new masterItem given).addContainer
      (serverContainer masterItem .master 0 t.settings false)).Staff (Post.At ⟨[], [], []⟩ masterItem) :=
    (staff_serve (s := ⟨.master, none⟩) rfl given .master 0 t.settings false _).mono fun _ given => given.2
  have joined : ∀ (i : Item) (sidecar : PostgresSidecar), i.Staff (Post.At ⟨[], [], []⟩ masterItem) →
      Yields (·.Staff (Post.At ⟨[], [], []⟩ masterItem))
        (addSidecar i (sidecarContainer t.settings sidecar)) := by
    intro i sidecar staffed
    obtain ⟨p, given, fills⟩ := fills_sidecar t.settings sidecar
    exact staff_addSidecar staffed fills given
  rw [List.foldlM_map] at added
  have staffed := (Yields.foldlM joined served t.sidecars).of_ok added
  exact tidy_singleton staffed fun p given seat kind => name ▸ given.name_nodeExporter kind

end Postgres

/-! ### Nodes that are all alike -/

namespace Picodata

variable {item : Item}

/-- The item of a node is a seat with its index. -/
theorem seat_node (i : Nat) : nodeItem i = (Seat.mk .node (some i)).name := (String.append_empty).symm

/-- A node on an item that was empty. -/
theorem staff_node (index : Nat) (settings : PicodataSettings) (monitor : Bool) (given : Hardware) :
    ((Item.new (nodeItem index) given).addContainer
      (nodeContainer (nodeItem index) index settings monitor)).Staff
        (· = (Seat.mk .node (some index)).engine) := by
  have fills := (Seat.mk .node (some index)).fills_node rfl index settings monitor
  rw [← seat_node] at fills
  exact Item.Staff.join_new (Item.Staff.of_empty rfl) fills id rfl fun _ => False.elim

/-- The posts at a single node with so many backup agents. -/
def PostOfSingle (backups : Nat) (p : Post) : Prop :=
  p = (Seat.mk .node (some 0)).engine ∨ p = (Seat.mk .node (some 0)).nodeExporter ∨
    ∃ n ≤ backups, p = .numberedAgent n

/-- Serving metrics leaves the post that a container fills. -/
theorem serveMetrics_fills (port : UInt16) {c : Container} {p : Post} (h : c.Fills p) :
    (serveMetrics port c).Fills p := by
  rw [serveMetrics]
  split
  · exact ⟨h.name, h.volumes, h.watches⟩
  · exact h

/-- Serving metrics leaves two containers apart. -/
theorem serveMetrics_apart (port : UInt16) {c d : Container} (h : c.Apart d) :
    (serveMetrics port c).Apart (serveMetrics port d) := by
  have name : ∀ c : Container, (serveMetrics port c).name = c.name := by
    intro c
    rw [serveMetrics]
    split <;> rfl
  have volumes : ∀ c : Container, (serveMetrics port c).volumes = c.volumes := by
    intro c
    rw [serveMetrics]
    split <;> rfl
  constructor
  · rw [name, name]
    exact h.names
  · rw [volumes, volumes]
    exact h.volumes

/-- Sidecars of a single node join for posts that nobody fills. -/
theorem staff_addSidecar (state : Item × Nat) (sidecar : PicodataSidecar)
    (h : state.1.Staff (PostOfSingle state.2)) :
    Yields (fun next => next.1.Staff (PostOfSingle next.2)) (addSidecar state sidecar) := by
  obtain ⟨item, backups⟩ := state
  cases sidecar with
  | nodeExporter port =>
      have fills := (Seat.mk .node (some 0)).fills_nodeExporter port
      rw [← seat_node] at fills
      rw [addSidecar]
      split
      · exact Yields.defect _
      · next unnamed => exact Yields.pure (h.join_of_name fills (.inr (.inl rfl)) (by simpa using unnamed))
  | httpMetrics port =>
      apply Yields.pure
      constructor
      · rw [List.forall_mem_map]
        intro c mem
        obtain ⟨p, given, fills⟩ := h.filled c mem
        exact ⟨p, given, serveMetrics_fills _ fills⟩
      · exact List.pairwise_map.2 (h.apart.imp (serveMetrics_apart _))
  | backup config =>
      apply Yields.pure
      refine h.join_new (Post.fills_numberedAgent (backups + 1) config) ?_
        (.inr (.inr ⟨backups + 1, Nat.le_refl _, rfl⟩)) ?_
      · rintro (same | same | ⟨n, le, same⟩)
        · cases congrArg Post.kind same
        · cases congrArg Post.kind same
        · obtain rfl := Option.some.inj (congrArg Post.number same)
          exact Nat.not_succ_le_self backups le
      · rintro p (engine | exporter | ⟨n, le, same⟩)
        · exact .inl engine
        · exact .inr (.inl exporter)
        · exact .inr (.inr ⟨n, Nat.le_succ_of_le le, same⟩)

/-- The item of a single node is tidy. -/
theorem tidy_instance (t : PicodataInstance) : Yields (fun s => Tidy s.items) (planInstance t) := by
  apply ((planInstance_items t).and (planInstance_yields t)).mono
  rintro ⟨_⟩ ⟨⟨given, item, backups, -, rfl, added⟩, names⟩
  have name : item.name = nodeItem 0 := by simpa [ItemSet.names] using names
  have served := (staff_node 0 t.settings false given).mono
    fun p same => (.inl same : PostOfSingle 0 p)
  have staffed : item.Staff (PostOfSingle backups) :=
    (Yields.foldlM staff_addSidecar (b := (_, 0)) served t.sidecars).of_ok added
  apply tidy_singleton staffed
  rintro p (rfl | rfl | ⟨n, -, rfl⟩) seat kind
  · cases kind
  · rw [name, seat_node]
    exact Seat.name_nodeExporter _
  · cases kind

section Cluster

variable {t : PicodataCluster} {topology : PicodataTopology} {index : Nat}

/-- A node of a cluster is planned with what watches it. -/
theorem staff_of_met (met : Met t topology index item) (r : Rota) :
    item.Staff (Post.Given r 0 item.name) := by
  have name := met.name
  obtain ⟨given, -, rfl⟩ := met
  have node := staff_node index (nodeSettings t topology index) topology.monitor given
  have engine : (Seat.mk .node (some index)).engine.Given r 0 (nodeItem index) :=
    ⟨Nat.le_refl 0, (seat_node index).symm⟩
  have fills := (Seat.mk .node (some index)).fills_nodeExporter none
  rw [← seat_node] at fills
  have other : (Seat.mk .node (some index)).nodeExporter ≠ (Seat.mk .node (some index)).engine := by
    intro same
    cases congrArg Post.kind same
  rw [name, runNode]
  split
  · refine node.join_new fills other (Seat.given_nodeExporter (seat_node index) r 0) ?_
    rintro _ rfl
    exact engine
  · apply node.mono
    rintro _ rfl
    exact engine

/-- The agents of a cluster are given out by their numbers. -/
theorem staff_visited {targets : List String} (distinct : targets.Nodup) (config : BackupConfig)
    (h : item.Staff (Post.Given ⟨[], [], Postgres.numbered targets⟩ 0 item.name)) :
    (item.visited Prod.snd (runAgent config) (Postgres.numbered targets)).Staff
      (Post.Given ⟨[], [], Postgres.numbered targets⟩ 3 item.name) := by
  have more : ∀ p : Post, p.Given ⟨[], [], Postgres.numbered targets⟩ 0 item.name →
      p.Given ⟨[], [], Postgres.numbered targets⟩ 3 item.name := fun _ given => given.mono (Nat.zero_le 3)
  rcases Item.visited_cases (Postgres.snd_numbered_nodup distinct) (runAgent config) item with
    ⟨-, alone⟩ | ⟨⟨n, x⟩, mem, rfl, changed⟩
  · rw [alone]
    exact h.mono more
  · rw [changed]
    exact h.join_new (Post.fills_numberedAgent n config) (Post.not_given (Nat.zero_lt_succ 2))
      ⟨Nat.le_refl 3, n, rfl, mem⟩ more

/-- The items of a planned cluster of nodes are tidy, and all watched if the topology is. -/
theorem tidy_cluster (named : t.topology = some topology) :
    Yields (fun s => Tidy s.items ∧ (topology.monitor = true → ∀ item ∈ s.items, item.Watched))
      (planCluster t) := by
  apply ((planCluster_layout named).and (planCluster_yields t)).mono
  rintro ⟨_⟩ ⟨⟨nodes, config, targets, met, distinct, rfl⟩, names⟩
  have source : ∀ item ∈ nodes, ∃ index, Met t topology index item := by
    intro item mem
    obtain ⟨index, -, met⟩ := exists_mem_of_forall₂ met mem
    exact ⟨index, met⟩
  have kept : ∀ item : Item, (item.visited Prod.snd (runAgent config) (Postgres.numbered targets)).name =
      item.name := fun _ => Item.visited_name fun _ _ => rfl
  constructor
  · apply tidy_of_staff (P := Post.Given ⟨[], [], Postgres.numbered targets⟩ 3)
    · change (ItemSet.names _).Nodup
      rw [names]
      exact nodup_clusterNames t
    · intro item mem
      obtain ⟨node, listed, rfl⟩ := List.mem_map.1 mem
      obtain ⟨index, met⟩ := source node listed
      rw [kept]
      exact staff_visited distinct config (staff_of_met met _)
    · refine fun p x y here there => here.2.single ⟨?_, ?_, Postgres.numbered_single⟩ there.2
      · exact fun _ _ _ mem => nomatch mem
      · exact fun _ _ _ mem => nomatch mem
    · exact fun x p given seat kind => given.2.name_nodeExporter kind
  · intro watched item mem
    obtain ⟨node, listed, rfl⟩ := List.mem_map.1 mem
    obtain ⟨index, given, -, rfl⟩ := source node listed
    apply Item.visited_keeps
    · exact fun p _ _ i h => h.addContainer _
    · rw [runNode, if_pos watched]
      exact .of_addContainer rfl _

end Cluster

end Picodata

/-! ### Templates -/

namespace DatabaseTemplate

/-- A cluster whose topology is watched. -/
def Watched : DatabaseTemplate → Prop
  | .postgresInstance _ => False
  | .postgresCluster t => ∃ topology, t.topology = some topology ∧ topology.monitor = true
  | .picodataInstance _ => False
  | .picodataCluster t => ∃ topology, t.topology = some topology ∧ topology.monitor = true

/-- What is planned is tidy, and watched where that is asked for. -/
theorem plan_tidy (t : DatabaseTemplate) :
    Yields (fun s => Tidy s.items ∧ (t.Watched → ∀ item ∈ s.items, item.Watched)) t.plan := by
  cases t with
  | postgresInstance t => exact (Postgres.tidy_instance t).mono fun _ tidy => ⟨tidy, False.elim⟩
  | picodataInstance t => exact (Picodata.tidy_instance t).mono fun _ tidy => ⟨tidy, False.elim⟩
  | postgresCluster t =>
      cases named : t.topology with
      | none =>
          rw [plan, Postgres.planCluster, named]
          exact Yields.defect _
      | some topology =>
          apply (Postgres.planCluster_layout named).mono
          rintro s ⟨nodes, own, layout⟩
          refine ⟨layout.tidy named, ?_⟩
          rintro ⟨_, named', watched⟩ item mem
          obtain rfl := Option.some.inj (named.symm.trans named')
          exact layout.watched watched mem
  | picodataCluster t =>
      cases named : t.topology with
      | none =>
          rw [plan, Picodata.planCluster, named]
          exact Yields.defect _
      | some topology =>
          apply (Picodata.tidy_cluster named).mono
          rintro s ⟨tidy, watched⟩
          refine ⟨tidy, ?_⟩
          rintro ⟨_, named', monitored⟩
          obtain rfl := Option.some.inj (named.symm.trans named')
          exact watched monitored

/-- No two containers of a placement share a name, and no two of their volumes do.  No machine is watched
twice; and in a cluster whose topology is watched every machine is watched once, those that addons have for
themselves included. -/
theorem plan_shares_no_name {t : DatabaseTemplate} {planned : ItemSet} (h : t.plan = .ok planned) :
    ((planned.items.flatMap (·.containers)).map (·.name)).Nodup ∧
      ((planned.items.flatMap (·.containers)).flatMap fun c => c.volumes.map (·.name)).Nodup ∧
      (∀ item ∈ planned.items, (item.containers.filter Container.isNodeExporter).length ≤ 1) ∧
      (t.Watched → ∀ item ∈ planned.items,
        (item.containers.filter Container.isNodeExporter).length = 1) := by
  obtain ⟨tidy, watched⟩ := t.plan_tidy.of_ok h
  refine ⟨tidy.names, tidy.volumes, tidy.watchers, fun asked item mem => ?_⟩
  exact Nat.le_antisymm (tidy.watchers item mem) (watched asked item mem).length_pos

/-- Three nodes and two items of addons, all watched: the node that is backed up by an agent, the one that
is overridden and those that were made for the addons have one exporter each. -/
theorem sampleCluster_shares_no_name :
    ∃ planned, sampleCluster.plan = .ok planned ∧ planned.size = 5 ∧
      ((planned.items.flatMap (·.containers)).map (·.name)).Nodup ∧
      ∀ item ∈ planned.items, (item.containers.filter Container.isNodeExporter).length = 1 := by
  obtain ⟨planned, h⟩ := exists_ok_of_isOk (show sampleCluster.plan.isOk = true by decide +kernel)
  obtain ⟨names, -, -, watched⟩ := plan_shares_no_name h
  exact ⟨planned, h, size_of_plan h, names, watched ⟨_, rfl, rfl⟩⟩

end DatabaseTemplate

end Testbed
