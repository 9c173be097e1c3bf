import Testbed.Proofs.Placement.Supply

/-!
Where the endpoints of a placed Postgres database point.

Clients are sent to the first pooler, or to the master where there is none; poolers and the replicas that
Patroni does not manage are sent to the master; and what watches or backs up a server or watches a pooler is
sent to the one on its own item.  What planning provides for (`Provided`) is what wiring finds by its scans,
and so no scan comes back with something else.
-/

namespace Testbed

open Postgres

/-- A container on an item of an address is set up to find what it is about, where `others` are the
containers of the item, and `master` is the address of the master. -/
def Container.Connected (master address : Address) (others : List Container) (c : Container) : Prop :=
  match c.runtime with
  | .postgres role _ settings =>
      c.env.get? "POSTGRES_PRIMARY_HOST" =
        if role = .replica ∧ settings.patroni = false then some master.text else none
  | .pgbouncer .. => c.env.get? "PGBOUNCER_UPSTREAM_HOST" = some master.text
  | .exporter .postgres _ _ =>
      (∃ d ∈ others, isServer d = true) ∧
      c.env.get? "PG_EXPORTER_TARGET" = some s!"{address.text}:{Port.postgres.toNat}" ∧
      c.env.get? "DATA_SOURCE_NAME" = some (connectionString address Port.postgres)
  | .exporter .pgbouncer _ _ =>
      ∃ d ∈ others, ∃ port, poolerPort? d = some port ∧
        c.env.get? "PGBOUNCER_EXPORTER_TARGET" = some s!"{address.text}:{port.toNat}"
  | .backup _ => (∃ d ∈ others, isServer d = true) ∧ c.env.get? "PGHOST" = some address.text
  | _ => True

/-- Clients are sent to the pooler with the number one, where poolers listen on a port, and to the master
where there are none. -/
def ClientsSent (items : List Item) (master : Address) (connection : String) : Option UInt16 → Prop
  | some port => ∃ item ∈ items, ∃ own, item.address = some own ∧ ("pgbouncer-1", port) ∈ item.outlets ∧
      connection = connectionString own port
  | none => (∀ item ∈ items, item.outlets = []) ∧ connection = connectionString master Port.postgres

/-- The endpoints of the items of a database, where `port` is the port of the poolers, if there are any, and
clients are given the connection string. -/
structure Wired (port : Option UInt16) (items : List Item) (connection : String) (master : Item)
    (address : Address) : Prop where
  listed : master ∈ items
  bound : master.address = some address
  /-- The master runs there, and nowhere else. -/
  only : ∀ item ∈ items, item.runsMaster = true ↔ item = master
  connected : ∀ item ∈ items, ∃ own, item.address = some own ∧
    ∀ c ∈ item.containers, c.Connected address own item.containers
  clients : ClientsSent items address connection port

/-! ### Containers -/

/-- A container finds among more containers whatever it is connected to. -/
theorem Container.Connected.again {master address : Address} {ds es : List Container} {c : Container}
    (h : c.Connected master address ds) (again : RunsAgain ds es) : c.Connected master address es := by
  rw [Connected] at h ⊢
  cases runs : c.runtime with
  | postgres role index settings => rwa [runs] at h
  | pgbouncer poolSize poolMode connections port => rwa [runs] at h
  | exporter kind port paths =>
      rw [runs] at h
      cases kind with
      | node => trivial
      | postgres => exact ⟨again.server h.1, h.2⟩
      | pgbouncer =>
          obtain ⟨d, mem, port, listens, target⟩ := h
          obtain ⟨e, there, listens_e⟩ := again.pooler mem listens
          exact ⟨e, there, port, listens_e, target⟩
  | backup config =>
      rw [runs] at h
      exact ⟨again.server h.1, h.2⟩
  | picodata index settings => trivial
  | etcd index size clientPort peerPort => trivial

namespace Postgres

/-- A server is told of the master if it is a replica that has to find it by itself. -/
theorem wireServer_primary (s : Survey) (address : Address) (role : PostgresRole)
    (settings : PostgresSettings) {c : Container} (untold : c.env.get? "POSTGRES_PRIMARY_HOST" = none) :
    Yields (fun d => d.env.get? "POSTGRES_PRIMARY_HOST" =
        if role = .replica ∧ settings.patroni = false then some s.master.text else none)
      (wireServer s address role settings c) := by
  have still : (c.withEnvs [("POSTGRES_USER", user), ("POSTGRES_PASSWORD", password),
      ("POSTGRES_DB", database)]).env.get? "POSTGRES_PRIMARY_HOST" = none :=
    (Table.get?_insertAll_of_notMem _ (by simp)).trans untold
  rw [wireServer.eq_def]
  dsimp only
  by_cases managed : settings.patroni = true
  · rw [if_pos managed]
    simp only [managed, Bool.true_eq_false, and_false, if_false]
    split
    · exact Yields.defect _
    · apply Yields.pure
      rw [get?_env_optional _ (by decide)]
      exact (Table.get?_insertAll_of_notMem _ (by simp)).trans still
  · rw [if_neg managed]
    apply Yields.pure
    cases role with
    | master => exact still
    | replica =>
        rw [if_pos ⟨rfl, Bool.eq_false_iff.2 managed⟩]
        exact Table.get?_insertAll_of_mem _ (by simp) (by simp)

/-- The ports of the poolers on an item are those of its outlets. -/
theorem ports_eq (item : Item) : item.containers.filterMap poolerPort? = item.outlets.map Prod.snd := by
  rw [Item.outlets, List.map_filterMap]
  refine List.filterMap_congr fun c _ => ?_
  rw [Container.outlet?, Option.map_map]
  exact Option.map_id'.symm

/-- Where there are poolers, the first port that is found is that of one of them. -/
theorem exists_head_port {cs : List Container} (some_pooler : ∃ d ∈ cs, ∃ port, poolerPort? d = some port) :
    ∃ port, (cs.filterMap poolerPort?).head? = some port ∧ ∃ d ∈ cs, poolerPort? d = some port := by
  obtain ⟨d, mem, port, listens⟩ := some_pooler
  have listed : port ∈ cs.filterMap poolerPort? := List.mem_filterMap.2 ⟨d, mem, listens⟩
  obtain ⟨first, found⟩ := Option.isSome_iff_exists.1 (List.isSome_head?.2 (List.ne_nil_of_mem listed))
  exact ⟨first, found, List.mem_filterMap.1 (List.mem_of_head? found)⟩

/-- What has next to it what it is about is set up to find it. -/
theorem wireContainer_connected (s : Survey) (address : Address) {item : Item} {c : Container}
    (supplied : c.SuppliedBy item.containers) :
    Yields (fun d => c.Configured d ∧ d.Connected s.master address item.containers)
      (wireContainer s address (if item.containers.any isServer then address else s.master)
        (item.containers.filterMap poolerPort?).head? c) := by
  have here : (∃ d ∈ item.containers, isServer d = true) → item.containers.any isServer = true :=
    List.any_eq_true.2
  have described : Yields (fun d => d.runtime = c.runtime → d.Connected s.master address item.containers)
      (wireContainer s address (if item.containers.any isServer then address else s.master)
        (item.containers.filterMap poolerPort?).head? c) := by
    rw [Container.SuppliedBy] at supplied
    simp only [Container.Connected]
    rw [wireContainer.eq_def]
    split
    · next runs => exact Yields.pure fun same => by rw [same, runs]; trivial
    · next role index settings runs =>
        rw [runs] at supplied
        apply (wireServer_primary s address role settings supplied).mono
        intro d primary same
        rwa [same, runs]
    · next runs =>
        refine Yields.pure fun same => ?_
        rw [same, runs]
        exact Table.get?_insertAll_of_mem _ (by simp) (by simp)
    · next runs =>
        rw [runs] at supplied
        refine Yields.pure fun same => ?_
        rw [same, runs, if_pos (here supplied)]
        refine ⟨supplied, ?_, ?_⟩
        · exact Table.get?_insertAll_of_mem _ (by simp) (by simp)
        · exact Table.get?_insertAll_of_mem _ (by simp) (by simp)
    · next runs =>
        rw [runs] at supplied
        obtain ⟨port, found, d, there, listens⟩ := exists_head_port supplied
        rw [found]
        refine Yields.pure fun same => ?_
        rw [same, runs]
        exact ⟨d, there, port, listens, Table.get?_insert_self _ _ _⟩
    · next runs =>
        rw [runs] at supplied
        refine Yields.pure fun same => ?_
        rw [same, runs, if_pos (here supplied)]
        exact ⟨supplied, Table.get?_insertAll_of_mem _ (by simp) (by simp)⟩
    · next runs => exact Yields.pure fun same => by rw [same, runs]; trivial
    · next runs => exact Yields.pure fun same => by rw [same, runs]; trivial
  apply (described.and (wireContainer_yields s address _ _ c)).mono
  rintro d ⟨connected, configured⟩
  exact ⟨configured, connected configured.runtime⟩

/-- What wiring makes of an item at an address. -/
structure WiredBy (s : Survey) (entry : Address × Item) (item : Item) : Prop where
  configured : entry.2.Configured item
  address : item.address = some entry.1
  connected : ∀ c ∈ item.containers, c.Connected s.master entry.1 item.containers

/-- Wiring an item whose containers are supplied connects each of them. -/
theorem wireItem_wiredBy (s : Survey) {entry : Address × Item} (bound : entry.2.address = some entry.1)
    (supplied : ∀ c ∈ entry.2.containers, c.SuppliedBy entry.2.containers) :
    Yields (WiredBy s entry) (wireItem s entry.1 entry.2) := by
  rw [wireItem]
  apply (Yields.mapM fun c mem => wireContainer_connected s entry.1 (supplied c mem)).bind
  intro containers related
  have configured : List.Forall₂ Container.Configured entry.2.containers containers :=
    related.imp fun _ _ both => both.1
  refine Yields.pure ⟨⟨rfl, rfl, rfl, rfl, configured⟩, bound, ?_⟩
  intro d mem
  obtain ⟨c, -, -, connected⟩ := exists_mem_of_forall₂ related mem
  apply connected.again
  intro other listed
  obtain ⟨e, there, same⟩ := exists_mem_of_forall₂ configured.flip listed
  exact ⟨e, there, same.runtime⟩

end Postgres

/-! ### Items -/

/-- Wiring an item leaves the master on it. -/
theorem Item.Configured.runsMaster {i j : Item} (h : i.Configured j) : j.runsMaster = i.runsMaster := by
  rw [Item.runsMaster_eq, Item.runsMaster_eq, h.sketch]

/-- Wiring a container leaves the port on which it listens as a pooler. -/
theorem Container.Configured.outlet? {c d : Container} (h : c.Configured d) : d.outlet? = c.outlet? := by
  rw [Container.outlet?_of_runtime h.runtime, Container.outlet?_of_runtime (c := c) rfl, h.name]

/-- The outlets of an item are those of its containers. -/
theorem Item.outlets_eq (item : Item) :
    item.outlets = (item.containers.map Container.outlet?).filterMap id := by
  rw [outlets, List.filterMap_map]
  rfl

/-- Wiring an item leaves its outlets. -/
theorem Item.Configured.outlets {i j : Item} (h : i.Configured j) : j.outlets = i.outlets := by
  rw [Item.outlets_eq, Item.outlets_eq, map_eq_map_of_forall₂ h.containers fun _ _ same => same.outlet?.symm]

/-- Binding an item to an address leaves the master on it. -/
theorem Item.runsMaster_bindTo (item : Item) (address : Address) :
    (item.bindTo address).runsMaster = item.runsMaster := by
  rw [Item.runsMaster_eq, Item.runsMaster_eq, Item.sketch_bindTo]

/-- Binding an item to an address leaves its outlets. -/
theorem Item.outlets_bindTo (item : Item) (address : Address) :
    (item.bindTo address).outlets = item.outlets := by
  rw [Item.outlets_eq, Item.outlets_eq, Item.bindTo, List.map_map]
  rfl

namespace Postgres

variable {port : Option UInt16}

/-- Binding leaves alone what planning provides. -/
theorem Provided.bound {items : List Item} (h : Provided port items) {addresses : List Address}
    (enough : items.length ≤ addresses.length) :
    Provided port (List.zipWith Item.bindTo items addresses) := by
  constructor
  · intro item mem
    obtain ⟨i, at_i⟩ := List.mem_iff_getElem?.1 mem
    obtain ⟨plain, address, plain_at_i, -, rfl⟩ := List.getElem?_zipWith_eq_some.1 at_i
    intro d listed
    obtain ⟨c, running, rfl⟩ := List.mem_map.1 listed
    have supplied := h.supplied plain (List.mem_of_getElem? plain_at_i) c running
    exact supplied.again fun e there => ⟨_, List.mem_map_of_mem there, rfl⟩
  · rw [ItemSet.map_bound Item.runsMaster_bindTo enough]
    exact h.master
  · rw [List.flatMap_def, ItemSet.map_bound Item.outlets_bindTo enough, ← List.flatMap_def]
    exact h.outlet

/-- The poolers on items, with the addresses of the items. -/
def outletsAt (entries : List (Address × Item)) : List ((String × UInt16) × Address) :=
  entries.flatMap fun (address, item) => item.outlets.map fun outlet => (outlet, address)

/-- Without their addresses, the outlets of items are those of each item in turn. -/
theorem map_fst_outletsAt (entries : List (Address × Item)) :
    (outletsAt entries).map Prod.fst = (entries.map Prod.snd).flatMap Item.outlets := by
  rw [outletsAt, List.map_flatMap, List.flatMap_map]
  refine List.flatMap_congr fun entry _ => ?_
  rw [List.map_map]
  exact List.map_id _

/-- The first pooler of some items is on one of them. -/
theorem exists_outletsAt {entries : List (Address × Item)} {outlet : String × UInt16}
    (first : ((entries.map Prod.snd).flatMap Item.outlets).head? = some outlet) :
    ∃ entry ∈ entries, outlet ∈ entry.2.outlets ∧ (outletsAt entries).head? = some (outlet, entry.1) := by
  rw [← map_fst_outletsAt, List.head?_map] at first
  obtain ⟨⟨found, address⟩, head, rfl⟩ := Option.map_eq_some_iff.1 first
  obtain ⟨entry, mem, listed⟩ := List.mem_flatMap.1 (List.mem_of_head? head)
  obtain ⟨_, there, same⟩ := List.mem_map.1 listed
  obtain ⟨rfl, rfl⟩ := Prod.mk.inj same
  exact ⟨entry, mem, there, head⟩

/-- If no item has an outlet, there is none with an address. -/
theorem outletsAt_eq_nil {entries : List (Address × Item)}
    (without : ((entries.map Prod.snd).flatMap Item.outlets).head? = none) : outletsAt entries = [] := by
  rw [← map_fst_outletsAt, List.head?_eq_none_iff, List.map_eq_nil_iff] at without
  exact without

/-- The survey finds a master on the first item, and the first of the poolers. -/
theorem survey_finds {master : Address × Item} (leads : master.2.runsMaster = true)
    (rest : List (Address × Item)) :
    Yields (fun s => s.master = master.1 ∧
        s.pooler = (outletsAt (master :: rest)).head?.map fun (outlet, address) => (address, outlet.2))
      (survey (master :: rest)) := by
  have found : (master :: rest).find? (fun (_, item) => item.containers.any isMaster) = some master :=
    List.find?_cons_of_pos leads
  rw [survey, found]
  refine Yields.pure ⟨rfl, ?_⟩
  rw [← List.head?_map, outletsAt, List.map_flatMap]
  refine congrArg List.head? (List.flatMap_congr fun entry _ => ?_)
  dsimp only
  rw [ports_eq, List.map_map, List.map_map]
  rfl

/-- Clients are sent to the first pooler that the survey found, or else to the master. -/
theorem clientsSent_of_wired {s : Survey} {entries : List (Address × Item)} {wired : List Item}
    (related : List.Forall₂ (WiredBy s) entries wired)
    (pooler : s.pooler = (outletsAt entries).head?.map fun (outlet, address) => (address, outlet.2))
    (outlet : ((entries.map Prod.snd).flatMap Item.outlets).head? =
      port.map fun port => ("pgbouncer-1", port)) :
    ClientsSent wired s.master (connectionString (s.pooler.getD (s.master, Port.postgres)).1
      (s.pooler.getD (s.master, Port.postgres)).2) port := by
  cases port with
  | none =>
      have silent : s.pooler = none := by
        rw [pooler, outletsAt_eq_nil outlet]
        rfl
      rw [silent]
      refine ⟨fun j mem => ?_, rfl⟩
      obtain ⟨entry, listed, by_wiring⟩ := exists_mem_of_forall₂ related mem
      rw [by_wiring.configured.outlets]
      exact List.flatMap_eq_nil_iff.1 (List.head?_eq_none_iff.1 outlet) entry.2 (List.mem_map_of_mem listed)
  | some port =>
      obtain ⟨entry, listed, there, head⟩ := exists_outletsAt outlet
      have first : s.pooler = some (entry.1, port) := by
        rw [pooler, head]
        rfl
      obtain ⟨j, mem, by_wiring⟩ := exists_mem_of_forall₂ related.flip listed
      rw [first]
      exact ⟨j, mem, entry.1, by_wiring.address, by_wiring.configured.outlets ▸ there, rfl⟩

/-- Bound items that are provided for are wired as they should be. -/
theorem wire_wired {items : List Item} (provided : Provided port items) :
    Yields (fun wired => ∃ master address, Wired port wired.1 wired.2 master address) (wire items) := by
  rw [wire]
  apply (boundItems_decides items).toYields.bind
  rintro entries ⟨-, rfl, bound⟩
  obtain ⟨others, flags, alone⟩ := provided.master
  rw [List.map_map] at flags
  obtain ⟨first, rest, rfl, leads, followers⟩ := List.map_eq_cons_iff.1 flags
  apply (survey_finds leads rest).bind
  rintro s ⟨master_s, pooler_s⟩
  have each : ∀ entry ∈ first :: rest, Yields (WiredBy s entry) (wireItem s entry.1 entry.2) :=
    fun entry mem => wireItem_wiredBy s (bound entry mem) (provided.supplied entry.2 (List.mem_map_of_mem mem))
  apply (Yields.mapM each).bind
  intro wired related
  have clients := clientsSent_of_wired related pooler_s provided.outlet
  obtain ⟨master, replicas, first_wired, rest_wired, rfl⟩ := List.forall₂_cons_left_iff.1 related
  have silent : ∀ item ∈ replicas, item.runsMaster ≠ true := by
    have same := map_eq_map_of_forall₂ rest_wired (g := Item.runsMaster)
      fun _ _ by_wiring => by_wiring.configured.runsMaster.symm
    intro item mem runs
    rw [← followers, ← runs] at alone
    exact alone (same ▸ List.mem_map_of_mem mem)
  refine Yields.pure ⟨master, s.master, ?_⟩
  constructor
  · exact List.mem_cons_self
  · rw [first_wired.address, master_s]
  · intro item mem
    constructor
    · intro runs
      exact (List.mem_cons.1 mem).resolve_right fun later => silent item later runs
    · rintro rfl
      exact first_wired.configured.runsMaster.trans leads
  · intro item mem
    obtain ⟨entry, -, by_wiring⟩ := exists_mem_of_forall₂ related mem
    exact ⟨entry.1, by_wiring.address, by_wiring.connected⟩
  · exact clients

end Postgres

namespace DatabaseTemplate

/-- A cluster that is placed on a network with addresses enough is wired. -/
theorem place_wired {t : DatabaseTemplate} {network : Network} (family : t.family = .postgres)
    (enough : t.requiredAddresses ≤ network.ips.length) :
    Yields (fun intent => ∃ master address, Wired t.poolerPort intent.items intent.connectionString master
      address) (t.place network) := by
  rw [place]
  apply (t.plan_yields.and (plan_provided family)).bind
  rintro planned ⟨names, provided⟩
  split
  · exact Yields.defect _
  · have size : planned.size ≤ network.ips.length := by
      rwa [← ItemSet.length_names, names, length_roster]
    rw [ItemSet.bind_of_enough size, family]
    apply (Postgres.wire_wired (provided.bound size)).bind
    rintro ⟨wired, connectionString⟩ connected
    exact Yields.pure connected

/-- The endpoints of a placed Postgres database point where they should.  One item runs the master.  Clients
are sent to the pooler with the number one, at the address of its item and on the port that the template
gives to poolers, and to the master if the template has no pooler enabled; every pooler is sent to the
master, and of the servers the replicas without Patroni are told of it, and no others; every exporter and
every backup agent of a server is sent to its own item, which runs a server; and every exporter of a pooler
to a pooler on its own item. -/
theorem place_connects {t : DatabaseTemplate} {network : Network} {intent : PlacementIntent}
    (family : t.family = .postgres) (placed : t.place network = .ok intent) :
    ∃ master address, Wired t.poolerPort intent.items intent.connectionString master address :=
  (place_wired family (enough_of_place placed)).of_ok placed

/-- The connection string of the sample cluster is that of a pooler on the item it leads to. -/
theorem sampleCluster_connects :
    let network : Network := ⟨⟨token 1, "net", .docker⟩, "10.0.0.0/29",
      [.ofNat 1, .ofNat 2, .ofNat 3, .ofNat 4, .ofNat 5, .ofNat 6]⟩
    ∃ intent, sampleCluster.place network = .ok intent ∧
      ∃ item ∈ intent.items, ∃ own, item.address = some own ∧
        ("pgbouncer-1", Port.pgbouncer) ∈ item.outlets ∧
        intent.connectionString = Postgres.connectionString own Port.pgbouncer := by
  intro network
  obtain ⟨intent, placed⟩ := exists_ok_of_isOk
    (show (sampleCluster.place network).isOk = true by decide +kernel)
  obtain ⟨master, address, wired⟩ := place_connects (t := sampleCluster) rfl placed
  exact ⟨intent, placed, wired.clients⟩

end DatabaseTemplate

end Testbed
