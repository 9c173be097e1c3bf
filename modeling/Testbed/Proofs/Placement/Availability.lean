import Testbed.Proofs.Block
import Testbed.Proofs.Placement.Cluster
import Testbed.Proofs.Placement.Intent

/-!
How the containers of a cluster find each other.

Planning numbers the members of the configuration store in the order of the items, before there are
addresses; wiring lists them again, from the items that have been bound.  The two agree: in the list that
all members are given, each of them finds itself, under the name and at the address that it announces, and
a server that Patroni manages finds exactly the members.
-/

namespace Testbed

/-! ### Lists in a text -/

/-- The entries of a text, with commas between them. -/
def entriesOf (text : String) : List String := (text.toList.splitOn ',').map String.ofList

/-- Entries without commas are read back from the text that lists them. -/
theorem entriesOf_intercalate {entries : List String} (plain : ∀ entry ∈ entries, ',' ∉ entry.toList)
    (some_entry : entries ≠ []) : entriesOf (",".intercalate entries) = entries := by
  have joined : (",".intercalate entries).toList = [','].intercalate (entries.map String.toList) :=
    String.toList_intercalate
  have plain_lists : ∀ cs ∈ entries.map String.toList, ',' ∉ cs := by
    intro cs mem
    obtain ⟨entry, listed, rfl⟩ := List.mem_map.1 mem
    exact plain entry listed
  rw [entriesOf, joined, List.splitOn_intercalate _ plain_lists (by simpa using some_entry)]
  simp [Function.comp_def]

/-- A mark that is no digit does not occur in decimals. -/
theorem notMem_toDigits (mark : Char) (h : mark.isDigit = false) (n : Nat) : mark ∉ Nat.toDigits 10 n := by
  intro mem
  rw [Nat.isDigit_of_mem_toDigits (by decide) (by decide) mem] at h
  cases h

/-- There is no comma in the text of an address. -/
theorem Address.comma_notMem_text (a : Address) : ',' ∉ a.text.toList := by
  have digits := notMem_toDigits ',' rfl
  simp [toList_text, digits]

/-! ### Members where they run -/

/-- A member of the configuration store where it runs. -/
structure StoreMember where
  /-- The address of its item. -/
  address : Address
  container : Container
  memberIndex : UInt32
  clusterSize : UInt32
  clientPort : UInt16
  peerPort : UInt16

namespace StoreMember

/-- Where the other members reach it. -/
def peerUrl (m : StoreMember) : String := s!"http://{m.address.text}:{m.peerPort.toNat}"

/-- Its name, and where the other members reach it. -/
def entry (m : StoreMember) : String := s!"{m.container.name}={m.peerUrl}"

/-- Where servers reach it. -/
def clientHost (m : StoreMember) : String := s!"{m.address.text}:{m.clientPort.toNat}"

/-- What wiring knows of it. -/
def known (m : StoreMember) : Postgres.EtcdMember :=
  ⟨m.container.name, m.address, m.clientPort, m.peerPort⟩

/-- What planning knows of it. -/
def planned (m : StoreMember) : String × Runtime :=
  (m.container.name, .etcd m.memberIndex m.clusterSize m.clientPort m.peerPort)

end StoreMember

/-- The member of the configuration store that a container is. -/
def Container.storeMember? (address : Address) (c : Container) : Option StoreMember :=
  match c.runtime with
  | .etcd memberIndex clusterSize clientPort peerPort =>
      some ⟨address, c, memberIndex, clusterSize, clientPort, peerPort⟩
  | _ => none

/-- The members of the configuration store on an item. -/
def Item.storeMembers (item : Item) : List StoreMember :=
  item.address.toList.flatMap fun address => item.containers.filterMap (Container.storeMember? address)

/-- A server that Patroni manages. -/
def Runtime.Managed : Runtime → Prop
  | .postgres _ _ settings => settings.patroni = true
  | _ => False

/-- A member of the configuration store runs on its item. -/
theorem Item.of_mem_storeMembers {item : Item} {m : StoreMember} (mem : m ∈ item.storeMembers) :
    item.address = some m.address ∧ m.container ∈ item.containers ∧
      m.container.runtime = .etcd m.memberIndex m.clusterSize m.clientPort m.peerPort := by
  rw [storeMembers] at mem
  obtain ⟨address, bound, listed⟩ := List.mem_flatMap.1 mem
  obtain ⟨c, running, found⟩ := List.mem_filterMap.1 listed
  rw [Container.storeMember?.eq_def] at found
  split at found
  · next runs =>
      obtain rfl := Option.some.inj found
      exact ⟨Option.mem_toList.1 bound, running, runs⟩
  · cases found

/-- The members on a bound item are those that its plan names. -/
theorem Item.planned_storeMembers {item : Item} {address : Address} (bound : item.address = some address) :
    item.storeMembers.map StoreMember.planned = item.sketch.members := by
  rw [storeMembers, bound, sketch]
  induction item.containers with
  | nil => rfl
  | cons c rest ih =>
      simp only [Option.toList_some, List.flatMap_cons, List.flatMap_nil, List.append_nil] at ih ⊢
      cases runs : c.runtime <;>
        simp [Container.storeMember?, Postgres.isMember, runs, ih, StoreMember.planned]

/-! ### Sketches of placed items -/

/-- Wiring leaves a server a server. -/
theorem Container.Configured.isServer {c d : Container} (h : c.Configured d) :
    Postgres.isServer d = Postgres.isServer c := Postgres.isServer_congr h.runtime

/-- Wiring leaves a member of the configuration store a member. -/
theorem Container.Configured.isMember {c d : Container} (h : c.Configured d) :
    Postgres.isMember d = Postgres.isMember c := Postgres.isMember_congr h.runtime

/-- Wiring leaves what the servers run as it is. -/
theorem runtimes_configured {cs ds : List Container} (h : List.Forall₂ Container.Configured cs ds) :
    (ds.filter Postgres.isServer).map (·.runtime) = (cs.filter Postgres.isServer).map (·.runtime) := by
  induction h with
  | nil => rfl
  | cons head _ ih =>
      rw [List.filter_cons, List.filter_cons, head.isServer]
      split
      · rw [List.map_cons, List.map_cons, head.runtime, ih]
      · exact ih

/-- Wiring leaves the members of the configuration store, their names and what they run. -/
theorem members_configured {cs ds : List Container} (h : List.Forall₂ Container.Configured cs ds) :
    (ds.filter Postgres.isMember).map (fun d => (d.name, d.runtime)) =
      (cs.filter Postgres.isMember).map fun c => (c.name, c.runtime) := by
  induction h with
  | nil => rfl
  | cons head _ ih =>
      rw [List.filter_cons, List.filter_cons, head.isMember]
      split
      · rw [List.map_cons, List.map_cons, head.name, head.runtime, ih]
      · exact ih

/-- Wiring does not show in the sketches. -/
theorem Item.Configured.sketch {i j : Item} (h : i.Configured j) : j.sketch = i.sketch := by
  rw [Item.sketch, Item.sketch, h.name, runtimes_configured h.containers,
    members_configured h.containers]

/-- Binding an item to an address is not seen in its plan. -/
theorem Item.sketch_bindTo (item : Item) (address : Address) :
    (item.bindTo address).sketch = item.sketch := by
  have server : ∀ c : Container, ∀ metadata,
      Postgres.isServer { c with metadata } = Postgres.isServer c := fun _ _ => rfl
  have member : ∀ c : Container, ∀ metadata,
      Postgres.isMember { c with metadata } = Postgres.isMember c := fun _ _ => rfl
  simp [sketch, bindTo, List.filter_map, Function.comp_def, server, member]

/-! ### Wiring -/

/-- A container on an item of an address is set up to find the members of the configuration store. -/
def Container.SetUp (members : List StoreMember) (address : Address) (c : Container) : Prop :=
  match c.runtime with
  | .etcd _ _ _ peerPort =>
      c.env.get? "ETCD_NAME" = some c.name ∧
      c.env.get? "ETCD_INITIAL_CLUSTER" = some (",".intercalate (members.map StoreMember.entry)) ∧
      c.env.get? "ETCD_INITIAL_ADVERTISE_PEER_URLS" = some s!"http://{address.text}:{peerPort.toNat}"
  | .postgres _ _ settings => settings.patroni = true →
      members ≠ [] ∧
      c.env.get? "PATRONI_ETCD3_HOSTS" = some (",".intercalate (members.map StoreMember.clientHost)) ∧
      c.env.get? "PATRONI_POSTGRESQL_CONNECT_ADDRESS" =
        some s!"{address.text}:{Port.postgres.toNat}" ∧
      c.env.get? "PATRONI_RESTAPI_CONNECT_ADDRESS" =
        some s!"{address.text}:{Port.patroniApi.toNat}"
  | _ => True

namespace Postgres

variable {members : List StoreMember} {s : Survey}

/-- The initial cluster is made of the entries of the members, with commas between them. -/
theorem initialCluster_known (members : List StoreMember) :
    initialCluster (members.map StoreMember.known) =
      ",".intercalate (members.map StoreMember.entry) := by
  rw [initialCluster, List.map_map]
  congr 1
  refine List.map_congr_left fun m _ => String.toList_inj.1 ?_
  simp [StoreMember.known, StoreMember.entry, StoreMember.peerUrl, ToString.toString]

/-- The hosts of the store are where clients reach the members, with commas between them. -/
theorem etcdHosts_known (members : List StoreMember) :
    etcdHosts (members.map StoreMember.known) =
      ",".intercalate (members.map StoreMember.clientHost) := by
  rw [etcdHosts, List.map_map]
  rfl

/-- A wired member is set up with the names and peers of all of them. -/
theorem wireEtcd_setUp (agree : s.members = members.map StoreMember.known) (address : Address)
    {c : Container} {memberIndex clusterSize : UInt32} {clientPort peerPort : UInt16}
    (runs : c.runtime = .etcd memberIndex clusterSize clientPort peerPort) :
    (wireEtcd s address clientPort peerPort c).SetUp members address := by
  rw [Container.SetUp, wireEtcd, agree, initialCluster_known]
  dsimp only [Container.withEnvs]
  rw [runs]
  refine ⟨?_, ?_, ?_⟩ <;> exact Table.get?_insertAll_of_mem _ (by simp) (by simp)

/-- A variable is what it is, whether or not another one is set. -/
theorem get?_env_optional {p : Prop} [Decidable p] (c : Container) {key other : String}
    (different : other ≠ key) (value : String) :
    (if p then c else c.withEnv other value).env.get? key = c.env.get? key := by
  split
  · rfl
  · exact c.env.get?_insert_of_ne value different

/-- A server is wired, unless Patroni is to manage it and there are no members to go to. -/
theorem wireServer_decides (agree : s.members = members.map StoreMember.known) (address : Address)
    {c : Container} {role : PostgresRole} {index : UInt32} {settings : PostgresSettings}
    (runs : c.runtime = .postgres role index settings) :
    Decides (settings.patroni = true → members ≠ [])
      (fun d => c.Configured d ∧ d.SetUp members address) (wireServer s address role settings c) := by
  have described : Decides (settings.patroni = true → members ≠ [])
      (fun d => settings.patroni = true → d.runtime = c.runtime → d.SetUp members address)
      (wireServer s address role settings c) := by
    rw [wireServer.eq_def]
    dsimp only
    split
    · next managed =>
        apply (Decides.check (D := True) fun some_member => Decides.pure ?_).iff
        · simp [managed, agree]
        · intro _ same
          have members_ne : members ≠ [] := by simpa [agree] using some_member
          rw [Container.SetUp, same, runs, agree, etcdHosts_known]
          intro _
          refine ⟨members_ne, ?_, ?_, ?_⟩
          all_goals
            rw [get?_env_optional _ (by decide)]
            exact Table.get?_insertAll_of_mem _ (by simp) (by simp)
    · next unmanaged =>
        exact (Decides.pure fun managed => absurd managed unmanaged).iff (by simp [unmanaged])
  apply (described.yields (wireServer_yields s address role settings c)).mono
  rintro d ⟨set_up, configured⟩
  refine ⟨configured, ?_⟩
  by_cases managed : settings.patroni = true
  · exact set_up managed configured.runtime
  · rw [Container.SetUp, configured.runtime, runs]
    exact fun h => absurd h managed

/-- Of what runs neither a server nor a member nothing is asked. -/
theorem setUp_of_bystander {c : Container} (h : c.Bystander) (address : Address) :
    c.SetUp members address := by
  obtain ⟨server, member⟩ := h
  rw [isServer.eq_def] at server
  rw [isMember.eq_def] at member
  rw [Container.SetUp]
  cases runs : c.runtime <;> simp_all

/-- Patroni manages no bystander. -/
theorem not_managed_of_bystander {c : Container} (h : c.Bystander) : ¬ c.runtime.Managed := by
  obtain ⟨server, -⟩ := h
  rw [isServer.eq_def] at server
  cases runs : c.runtime <;> simp_all [Runtime.Managed]

/-- A container is wired, unless Patroni is to manage it and there are no members to go to. -/
theorem wireContainer_decides (agree : s.members = members.map StoreMember.known)
    (address server : Address) (pooler : Option UInt16) (c : Container) :
    Decides (c.runtime.Managed → members ≠ []) (fun d => c.Configured d ∧ d.SetUp members address)
      (wireContainer s address server pooler c) := by
  have described : Decides (c.runtime.Managed → members ≠ [])
      (fun d => d.runtime = c.runtime → d.SetUp members address)
      (wireContainer s address server pooler c) := by
    have bystander : ∀ d : Container, c.Bystander → Decides (c.runtime.Managed → members ≠ [])
        (fun d => d.runtime = c.runtime → d.SetUp members address) (.ok d) := by
      intro d other
      refine (Decides.pure fun same => ?_).iff (by simp [not_managed_of_bystander other])
      exact setUp_of_bystander ⟨isServer_congr same ▸ other.1, isMember_congr same ▸ other.2⟩ address
    rw [wireContainer.eq_def]
    split
    · next runs =>
        have set_up := wireEtcd_setUp agree address runs
        exact (Decides.pure fun _ => set_up).iff (by simp [runs, Runtime.Managed])
    · next runs =>
        rw [runs]
        exact (wireServer_decides agree address runs).mono fun _ both _ => both.2
    · next runs => exact bystander _ ⟨by rw [isServer, runs], by rw [isMember, runs]⟩
    · next runs => exact bystander _ ⟨by rw [isServer, runs], by rw [isMember, runs]⟩
    · next runs =>
        split
        · exact bystander _ ⟨by rw [isServer, runs], by rw [isMember, runs]⟩
        · exact bystander _ ⟨by rw [isServer, runs], by rw [isMember, runs]⟩
    · next runs => exact bystander _ ⟨by rw [isServer, runs], by rw [isMember, runs]⟩
    · next runs => exact bystander _ ⟨by rw [isServer, runs], by rw [isMember, runs]⟩
    · next runs => exact bystander _ ⟨by rw [isServer, runs], by rw [isMember, runs]⟩
  apply (described.yields (wireContainer_yields s address server pooler c)).mono
  rintro d ⟨set_up, configured⟩
  exact ⟨configured, set_up configured.runtime⟩

/-- An item is wired unless Patroni is to manage a server on it and there are no members. -/
theorem wireItem_decides (agree : s.members = members.map StoreMember.known) (address : Address)
    (item : Item) :
    Decides (∀ c ∈ item.containers, c.runtime.Managed → members ≠ [])
      (fun j => item.Configured j ∧ ∀ d ∈ j.containers, d.SetUp members address)
      (wireItem s address item) := by
  rw [wireItem]
  apply (Decides.mapM fun c _ => wireContainer_decides agree address _ _ c).map
  intro containers _ related
  have configured : List.Forall₂ Container.Configured item.containers containers :=
    related.imp fun _ _ both => both.1
  refine ⟨⟨rfl, rfl, rfl, rfl, configured⟩, ?_⟩
  intro d mem
  obtain ⟨c, -, both⟩ := exists_mem_of_forall₂ related mem
  exact both.2

/-- Items can be wired once each of them has an address. -/
theorem boundItems_decides (items : List Item) :
    Decides (∀ item ∈ items, item.address.isSome = true)
      (fun entries => entries.map Prod.snd = items ∧ ∀ entry ∈ entries, entry.2.address = some entry.1)
      (boundItems items) := by
  have each : ∀ item ∈ items, Decides (item.address.isSome = true)
      (fun entry : Address × Item => entry.2 = item ∧ item.address = some entry.1)
      (do Pure.pure (← item.boundAddress, item)) := by
    intro item _
    rw [Item.boundAddress]
    cases bound : item.address with
    | none => exact (Decides.defect _).iff (by simp)
    | some address => exact (Decides.pure ⟨rfl, rfl⟩).iff (by simp)
  apply (Decides.mapM each).mono
  intro entries related
  constructor
  · simpa using (map_eq_map_of_forall₂ related (f := id) fun _ _ both => both.1.symm).symm
  · intro entry mem
    obtain ⟨item, -, rfl, bound⟩ := exists_mem_of_forall₂ related mem
    exact bound

/-- The survey of a cluster succeeds if some item runs the master, and then knows the members in order. -/
theorem survey_decides (bound : List (Address × Item)) :
    Decides (∃ entry ∈ bound, entry.2.containers.any isMaster = true)
      (fun s => s.members = bound.flatMap fun (address, item) =>
        item.containers.filterMap (etcdMember? address)) (survey bound) := by
  rw [survey]
  split
  · next missing =>
      exact (Decides.defect _).iff (by simpa using missing)
  · next found =>
      have there := List.mem_of_find?_eq_some found
      have runs := List.find?_some found
      exact (Decides.pure rfl).iff ⟨fun _ => ⟨_, there, runs⟩, fun _ => trivial⟩

/-- The members that are surveyed are those that run on the items. -/
theorem members_surveyed {entries : List (Address × Item)}
    (bound : ∀ entry ∈ entries, entry.2.address = some entry.1) :
    (entries.flatMap fun (address, item) => item.containers.filterMap (etcdMember? address)) =
      ((entries.map Prod.snd).flatMap Item.storeMembers).map StoreMember.known := by
  rw [List.flatMap_map, List.map_flatMap]
  refine List.flatMap_congr fun entry mem => ?_
  dsimp only
  rw [Item.storeMembers, bound entry mem, Option.toList_some, List.flatMap_singleton, List.map_filterMap]
  refine List.filterMap_congr fun c _ => ?_
  rw [etcdMember?.eq_def, Container.storeMember?.eq_def]
  cases c.runtime <;> rfl

/-- Servers that Patroni manages have members of the configuration store to go to. -/
def Wireable (items : List Item) : Prop :=
  ∀ item ∈ items, ∀ c ∈ item.containers, c.runtime.Managed → items.flatMap Item.storeMembers ≠ []

/-- Bound items are wired unless Patroni is to manage a server and there are no members. -/
theorem wire_decides {items : List Item} (bound : ∀ item ∈ items, item.address.isSome = true)
    (master : ∃ item ∈ items, item.containers.any isMaster = true) :
    Decides (Wireable items)
      (fun wired => List.Forall₂ (fun item j => item.Configured j ∧
        ∀ address, item.address = some address → ∀ d ∈ j.containers,
          d.SetUp (items.flatMap Item.storeMembers) address) items wired.1)
      (wire items) := by
  rw [wire]
  apply ((boundItems_decides items).bind ?_).iff (and_iff_right bound)
  rintro entries - ⟨rfl, bound_entries⟩
  have there : ∃ entry ∈ entries, entry.2.containers.any isMaster = true := by
    obtain ⟨item, mem, runs⟩ := master
    obtain ⟨entry, listed, rfl⟩ := List.mem_map.1 mem
    exact ⟨entry, listed, runs⟩
  apply ((survey_decides entries).bind ?_).iff (and_iff_right there)
  intro s _ members_s
  have agree := members_s.trans (members_surveyed bound_entries)
  have wired := (Decides.mapM fun entry (_ : entry ∈ entries) =>
    wireItem_decides agree entry.1 entry.2).iff (D := Wireable (entries.map Prod.snd))
      (by rw [Wireable, List.forall_mem_map])
  apply wired.map
  intro js _ set_up
  rw [List.forall₂_map_left_iff]
  apply ((List.forall₂_and_left _ _).2 ⟨bound_entries, set_up⟩).imp
  rintro entry j ⟨bound_entry, configured, set_up_j⟩
  refine ⟨configured, fun address bound_address => ?_⟩
  obtain rfl : entry.1 = address := Option.some.inj (bound_entry.symm.trans bound_address)
  exact set_up_j

end Postgres

/-! ### Coherence -/

/-- The servers of a cluster and the members of its configuration store find each other. -/
structure PostgresCluster.Coherent (t : PostgresCluster) (topology : PostgresTopology)
    (items : List Item) : Prop where
  bound : ∀ item ∈ items, item.address.isSome = true
  /-- Each node runs its one server, with the settings that are in effect for it. -/
  engines : items.map (fun item => (item.containers.filter Postgres.isServer).map (·.runtime)) =
    (Postgres.engines t topology).map (fun engine => [engine]) ++
      List.replicate (Postgres.etcdCount t.addons + Postgres.pgbouncerCount t.addons) []
  /-- The members are numbered in the order of the items, and know how many they are. -/
  numbered : ∀ etcd, t.addons.etcd = some etcd →
    let size := AddonPlacement.size topology.replicasCount.toNat etcd.placement
    (items.flatMap Item.storeMembers).map (fun m =>
        (m.container.name, m.memberIndex.toNat, m.clusterSize.toNat)) =
      (List.range size).map fun k => (s!"etcd-{k + 1}", k + 1, size)
  memberless : t.addons.etcd = none → items.flatMap Item.storeMembers = []
  /-- All members have the same list, of all members. -/
  listed : ∃ list, ∀ m ∈ items.flatMap Item.storeMembers,
    m.container.env.get? "ETCD_INITIAL_CLUSTER" = some list ∧
      entriesOf list = (items.flatMap Item.storeMembers).map StoreMember.entry
  distinct : ((items.flatMap Item.storeMembers).map StoreMember.entry).Nodup
  /-- A member goes by the name and by the address under which it is listed. -/
  announced : ∀ m ∈ items.flatMap Item.storeMembers,
    m.container.env.get? "ETCD_NAME" = some m.container.name ∧
      m.container.env.get? "ETCD_INITIAL_ADVERTISE_PEER_URLS" = some m.peerUrl
  /-- A server that Patroni manages knows all members, and is reached at its own address. -/
  managed : ∀ item ∈ items, ∀ address, item.address = some address → ∀ c ∈ item.containers,
    c.runtime.Managed → items.flatMap Item.storeMembers ≠ [] ∧
      (∃ hosts, c.env.get? "PATRONI_ETCD3_HOSTS" = some hosts ∧
        entriesOf hosts = (items.flatMap Item.storeMembers).map StoreMember.clientHost) ∧
      c.env.get? "PATRONI_POSTGRESQL_CONNECT_ADDRESS" =
        some s!"{address.text}:{Port.postgres.toNat}" ∧
      c.env.get? "PATRONI_RESTAPI_CONNECT_ADDRESS" =
        some s!"{address.text}:{Port.patroniApi.toNat}"

/-- What does not depend on how the container of a member is set up is the same after wiring. -/
theorem Item.Configured.map_storeMembers {α : Type} {f : StoreMember → α} {i j : Item}
    (h : i.Configured j)
    (blind : ∀ m : StoreMember, ∀ d : Container, d.name = m.container.name →
      f { m with container := d } = f m) :
    j.storeMembers.map f = i.storeMembers.map f := by
  have each : ∀ (address : Address) (c d : Container), c.Configured d →
      (c.storeMember? address).map f = (d.storeMember? address).map f := by
    intro address c d same
    rw [Container.storeMember?.eq_def, Container.storeMember?.eq_def, same.runtime]
    cases c.runtime with
    | etcd memberIndex clusterSize clientPort peerPort =>
        exact congrArg some (blind ⟨address, c, _, _, _, _⟩ d same.name).symm
    | _ => rfl
  rw [storeMembers, storeMembers, h.address]
  cases i.address with
  | none => rfl
  | some address =>
      have same := map_eq_map_of_forall₂ h.containers (each address)
      simpa [List.map_filterMap, List.filterMap_map] using congrArg (List.filterMap id) same.symm

namespace StoreMember

/-- The name of a member reads back from its entry. -/
theorem name_of_entry {m : StoreMember} (plain : '=' ∉ m.container.name.toList) :
    m.entry.toList.takeWhile (· ≠ '=') = m.container.name.toList := by
  have written : m.entry.toList = m.container.name.toList ++ '=' :: m.peerUrl.toList := by
    simp [entry, ToString.toString]
  rw [written, List.takeWhile_append_of_pos]
  · simp
  · intro c mem
    have other : c ≠ '=' := fun same => plain (same ▸ mem)
    simpa using other

/-- A member whose name has no comma has none in its entry. -/
theorem comma_notMem_entry {m : StoreMember} (plain : ',' ∉ m.container.name.toList) :
    ',' ∉ m.entry.toList := by
  have digits := notMem_toDigits ',' rfl
  simp [entry, peerUrl, ToString.toString, plain, m.address.comma_notMem_text, digits]

/-- There is no comma in where clients reach a member. -/
theorem comma_notMem_clientHost (m : StoreMember) : ',' ∉ m.clientHost.toList := by
  have digits := notMem_toDigits ',' rfl
  simp [clientHost, ToString.toString, m.address.comma_notMem_text, digits]

section Members

variable {members : List StoreMember}

/-- The entries of the members are read back from the text that joins them. -/
theorem entriesOf_entries (plain : ∀ m ∈ members, ',' ∉ m.container.name.toList)
    (some_member : members ≠ []) :
    entriesOf (",".intercalate (members.map entry)) = members.map entry := by
  refine entriesOf_intercalate ?_ (by simpa using some_member)
  rw [List.forall_mem_map]
  exact fun m mem => comma_notMem_entry (plain m mem)

/-- The places where clients reach the members are read back from the text that joins them. -/
theorem entriesOf_clientHosts (some_member : members ≠ []) :
    entriesOf (",".intercalate (members.map clientHost)) = members.map clientHost := by
  refine entriesOf_intercalate ?_ (by simpa using some_member)
  rw [List.forall_mem_map]
  exact fun m _ => m.comma_notMem_clientHost

/-- Members of different names have different entries. -/
theorem nodup_entries (plain : ∀ m ∈ members, '=' ∉ m.container.name.toList)
    (distinct : (members.map (·.container.name)).Nodup) : (members.map entry).Nodup := by
  apply List.Nodup.of_map fun text : String => String.ofList (text.toList.takeWhile (· ≠ '='))
  have names : (members.map entry).map (fun text =>
      String.ofList (text.toList.takeWhile (· ≠ '='))) = members.map (·.container.name) := by
    rw [List.map_map]
    refine List.map_congr_left fun m mem => ?_
    rw [Function.comp_apply, name_of_entry (plain m mem), String.ofList_toList]
  rwa [names]

end Members

end StoreMember

namespace Postgres

variable {t : PostgresCluster} {topology : PostgresTopology} {items : List Item}

/-- The members that run are those that were planned. -/
theorem planned_members (bound : ∀ item ∈ items, item.address.isSome = true)
    (known : items.map Item.sketch = clusterSketches t topology) :
    (items.flatMap Item.storeMembers).map StoreMember.planned =
      (clusterSketches t topology).flatMap Sketch.members := by
  rw [← known, List.flatMap_map, List.map_flatMap]
  refine List.flatMap_congr fun item mem => ?_
  obtain ⟨address, bound_item⟩ := Option.isSome_iff_exists.1 (bound item mem)
  exact item.planned_storeMembers bound_item

/-- A cluster without a configuration store has no members of one. -/
theorem members_eq_nil (bound : ∀ item ∈ items, item.address.isSome = true)
    (known : items.map Item.sketch = clusterSketches t topology) (without : t.addons.etcd = none) :
    items.flatMap Item.storeMembers = [] := by
  have planned := planned_members bound known
  rw [members_clusterSketches_of_none without] at planned
  exact List.map_eq_nil_iff.1 planned

/-- The name of a container, and the numbers of the member that it runs. -/
def memberNumbers : String × Runtime → String × Nat × Nat
  | (name, .etcd memberIndex clusterSize _ _) => (name, memberIndex.toNat, clusterSize.toNat)
  | (name, _) => (name, 0, 0)

/-- The members that run are numbered from one. -/
theorem members_numbered (few : topology.replicasCount.toNat + 1 < UInt32.size)
    (bound : ∀ item ∈ items, item.address.isSome = true)
    (known : items.map Item.sketch = clusterSketches t topology) {etcd : EtcdAddon}
    (given : t.addons.etcd = some etcd)
    (resolves : AddonPlacement.Resolves topology.replicasCount.toNat etcd.placement) :
    (items.flatMap Item.storeMembers).map (fun m =>
        (m.container.name, m.memberIndex.toNat, m.clusterSize.toNat)) =
      (List.range (AddonPlacement.size topology.replicasCount.toNat etcd.placement)).map fun k =>
        (s!"etcd-{k + 1}", k + 1, AddonPlacement.size topology.replicasCount.toNat etcd.placement) := by
  have planned := congrArg (List.map memberNumbers) (planned_members bound known)
  rw [members_clusterSketches given resolves, List.map_map, List.map_map] at planned
  refine planned.trans (List.map_congr_left fun k mem => ?_)
  have below : k + 1 ≤ AddonPlacement.size topology.replicasCount.toNat etcd.placement :=
    List.mem_range.1 mem
  have fits := size_lt few etcd.placement
  have index : (UInt32.ofNat (k + 1)).toNat = k + 1 := UInt32.toNat_ofNat_of_lt' (by omega)
  have size := UInt32.toNat_ofNat_of_lt' fits
  simp only [Function.comp_apply, memberOf, memberNumbers, index, size]

/-- The names of the members differ, and no entry can end in them. -/
theorem names_members (few : topology.replicasCount.toNat + 1 < UInt32.size)
    (wellFormed : t.WellFormed topology) (bound : ∀ item ∈ items, item.address.isSome = true)
    (known : items.map Item.sketch = clusterSketches t topology) :
    ((items.flatMap Item.storeMembers).map (·.container.name)).Nodup ∧
      ∀ m ∈ items.flatMap Item.storeMembers,
        ',' ∉ m.container.name.toList ∧ '=' ∉ m.container.name.toList := by
  cases given : t.addons.etcd with
  | none => simp [members_eq_nil bound known given]
  | some etcd =>
      have numbered := members_numbered few bound known given (wellFormed.etcd etcd given).1
      have names := congrArg (List.map Prod.fst) numbered
      simp only [List.map_map, Function.comp_def] at names
      constructor
      · rw [names]
        refine List.nodup_range.map fun i j same => ?_
        simpa using same
      · intro m mem
        have named := List.mem_map_of_mem (f := fun m : StoreMember => m.container.name) mem
        rw [names] at named
        obtain ⟨k, -, name⟩ := List.mem_map.1 named
        have no_comma := notMem_toDigits ',' rfl (k + 1)
        have no_equals := notMem_toDigits '=' rfl (k + 1)
        rw [← name]
        simp [ToString.toString, no_comma, no_equals]

end Postgres

/-- A container is set up for members if it is for others that are listed alike. -/
theorem Container.SetUp.congr {members others : List StoreMember} {address : Address} {c : Container}
    (entries : others.map StoreMember.entry = members.map StoreMember.entry)
    (hosts : others.map StoreMember.clientHost = members.map StoreMember.clientHost)
    (h : c.SetUp others address) : c.SetUp members address := by
  have nonempty : others ≠ [] ↔ members ≠ [] := by
    rw [ne_eq, ← List.map_eq_nil_iff (f := StoreMember.entry), entries, List.map_eq_nil_iff]
  rw [SetUp, entries, hosts, nonempty] at h
  exact h

/-- Every member knows its own name, all entries and the state of a new cluster. -/
theorem Container.SetUp.of_mem {items : List Item} {members : List StoreMember}
    (setUp : ∀ item ∈ items, ∀ address, item.address = some address → ∀ c ∈ item.containers,
      c.SetUp members address) {m : StoreMember} (mem : m ∈ items.flatMap Item.storeMembers) :
    m.container.env.get? "ETCD_NAME" = some m.container.name ∧
      m.container.env.get? "ETCD_INITIAL_CLUSTER" =
        some (",".intercalate (members.map StoreMember.entry)) ∧
      m.container.env.get? "ETCD_INITIAL_ADVERTISE_PEER_URLS" = some m.peerUrl := by
  obtain ⟨item, listed, member⟩ := List.mem_flatMap.1 mem
  obtain ⟨bound_item, running, runs⟩ := item.of_mem_storeMembers member
  have found := setUp item listed m.address bound_item m.container running
  rwa [Container.SetUp, runs] at found

namespace PostgresCluster

variable {t : PostgresCluster} {topology : PostgresTopology}

/-- What is set up for its members is coherent. -/
theorem coherent_of_setUp {items : List Item} (few : topology.replicasCount.toNat + 1 < UInt32.size)
    (wellFormed : t.WellFormed topology) (bound : ∀ item ∈ items, item.address.isSome = true)
    (known : items.map Item.sketch = Postgres.clusterSketches t topology)
    (setUp : ∀ item ∈ items, ∀ address, item.address = some address → ∀ c ∈ item.containers,
      c.SetUp (items.flatMap Item.storeMembers) address) : t.Coherent topology items := by
  obtain ⟨distinct, plain⟩ := Postgres.names_members few wellFormed bound known
  constructor
  · exact bound
  · rw [← Postgres.servers_clusterSketches, ← known, List.map_map]
    rfl
  · exact fun etcd given =>
      Postgres.members_numbered few bound known given (wellFormed.etcd etcd given).1
  · exact fun without => Postgres.members_eq_nil bound known without
  · exact ⟨_, fun m mem => ⟨(Container.SetUp.of_mem setUp mem).2.1,
      StoreMember.entriesOf_entries (fun m mem => (plain m mem).1) (List.ne_nil_of_mem mem)⟩⟩
  · exact StoreMember.nodup_entries (fun m mem => (plain m mem).2) distinct
  · exact fun m mem =>
      ⟨(Container.SetUp.of_mem setUp mem).1, (Container.SetUp.of_mem setUp mem).2.2⟩
  · intro item mem address bound_item c listed managed
    have found := setUp item mem address bound_item c listed
    cases runs : c.runtime with
    | postgres role index settings =>
        rw [runs] at managed
        rw [Container.SetUp, runs] at found
        obtain ⟨some_member, hosts, connect⟩ := found managed
        exact ⟨some_member, ⟨_, hosts, StoreMember.entriesOf_clientHosts some_member⟩, connect⟩
    | _ =>
        rw [runs] at managed
        exact managed.elim

end PostgresCluster

/-! ### Placing -/

/-- A placement that resolves has room for at least one member. -/
theorem AddonPlacement.size_pos {replicas : Nat} {placement : Option AddonPlacement}
    (resolves : AddonPlacement.Resolves replicas placement) :
    0 < AddonPlacement.size replicas placement := by
  match placement, resolves with
  | some (.colocate .master _), _ => exact Nat.one_pos
  | some (.colocate .allNodes _), _ => exact Nat.succ_pos _
  | some (.colocate .replicas _), positive => exact positive
  | some (.colocate .replica _), _ => exact Nat.one_pos
  | some (.dedicated _ _), resolves => exact resolves.1

namespace Postgres

variable {t : PostgresCluster} {topology : PostgresTopology} {items : List Item}

/-- The servers that run are those of the topology. -/
theorem mem_engines (known : items.map Item.sketch = clusterSketches t topology) {engine : Runtime} :
    engine ∈ engines t topology ↔
      ∃ item ∈ items, ∃ c ∈ item.containers, isServer c = true ∧ c.runtime = engine := by
  have servers := servers_clusterSketches t topology
  rw [← known, List.map_map] at servers
  have all := congrArg List.flatten servers
  have engines_eq : engines t topology =
      items.flatMap fun item => (item.containers.filter isServer).map (·.runtime) := by
    have single : (engines t topology).flatMap (fun engine => [engine]) = engines t topology :=
      List.flatMap_singleton' _
    rw [List.flatten_append, List.flatten_replicate_nil, List.append_nil, ← List.flatMap_def,
      ← List.flatMap_def, single] at all
    exact all.symm
  rw [engines_eq]
  simp [and_assoc]

/-- Some item of a planned cluster runs the master. -/
theorem exists_master (known : items.map Item.sketch = clusterSketches t topology) :
    ∃ item ∈ items, item.containers.any isMaster = true := by
  obtain ⟨item, mem, c, running, -, runs⟩ := (mem_engines known).1 List.mem_cons_self
  refine ⟨item, mem, List.any_eq_true.2 ⟨c, running, ?_⟩⟩
  rw [isMaster, runs]

/-- A well-formed cluster has members exactly if it has a configuration store. -/
theorem members_ne_nil (wellFormed : t.WellFormed topology)
    (bound : ∀ item ∈ items, item.address.isSome = true)
    (known : items.map Item.sketch = clusterSketches t topology) :
    items.flatMap Item.storeMembers ≠ [] ↔ t.addons.etcd.isSome = true := by
  have planned := planned_members bound known
  cases given : t.addons.etcd with
  | none => simpa using members_eq_nil bound known given
  | some etcd =>
      have resolves := (wellFormed.etcd etcd given).1
      rw [members_clusterSketches given resolves] at planned
      have length := congrArg List.length planned
      rw [List.length_map, List.length_map, List.length_range] at length
      have positive := AddonPlacement.size_pos resolves
      rw [← length, List.length_pos_iff] at positive
      exact ⟨fun _ => rfl, fun _ => positive⟩

/-- A planned cluster can be wired exactly if it has a store or Patroni manages none of its servers. -/
theorem wireable_iff (wellFormed : t.WellFormed topology)
    (bound : ∀ item ∈ items, item.address.isSome = true)
    (known : items.map Item.sketch = clusterSketches t topology) :
    Wireable items ↔ ((∃ engine ∈ engines t topology, engine.Managed) → t.addons.etcd.isSome = true) := by
  rw [← members_ne_nil wellFormed bound known]
  constructor
  · rintro wireable ⟨engine, mem, managed⟩
    obtain ⟨item, listed, c, running, -, rfl⟩ := (mem_engines known).1 mem
    exact wireable item listed c running managed
  · intro needed item listed c running managed
    have server : isServer c = true := by
      rw [isServer.eq_def]
      cases runs : c.runtime <;> simp_all [Runtime.Managed]
    exact needed ⟨c.runtime, (mem_engines known).2 ⟨item, listed, c, running, server, rfl⟩, managed⟩

end Postgres

namespace PostgresCluster

variable {t : PostgresCluster} {topology : PostgresTopology} {network : Network}

/-- Wiring makes coherent. -/
theorem coherent_of_wired {items wired : List Item}
    (few : topology.replicasCount.toNat + 1 < UInt32.size) (wellFormed : t.WellFormed topology)
    (bound : ∀ item ∈ items, item.address.isSome = true)
    (known : items.map Item.sketch = Postgres.clusterSketches t topology)
    (related : List.Forall₂ (fun item j => item.Configured j ∧
      ∀ address, item.address = some address → ∀ d ∈ j.containers,
        d.SetUp (items.flatMap Item.storeMembers) address) items wired) : t.Coherent topology wired := by
  have source : ∀ j ∈ wired, ∃ item ∈ items, item.Configured j ∧
      ∀ address, item.address = some address → ∀ d ∈ j.containers,
        d.SetUp (items.flatMap Item.storeMembers) address := fun _ => exists_mem_of_forall₂ related
  have sketches : wired.map Item.sketch = items.map Item.sketch :=
    (map_eq_map_of_forall₂ related fun _ _ both => both.1.sketch.symm).symm
  have listed_alike : ∀ f : StoreMember → String,
      (∀ m : StoreMember, ∀ d : Container, d.name = m.container.name →
        f { m with container := d } = f m) →
      (items.flatMap Item.storeMembers).map f = (wired.flatMap Item.storeMembers).map f := by
    intro f blind
    rw [List.map_flatMap, List.map_flatMap, List.flatMap_def, List.flatMap_def]
    exact congrArg List.flatten
      (map_eq_map_of_forall₂ related fun _ _ both => (both.1.map_storeMembers blind).symm)
  have entries := listed_alike StoreMember.entry fun m d same => by
    simp [StoreMember.entry, StoreMember.peerUrl, same]
  have hosts := listed_alike StoreMember.clientHost fun _ _ _ => rfl
  apply coherent_of_setUp few wellFormed
  · intro j mem
    obtain ⟨item, listed, configured, -⟩ := source j mem
    rw [configured.address]
    exact bound item listed
  · exact sketches.trans known
  · intro j mem address bound_j d running
    obtain ⟨item, -, configured, setUp⟩ := source j mem
    exact (setUp address (configured.address ▸ bound_j) d running).congr entries hosts

/-- On a network that is large enough exactly those well-formed clusters are placed that have a
configuration store or no need of one, and coherently. -/
theorem place_decides (named : t.topology = some topology)
    (few : topology.replicasCount.toNat + 1 < UInt32.size)
    (enough : t.requiredAddresses ≤ network.ips.length) :
    Decides (t.WellFormed topology ∧
        ((∃ engine ∈ Postgres.engines t topology, engine.Managed) → t.addons.etcd.isSome = true))
      (fun intent => t.Coherent topology intent.items)
      ((DatabaseTemplate.postgresCluster t).place network) := by
  rw [DatabaseTemplate.place]
  apply ((Postgres.planCluster_decides named few).yields (Postgres.planCluster_yields t)).bind
  rintro planned wellFormed ⟨sketch_planned, names⟩
  have fits : planned.items.length ≤ network.ips.length := by
    change planned.size ≤ network.ips.length
    rwa [← ItemSet.length_names, names, Postgres.length_clusterNames]
  have known : (List.zipWith Item.bindTo planned.items network.ips).map Item.sketch =
      Postgres.clusterSketches t topology := (ItemSet.map_bound Item.sketch_bindTo fits).trans sketch_planned
  have bound : ∀ item ∈ List.zipWith Item.bindTo planned.items network.ips,
      item.address.isSome = true := by
    intro item mem
    obtain ⟨i, at_i⟩ := List.mem_iff_getElem?.1 mem
    obtain ⟨plain, address, -, -, rfl⟩ := List.getElem?_zipWith_eq_some.1 at_i
    rfl
  have some_items : ¬ planned.items.isEmpty = true := by
    obtain ⟨item, mem, -⟩ := Postgres.exists_master sketch_planned
    rw [List.isEmpty_iff]
    exact List.ne_nil_of_mem mem
  rw [if_neg some_items, ItemSet.bind_of_enough fits]
  apply ((Postgres.wire_decides bound (Postgres.exists_master known)).iff
    (Postgres.wireable_iff wellFormed bound known)).map
  rintro ⟨wired, connectionString⟩ - related
  exact coherent_of_wired few wellFormed bound known related

/-- A cluster without a topology is refused. -/
theorem place_of_topology_none (unnamed : t.topology = none) :
    (DatabaseTemplate.postgresCluster t).place network =
      .error (.configurationInvalid (.topologyMissing .postgres)) := by
  refine DatabaseTemplate.place_of_plan_error ?_
  rw [DatabaseTemplate.plan, Postgres.planCluster, unnamed]
  rfl

/-- What is placed of a cluster is coherent: its engines run with the settings that are in effect for
them, the members of its configuration store are numbered in the order of the items and are all given one
list, in which each of them finds itself, and a server that Patroni manages finds all of them, of which
there is then at least one. -/
theorem coherent_of_place {intent : PlacementIntent}
    (few : ∀ topology, t.topology = some topology → topology.replicasCount.toNat + 1 < UInt32.size)
    (placed : (DatabaseTemplate.postgresCluster t).place network = .ok intent) :
    ∃ topology, t.topology = some topology ∧ t.Coherent topology intent.items := by
  cases named : t.topology with
  | none =>
      rw [place_of_topology_none named] at placed
      cases placed
  | some topology =>
      have enough := DatabaseTemplate.enough_of_place placed
      exact ⟨topology, rfl, ((place_decides named (few topology named) enough).of_ok placed).2⟩

/-- A cluster with a configuration store next to its nodes, in which Patroni manages one replica only. -/
def managedReplica : PostgresCluster where
  topology := some {
    settings := default
    masterHardware := some ⟨4, 8, 100⟩
    replicaHardware := some ⟨2, 4, 100⟩
    replicasCount := 2
    monitor := false }
  replicaOverrides := [⟨1, none, some { PostgresSettings.default with patroni := true }⟩]
  addons := ⟨some ⟨0, some (.colocate .allNodes none), none, false⟩, none, none⟩

/-- The cluster with a managed replica has fewer nodes than numbers. -/
theorem few_managedReplica : ∀ topology, managedReplica.topology = some topology →
    topology.replicasCount.toNat + 1 < UInt32.size := by
  intro topology named
  obtain rfl := Option.some.inj named
  decide

/-- A cluster with a managed replica and a store of its own comes out coherent. -/
theorem managedReplica_coherent :
    let network : Network := ⟨⟨token 1, "net", .docker⟩, "10.0.0.0/29", [.ofNat 1, .ofNat 2, .ofNat 3]⟩
    ∃ topology intent, managedReplica.topology = some topology ∧
      (DatabaseTemplate.postgresCluster managedReplica).place network = .ok intent ∧
      managedReplica.Coherent topology intent.items := by
  intro network
  obtain ⟨intent, placed⟩ := exists_ok_of_isOk
    (show ((DatabaseTemplate.postgresCluster managedReplica).place network).isOk = true by
      decide +kernel)
  obtain ⟨topology, named, coherent⟩ := coherent_of_place few_managedReplica placed
  exact ⟨topology, intent, named, placed, coherent⟩

end PostgresCluster

end Testbed
