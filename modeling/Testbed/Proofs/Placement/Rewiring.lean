import Testbed.Proofs.Placement.Availability

/-!
Wiring once, and wiring again.

Wiring puts a `Setup` into each container: variables that are set, arguments that are appended, and a port
for metrics where there is none.  What is put there depends on what a setup leaves alone, or on the one
variable that a setup only ever sets to what it reads back from it, so a second wiring puts the same setup
into each container, after which its variables and its ports are as they were.
-/

namespace Testbed

/-! ### Setups -/

/-- Settings leave the name of a container. -/
theorem Container.name_withEnvs (c : Container) (entries : List (String × String)) :
    (c.withEnvs entries).name = c.name := rfl

/-- The engines of a family. -/
def Family.isEngine : Family → Container → Bool
  | .postgres => Postgres.isServer
  | .picodata => Picodata.isNode

/-- `d` is `c` with variables set, with arguments appended if it is an engine of the family, and with at most
one port appended, for the metrics of a Picodata node. -/
structure Container.Extended (family : Family) (c d : Container) : Prop where
  configured : c.Configured d
  env : ∃ entries, d.env = c.env.insertAll entries
  args : ∃ arguments, d.args = c.args ++ arguments ∧ (arguments ≠ [] → family.isEngine c = true)
  ports : d.ports = c.ports ∨ family = .picodata ∧ Picodata.isNode c = true ∧
    ∃ port, d.ports = c.ports ++ [⟨"http-metrics", port⟩]

/-- `d` has the variables and the ports of `c`. -/
def Container.Agrees (c d : Container) : Prop := d.env = c.env ∧ d.ports = c.ports

/-- What wiring puts into a container. -/
structure Setup where
  env : List (String × String)
  args : List String
  /-- Where a container serves its metrics that does not say so yet. -/
  metrics : Option UInt16

namespace Setup

/-- The ports of a container, with a port for metrics if it needs one and has none. -/
def portsWith (ports : List ContainerPort) : Option UInt16 → List ContainerPort
  | none => ports
  | some port =>
      if ports.any (·.name = "http-metrics") then ports else ports ++ [⟨"http-metrics", port⟩]

/-- Put a setup into a container. -/
def apply (setup : Setup) (c : Container) : Container :=
  { c with
    env := c.env.insertAll setup.env
    args := c.args ++ setup.args
    ports := portsWith c.ports setup.metrics }

/-- A setup for a container of a family: only engines are given arguments, and only Picodata nodes ports. -/
structure Befits (setup : Setup) (family : Family) (c : Container) : Prop where
  args : setup.args ≠ [] → family.isEngine c = true
  metrics : setup.metrics ≠ none → family = .picodata ∧ Picodata.isNode c = true

/-- A setup leaves what a container was configured to be. -/
theorem configured_apply (setup : Setup) (c : Container) : c.Configured (setup.apply c) :=
  ⟨rfl, rfl, rfl, rfl, rfl, rfl, rfl, rfl⟩

/-- Ports to which one for metrics was added have one. -/
theorem any_portsWith (ports : List ContainerPort) (port : UInt16) :
    (portsWith ports (some port)).any (·.name = "http-metrics") = true := by
  rw [portsWith]
  split
  · assumption
  · simp

/-- A port for metrics is added once only. -/
theorem portsWith_again (ports : List ContainerPort) (metrics : Option UInt16) :
    portsWith (portsWith ports metrics) metrics = portsWith ports metrics := by
  cases metrics with
  | none => rfl
  | some port => exact if_pos (any_portsWith ports port)

/-- A setup that is put into a container again shows in nothing but its arguments. -/
theorem agrees_apply (setup : Setup) (c : Container) :
    (setup.apply c).Agrees (setup.apply (setup.apply c)) :=
  ⟨Table.insertAll_again _ _, portsWith_again _ _⟩

/-- A container that got the setup of its family is extended as the family may be. -/
theorem Befits.extended {setup : Setup} {family : Family} {c : Container} (h : setup.Befits family c) :
    c.Extended family (setup.apply c) := by
  refine ⟨setup.configured_apply c, ⟨_, rfl⟩, ⟨_, rfl, h.args⟩, ?_⟩
  change portsWith c.ports setup.metrics = c.ports ∨ _
  cases exposes : setup.metrics with
  | none => exact .inl rfl
  | some port =>
      obtain ⟨picodata, node⟩ := h.metrics (by simp [exposes])
      rw [portsWith]
      split
      · exact .inl rfl
      · exact .inr ⟨picodata, node, port, by rw [apply, exposes, portsWith, if_neg ‹_›]⟩

end Setup

/-- One setup is put into `c`, which gives `c'`, and into `d`, which gives `d'`. -/
def InStep (family : Family) (c c' d d' : Container) : Prop :=
  ∃ setup : Setup, setup.Befits family c ∧ c' = setup.apply c ∧ d' = setup.apply d

namespace InStep

variable {family : Family} {c c' d d' : Container}

theorem refl (family : Family) (c d : Container) : InStep family c c d d := by
  refine ⟨⟨[], [], none⟩, ⟨fun some_args => absurd rfl some_args, fun some_port => absurd rfl some_port⟩,
    ?_, ?_⟩ <;> simp [Setup.apply, Setup.portsWith, Table.insertAll]

/-- Variables put into both containers keep them in step. -/
theorem withEnvs (h : InStep family c c' d d') (entries : List (String × String)) :
    InStep family c (c'.withEnvs entries) d (d'.withEnvs entries) := by
  obtain ⟨⟨env, args, metrics⟩, befits, rfl, rfl⟩ := h
  refine ⟨⟨env ++ entries, args, metrics⟩, ⟨befits.args, befits.metrics⟩, ?_, ?_⟩ <;>
    simp [Setup.apply, Container.withEnvs, Table.insertAll_append]

/-- A variable put into both containers keeps them in step. -/
theorem withEnv (h : InStep family c c' d d') (key value : String) :
    InStep family c (c'.withEnv key value) d (d'.withEnv key value) :=
  h.withEnvs [(key, value)]

/-- Arguments may be appended to an engine. -/
theorem withArgs (h : InStep family c c' d d') (engine : family.isEngine c = true) (args : List String) :
    InStep family c (c'.withArgs args) d (d'.withArgs args) := by
  obtain ⟨⟨env, before, metrics⟩, befits, rfl, rfl⟩ := h
  refine ⟨⟨env, before ++ args, metrics⟩, ⟨fun _ => engine, befits.metrics⟩, ?_, ?_⟩ <;>
    simp [Setup.apply, Container.withArgs]

/-- A Picodata node may be given a port for its metrics, if it has none. -/
theorem exposing (h : InStep .picodata c c' d d') (node : Picodata.isNode c = true) (port : UInt16) :
    InStep .picodata c
      (if c'.ports.any (·.name = "http-metrics") then c' else c'.withPort "http-metrics" port) d
      (if d'.ports.any (·.name = "http-metrics") then d' else d'.withPort "http-metrics" port) := by
  obtain ⟨⟨env, args, metrics⟩, befits, rfl, rfl⟩ := h
  cases metrics with
  | none =>
      refine ⟨⟨env, args, some port⟩, ⟨befits.args, fun _ => ⟨rfl, node⟩⟩, ?_, ?_⟩ <;>
      · rw [Setup.apply, Setup.apply, Setup.portsWith, Setup.portsWith, Container.withPort]
        split <;> rfl
  | some before =>
      refine ⟨⟨env, args, some before⟩, befits, ?_, ?_⟩ <;>
        exact if_pos (Setup.any_portsWith _ before)

/-- A container that is in step with another one was extended. -/
theorem extended (h : InStep family c c' d d') : c.Extended family c' := by
  obtain ⟨setup, befits, rfl, -⟩ := h
  exact befits.extended

/-- What is put into a container once more shows in nothing but its arguments. -/
theorem agrees (h : InStep family c c' c' d') : c'.Agrees d' := by
  obtain ⟨setup, -, rfl, rfl⟩ := h
  exact setup.agrees_apply c

end InStep

/-! ### Containers of a Postgres database -/

namespace Postgres

variable {s : Survey} {c d : Container}

/-- What wiring puts into a server depends on the name of the server and on what it runs. -/
theorem wireServer_inStep {address : Address} {role : PostgresRole} {settings : PostgresSettings}
    (server : isServer c = true) (named : d.name = c.name)
    (supplied : settings.patroni = true → s.members ≠ []) :
    ∃ c' d', wireServer s address role settings c = .ok c' ∧
      wireServer s address role settings d = .ok d' ∧ InStep .postgres c c' d d' := by
  have start := InStep.refl .postgres c d
  rw [wireServer.eq_def, wireServer.eq_def]
  dsimp only
  by_cases managed : settings.patroni = true
  · have some_member : ¬ s.members.isEmpty = true := by simpa using supplied managed
    rw [if_pos managed, if_pos managed, if_neg some_member, if_neg some_member,
      Container.name_withEnvs, Container.name_withEnvs, named]
    refine ⟨_, _, rfl, rfl, ?_⟩
    split
    · exact (start.withEnvs _).withEnvs _
    · exact ((start.withEnvs _).withEnvs _).withEnv _ _
  · rw [if_neg managed, if_neg managed]
    refine ⟨_, _, rfl, rfl, ?_⟩
    cases role with
    | master => exact (start.withEnvs _).withArgs server _
    | replica => exact ((start.withEnvs _).withEnvs _).withArgs server _

/-- What wiring puts into a container depends on its name and on what it runs. -/
theorem wireContainer_inStep {address server : Address} {pooler : Option UInt16} (named : d.name = c.name)
    (runs_same : d.runtime = c.runtime) (supplied : c.runtime.Managed → s.members ≠ []) :
    ∃ c' d', wireContainer s address server pooler c = .ok c' ∧
      wireContainer s address server pooler d = .ok d' ∧ InStep .postgres c c' d d' := by
  have start := InStep.refl .postgres c d
  rw [wireContainer.eq_def, wireContainer.eq_def, runs_same]
  cases runs : c.runtime with
  | etcd memberIndex clusterSize clientPort peerPort =>
      dsimp only [wireEtcd]
      rw [named]
      exact ⟨_, _, rfl, rfl, start.withEnvs _⟩
  | postgres role index settings =>
      rw [runs] at supplied
      exact wireServer_inStep (by rw [isServer, runs]) named supplied
  | pgbouncer poolSize poolMode maxClientConn port => exact ⟨_, _, rfl, rfl, start.withEnvs _⟩
  | exporter kind port paths =>
      cases kind with
      | node => exact ⟨_, _, rfl, rfl, start⟩
      | postgres => exact ⟨_, _, rfl, rfl, start.withEnvs _⟩
      | pgbouncer =>
          cases pooler with
          | some port => exact ⟨_, _, rfl, rfl, start.withEnv _ _⟩
          | none => exact ⟨_, _, rfl, rfl, start⟩
  | backup config => exact ⟨_, _, rfl, rfl, start.withEnvs _⟩
  | picodata index settings => exact ⟨_, _, rfl, rfl, start⟩

/-- A container that has been wired is found as it is to be, when it is wired again. -/
theorem wireContainer_rewires {members : List StoreMember} (agree : s.members = members.map StoreMember.known)
    (address server : Address) (pooler : Option UInt16) (c : Container) :
    Decides (c.runtime.Managed → members ≠ [])
      (fun d => c.Extended .postgres d ∧ Decides True d.Agrees (wireContainer s address server pooler d))
      (wireContainer s address server pooler c) := by
  refine (wireContainer_decides agree address server pooler c).of_exists fun supplied => ?_
  have supplied_s : c.runtime.Managed → s.members ≠ [] := by simpa [agree] using supplied
  obtain ⟨d, _, wired, -, once⟩ := wireContainer_inStep rfl rfl supplied_s
  have configured := once.extended.configured
  obtain ⟨d', e, wired', again, twice⟩ :=
    wireContainer_inStep configured.name configured.runtime supplied_s
  obtain rfl : d = d' := Except.ok.inj (wired.symm.trans wired')
  refine ⟨d, wired, once.extended, ?_⟩
  rw [again]
  exact Decides.pure twice.agrees

end Postgres

/-! ### Containers of a Picodata database -/

namespace Picodata

/-- Where a node serves its metrics, if it is watched. -/
def listens (c : Container) : String := (c.env.get? httpListen).getD s!"0.0.0.0:{Port.picodataHttp.toNat}"

/-- Where the others reach a node. -/
def endpoint (address : Address) : String := s!"{address.text}:{Port.picodataIproto.toNat}"

/-- What a node is told of itself and of the others. -/
def told (peers : String) (address : Address) (item : String) : List (String × String) :=
  [("PICODATA_INSTANCE_NAME", item), ("PICODATA_PEER", peers), ("PICODATA_ADVERTISE", endpoint address),
    ("PICODATA_PG_LISTEN", s!"0.0.0.0:{Port.picodataPg.toNat}")]

/-- A node that has been told of the others and given its settings. -/
def joined (peers : String) (address : Address) (item : String) (settings : PicodataSettings)
    (c : Container) : Container :=
  let c := c.withEnvs (told peers address item)
  if settings.conf.isEmpty then c
  else (c.withEnv "PICODATA_CONF_JSON" (Json.write settings.conf.toDocument)).withArgs
    (Container.confArgs "--set" settings.conf)

variable {c c' d d' : Container}

/-- Joining its peers leaves what a node was configured to be. -/
theorem configured_joined (peers : String) (address : Address) (item : String)
    (settings : PicodataSettings) (c : Container) : c.Configured (joined peers address item settings c) := by
  have same := Container.Configured.refl c
  rw [joined]
  exact (same.withEnvs _).ite (((same.withEnvs _).withEnv _ _).withArgs _)

/-- Wiring joins a node to the others, and lets it serve its metrics if it is watched. -/
theorem wireContainer_node {index : UInt32} {settings : PicodataSettings}
    (runs : c.runtime = .picodata index settings) (peers : String) (address : Address) (item : String) :
    wireContainer peers address item c =
      if c.monitor then exposeMetrics (joined peers address item settings c)
      else joined peers address item settings c := by
  rw [← (configured_joined peers address item settings c).monitor, wireContainer.eq_def, runs]
  rfl

/-- Joining the others leaves alone whether and where a node is told to serve its metrics. -/
theorem env_joined (peers : String) (address : Address) (item : String) (settings : PicodataSettings)
    (c : Container) :
    (joined peers address item settings c).env.get? httpListen = c.env.get? httpListen := by
  have others : (c.withEnvs (told peers address item)).env.get? httpListen = c.env.get? httpListen :=
    Table.get?_insertAll_of_notMem _ (by simp [told, httpListen])
  rw [joined]
  split
  · exact others
  · exact (Table.get?_insert_of_ne _ _ (by simp [httpListen])).trans others

/-- Joining its peers leaves where a node listens. -/
theorem listens_joined (peers : String) (address : Address) (item : String) (settings : PicodataSettings)
    (c : Container) : listens (joined peers address item settings c) = listens c := by
  rw [listens, listens, env_joined]

/-- Serving its metrics, a node is found to serve them where it did. -/
theorem listens_exposeMetrics (c : Container) : listens (exposeMetrics c) = listens c := by
  rw [listens, exposeMetrics]
  split <;> simp [Container.withPort, Container.withArgs, Container.withEnv, listens]

/-- Joining its peers does the same to a node whatever was put into it before. -/
theorem joined_inStep (node : isNode c = true) (peers : String) (address : Address) (item : String)
    (settings : PicodataSettings) :
    InStep .picodata c (joined peers address item settings c) d (joined peers address item settings d) := by
  have start := InStep.refl .picodata c d
  rw [joined, joined]
  split
  · exact start.withEnvs _
  · exact ((start.withEnvs _).withEnv _ _).withArgs node _

/-- What makes a node serve its metrics depends on where it serves them. -/
theorem exposeMetrics_inStep (h : InStep .picodata c c' d d') (node : isNode c = true)
    (heard : listens d' = listens c') : InStep .picodata c (exposeMetrics c') d (exposeMetrics d') := by
  rw [exposeMetrics, exposeMetrics]
  rw [listens, listens] at heard
  rw [heard]
  exact ((h.withEnv _ _).withArgs node _).exposing node _

/-- What wiring puts into a container depends on what it runs, and on where it serves its metrics if it is
watched. -/
theorem wireContainer_inStep (peers : String) (address : Address) (item : String)
    (runs_same : d.runtime = c.runtime) (watched_same : d.monitor = c.monitor)
    (heard : listens d = listens c) :
    InStep .picodata c (wireContainer peers address item c) d (wireContainer peers address item d) := by
  have start := InStep.refl .picodata c d
  cases runs : c.runtime with
  | picodata index settings =>
      have node : isNode c = true := by rw [isNode, runs]
      have told := joined_inStep (d := d) node peers address item settings
      rw [wireContainer_node runs, wireContainer_node (runs_same.trans runs), watched_same]
      split
      · exact exposeMetrics_inStep told node (by rw [listens_joined, listens_joined, heard])
      · exact told
  | backup config =>
      rw [wireContainer.eq_def, wireContainer.eq_def, runs_same, runs]
      exact start.withEnvs _
  | _ =>
      rw [wireContainer.eq_def, wireContainer.eq_def, runs_same, runs]
      exact start

/-- Wiring leaves where a node listens. -/
theorem listens_wireContainer (peers : String) (address : Address) (item : String) (c : Container) :
    listens (wireContainer peers address item c) = listens c := by
  cases runs : c.runtime with
  | picodata index settings =>
      rw [wireContainer_node runs]
      split
      · rw [listens_exposeMetrics, listens_joined]
      · exact listens_joined _ _ _ _ _
  | backup config =>
      rw [wireContainer.eq_def, runs]
      exact congrArg (Option.getD · _) (Table.get?_insertAll_of_notMem _ (by simp [httpListen]))
  | _ => rw [wireContainer.eq_def, runs]

/-- Wiring extends a container, and wiring it once more changes none of its variables and ports. -/
theorem wireContainer_rewires (peers : String) (address : Address) (item : String) (c : Container) :
    c.Extended .picodata (wireContainer peers address item c) ∧
      (wireContainer peers address item c).Agrees
        (wireContainer peers address item (wireContainer peers address item c)) := by
  have configured := wireContainer_configured peers address item c
  have again := wireContainer_inStep peers address item configured.runtime configured.monitor
    (listens_wireContainer peers address item c)
  exact ⟨again.extended, again.agrees⟩

end Picodata

/-! ### Items -/

/-- `j` is `i` with its containers extended. -/
structure Item.Extended (family : Family) (i j : Item) : Prop where
  name : j.name = i.name
  hardware : j.hardware = i.hardware
  address : j.address = i.address
  metadata : j.metadata = i.metadata
  containers : List.Forall₂ (Container.Extended family) i.containers j.containers

/-- The containers of `j` have the variables and the ports of those of `i`. -/
def Item.Agrees (i j : Item) : Prop := List.Forall₂ Container.Agrees i.containers j.containers

/-- An item that was extended is configured as before. -/
theorem Item.Extended.configured {family : Family} {i j : Item} (h : i.Extended family j) :
    i.Configured j :=
  ⟨h.name, h.hardware, h.address, h.metadata, h.containers.imp fun _ _ extended => extended.configured⟩

/-- Wiring has what it needs: the items are bound, there is a master, or a node, and if Patroni is to manage a
server then there is a member of the configuration store. -/
def Family.Wireable (family : Family) (items : List Item) : Prop :=
  (∀ item ∈ items, item.address.isSome = true) ∧
  match family with
  | .postgres => (∃ item ∈ items, ∃ c ∈ item.containers, Postgres.isMaster c = true) ∧
      ((∃ item ∈ items, ∃ c ∈ item.containers, c.runtime.Managed) →
        ∃ item ∈ items, ∃ c ∈ item.containers, Postgres.isMember c = true)
  | .picodata => ∃ item ∈ items, ∃ c ∈ item.containers, Picodata.isNode c = true

/-! What is read off from what containers run can be read off from them once they are configured. -/

/-- What configured containers have in common, one list of them shows as the other does. -/
theorem any_configured {f : Container → Bool} {cs ds : List Container}
    (h : List.Forall₂ Container.Configured cs ds) (same : ∀ c d, c.Configured d → f d = f c) :
    ds.any f = cs.any f :=
  (any_eq_any_of_forall₂ h fun c d configured => (same c d configured).symm).symm

/-- What is taken from containers is the same after they were configured. -/
theorem filterMap_configured {α : Type} {f : Container → Option α} {cs ds : List Container}
    (h : List.Forall₂ Container.Configured cs ds) (same : ∀ c d, c.Configured d → f d = f c) :
    ds.filterMap f = cs.filterMap f := by
  induction h with
  | nil => rfl
  | cons head _ ih => rw [List.filterMap_cons, List.filterMap_cons, same _ _ head, ih]

namespace Postgres

variable {members : List StoreMember} {s : Survey}

/-- The master is still the master after wiring. -/
theorem isMaster_configured {c d : Container} (h : c.Configured d) : isMaster d = isMaster c := by
  rw [isMaster, isMaster, h.runtime]

/-- A pooler listens at the same port after wiring. -/
theorem poolerPort?_configured {c d : Container} (h : c.Configured d) : poolerPort? d = poolerPort? c := by
  rw [poolerPort?, poolerPort?, h.runtime]

/-- A member of the configuration store is the same member after wiring. -/
theorem etcdMember?_configured (address : Address) {c d : Container} (h : c.Configured d) :
    etcdMember? address d = etcdMember? address c := by
  rw [etcdMember?, etcdMember?, h.runtime, h.name]

/-- Wiring a bound item extends it, and wiring it once more changes nothing that counts. -/
theorem wireItem_rewires (agree : s.members = members.map StoreMember.known) (address : Address)
    (item : Item) :
    Decides (∀ c ∈ item.containers, c.runtime.Managed → members ≠ [])
      (fun j => item.Extended .postgres j ∧ Decides True j.Agrees (wireItem s address j))
      (wireItem s address item) := by
  rw [wireItem]
  apply (Decides.mapM fun c _ => wireContainer_rewires agree address _ _ c).map
  intro containers _ related
  have extended : List.Forall₂ (Container.Extended .postgres) item.containers containers :=
    related.imp fun _ _ both => both.1
  refine ⟨⟨rfl, rfl, rfl, rfl, extended⟩, ?_⟩
  have configured : List.Forall₂ Container.Configured item.containers containers :=
    extended.imp fun _ _ h => h.configured
  have servers : containers.any isServer = item.containers.any isServer :=
    any_configured configured fun _ _ h => h.isServer
  have poolers : containers.filterMap poolerPort? = item.containers.filterMap poolerPort? :=
    filterMap_configured configured fun _ _ h => poolerPort?_configured h
  rw [wireItem]
  dsimp only
  rw [servers, poolers]
  exact (Decides.mapM_related related fun _ _ both => both.2).map fun _ _ agreeing => agreeing

/-- What a survey finds, by what it looks for. -/
theorem survey_eq (entries : List (Address × Item)) :
    survey entries = ((entries.find? fun entry => entry.2.containers.any isMaster).map Prod.fst).elim
      (defect .masterNotFound) fun master => .ok
        { master
          members := entries.flatMap fun entry => entry.2.containers.filterMap (etcdMember? entry.1)
          pooler := (entries.flatMap fun entry =>
            (entry.2.containers.filterMap poolerPort?).map fun port => (entry.1, port)).head? } := by
  rw [survey]
  split
  · next missing =>
      have nobody : (entries.find? fun entry => entry.2.containers.any isMaster) = none := missing
      rw [nobody]
      rfl
  · next master item found =>
      have somebody : (entries.find? fun entry => entry.2.containers.any isMaster) = some (master, item) :=
        found
      rw [somebody]
      rfl

/-- A survey of items that have been wired finds what it found before. -/
theorem survey_configured {entries others : List (Address × Item)}
    (h : List.Forall₂ (fun entry other : Address × Item =>
      other.1 = entry.1 ∧ entry.2.Configured other.2) entries others) : survey others = survey entries := by
  have masters : (others.find? fun other => other.2.containers.any isMaster).map Prod.fst =
      (entries.find? fun entry => entry.2.containers.any isMaster).map Prod.fst := by
    induction h with
    | nil => rfl
    | @cons entry other _ _ head _ ih =>
        have runs : other.2.containers.any isMaster = entry.2.containers.any isMaster :=
          any_configured head.2.containers fun _ _ h => isMaster_configured h
        rw [List.find?_cons, List.find?_cons, runs]
        split
        · exact congrArg some head.1
        · exact ih
  have members : (others.flatMap fun other => other.2.containers.filterMap (etcdMember? other.1)) =
      entries.flatMap fun entry => entry.2.containers.filterMap (etcdMember? entry.1) := by
    refine (flatMap_eq_flatMap_of_forall₂ h fun entry other both => ?_).symm
    rw [both.1]
    exact (filterMap_configured both.2.containers fun _ _ h => etcdMember?_configured _ h).symm
  have poolers : (others.flatMap fun other =>
        (other.2.containers.filterMap poolerPort?).map fun port => (other.1, port)) =
      entries.flatMap fun entry =>
        (entry.2.containers.filterMap poolerPort?).map fun port => (entry.1, port) := by
    refine (flatMap_eq_flatMap_of_forall₂ h fun entry other both => ?_).symm
    have ports : other.2.containers.filterMap poolerPort? = entry.2.containers.filterMap poolerPort? :=
      filterMap_configured both.2.containers fun _ _ h => poolerPort?_configured h
    rw [both.1, ports]
  rw [survey_eq, survey_eq, masters, members, poolers]

/-- There are members of a store exactly if some item runs one. -/
theorem storeMembers_ne_nil {items : List Item} (bound : ∀ item ∈ items, item.address.isSome = true) :
    items.flatMap Item.storeMembers ≠ [] ↔ ∃ item ∈ items, ∃ c ∈ item.containers, isMember c = true := by
  have each : ∀ (address : Address) (c : Container),
      (c.storeMember? address).isSome = isMember c := by
    intro address c
    rw [Container.storeMember?.eq_def, isMember.eq_def]
    cases c.runtime <;> rfl
  constructor
  · intro some_member
    obtain ⟨m, mem⟩ := List.exists_mem_of_ne_nil _ some_member
    obtain ⟨item, listed, member⟩ := List.mem_flatMap.1 mem
    obtain ⟨-, running, runs⟩ := item.of_mem_storeMembers member
    exact ⟨item, listed, m.container, running, by rw [isMember, runs]⟩
  · rintro ⟨item, listed, c, running, member⟩
    obtain ⟨address, bound_item⟩ := Option.isSome_iff_exists.1 (bound item listed)
    rw [← each address] at member
    obtain ⟨m, found⟩ := Option.isSome_iff_exists.1 member
    have there : m ∈ item.storeMembers := by
      rw [Item.storeMembers, bound_item, Option.toList_some, List.flatMap_singleton]
      exact List.mem_filterMap.2 ⟨c, running, found⟩
    exact List.ne_nil_of_mem (List.mem_flatMap.2 ⟨item, listed, there⟩)

/-- The string by which clients connect to what a survey has found. -/
def connectionOf (s : Survey) : String :=
  let (host, port) := s.pooler.getD (s.master, Port.postgres)
  connectionString host port

/-- Items that were wired by a survey are wired by it again. -/
theorem wire_surveyed {entries : List (Address × Item)} {wired : List Item}
    (bound : ∀ entry ∈ entries, entry.2.address = some entry.1) (surveyed : survey entries = .ok s)
    (related : List.Forall₂ (fun entry j => entry.2.Extended .postgres j ∧
      Decides True j.Agrees (wireItem s entry.1 j)) entries wired) :
    Decides True (fun again => List.Forall₂ Item.Agrees wired again.1 ∧ again.2 = connectionOf s)
      (wire wired) := by
  have bound_wired : ∀ j ∈ wired, j.address.isSome = true := by
    intro j mem
    obtain ⟨entry, listed, extended, -⟩ := exists_mem_of_forall₂ related mem
    rw [extended.address, bound entry listed]
    rfl
  rw [wire]
  apply ((boundItems_decides wired).bind (D := True) ?_).iff (by simpa using bound_wired)
  rintro others - ⟨rfl, bound_others⟩
  -- The items of both wirings are found at the same addresses, so their surveys agree.
  have paired : List.Forall₂ (fun entry other : Address × Item => other.1 = entry.1 ∧
      entry.2.Configured other.2 ∧ Decides True other.2.Agrees (wireItem s other.1 other.2))
      entries others := by
    rw [List.forall₂_map_right_iff] at related
    have addressed := (List.forall₂_and_left _ _).2 ⟨bound_others,
      ((List.forall₂_and_left _ _).2 ⟨bound, related⟩).flip⟩
    apply addressed.flip.imp
    rintro entry other ⟨bound_other, bound_entry, extended, again⟩
    have same : other.1 = entry.1 :=
      Option.some.inj (bound_other.symm.trans (extended.address.trans bound_entry))
    exact ⟨same, extended.configured, same ▸ again⟩
  have again := survey_configured (paired.imp fun _ _ all => ⟨all.1, all.2.1⟩)
  rw [again, surveyed]
  apply (Decides.mapM_related paired fun _ _ all => all.2.2).map
  intro js _ agreeing
  exact ⟨List.forall₂_map_left_iff.2 agreeing, rfl⟩

/-- Items that have been wired are found as they are to be, when they are wired again. -/
theorem wire_rewires (items : List Item) :
    Decides (Family.postgres.Wireable items)
      (fun wired => List.Forall₂ (Item.Extended .postgres) items wired.1 ∧
        Decides True (fun again => List.Forall₂ Item.Agrees wired.1 again.1 ∧ again.2 = wired.2)
          (wire wired.1)) (wire items) := by
  rw [wire]
  have needs : (∀ item ∈ items, item.address.isSome = true) ∧
      ((∃ item ∈ items, item.containers.any isMaster = true) ∧ Wireable items) ↔
      Family.postgres.Wireable items := by
    refine and_congr_right fun bound => and_congr ?_ ?_
    · simp only [List.any_eq_true]
    · rw [← storeMembers_ne_nil bound]
      constructor
      · rintro wireable ⟨item, mem, c, running, managed⟩
        exact wireable item mem c running managed
      · exact fun needed item mem c running managed => needed ⟨item, mem, c, running, managed⟩
  apply ((boundItems_decides items).bind ?_).iff needs
  rintro entries - ⟨rfl, bound⟩
  have masters : (∃ entry ∈ entries, entry.2.containers.any isMaster = true) ↔
      ∃ item ∈ entries.map Prod.snd, item.containers.any isMaster = true := by
    simp only [List.mem_map, exists_exists_and_eq_and]
  apply ((survey_decides entries).result.bind ?_).iff (and_congr_left' masters)
  rintro s - ⟨members_s, surveyed⟩
  have agree := members_s.trans (members_surveyed bound)
  have wired := (Decides.mapM fun entry (_ : entry ∈ entries) =>
    wireItem_rewires agree entry.1 entry.2).iff (D := Wireable (entries.map Prod.snd))
      (by rw [Wireable, List.forall_mem_map])
  apply wired.map
  intro js _ related
  rw [List.forall₂_map_left_iff]
  exact ⟨related.imp fun _ _ both => both.1, wire_surveyed bound surveyed related⟩

end Postgres

namespace Picodata

/-- A node is still a node after wiring. -/
theorem isNode_configured {c d : Container} (h : c.Configured d) : isNode d = isNode c := by
  rw [isNode, isNode, h.runtime]

/-- The addresses of the nodes are found again. -/
theorem nodeAddresses_configured {items wired : List Item} (h : List.Forall₂ Item.Configured items wired) :
    nodeAddresses wired = nodeAddresses items := by
  rw [nodeAddresses, nodeAddresses]
  induction h with
  | nil => rfl
  | @cons item j _ _ head _ ih =>
      have nodes : j.containers.any isNode = item.containers.any isNode :=
        any_configured head.containers fun _ _ h => isNode_configured h
      have address : j.boundAddress = item.boundAddress := by
        rw [Item.boundAddress, Item.boundAddress, head.address, head.name]
      rw [List.filter_cons, List.filter_cons, nodes]
      split
      · rw [List.mapM_cons, List.mapM_cons, address, ih]
      · exact ih

/-- The addresses of the nodes are known exactly if each item with a node is bound. -/
theorem nodeAddresses_decides (items : List Item) :
    Decides (∀ item ∈ items, item.containers.any isNode = true → item.address.isSome = true)
      (fun addresses => List.Forall₂ (fun item address => item.address = some address)
        (items.filter fun item => item.containers.any isNode) addresses) (nodeAddresses items) := by
  have each : ∀ item ∈ items.filter (fun item => item.containers.any isNode),
      Decides (item.address.isSome = true) (fun address => item.address = some address)
        item.boundAddress := by
    intro item _
    rw [Item.boundAddress]
    cases bound : item.address with
    | none => exact (Decides.defect _).iff (by simp)
    | some address => exact (Decides.pure rfl).iff (by simp)
  rw [nodeAddresses]
  apply (Decides.mapM each).iff
  simp [List.mem_filter]

/-- The list by which the nodes at these addresses find each other. -/
def peersOf (addresses : List Address) : String :=
  ",".intercalate (addresses.map endpoint)

/-- Set up the containers of an item. -/
def wireItem (peers : String) (item : Item) : Except PlacementError Item := do
  let address ← item.boundAddress
  pure { item with containers := item.containers.map (wireContainer peers address item.name) }

/-- A bound item is wired one container after the other. -/
theorem wireItem_of_bound {item : Item} {address : Address} (bound : item.address = some address)
    (peers : String) : wireItem peers item =
      .ok { item with containers := item.containers.map (wireContainer peers address item.name) } := by
  rw [wireItem, Item.boundAddress, bound]
  rfl

/-- Wiring an item takes its address only, extends it, and wiring it once more changes nothing
that counts. -/
theorem wireItem_rewires (peers : String) (item : Item) :
    Decides (item.address.isSome = true)
      (fun j => item.Extended .picodata j ∧ Decides True j.Agrees (wireItem peers j)) (wireItem peers item) := by
  cases bound : item.address with
  | none =>
      rw [wireItem, Item.boundAddress, bound]
      exact (Decides.defect _).iff (by simp)
  | some address =>
      rw [wireItem_of_bound bound]
      refine (Decides.pure ⟨⟨rfl, rfl, rfl, rfl, ?_⟩, ?_⟩).iff (by simp)
      · rw [List.forall₂_map_right_iff, List.forall₂_same]
        exact fun c _ => (wireContainer_rewires peers address item.name c).1
      · have again : ∀ containers : List Container, wireItem peers { item with containers } =
            .ok { item with containers := containers.map (wireContainer peers address item.name) } :=
          fun containers =>
            wireItem_of_bound (show Item.address { item with containers } = some address from bound) peers
        rw [again]
        apply Decides.pure
        change List.Forall₂ _ _ _
        rw [List.forall₂_map_right_iff, List.forall₂_same, List.forall_mem_map]
        exact fun c _ => (wireContainer_rewires peers address item.name c).2

/-- Items that have been wired are found as they are to be, when they are wired again. -/
theorem wire_rewires (items : List Item) :
    Decides (Family.picodata.Wireable items)
      (fun wired => List.Forall₂ (Item.Extended .picodata) items wired.1 ∧
        Decides True (fun again => List.Forall₂ Item.Agrees wired.1 again.1 ∧ again.2 = wired.2)
          (wire wired.1)) (wire items) := by
  rw [wire]
  have needs : (∀ item ∈ items, item.containers.any isNode = true → item.address.isSome = true) ∧
      ((∃ item ∈ items, item.containers.any isNode = true) ∧ ∀ item ∈ items, item.address.isSome = true) ↔
      Family.picodata.Wireable items := by
    rw [Family.Wireable, and_comm (a := ∀ item ∈ items, item.address.isSome = true)]
    simp only [List.any_eq_true]
    exact ⟨fun all => all.2, fun all => ⟨fun item mem _ => all.2 item mem, all⟩⟩
  apply ((nodeAddresses_decides items).result.bind ?_).iff needs
  rintro addresses - ⟨related, found⟩
  cases addresses with
  | nil =>
      have nodeless := List.filter_eq_nil_iff.1 (List.forall₂_nil_right_iff.1 related)
      refine (Decides.defect _).iff ⟨False.elim, ?_⟩
      rintro ⟨⟨item, mem, node⟩, -⟩
      exact nodeless item mem node
  | cons address rest =>
      have node : ∃ item ∈ items, item.containers.any isNode = true := by
        obtain ⟨item, mem, -⟩ := exists_mem_of_forall₂ related List.mem_cons_self
        exact ⟨item, List.mem_filter.1 mem⟩
      apply ((Decides.mapM fun item (_ : item ∈ items) =>
        wireItem_rewires (peersOf (address :: rest)) item).iff
        (and_iff_right node).symm).map
      intro wired _ both
      have extended : List.Forall₂ (Item.Extended .picodata) items wired := both.imp fun _ _ h => h.1
      refine ⟨extended, ?_⟩
      dsimp only
      rw [wire, nodeAddresses_configured (extended.imp fun _ _ h => h.configured), found]
      apply (Decides.mapM_related both fun _ _ h => h.2).map
      exact fun _ _ agreeing => ⟨agreeing, rfl⟩

end Picodata

/-- Wiring only configures, and only once.  Whatever the items, it succeeds exactly if all of them are bound,
there is a master or a node to connect to, and no server is left to Patroni without a member of the
configuration store; then the items and their containers are what they were, with variables set, arguments
appended to engines and ports appended for the metrics of Picodata nodes; and a second wiring gives the same
connection string and finds all variables and ports as they are to be. -/
theorem Family.wiring_only_configures (family : Family) (items : List Item) :
    Decides (family.Wireable items)
      (fun (wired, connection) => List.Forall₂ (Item.Extended family) items wired ∧
        ∃ again, family.wire wired = .ok (again, connection) ∧ List.Forall₂ Item.Agrees wired again)
      (family.wire items) := by
  have rewires : Decides (family.Wireable items)
      (fun wired => List.Forall₂ (Item.Extended family) items wired.1 ∧
        Decides True (fun again => List.Forall₂ Item.Agrees wired.1 again.1 ∧ again.2 = wired.2)
          (family.wire wired.1)) (family.wire items) := by
    cases family with
    | postgres => exact Postgres.wire_rewires items
    | picodata => exact Picodata.wire_rewires items
  apply rewires.mono
  rintro ⟨wired, connection⟩ ⟨extended, again⟩
  obtain ⟨⟨items_again, connection_again⟩, wired_again, agreeing, same⟩ := again.exists_ok trivial
  obtain rfl : connection_again = connection := same
  exact ⟨extended, items_again, wired_again, agreeing⟩

end Testbed
