import Mathlib.Data.List.Forall2
import Testbed.Placement.Intent
import Testbed.Proofs.Placement.Item

/-!
What wiring may change.

Wiring comes after binding and sets variables, arguments and ports of the containers.  It neither adds
items nor moves them, and what identifies a container, what it runs and the labels that binding put on it
stay as they are.
-/

namespace Testbed

/-- `d` is `c` with other variables, arguments and ports. -/
structure Container.Configured (c d : Container) : Prop where
  id : d.id = c.id
  name : d.name = c.name
  image : d.image = c.image
  command : d.command = c.command
  volumes : d.volumes = c.volumes
  metadata : d.metadata = c.metadata
  monitor : d.monitor = c.monitor
  runtime : d.runtime = c.runtime

namespace Container.Configured

variable {c d : Container}

theorem refl (c : Container) : c.Configured c := ⟨rfl, rfl, rfl, rfl, rfl, rfl, rfl, rfl⟩

/-- Variables leave what a container was configured to be. -/
theorem withEnvs (h : c.Configured d) (entries : List (String × String)) :
    c.Configured (d.withEnvs entries) :=
  ⟨h.id, h.name, h.image, h.command, h.volumes, h.metadata, h.monitor, h.runtime⟩

theorem withEnv (h : c.Configured d) (key value : String) : c.Configured (d.withEnv key value) :=
  ⟨h.id, h.name, h.image, h.command, h.volumes, h.metadata, h.monitor, h.runtime⟩

theorem withArgs (h : c.Configured d) (args : List String) : c.Configured (d.withArgs args) :=
  ⟨h.id, h.name, h.image, h.command, h.volumes, h.metadata, h.monitor, h.runtime⟩

theorem withPort (h : c.Configured d) (name : String) (port : UInt16) :
    c.Configured (d.withPort name port) :=
  ⟨h.id, h.name, h.image, h.command, h.volumes, h.metadata, h.monitor, h.runtime⟩

/-- Either of two ways to configure a container leaves what it is. -/
theorem ite {p : Prop} [Decidable p] {e : Container} (h : c.Configured d) (h' : c.Configured e) :
    c.Configured (if p then d else e) := by
  split
  · exact h
  · exact h'

/-- A container that has been configured goes by the same logical name. -/
theorem logicalName (h : c.Configured d) : d.logicalName = c.logicalName := by
  rw [Container.logicalName, Container.logicalName, h.name, h.id]

end Container.Configured

/-- `j` is `i` with its containers configured. -/
structure Item.Configured (i j : Item) : Prop where
  name : j.name = i.name
  hardware : j.hardware = i.hardware
  address : j.address = i.address
  metadata : j.metadata = i.metadata
  containers : List.Forall₂ Container.Configured i.containers j.containers

/-- The address of a bound item is found, and there is a defect otherwise. -/
theorem Item.boundAddress_yields (item : Item) :
    Yields (fun address => item.address = some address) item.boundAddress := by
  rw [boundAddress]
  cases item.address with
  | none => exact Yields.defect _
  | some address => exact Yields.pure rfl

namespace Postgres

/-- Wiring a server configures it, or reports a defect. -/
theorem wireServer_yields (s : Survey) (address : Address) (role : PostgresRole)
    (settings : PostgresSettings) (c : Container) :
    Yields c.Configured (wireServer s address role settings c) := by
  rw [wireServer.eq_def]
  have named := (Container.Configured.refl c).withEnvs
    [("POSTGRES_USER", user), ("POSTGRES_PASSWORD", password), ("POSTGRES_DB", database)]
  dsimp only
  split
  · split
    · exact Yields.defect _
    · apply Yields.pure
      split
      · exact named.withEnvs _
      · exact (named.withEnvs _).withEnv _ _
  · apply Yields.pure
    cases role with
    | master => exact named.withArgs _
    | replica => exact (named.withEnvs _).withArgs _

/-- Wiring a container configures it, or reports a defect. -/
theorem wireContainer_yields (s : Survey) (address server : Address) (pooler : Option UInt16)
    (c : Container) : Yields c.Configured (wireContainer s address server pooler c) := by
  have same := Container.Configured.refl c
  rw [wireContainer.eq_def]
  match c.runtime with
  | .etcd _ _ clientPort peerPort => exact Yields.pure (same.withEnvs _)
  | .postgres role _ settings => exact wireServer_yields s address role settings c
  | .pgbouncer .. => exact Yields.pure (same.withEnvs _)
  | .exporter .postgres _ _ => exact Yields.pure (same.withEnvs _)
  | .exporter .pgbouncer _ _ =>
      cases pooler with
      | some port => exact Yields.pure (same.withEnv _ _)
      | none => exact Yields.pure same
  | .backup _ => exact Yields.pure (same.withEnvs _)
  | .exporter .node _ _ => exact Yields.pure same
  | .picodata .. => exact Yields.pure same

/-- Wiring an item configures its containers, or reports a defect. -/
theorem wireItem_yields (s : Survey) (address : Address) (item : Item) :
    Yields item.Configured (wireItem s address item) := by
  rw [wireItem]
  apply (Yields.mapM fun c _ => wireContainer_yields s address _ _ c).bind
  intro containers configured
  apply Yields.pure
  exact ⟨rfl, rfl, rfl, rfl, configured⟩

/-- The bound items are the items, or there is a defect. -/
theorem boundItems_yields (items : List Item) :
    Yields (fun bound => items = bound.map Prod.snd) (boundItems items) := by
  have each : ∀ item ∈ items, Yields (fun bound : Address × Item => item = bound.2)
      (do pure (← item.boundAddress, item)) :=
    fun item _ => item.boundAddress_yields.bind fun _ _ => Yields.pure rfl
  apply (Yields.mapM each).mono
  intro bound related
  rwa [← List.forall₂_eq_eq_eq, List.forall₂_map_right_iff]

/-- A survey fails because of a defect only. -/
theorem survey_yields (items : List (Address × Item)) : Yields (fun _ => True) (survey items) := by
  rw [survey]
  split
  · exact Yields.defect _
  · exact Yields.pure trivial

/-- Wiring configures the items, or reports a defect. -/
theorem wire_yields (items : List Item) :
    Yields (fun wired => List.Forall₂ Item.Configured items wired.1) (wire items) := by
  rw [wire]
  apply (boundItems_yields items).bind
  rintro bound rfl
  apply (survey_yields bound).bind
  intro s _
  apply (Yields.mapM fun entry _ => wireItem_yields s entry.1 entry.2).bind
  intro wired configured
  apply Yields.pure
  exact List.forall₂_map_left_iff.2 configured

end Postgres

namespace Picodata

/-- Exposing metrics leaves what a node was configured to be. -/
theorem exposeMetrics_configured {c d : Container} (h : c.Configured d) :
    c.Configured (exposeMetrics d) := by
  rw [exposeMetrics]
  apply Container.Configured.ite
  · exact (h.withEnv _ _).withArgs _
  · exact ((h.withEnv _ _).withArgs _).withPort _ _

/-- Wiring a container leaves what it was configured to be. -/
theorem wireContainer_configured (peers : String) (address : Address) (item : String)
    (c : Container) : c.Configured (wireContainer peers address item c) := by
  have same := Container.Configured.refl c
  have exposed : ∀ d, c.Configured d → c.Configured (if d.monitor then exposeMetrics d else d) :=
    fun _ h => (exposeMetrics_configured h).ite h
  rw [wireContainer.eq_def]
  split
  · apply exposed
    apply Container.Configured.ite
    · exact same.withEnvs _
    · exact ((same.withEnvs _).withEnv _ _).withArgs _
  · exact same.withEnvs _
  · exact same

/-- The addresses of the nodes are known, or there is a defect. -/
theorem nodeAddresses_yields (items : List Item) :
    Yields (fun _ => True) (nodeAddresses items) := by
  rw [nodeAddresses]
  exact (Yields.mapM fun item _ => item.boundAddress_yields).mono fun _ _ => trivial

/-- Wiring configures the items, or reports a defect. -/
theorem wire_yields (items : List Item) :
    Yields (fun wired => List.Forall₂ Item.Configured items wired.1) (wire items) := by
  rw [wire]
  apply (nodeAddresses_yields items).bind
  intro addresses _
  cases addresses with
  | nil => exact Yields.defect _
  | cons first rest =>
      have each : ∀ peers : String, ∀ item ∈ items, Yields item.Configured (do
          let address ← item.boundAddress
          pure { item with
            containers := item.containers.map (wireContainer peers address item.name) }) := by
        intro peers item _
        apply item.boundAddress_yields.bind
        intro address _
        apply Yields.pure
        refine ⟨rfl, rfl, rfl, rfl, ?_⟩
        rw [List.forall₂_map_right_iff, List.forall₂_same]
        exact fun c _ => wireContainer_configured peers address item.name c
      apply (Yields.mapM (each _)).bind
      intro wired configured
      exact Yields.pure configured

end Picodata

/-- Wiring configures each item in its place, or reports a defect. -/
theorem Family.wire_yields (family : Family) (items : List Item) :
    Yields (fun wired => List.Forall₂ Item.Configured items wired.1) (family.wire items) := by
  cases family with
  | postgres => exact Postgres.wire_yields items
  | picodata => exact Picodata.wire_yields items

end Testbed
