import Testbed.Proofs.Placement.Availability

/-!
Which clusters are placed.

A cluster is placed exactly if its template is well-formed, the network has an address for each of its
items, and it has a configuration store if Patroni is to manage any of its servers.  Of the reasons to
refuse it, a shortage of addresses comes after all that planning checks and before what wiring checks.
-/

namespace Testbed

/-- Patroni is to manage the servers of a topology, or one whose settings are overridden. -/
def PostgresCluster.EnablesPatroni (t : PostgresCluster) (topology : PostgresTopology) : Prop :=
  topology.settings.patroni = true ∨
    ∃ o ∈ t.replicaOverrides, ∃ settings, o.settings = some settings ∧ settings.patroni = true

namespace Postgres

variable {t : PostgresCluster} {topology : PostgresTopology}

/-- An override takes effect on the replica that it is about. -/
theorem replicaSettings_of_mem (distinct : (t.replicaOverrides.map (·.replicaIndex)).Nodup)
    {o : ReplicaOverride} (mem : o ∈ t.replicaOverrides) :
    replicaSettings t topology o.replicaIndex.toNat = o.settings.getD topology.settings := by
  rw [replicaSettings, (overrideOf_eq_some distinct).2 ⟨mem, rfl⟩]
  rfl

/-- The settings of a replica are those of its override or those of the topology. -/
theorem replicaSettings_cases (t : PostgresCluster) (topology : PostgresTopology) (index : Nat) :
    replicaSettings t topology index = topology.settings ∨
      ∃ o ∈ t.replicaOverrides, o.settings = some (replicaSettings t topology index) := by
  rw [replicaSettings]
  cases found : overrideOf t index with
  | none => exact .inl rfl
  | some o =>
      cases given : o.settings with
      | none => simp [given]
      | some settings => exact .inr ⟨o, List.mem_of_find?_eq_some found, by simp [given]⟩

/-- Patroni manages a server of a well-formed cluster exactly if it is enabled somewhere. -/
theorem exists_managed_iff (wellFormed : t.WellFormed topology) :
    (∃ engine ∈ engines t topology, engine.Managed) ↔ t.EnablesPatroni topology := by
  constructor
  · rintro ⟨engine, mem, managed⟩
    rcases List.mem_cons.1 mem with rfl | replica
    · exact .inl managed
    · obtain ⟨index, -, rfl⟩ := List.mem_map.1 replica
      rcases replicaSettings_cases t topology index with shared | ⟨o, listed, own⟩
      · exact .inl (shared ▸ managed)
      · exact .inr ⟨o, listed, _, own, managed⟩
  · rintro (shared | ⟨o, listed, settings, own, enabled⟩)
    · exact ⟨_, List.mem_cons_self, shared⟩
    · have inRange : o.replicaIndex.toNat < topology.replicasCount.toNat :=
        UInt32.lt_iff_toNat_lt.1 (wellFormed.overridesInRange o listed)
      have effective : replicaSettings t topology o.replicaIndex.toNat = settings := by
        rw [replicaSettings_of_mem wellFormed.overridesDistinct listed, own]
        rfl
      refine ⟨_, List.mem_cons_of_mem _ (List.mem_map_of_mem (List.mem_range.2 inRange)), ?_⟩
      rw [effective]
      exact enabled

end Postgres

namespace PostgresCluster

variable {t : PostgresCluster} {network : Network}

/-- A cluster that can be planned has a topology, and is well-formed. -/
def Plannable (t : PostgresCluster) : Prop :=
  ∃ topology, t.topology = some topology ∧ t.WellFormed topology

/-- A cluster that can be placed on a network can be planned, fits on the network, and has a configuration
store if Patroni is enabled. -/
def Acceptable (t : PostgresCluster) (network : Network) : Prop :=
  ∃ topology, t.topology = some topology ∧ t.WellFormed topology ∧
    t.requiredAddresses ≤ network.ips.length ∧
    (t.EnablesPatroni topology → t.addons.etcd.isSome = true)

/-- A database that is accepted has addresses enough. -/
theorem Acceptable.fits (h : t.Acceptable network) : ¬ network.ips.length < t.requiredAddresses := by
  obtain ⟨topology, -, -, enough, -⟩ := h
  exact Nat.not_lt.2 enough

/-- What comes of placing a cluster whose topology is known. -/
theorem place_of_topology (network : Network) {topology : PostgresTopology}
    (named : t.topology = some topology)
    (few : topology.replicasCount.toNat + 1 < UInt32.size) :
    (t.Acceptable network ∧ ∃ intent, (DatabaseTemplate.postgresCluster t).place network = .ok intent) ∨
    (t.Plannable ∧ network.ips.length < t.requiredAddresses ∧
      (DatabaseTemplate.postgresCluster t).place network =
        .error (.allocationExhausted t.requiredAddresses network.ips.length)) ∨
    (¬ t.Acceptable network ∧ ¬ (t.Plannable ∧ network.ips.length < t.requiredAddresses) ∧
      ∃ d, (DatabaseTemplate.postgresCluster t).place network = .error (.configurationInvalid d)) := by
  have plan := Postgres.planCluster_decides named few
  have plannable : t.Plannable ↔ t.WellFormed topology := by simp [Plannable, named]
  have acceptable : t.Acceptable network ↔ t.WellFormed topology ∧
      t.requiredAddresses ≤ network.ips.length ∧
      (t.EnablesPatroni topology → t.addons.etcd.isSome = true) := by simp [Acceptable, named]
  rw [plannable, acceptable]
  by_cases wellFormed : t.WellFormed topology
  · rcases Nat.lt_or_ge network.ips.length t.requiredAddresses with short | enough
    · obtain ⟨items, planned, -⟩ := plan.exists_ok wellFormed
      exact .inr (.inl ⟨wellFormed, short, DatabaseTemplate.place_of_short planned short⟩)
    · have place := place_decides named few enough
      rw [Postgres.exists_managed_iff wellFormed] at place
      by_cases supplied : t.EnablesPatroni topology → t.addons.etcd.isSome = true
      · obtain ⟨intent, placed, -⟩ := place.exists_ok ⟨wellFormed, supplied⟩
        exact .inl ⟨⟨wellFormed, enough, supplied⟩, intent, placed⟩
      · have refused := place.exists_defect fun both => supplied both.2
        exact .inr (.inr ⟨fun all => supplied all.2.2, fun both => Nat.not_lt.2 enough both.2, refused⟩)
  · obtain ⟨d, refused⟩ := plan.exists_defect wellFormed
    exact .inr (.inr ⟨fun all => wellFormed all.1, fun both => wellFormed both.1, d,
      DatabaseTemplate.place_of_plan_error refused⟩)

/-- Exactly the acceptable clusters are placed.  Of those that are refused, the ones that can be planned
and do not fit on the network are refused for want of addresses, and all others for a defect of the
template. -/
theorem place_accepts_exactly
    (few : ∀ topology, t.topology = some topology → topology.replicasCount.toNat + 1 < UInt32.size) :
    ((∃ intent, (DatabaseTemplate.postgresCluster t).place network = .ok intent) ↔
      t.Acceptable network) ∧
    ∀ e, (DatabaseTemplate.postgresCluster t).place network = .error e →
      (t.Plannable ∧ network.ips.length < t.requiredAddresses →
        e = .allocationExhausted t.requiredAddresses network.ips.length) ∧
      (¬ (t.Plannable ∧ network.ips.length < t.requiredAddresses) → ∃ d, e = .configurationInvalid d) := by
  cases named : t.topology with
  | none =>
      have unplannable : ¬ t.Plannable := by simp [Plannable, named]
      have unacceptable : ¬ t.Acceptable network := by simp [Acceptable, named]
      rw [place_of_topology_none named]
      simp [unplannable, unacceptable]
  | some topology =>
      rcases place_of_topology network named (few topology named) with
        ⟨acceptable, intent, placed⟩ | ⟨plannable, short, refused⟩ | ⟨unacceptable, other, d, refused⟩
      · simp [placed, acceptable]
      · have unacceptable : ¬ t.Acceptable network := fun acceptable => acceptable.fits short
        simp [refused, unacceptable, plannable, short]
      · refine ⟨by simp [refused, unacceptable], fun e h => ?_⟩
        obtain rfl := Except.error.inj (refused.symm.trans h)
        exact ⟨fun both => absurd both other, fun _ => ⟨d, rfl⟩⟩

/-- The cluster whose replica Patroni manages is placed on three addresses, and does not fit on two. -/
theorem managedReplica_acceptable :
    let network : Network := ⟨⟨token 1, "net", .docker⟩, "10.0.0.0/29", [.ofNat 1, .ofNat 2, .ofNat 3]⟩
    managedReplica.Acceptable network ∧
      ∀ e, (DatabaseTemplate.postgresCluster managedReplica).place
        { network with ips := [.ofNat 1, .ofNat 2] } = .error e → e = .allocationExhausted 3 2 := by
  intro network
  have acceptable : managedReplica.Acceptable network := (place_accepts_exactly few_managedReplica).1.1
    (exists_ok_of_isOk (show ((DatabaseTemplate.postgresCluster managedReplica).place network).isOk = true
      by decide +kernel))
  refine ⟨acceptable, fun e refused => ?_⟩
  obtain ⟨topology, named, wellFormed, -⟩ := acceptable
  exact ((place_accepts_exactly few_managedReplica).2 e refused).1 ⟨⟨topology, named, wellFormed⟩, by decide⟩

end PostgresCluster

end Testbed
