import Testbed.Proofs.Placement.Plan
import Testbed.Proofs.Placement.Wire

/-!
From a template and a network to bound items.

The items of a template take the addresses of a network in the order of the roster, the first item the
first address.  Placing fails for want of addresses exactly when the network has fewer than the template
asks for, which a caller can know before any network is reserved.
-/

namespace Testbed

/-- An item has an address, and its containers are labelled with the address, with the name of the item
and with their own logical names. -/
structure Item.BoundTo (item : Item) (address : Address) : Prop where
  bound : item.address = some address
  labelled : ∀ c ∈ item.containers,
    c.metadata.get? Label.address = some address.text ∧
      c.metadata.get? Label.item = some item.name ∧
      c.metadata.get? Label.logicalName = some c.logicalName

namespace Item

/-- An item that was bound to an address is bound to it. -/
theorem bindTo_boundTo (item : Item) (address : Address) :
    (item.bindTo address).BoundTo address := by
  constructor
  · rfl
  · intro c mem
    obtain ⟨plain, -, rfl⟩ := List.mem_map.1 mem
    have item_ne_address : Label.item ≠ Label.address := by decide
    have logicalName_ne_address : Label.logicalName ≠ Label.address := by decide
    have logicalName_ne_item : Label.logicalName ≠ Label.item := by decide
    simp only [labels, Table.insertAll, List.foldl_cons, List.foldl_nil]
    refine ⟨?_, ?_, ?_⟩
    · rw [Table.get?_insert_of_ne _ _ logicalName_ne_address,
        Table.get?_insert_of_ne _ _ item_ne_address, Table.get?_insert_self]
    · rw [Table.get?_insert_of_ne _ _ logicalName_ne_item, Table.get?_insert_self]
      rfl
    · rw [Table.get?_insert_self]
      rfl

/-- Configuring the containers of an item leaves it bound. -/
theorem BoundTo.configured {i j : Item} {address : Address} (h : i.BoundTo address)
    (configured : i.Configured j) : j.BoundTo address := by
  constructor
  · rw [configured.address, h.bound]
  · intro d mem
    obtain ⟨c, running, same⟩ := exists_mem_of_forall₂ configured.containers mem
    have labelled := h.labelled c running
    rwa [same.metadata, configured.name, same.logicalName]

end Item

namespace ItemSet

/-- A network that is large enough gives each item an address. -/
theorem bind_of_enough {s : ItemSet} {network : Network} (enough : s.size ≤ network.ips.length) :
    s.bind network = .ok (List.zipWith Item.bindTo s.items network.ips) :=
  if_neg (Nat.not_lt.2 enough)

/-- With fewer addresses than items, the addresses are exhausted. -/
theorem bind_of_short {s : ItemSet} {network : Network} (short : network.ips.length < s.size) :
    s.bind network = .error (.allocationExhausted s.size network.ips.length) :=
  if_pos short

/-- Binding does not show in what has nothing to do with addresses. -/
theorem map_bound {α : Type} {f : Item → α} (blind : ∀ item address, f (item.bindTo address) = f item)
    {items : List Item} {addresses : List Address} (enough : items.length ≤ addresses.length) :
    (List.zipWith Item.bindTo items addresses).map f = items.map f := by
  induction items generalizing addresses with
  | nil => rfl
  | cons item rest ih =>
      cases addresses with
      | nil => simp at enough
      | cons address addresses =>
          have shorter : rest.length ≤ addresses.length := by simpa using enough
          simp [blind, ih shorter]

end ItemSet

namespace DatabaseTemplate

/-- The items of a template on a network. -/
structure Placed (t : DatabaseTemplate) (network : Network) (intent : PlacementIntent) : Prop where
  onNetwork : intent.network = network
  names : intent.items.map Item.name = t.roster
  bound : ∀ (i : Nat) (item : Item), intent.items[i]? = some item →
    ∃ address, network.ips[i]? = some address ∧ item.BoundTo address

/-- Items that were bound in order and then wired. -/
theorem placed_of_wired {t : DatabaseTemplate} {planned : ItemSet} {network : Network}
    {wired : List Item} (names : planned.names = t.roster)
    (enough : planned.size ≤ network.ips.length)
    (configured : List.Forall₂ Item.Configured
      (List.zipWith Item.bindTo planned.items network.ips) wired) (connectionString : String) :
    t.Placed network ⟨wired, network, connectionString⟩ := by
  constructor
  · rfl
  · rw [← names, ItemSet.names, ← ItemSet.map_bound (f := Item.name) (fun _ _ => rfl) enough]
    exact (map_eq_map_of_forall₂ configured fun _ _ same => same.name.symm).symm
  · intro i item at_i
    obtain ⟨plain, plain_at_i, same⟩ := exists_getElem?_of_forall₂ configured at_i
    obtain ⟨unbound, address, -, address_at_i, rfl⟩ := List.getElem?_zipWith_eq_some.1 plain_at_i
    exact ⟨address, address_at_i, (unbound.bindTo_boundTo address).configured same⟩

/-- On a network that is large enough a template is placed, or there is something wrong with it. -/
theorem place_of_enough {t : DatabaseTemplate} {network : Network}
    (enough : t.requiredAddresses ≤ network.ips.length) :
    Yields (t.Placed network) (t.place network) := by
  rw [place]
  apply t.plan_yields.bind
  intro planned names
  split
  · exact Yields.defect _
  · have size : planned.size ≤ network.ips.length := by
      rwa [← ItemSet.length_names, names, length_roster]
    rw [ItemSet.bind_of_enough size]
    apply (t.family.wire_yields _).bind
    rintro ⟨wired, connectionString⟩ configured
    apply Yields.pure
    exact placed_of_wired names size configured connectionString

/-- A template that can be planned runs short on a network that is too small, whatever its items are. -/
theorem place_of_short {t : DatabaseTemplate} {network : Network} {planned : ItemSet}
    (h : t.plan = .ok planned) (short : network.ips.length < t.requiredAddresses) :
    t.place network =
      .error (.allocationExhausted t.requiredAddresses network.ips.length) := by
  rw [← size_of_plan h] at short ⊢
  have some_items : ¬ planned.items.isEmpty := by
    intro none_left
    rw [ItemSet.size, List.isEmpty_iff.1 none_left] at short
    exact Nat.not_lt_zero _ short
  rw [place, h]
  change (if planned.items.isEmpty then _ else _) = _
  rw [if_neg some_items, ItemSet.bind_of_short short]
  rfl

/-- What cannot be planned cannot be placed, for the same reason. -/
theorem place_of_plan_error {t : DatabaseTemplate} {network : Network} {e : PlacementError}
    (h : t.plan = .error e) : t.place network = .error e := by
  rw [place, h]
  rfl

/-- Placing runs short exactly when the items of a template are more than the addresses of a network,
and says by how much. -/
theorem place_eq_shortage_iff {t : DatabaseTemplate} {network : Network} {required available : Nat} :
    t.place network = .error (.allocationExhausted required available) ↔
      (∃ planned, t.plan = .ok planned) ∧ network.ips.length < t.requiredAddresses ∧
        required = t.requiredAddresses ∧ available = network.ips.length := by
  constructor
  · intro h
    cases planned : t.plan with
    | error e =>
        obtain ⟨d, rfl⟩ := t.plan_yields.of_error planned
        rw [place_of_plan_error planned] at h
        cases h
    | ok items =>
        rcases Nat.lt_or_ge network.ips.length t.requiredAddresses with short | enough
        · rw [place_of_short planned short] at h
          cases h
          exact ⟨⟨items, rfl⟩, short, rfl, rfl⟩
        · obtain ⟨d, no_shortage⟩ := (place_of_enough enough).of_error h
          cases no_shortage
  · rintro ⟨⟨planned, h⟩, short, rfl, rfl⟩
    exact place_of_short h short

/-- Of a network, only its addresses decide how a template is placed. -/
theorem place_congr (t : DatabaseTemplate) {n m : Network} (same : m.ips = n.ips) :
    t.place m = (t.place n).map fun intent => { intent with network := m } := by
  have bound : ∀ s : ItemSet, s.bind m = s.bind n := fun s => by simp only [ItemSet.bind, same]
  simp only [place, bound]
  cases t.plan with
  | error e => rfl
  | ok planned =>
      simp only [bind, Except.bind]
      split
      · rfl
      · cases planned.bind n with
        | error e => rfl
        | ok items =>
            simp only
            cases t.family.wire items with
            | error e => rfl
            | ok pair => rfl

/-- A template that was placed fits on the network. -/
theorem enough_of_place {t : DatabaseTemplate} {network : Network} {intent : PlacementIntent}
    (h : t.place network = .ok intent) : t.requiredAddresses ≤ network.ips.length := by
  cases planned : t.plan with
  | error e =>
      rw [place_of_plan_error planned] at h
      cases h
  | ok items =>
      by_contra short
      rw [place_of_short planned (Nat.not_le.1 short)] at h
      cases h

/-- A placement that succeeds is planned, bound and wired. -/
theorem placed_of_place {t : DatabaseTemplate} {network : Network} {intent : PlacementIntent}
    (h : t.place network = .ok intent) : t.Placed network intent :=
  (place_of_enough (enough_of_place h)).of_ok h

/-- The items of a placed template have the names of the roster in the order of the roster, which no two
items share; each has the address of the network at its own place; and its containers are labelled with
that address, with its name and with their own logical names.

The roster does not depend on the overrides of a cluster, nor on addons that run next to nodes. -/
theorem place_follows_roster {t : DatabaseTemplate} {network : Network} {intent : PlacementIntent}
    (h : t.place network = .ok intent) :
    intent.items.map Item.name = t.roster ∧ t.roster.Nodup ∧
      ∀ (i : Nat) (item : Item), intent.items[i]? = some item →
        ∃ address, network.ips[i]? = some address ∧ item.BoundTo address := by
  have placed := placed_of_place h
  exact ⟨placed.names, t.nodup_roster, placed.bound⟩

/-- A cluster of a master and two replicas, one of them overridden, with a configuration store and a
pooler on machines of their own, and with backups of all nodes. -/
def sampleCluster : DatabaseTemplate :=
  .postgresCluster {
    topology := some {
      settings := default
      masterHardware := some ⟨4, 8, 100⟩
      replicaHardware := some ⟨2, 4, 100⟩
      replicasCount := 2
      monitor := true }
    replicaOverrides := [⟨1, some ⟨8, 16, 200⟩, none⟩]
    addons := {
      etcd := some ⟨1, some (.dedicated 1 (some ⟨1, 1, 10⟩)), none, true⟩
      pgbouncer := some
        ⟨true, 20, .transaction, none, none, some (.dedicated 1 (some ⟨1, 2, 10⟩)), false⟩
      backup := some
        ⟨true, some .allNodes, none, some ⟨"0 3 * * *", 7, .walG, .localDirectory "/backup"⟩⟩ } }

/-- The sample cluster is laid out as its roster says. -/
theorem sampleCluster_follows_roster :
    let network : Network := ⟨⟨token 1, "net", .docker⟩, "10.0.0.0/29",
      [.ofNat 1, .ofNat 2, .ofNat 3, .ofNat 4, .ofNat 5, .ofNat 6]⟩
    ∃ intent, sampleCluster.place network = .ok intent ∧
      intent.items.map Item.name = ["postgres-master", "postgres-replica-0", "postgres-replica-1",
        "etcd-dedicated-0", "pgbouncer-dedicated-0"] ∧
      ∀ item, intent.items[3]? = some item → item.BoundTo (.ofNat 4) := by
  intro network
  obtain ⟨intent, placed⟩ := exists_ok_of_isOk
    (show (sampleCluster.place network).isOk = true by decide +kernel)
  obtain ⟨names, -, bound⟩ := place_follows_roster placed
  refine ⟨intent, placed, ?_, ?_⟩
  · rw [names]
    decide +kernel
  · intro item at_3
    obtain ⟨address, address_at_3, item_bound⟩ := bound 3 item at_3
    obtain rfl : Address.ofNat 4 = address := by simpa [network] using address_at_3
    exact item_bound

end DatabaseTemplate

end Testbed
