import Testbed.Proofs.Deployment.Reconciler
import Testbed.Proofs.Identity
import Testbed.Proofs.Placement.Item
import Testbed.Provision.Build

/-!
What building a placement promises: it keeps the network and the target of the run, and every machine is
named by a token that was drawn for it.
-/

namespace Testbed

namespace ProvisionSettings

variable {s : ProvisionSettings} {padding : Nat} {run : RunContext} {tokens : Nat}

/-- What keeps items from being built is never a failed cleaning up. -/
theorem databaseItems_error {items : List Item} {error : ProvisionError}
    (h : s.databaseItems run items tokens = .error error) : error.isCompensation = false := by
  induction items generalizing tokens with
  | nil => simp [databaseItems] at h
  | cons item rest ih =>
      simp only [databaseItems, bind, Except.bind] at h
      split at h
      · next failed =>
          obtain rfl := Except.error.inj h
          rw [databaseItem] at failed
          split at failed
          · obtain rfl := Except.error.inj failed
            rfl
          · cases failed
      · split at h
        · next failed =>
            obtain rfl := Except.error.inj h
            exact ih failed
        · cases h

/-- An error in finding the load generator's address is not one of compensation. -/
theorem loadAddress_error {network : Network} {used : List Address} {error : ProvisionError}
    (h : loadAddress padding network used = .error error) : error.isCompensation = false := by
  rw [loadAddress] at h
  split at h
  · obtain rfl := Except.error.inj h
    rfl
  · split at h
    · cases h
    · obtain rfl := Except.error.inj h
      rfl

/-- An error in building a placement is not one of compensation. -/
theorem build_error {intent : PlacementIntent} {hardware : Hardware} {error : ProvisionError}
    (h : s.build padding run intent hardware tokens = .error error) :
    error.isCompensation = false := by
  simp only [build, bind, Except.bind] at h
  split at h
  · next failed =>
      obtain rfl := Except.error.inj h
      exact databaseItems_error failed
  · split at h
    · next failed =>
        obtain rfl := Except.error.inj h
        exact loadAddress_error failed
    · cases h

/-- Building keeps the network and names the target of the run. -/
theorem build_eq_ok {intent : PlacementIntent} {hardware : Hardware} {placement : Placement}
    {drawn : Nat} (h : s.build padding run intent hardware tokens = .ok (placement, drawn)) :
    placement.network = intent.network ∧ placement.deployment.network = intent.network ∧
      placement.deployment.identifier.target = run.target ∧
      placement.deployment.vms = placement.items.map PlacedItem.vmTemplate := by
  obtain ⟨items, -, h⟩ := exists_ok_of_bind h
  obtain ⟨address, -, h⟩ := exists_ok_of_bind h
  obtain ⟨rfl, -⟩ := Prod.mk.inj (Except.ok.inj h)
  exact ⟨rfl, rfl, rfl, rfl⟩

/-! ### Tokens of machines -/

/-- Some names are tokens of ascending counts between `drawn` and `last`. -/
structure Drawn (drawn last : Nat) (names : List String) (counts : List Nat) : Prop where
  names : names = counts.map token
  ascending : counts.Pairwise (· < ·)
  between : ∀ n ∈ counts, drawn < n ∧ n ≤ last

namespace Drawn

variable {drawn middle last : Nat} {names more : List String} {counts others : List Nat}

/-- What is drawn first and what is drawn then is drawn in one go. -/
theorem append (h : Drawn drawn middle names counts) (g : Drawn middle last more others)
    (upTo : middle ≤ last) (since : drawn ≤ middle) :
    Drawn drawn last (names ++ more) (counts ++ others) := by
  refine ⟨by rw [h.names, g.names, List.map_append], ?_, fun n mem => ?_⟩
  · refine List.pairwise_append.2 ⟨h.ascending, g.ascending, fun m hm n hn => ?_⟩
    have := h.between m hm
    have := g.between n hn
    omega
  · rcases List.mem_append.1 mem with mem | mem
    · have := h.between n mem
      omega
    · have := g.between n mem
      omega

/-- One token is drawn by one count. -/
theorem one {count : Nat} (since : drawn < count) : Drawn drawn count [token count] [count] :=
  ⟨rfl, List.pairwise_singleton _ _, by simp [since]⟩

/-- Drawn names are distinct. -/
theorem nodup (h : Drawn drawn last names counts) : names.Nodup := by
  rw [h.names]
  exact (h.ascending.imp Nat.ne_of_lt).map _ fun _ _ ne same => ne (token_injective same)

end Drawn

/-- The machine of a placed item and its task are given tokens of their own. -/
theorem placedItem_drawn (s : ProvisionSettings) (run : RunContext) (name : String)
    (containers : List Container) (kinds : List TaskKind) (metadata : Table String)
    (hardware : Hardware) (address : Address) (tokens : Nat) :
    let placed := s.placedItem run name containers kinds metadata hardware address tokens
    tokens < placed.2 ∧ placed.1.vmTemplate.identifier.id = token placed.2 :=
  ⟨Nat.lt_succ_of_le (Nat.le_add_right _ _), rfl⟩

/-- The machine of a database item is named by the last token that is drawn for it. -/
theorem databaseItem_drawn {item : Item} {placed : PlacedItem} {last : Nat}
    (h : s.databaseItem run item tokens = .ok (placed, last)) :
    tokens < last ∧ placed.vmTemplate.identifier.id = token last := by
  rw [databaseItem] at h
  split at h
  · cases h
  · next address _ =>
      have drawn := s.placedItem_drawn run item.name item.containers (databaseTaskKinds item.containers)
        (item.metadata.insertAll (Worker.roleLabels run.runId Worker.databaseRole)) item.hardware
        address tokens
      rw [Except.ok.inj h] at drawn
      exact drawn

/-- The machines of the database items are named by different tokens. -/
theorem databaseItems_drawn {items : List Item} {placed : List PlacedItem} {last : Nat}
    (h : s.databaseItems run items tokens = .ok (placed, last)) :
    tokens ≤ last ∧
      ∃ counts, Drawn tokens last (placed.map (·.vmTemplate.identifier.id)) counts := by
  induction items generalizing tokens placed with
  | nil =>
      obtain ⟨rfl, rfl⟩ : [] = placed ∧ tokens = last := by simpa [databaseItems] using h
      exact ⟨Nat.le_refl _, [], rfl, .nil, by simp⟩
  | cons item rest ih =>
      obtain ⟨first, here, h⟩ := exists_ok_of_bind h
      obtain ⟨others, there, h⟩ := exists_ok_of_bind h
      obtain ⟨rfl, rfl⟩ := Prod.mk.inj (Except.ok.inj h)
      obtain ⟨before, named⟩ := databaseItem_drawn here
      obtain ⟨since, counts, drawn⟩ := ih there
      have joined := (Drawn.one before).append drawn since (Nat.le_of_lt before)
      rw [← named] at joined
      exact ⟨by omega, _, joined⟩

/-- The machines of a placement are named by tokens that were drawn while it was built. -/
theorem build_drawn {intent : PlacementIntent} {hardware : Hardware} {placement : Placement}
    {last : Nat} (h : s.build padding run intent hardware tokens = .ok (placement, last)) :
    tokens ≤ last ∧
      ∃ counts, Drawn tokens last (placement.deployment.vms.map (·.identifier.id)) counts := by
  obtain ⟨items, built, h⟩ := exists_ok_of_bind h
  obtain ⟨address, -, h⟩ := exists_ok_of_bind h
  obtain ⟨since, counts, drawn⟩ := databaseItems_drawn built
  obtain ⟨before, named⟩ := s.placedItem_drawn run Worker.loadRole [loadExporter address]
    TaskKind.all (.ofList (Worker.roleLabels run.runId Worker.loadRole)) hardware address items.2
  obtain ⟨rfl, rfl⟩ : _ = placement ∧ _ = last := by simpa [pure, Except.pure] using h
  have joined := drawn.append (Drawn.one before) (Nat.le_of_lt before) since
  rw [← named] at joined
  have upTo := Nat.le_trans since (Nat.le_of_lt before)
  refine ⟨Nat.le_succ_of_le upTo, _, ?_, joined.ascending, fun n mem => ?_⟩
  · rw [← joined.names]
    simp [loadItem]
  · have := joined.between n mem
    simp only [loadItem]
    omega

end ProvisionSettings

end Testbed
