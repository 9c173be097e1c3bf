import Testbed.Network.Pool
import Testbed.Proofs.Network.Allocation
import Testbed.Proofs.Session

/-!
What a reservation in a pool does, and what any number of reservations and returns leaves in the pools.

A reservation that succeeds adds one text to the set of its pool and changes nothing else; one that fails
changes no stock at all.  The text it adds was not there: the allocator keeps away from every block of the
pool, and the text of the chosen subnet reads back as that subnet.
-/

namespace Testbed

namespace Pool

/-- The key of a pool is made of its target and its name. -/
theorem setKey_eq (p : Pool) :
    p.setKey = "reserved_networks:" ++ p.target.name ++ ":" ++ p.name := rfl

/-- Pools with one key are one pool: the names of the targets differ in their first letters. -/
theorem setKey_injective {p q : Pool} (h : p.setKey = q.setKey) : p = q := by
  obtain ⟨target, name⟩ := p
  obtain ⟨target', name'⟩ := q
  have same := congrArg String.toList h
  cases target <;> cases target'
  case docker.docker | yandexCloud.yandexCloud =>
      simpa [setKey_eq, Target.name, String.toList_inj] using same
  case docker.yandexCloud | yandexCloud.docker =>
      simp [setKey_eq, Target.name] at same

end Pool

/-! ### One reservation -/

/-- The store `t` is the store `s` with one more text in one set. -/
structure Store.Gains (s t : Store) (key text : String) : Prop where
  members : ∀ other x, x ∈ t.members other ↔ (other = key ∧ x = text) ∨ x ∈ s.members other
  counter? : ∀ other, t.counter? other = s.counter? other

namespace Store.Gains

variable {s t u : Store} {key text : String}

/-- Adding one member to a set is the gain of that member. -/
theorem of_addMembers (s : Store) (key text : String) :
    s.Gains (s.addMembers key [text]).2 key text := by
  refine ⟨fun other x => ?_, fun _ => rfl⟩
  rw [mem_members_addMembers, List.mem_singleton, eq_comm (a := key)]

/-- A gain after something that leaves the stock as it is, is a gain from the beginning. -/
theorem after (h : t.Gains u key text) (before : s.SameStock t) : s.Gains u key text :=
  ⟨fun other x => by rw [h.members, before.members], fun other => by
    rw [h.counter?, before.counter?]⟩

/-- A gain stays one if what follows leaves the stock as it is. -/
theorem before (h : s.Gains t key text) (after : t.SameStock u) : s.Gains u key text :=
  ⟨fun other x => by rw [after.members, h.members], fun other => by
    rw [after.counter?, h.counter?]⟩

/-- Only one pool gains, and only one subnet. -/
theorem mem_reserved {p : Pool} (h : s.Gains t p.setKey text) (pool : Pool) (x : String) :
    x ∈ pool.reserved t ↔ (pool = p ∧ x = text) ∨ x ∈ pool.reserved s := by
  have sameKey : pool.setKey = p.setKey ↔ pool = p := ⟨Pool.setKey_injective, congrArg Pool.setKey⟩
  rw [Pool.reserved, h.members, sameKey]
  rfl

end Store.Gains

/-- What the network `n`, granted for a request while some subnets were in use, promises: it is the
written form of a subnet that lies in the base block and apart from everything in use, with addresses as
`Allocation.Choice.Sound` describes them. -/
structure SubnetRequest.Grant (padding : Nat) (r : SubnetRequest) (inUse : List String) (n : Network)
    (base subnet : Block) : Prop where
  identifier : n.identifier = r.identifier
  parent : Block.parse r.base = .ok base
  cidr : n.cidr = subnet.text
  sound : Allocation.Choice.Sound padding r.length base inUse r.addressCount ⟨subnet, n.ips⟩

namespace SubnetRequest.Grant

variable {padding : Nat} {r : SubnetRequest} {inUse : List String} {n : Network}
  {base subnet : Block}

/-- A granted subnet was not in use. -/
theorem fresh (g : r.Grant padding inUse n base subnet) : n.cidr ∉ inUse := by
  intro mem
  apply subnet.not_disjoint_self
  exact g.sound.apart n.cidr mem subnet (by rw [g.cidr, Block.parse?_text])

/-- What is granted is in the pool that was asked. -/
theorem pool (g : r.Grant padding inUse n base subnet) : n.pool = r.pool := by
  rw [Network.pool, g.identifier, SubnetRequest.pool]

end SubnetRequest.Grant

/-- Choosing a subnet is choosing a block and addresses. -/
theorem SubnetRequest.choose_eq_map (r : SubnetRequest) (padding : Nat) (inUse : List String) :
    r.choose padding inUse =
      (Allocation.nextSubnet padding r.base r.length inUse r.addressCount).map fun choice =>
        ⟨r.identifier, choice.subnet.text, choice.addresses⟩ := rfl

/-- A network that is chosen is made of a choice of the allocator. -/
theorem SubnetRequest.exists_choice {padding : Nat} {r : SubnetRequest} {inUse : List String}
    {n : Network} (h : r.choose padding inUse = .ok n) :
    ∃ choice, Allocation.nextSubnet padding r.base r.length inUse r.addressCount = .ok choice ∧
      n = ⟨r.identifier, choice.subnet.text, choice.addresses⟩ := by
  rw [choose_eq_map] at h
  cases chosen : Allocation.nextSubnet padding r.base r.length inUse r.addressCount with
  | error error =>
      rw [chosen] at h
      cases h
  | ok choice =>
      rw [chosen] at h
      exact ⟨choice, rfl, (Except.ok.inj h).symm⟩

/-- A choice succeeds exactly by a grant. -/
theorem SubnetRequest.choose_eq_ok {padding : Nat} {r : SubnetRequest} {inUse : List String}
    {n : Network} (h : r.choose padding inUse = .ok n) :
    ∃ base subnet, r.Grant padding inUse n base subnet := by
  obtain ⟨choice, chosen, rfl⟩ := exists_choice h
  obtain ⟨base, parsed, sound⟩ := Allocation.nextSubnet_eq_ok chosen
  exact ⟨base, choice.subnet, rfl, parsed, rfl, sound⟩

/-- A network that consists of a subnet and of its first `count` usable addresses. -/
def Network.Filled (padding count : Nat) (n : Network) : Prop :=
  ∃ subnet : Block, n.cidr = subnet.text ∧ Allocation.addresses padding subnet count = .ok n.ips

/-- What is chosen has all the addresses that were asked for. -/
theorem SubnetRequest.filled_of_choose {padding : Nat} {r : SubnetRequest} {inUse : List String}
    {n : Network} (h : r.choose padding inUse = .ok n) : n.Filled padding r.addressCount := by
  obtain ⟨choice, chosen, rfl⟩ := exists_choice h
  obtain ⟨base, lengths, -, -, listed⟩ := Allocation.nextSubnet_inv chosen
  exact ⟨choice.subnet, rfl, listed⟩

/-- The allocator does not find out that a subnet is taken: only adding does. -/
theorem SubnetRequest.choose_ne_alreadyReserved {padding : Nat} {r : SubnetRequest}
    {inUse : List String} {error : NetworkError} (h : r.choose padding inUse = .error error)
    (cidr : String) : error ≠ .alreadyReserved cidr := by
  rw [choose_eq_map] at h
  cases chosen : Allocation.nextSubnet padding r.base r.length inUse r.addressCount with
  | error inner =>
      rw [chosen] at h
      obtain rfl : inner = error := Except.error.inj h
      exact Allocation.nextSubnet_ne_alreadyReserved chosen cidr
  | ok choice =>
      rw [chosen] at h
      cases h

namespace ReservationStage

variable {padding : Nat} {r : SubnetRequest} {s : Store}

/-- A reservation that has finished runs no further. -/
theorem run_finished (result : Except NetworkError Network) :
    run padding r s (.finished result) = (result, s) := by
  rw [run]
  rfl

/-- A reservation that has not ended runs on by one step. -/
theorem run_step {stage : ReservationStage} (h : stage.result? = none) :
    run padding r s stage = run padding r (stage.step padding r s).2 (stage.step padding r s).1 := by
  rw [run]
  split
  · next found => simp [h] at found
  · rfl

/-- A reservation that is about to release its lock drops the guard and keeps its result. -/
theorem run_releasing (guard : Guard) (result : Except NetworkError Network) :
    run padding r s (.releasing guard result) = (result, guard.drop s) := by
  rw [run_step rfl, step, run_finished]

/-- A reservation whose lock is not lost is decided by the choice of the subnet. -/
theorem run_choosing (padding : Nat) (r : SubnetRequest) (s : Store) {guard : Guard}
    (held : guard.lost = false) :
    (∃ error, r.choose padding (r.pool.reserved s) = .error error ∧
      run padding r s (.choosing guard) = (.error error, guard.drop s)) ∨
    ∃ n, r.choose padding (r.pool.reserved s) = .ok n ∧
      run padding r s (.choosing guard) =
        (.ok n, guard.drop (s.addMembers r.pool.setKey [n.cidr]).2) := by
  rw [run_step rfl, step]
  cases chosen : r.choose padding (r.pool.reserved s) with
  | error error => exact .inl ⟨error, rfl, run_releasing guard _⟩
  | ok n =>
      refine .inr ⟨n, rfl, ?_⟩
      obtain ⟨base, subnet, grant⟩ := SubnetRequest.choose_eq_ok chosen
      -- The set has not changed since the subnet was chosen, so adding finds it free.
      have added : (s.addMembers r.pool.setKey [n.cidr]).1 ≠ 0 :=
        fun none => grant.fresh (Store.addMembers_singleton_eq_zero.1 none)
      have checked : guard.checkHeld = .ok () := by simp [Guard.checkHeld, held]
      simp only
      rw [run_step rfl, step, checked]
      simp only
      rw [run_step rfl, step]
      simp only [if_neg added]
      rw [run_releasing]

end ReservationStage

namespace Session

/-- What a reservation does: it grants a subnet and adds it to its pool, or fails and changes no stock.
It never finds its subnet taken. -/
theorem reserveNetwork_cases (options : LockOptions) (padding : Nat) (r : SubnetRequest)
    (signal : Signal) (s : Session) :
    (∃ error t, s.reserveNetwork options padding r signal = (.error error, t) ∧
      (∀ cidr, error ≠ .alreadyReserved cidr) ∧ s.store.SameStock t.store ∧
      t.tokens = s.tokens + 1) ∨
    ∃ n base subnet t, s.reserveNetwork options padding r signal = (.ok n, t) ∧
      r.Grant padding (r.pool.reserved s.store) n base subnet ∧
      s.store.Gains t.store r.pool.setKey n.cidr ∧ t.tokens = s.tokens + 1 := by
  obtain ⟨passes, held⟩ := waitForLock_passes signal
    (.start options r.pool.lockName (token (s.tokens + 1)) s.clock.wall)
    { s with tokens := s.tokens + 1 }
  rw [reserveNetwork, acquire, newToken]
  -- Waiting takes time only, so the subnet is chosen from the stock at the call.
  cases waited : waitForLock signal
      (.start options r.pool.lockName (token (s.tokens + 1)) s.clock.wall)
      { s with tokens := s.tokens + 1 } with
  | mk outcome t =>
      rw [waited] at passes held
      have stock : s.store.SameStock t.store := passes.stock
      cases outcome with
      | error error => exact .inl ⟨.store error, t, by simp only [waited], by simp, stock, passes.tokens⟩
      | ok guard =>
          have inUse : r.pool.reserved t.store = r.pool.reserved s.store := stock.members _
          rcases ReservationStage.run_choosing padding r t.store (held guard rfl) with
            ⟨error, chosen, ran⟩ | ⟨n, chosen, ran⟩
          · refine .inl ⟨error, { t with store := guard.drop t.store }, by simp only [waited, ran],
              SubnetRequest.choose_ne_alreadyReserved chosen,
              stock.trans (guard.sameStock_drop _), passes.tokens⟩
          · rw [inUse] at chosen
            obtain ⟨base, subnet, grant⟩ := SubnetRequest.choose_eq_ok chosen
            let added := (t.store.addMembers r.pool.setKey [n.cidr]).2
            refine .inr ⟨n, base, subnet, { t with store := guard.drop added },
              by simp only [waited, ran, added], grant, ?_, passes.tokens⟩
            exact ((Store.Gains.of_addMembers _ _ _).after stock).before (guard.sameStock_drop _)

/-- A reservation succeeds in one way: the lock is obtained, the subnet is chosen out of what the pool holds
then and added to it, and the lock is given back. -/
theorem reserveNetwork_eq_ok {options : LockOptions} {padding : Nat} {r : SubnetRequest}
    {signal : Signal} {s t : Session} {n : Network}
    (h : s.reserveNetwork options padding r signal = (.ok n, t)) :
    ∃ guard during, s.acquire options r.pool.lockName signal = (.ok guard, during) ∧
      r.choose padding (r.pool.reserved during.store) = .ok n ∧
      t = { during with store := guard.drop (during.store.addMembers r.pool.setKey [n.cidr]).2 } := by
  rw [reserveNetwork] at h
  cases acquired : s.acquire options r.pool.lockName signal with
  | mk outcome during =>
      cases outcome with
      | error error => simp [acquired] at h
      | ok guard =>
          have held : guard.lost = false :=
            (waitForLock_passes signal _ _).2 guard (congrArg Prod.fst acquired)
          simp only [acquired] at h
          rcases ReservationStage.run_choosing padding r during.store held with
            ⟨error, -, ran⟩ | ⟨m, chosen, ran⟩
          · simp [ran] at h
          · simp only [ran, Prod.mk.injEq, Except.ok.injEq] at h
            obtain ⟨rfl, rfl⟩ := h
            exact ⟨guard, during, rfl, chosen, rfl⟩

/-- A network that is reserved is chosen out of what its pool holds when it is asked for. -/
theorem choose_of_reserveNetwork {options : LockOptions} {padding : Nat} {r : SubnetRequest}
    {signal : Signal} {s t : Session} {n : Network}
    (h : s.reserveNetwork options padding r signal = (.ok n, t)) :
    r.choose padding (r.pool.reserved s.store) = .ok n := by
  obtain ⟨guard, during, acquired, chosen, -⟩ := reserveNetwork_eq_ok h
  have passes : Passes { s with tokens := s.tokens + 1 } during := by
    have passes := (waitForLock_passes signal
      (.start options r.pool.lockName (token (s.tokens + 1)) s.clock.wall)
      { s with tokens := s.tokens + 1 }).1
    rwa [show waitForLock signal _ _ = (.ok guard, during) from acquired] at passes
  have inUse : r.pool.reserved during.store = r.pool.reserved s.store := passes.stock.members _
  rwa [inUse] at chosen

/-- A network that was reserved has the first usable addresses of its subnet. -/
theorem filled_of_reserveNetwork {options : LockOptions} {padding : Nat} {r : SubnetRequest}
    {signal : Signal} {s t : Session} {n : Network}
    (h : s.reserveNetwork options padding r signal = (.ok n, t)) :
    n.Filled padding r.addressCount :=
  SubnetRequest.filled_of_choose (choose_of_reserveNetwork h)

end Session

/-! ### Giving back -/

namespace Network

/-- Giving a network back takes its subnet out of its pool, and nothing else out of any set. -/
theorem mem_members_giveBack {n : Network} {s : Store} {key text : String} :
    text ∈ (n.giveBack s).members key ↔
      ¬ (n.cidr.isEmpty = false ∧ n.pool.setKey = key ∧ text = n.cidr) ∧ text ∈ s.members key := by
  rw [giveBack]
  cases empty : n.cidr.isEmpty with
  | true => simp
  | false => simp [Store.mem_members_removeMembers]

@[simp] theorem counter?_giveBack (n : Network) (s : Store) (key : String) :
    (n.giveBack s).counter? key = s.counter? key := by
  rw [giveBack]
  split
  · rfl
  · exact s.counter?_removeMembers _ _ _

/-- Giving a network back touches no lease. -/
@[simp] theorem leases_giveBack (n : Network) (s : Store) : (n.giveBack s).leases = s.leases := by
  rw [giveBack]
  split
  · rfl
  · rfl

/-- Giving networks back only takes texts out of the sets of their pools. -/
theorem giveBackAll_subset {networks : List Network} {s : Store} {key text : String}
    (h : text ∈ (giveBackAll networks s).members key) : text ∈ s.members key := by
  induction networks generalizing s with
  | nil => exact h
  | cons n rest ih => exact (mem_members_giveBack.1 (ih h)).2

/-- A pool that none of the networks comes from keeps its subnets. -/
theorem members_giveBackAll_of_ne {networks : List Network} {s : Store} {key : String}
    (h : ∀ n ∈ networks, n.pool.setKey ≠ key) :
    (giveBackAll networks s).members key = s.members key := by
  induction networks generalizing s with
  | nil => rfl
  | cons n rest ih =>
      have kept : (n.giveBack s).members key = s.members key :=
        Store.members_eq_of_mem_iff fun text => by
          rw [mem_members_giveBack]
          exact and_iff_right fun ⟨_, same, _⟩ => h n (by simp) same
      exact (ih fun m mem => h m (by simp [mem])).trans kept

end Network

end Testbed
