import Testbed.Proofs.Network.AtOnce
import Testbed.Proofs.Network.Search

/-!
Subnets that were given back are reserved again.

A subnet is reserved because every lower part of its base block is taken.  Reservations take nothing out of
a pool, so these parts stay taken; and while the subnet is in the pool nobody is granted an address of it,
whatever base blocks and lengths the others ask for.  When it is given back, it is the lowest free part once
more, and whoever asks as it was asked for then gets it with the same addresses.
-/

namespace Testbed

namespace Allocation

variable {base part : Block} {length : Nat} {inUse later : List String}

/-- What shares no address with many blocks shares none with fewer. -/
theorem Free.subset (free : Free later part) (fewer : ∀ text ∈ inUse, text ∈ later) : Free inUse part :=
  fun text mem => free text (fewer text mem)

/-- The lowest part stays the lowest while more is taken, as long as nobody takes an address of it. -/
theorem Lowest.mono (low : Lowest base length inUse part) (kept : ∀ text ∈ inUse, text ∈ later)
    (free : Free later part) : Lowest base length later part where
  sized := low.sized
  within := low.within
  free := free
  lowest earlier sized within before still :=
    low.lowest earlier sized within before (still.subset kept)

end Allocation

/-- A network is chosen if its subnet is the lowest free part of the base block and its addresses are the
first ones of that part. -/
theorem SubnetRequest.choose_eq_ok_iff {padding : Nat} {r : SubnetRequest} {inUse : List String}
    {n : Network} :
    r.choose padding inUse = .ok n ↔ ∃ base part : Block, Block.parse r.base = .ok base ∧
      base.length ≤ r.length ∧ r.length ≤ 32 ∧ Allocation.Lowest base r.length inUse part ∧
      Allocation.addresses padding part r.addressCount = .ok n.ips ∧
      n.identifier = r.identifier ∧ n.cidr = part.text := by
  constructor
  · intro h
    obtain ⟨choice, chosen, rfl⟩ := exists_choice h
    obtain ⟨base, lengths, parsed, found, listed⟩ := Allocation.nextSubnet_inv chosen
    rw [Allocation.lowestFree?_eq_find?, List.drop_zero] at found
    exact ⟨base, choice.subnet, parsed, lengths.1, lengths.2, Allocation.lowest_of_find? found, listed,
      rfl, rfl⟩
  · rintro ⟨base, part, parsed, hlo, hhi, low, listed, identifier, cidr⟩
    have found : Allocation.lowestFree? base r.length hlo hhi (Allocation.takenBlocks inUse) 0 =
        some part := by
      rw [Allocation.lowestFree?_eq_find?, List.drop_zero]
      exact Allocation.find?_parts_eq_some.2 low
    rw [choose_eq_map, Allocation.nextSubnet_of_block (Allocation.block_of_parse parsed) hlo hhi, found]
    simp only [listed, Except.map, ← identifier, ← cidr]

/-- What was chosen is chosen while more is in use, as long as nobody takes an address of it. -/
theorem SubnetRequest.choose_mono {padding : Nat} {r : SubnetRequest} {inUse later : List String}
    {n : Network} {subnet : Block} (chosen : r.choose padding inUse = .ok n) (cidr : n.cidr = subnet.text)
    (kept : ∀ text ∈ inUse, text ∈ later) (free : Allocation.Free later subnet) :
    r.choose padding later = .ok n := by
  obtain ⟨base, part, parsed, hlo, hhi, low, listed, identifier, named⟩ := choose_eq_ok_iff.1 chosen
  obtain rfl : part = subnet := Block.text_injective (named.symm.trans cidr)
  exact choose_eq_ok_iff.2 ⟨base, part, parsed, hlo, hhi, low.mono kept free, listed, identifier, cidr⟩

/-- Giving a network back takes its subnet out of the pool for which it was chosen. -/
theorem SubnetRequest.mem_reserved_giveBack {padding : Nat} {r : SubnetRequest} {inUse : List String}
    {n : Network} (chosen : r.choose padding inUse = .ok n) (s : Store) (text : String) :
    text ∈ r.pool.reserved (n.giveBack s) ↔ text ≠ n.cidr ∧ text ∈ r.pool.reserved s := by
  obtain ⟨base, subnet, grant⟩ := choose_eq_ok chosen
  have named : n.cidr.isEmpty = false := by rw [grant.cidr, subnet.text_ne_empty]
  rw [Pool.reserved, Network.mem_members_giveBack, named, grant.pool]
  simp [Pool.reserved]

/-! ### A subnet in its pool -/

/-- What a pool holds after a subnet was reserved in it and nothing was given back: the subnet, everything
that was in use before, and otherwise only what shares no address with the subnet. -/
structure Pool.Keeps (pool : Pool) (inUse : List String) (n : Network) (subnet : Block) (s : Store) :
    Prop where
  listed : n.cidr ∈ pool.reserved s
  older : ∀ text ∈ inUse, text ∈ pool.reserved s
  apart : ∀ text ∈ pool.reserved s, text ≠ n.cidr → ∀ b, Block.parse? text = some b → subnet.Disjoint b

namespace Pool.Keeps

variable {pool : Pool} {inUse : List String} {n : Network} {subnet : Block} {s t : Store}

/-- A pool in which nothing changes keeps what it keeps. -/
theorem same (h : pool.Keeps inUse n subnet s) (same : pool.reserved t = pool.reserved s) :
    pool.Keeps inUse n subnet t := by
  refine ⟨?_, ?_, ?_⟩
  · rw [same]
    exact h.listed
  · rw [same]
    exact h.older
  · rw [same]
    exact h.apart

/-- Another subnet that is granted from the pool shares no address with the one that is kept. -/
theorem grant (h : pool.Keeps inUse n subnet s) (cidr : n.cidr = subnet.text) {padding : Nat}
    {other : SubnetRequest} {m : Network} {base block : Block}
    (granted : other.Grant padding (pool.reserved s) m base block)
    (joined : ∀ text, text ∈ pool.reserved t ↔ text = m.cidr ∨ text ∈ pool.reserved s) :
    pool.Keeps inUse n subnet t := by
  refine ⟨(joined _).2 (.inr h.listed), fun text mem => (joined _).2 (.inr (h.older text mem)), ?_⟩
  intro text mem different b read
  rcases (joined text).1 mem with rfl | old
  · have apart : block.Disjoint subnet :=
      granted.sound.apart n.cidr h.listed subnet (by rw [cidr, Block.parse?_text])
    obtain rfl : block = b := by
      rw [granted.cidr, Block.parse?_text] at read
      exact Option.some.inj read
    exact apart.symm
  · exact h.apart text old different b read

/-- Once the subnet is given back, it is chosen as it was before. -/
theorem chosen {r : SubnetRequest} (h : r.pool.Keeps inUse n subnet s) {padding : Nat}
    (chosen : r.choose padding inUse = .ok n) (cidr : n.cidr = subnet.text) :
    r.choose padding (r.pool.reserved (n.giveBack s)) = .ok n := by
  have freed := SubnetRequest.mem_reserved_giveBack chosen s
  refine SubnetRequest.choose_mono chosen cidr ?_ ?_
  · intro text mem
    refine (freed text).2 ⟨?_, h.older text mem⟩
    rintro rfl
    obtain ⟨base, part, grant⟩ := SubnetRequest.choose_eq_ok chosen
    exact grant.fresh mem
  · intro text mem b read
    obtain ⟨different, old⟩ := (freed text).1 mem
    exact h.apart text old different b read

end Pool.Keeps

/-! ### The lock of a pool -/

/-- Nobody has a key, or not any more. -/
def Store.Idle (s : Store) (key : String) (now : Nat) : Prop :=
  ∀ lease, s.lease? key = some lease → lease.isExpired now = true

/-- A guard whose lease is still its own leaves none behind. -/
theorem Guard.lease?_drop_self {g : Guard} {s : Store} {lease : Lease} (found : s.lease? g.key = some lease)
    (own : lease.holder = g.holder) : (g.drop s).lease? g.key = none := by
  rw [drop]
  rcases s.releaseLease_cases g.key g.holder with ⟨-, -, -, done⟩ | ⟨gone, -⟩
  · rw [done]
    exact s.leases.get?_erase_self g.key
  · exact absurd own (gone lease found)

/-- A reservation that succeeds leaves the lock of its pool to nobody. -/
theorem Session.lease?_of_reserveNetwork {options : LockOptions} {padding : Nat} {r : SubnetRequest}
    {signal : Signal} {s t : Session} {n : Network}
    (reserved : s.reserveNetwork options padding r signal = (.ok n, t)) :
    t.store.lease? (options.keyLead ++ r.pool.lockName) = none := by
  obtain ⟨guard, during, acquired, -, rfl⟩ := reserveNetwork_eq_ok reserved
  obtain ⟨key, -, lease, leased, own⟩ := waitForLock_leased acquired
  have key : guard.key = options.keyLead ++ r.pool.lockName := key
  rw [← key]
  -- Adding a subnet touches no lease.
  exact Guard.lease?_drop_self (s := (during.store.addMembers r.pool.setKey [n.cidr]).2) leased own

/-! ### Between two reservations -/

/-- What may happen to a store while somebody uses a subnet. -/
inductive Interlude where
  /-- Anybody asks for a subnet, at some instant and with any locks of his own. -/
  | reserve (caller : Session) (request : SubnetRequest) (signal : Signal)
  /-- Strangers take, extend, lose or give back locks. -/
  | disturb (leases : Leases)

namespace Interlude

/-- What an interlude leaves. -/
def run (options : LockOptions) (padding : Nat) (s : Store) : Interlude → Store
  | .reserve caller request signal => (PoolCall.reserveOn options padding caller request signal s).2
  | .disturb leases => { s with leases }

/-- What several interludes leave. -/
def runAll (options : LockOptions) (padding : Nat) (interludes : List Interlude) (s : Store) : Store :=
  interludes.foldl (run options padding) s

/-- Nothing happens but that a pool is asked for a subnet. -/
def Asks (pool : Pool) : Interlude → Prop
  | .reserve _ request _ => request.pool = pool
  | .disturb _ => False

variable {options : LockOptions} {padding : Nat} {pool : Pool} {inUse : List String} {n : Network}
  {subnet : Block} {s : Store}

/-- Whatever happens, a pool keeps what it keeps. -/
theorem keeps_run (h : pool.Keeps inUse n subnet s) (cidr : n.cidr = subnet.text) (e : Interlude) :
    pool.Keeps inUse n subnet (e.run options padding s) := by
  cases e with
  | disturb leases => exact h.same rfl
  | reserve caller r signal =>
      rcases PoolCall.reserveOn_cases options padding caller r signal s with
        ⟨error, t, reserved, -, same⟩ | ⟨m, base, block, t, reserved, grant, joined⟩
      · rw [run, reserved]
        exact h.same (same pool)
      · rw [run, reserved]
        by_cases own : pool = r.pool
        · subst own
          exact h.grant cidr grant fun text => by simp [joined]
        · apply h.same
          apply Store.members_eq_of_mem_iff
          intro text
          exact (joined pool text).trans (by simp [own, Pool.reserved])

/-- A pool keeps what it has and what is chosen next, whatever happens in between. -/
theorem keeps_runAll (h : pool.Keeps inUse n subnet s) (cidr : n.cidr = subnet.text)
    (interludes : List Interlude) : pool.Keeps inUse n subnet (runAll options padding interludes s) := by
  induction interludes generalizing s with
  | nil => exact h
  | cons e rest ih => exact ih (keeps_run h cidr e)

/-- As long as a pool is asked for subnets only, nobody is left with its lock. -/
theorem lease?_runAll {interludes : List Interlude} (asks : ∀ e ∈ interludes, e.Asks pool)
    (free : s.lease? (options.keyLead ++ pool.lockName) = none) :
    (runAll options padding interludes s).lease? (options.keyLead ++ pool.lockName) = none := by
  induction interludes generalizing s with
  | nil => exact free
  | cons e rest ih =>
      obtain ⟨first, others⟩ := List.forall_mem_cons.1 asks
      apply ih others
      cases e with
      | disturb leases => exact absurd first id
      | reserve caller r signal =>
          obtain rfl : r.pool = pool := first
          rw [run, PoolCall.reserveOn_of_free options padding caller r signal free, Store.lease?,
            SubnetRequest.leases_reserveAtOnce]
          exact free

end Interlude

namespace PoolCall

variable {options : LockOptions} {padding : Nat} {caller : Session} {r : SubnetRequest} {signal : Signal}
  {s t : Store} {n : Network}

/-- A call is made in a session of the caller's. -/
theorem exists_session {result : Except NetworkError Network}
    (called : reserveOn options padding caller r signal s = (result, t)) :
    ∃ after, { caller with store := s }.reserveNetwork options padding r signal = (result, after) ∧
      after.store = t := by
  obtain ⟨rfl, rfl⟩ := Prod.mk.inj called
  exact ⟨_, rfl, rfl⟩

/-- What a successful reservation leaves: its network, which was chosen out of what the pool held, is in the
pool in addition, and nobody has the lock. -/
theorem reserveOn_eq_ok (reserved : reserveOn options padding caller r signal s = (.ok n, t)) :
    r.choose padding (r.pool.reserved s) = .ok n ∧
      (∀ text, text ∈ r.pool.reserved t ↔ text = n.cidr ∨ text ∈ r.pool.reserved s) ∧
      t.lease? (options.keyLead ++ r.pool.lockName) = none := by
  obtain ⟨after, ran, rfl⟩ := exists_session reserved
  refine ⟨Session.choose_of_reserveNetwork ran, fun text => ?_, Session.lease?_of_reserveNetwork ran⟩
  rcases reserveOn_cases options padding caller r signal s with
    ⟨error, u, failed, -⟩ | ⟨m, base, subnet, u, granted, -, joined⟩
  · cases reserved.symm.trans failed
  · obtain ⟨same, rfl⟩ := Prod.mk.inj (reserved.symm.trans granted)
    obtain rfl := Except.ok.inj same
    rw [joined, and_iff_right rfl]

/-- A subnet that is reserved is kept from the beginning. -/
theorem keeps_of_reserveOn (reserved : reserveOn options padding caller r signal s = (.ok n, t)) :
    ∃ subnet : Block, n.cidr = subnet.text ∧ r.pool.Keeps (r.pool.reserved s) n subnet t := by
  obtain ⟨chosen, joined, -⟩ := reserveOn_eq_ok reserved
  obtain ⟨base, subnet, -, -, -, low, -, -, cidr⟩ := SubnetRequest.choose_eq_ok_iff.1 chosen
  refine ⟨subnet, cidr, (joined _).2 (.inl rfl), fun text mem => (joined _).2 (.inr mem), ?_⟩
  intro text mem different
  exact low.free text (((joined text).1 mem).resolve_left different)

/-- Giving a network back at once makes up for its reservation. -/
theorem reserved_giveBack (reserved : reserveOn options padding caller r signal s = (.ok n, t)) :
    r.pool.reserved (n.giveBack t) = r.pool.reserved s := by
  obtain ⟨chosen, joined, -⟩ := reserveOn_eq_ok reserved
  obtain ⟨base, subnet, grant⟩ := SubnetRequest.choose_eq_ok chosen
  apply Store.members_eq_of_mem_iff
  intro text
  refine (SubnetRequest.mem_reserved_giveBack chosen t text).trans ?_
  rw [joined]
  constructor
  · rintro ⟨different, own | old⟩
    · exact absurd own different
    · exact old
  · intro old
    refine ⟨?_, .inr old⟩
    rintro rfl
    exact grant.fresh old

/-- Reserving a network that was just given back makes up for that. -/
theorem reserved_of_giveBack (held : n.cidr ∈ r.pool.reserved s)
    (reserved : reserveOn options padding caller r signal (n.giveBack s) = (.ok n, t)) :
    r.pool.reserved t = r.pool.reserved s := by
  obtain ⟨chosen, joined, -⟩ := reserveOn_eq_ok reserved
  apply Store.members_eq_of_mem_iff
  intro text
  refine (joined text).trans ?_
  rw [SubnetRequest.mem_reserved_giveBack chosen]
  constructor
  · rintro (rfl | ⟨-, old⟩)
    · exact held
    · exact old
  · intro old
    by_cases own : text = n.cidr
    · exact .inl own
    · exact .inr ⟨own, old⟩

/-- A subnet that was given back is reserved again by whoever asks as it was asked for.

A reservation has succeeded, on any store.  If its network is given back right away, its pool is as it was.
If subnets are reserved in between, with whatever arguments and whether or not that succeeds, the same request
gets the same network once more when that network alone is given back, and the pool is then as it was before.
Others may have dealt with the lock of the pool meanwhile; then nobody may have it when the request is made. -/
theorem freed_subnets_are_reserved_again (options : LockOptions) (padding : Nat) (caller : Session)
    (r : SubnetRequest) (signal : Signal) (s : Store) {n : Network} {reserved : Store}
    (first : reserveOn options padding caller r signal s = (.ok n, reserved)) :
    r.pool.reserved (n.giveBack reserved) = r.pool.reserved s ∧
    ∀ (interludes : List Interlude) (again : Session) (signal' : Signal),
      let used := Interlude.runAll options padding interludes reserved
      let freed := n.giveBack used
      ((∀ e ∈ interludes, e.Asks r.pool) ∨
        freed.Idle (options.keyLead ++ r.pool.lockName) again.clock.wall) →
      ∃ after, reserveOn options padding again r signal' freed = (.ok n, after) ∧
        r.pool.reserved after = r.pool.reserved used := by
  refine ⟨reserved_giveBack first, ?_⟩
  intro interludes again signal' used freed quiet
  obtain ⟨chosen, -, unlocked⟩ := reserveOn_eq_ok first
  obtain ⟨subnet, cidr, kept⟩ := keeps_of_reserveOn first
  have keeps : r.pool.Keeps (r.pool.reserved s) n subnet used :=
    Interlude.keeps_runAll kept cidr interludes
  have chosenAgain : r.choose padding (r.pool.reserved freed) = .ok n := keeps.chosen chosen cidr
  have idle : freed.Idle (options.keyLead ++ r.pool.lockName) again.clock.wall := by
    rcases quiet with asks | idle
    · intro lease found
      have none : freed.lease? (options.keyLead ++ r.pool.lockName) = none := by
        rw [Store.lease?, Network.leases_giveBack]
        exact Interlude.lease?_runAll asks unlocked
      cases none.symm.trans found
    · exact idle
  obtain ⟨after, ran⟩ := Session.reserveNetwork_of_idle options padding r signal'
    (s := { again with store := freed }) idle
  have second : reserveOn options padding again r signal' freed = (.ok n, after) := by
    simp only [reserveOn, ran, chosenAgain]
  exact ⟨after, second, reserved_of_giveBack keeps.listed second⟩

/-- The second quarter of a block is reserved while the first one and the upper half are in use, in several
spellings.  Others ask for smaller parts of the block in between; the last of them never gave the lock back.
Once the quarter is given back and the lease has run out, the quarter is reserved again. -/
theorem second_quarter_is_reserved_again :
    let options : LockOptions := ⟨"lock:", ⟨5⟩, ⟨2⟩, ⟨1⟩, ⟨4⟩, ⟨20⟩⟩
    let asked (base : String) (length : Nat) : SubnetRequest := ⟨⟨"id", "pool", .docker⟩, base, length, 2⟩
    let quarter := asked "10.0.0.0/24" 26
    let caller : Session := .start ⟨0, 0, true⟩ .empty
    let n : Network :=
      ⟨quarter.identifier, "10.0.0.64/26", [.ofOctets 10 0 0 66, .ofOctets 10 0 0 67]⟩
    let before := (Store.empty.addMembers quarter.pool.setKey
      ["10.0.0.130/25", "::ffff:10.0.0.0/122", "nothing"]).2
    let reserved := (reserveOn options 1 caller quarter .never before).2
    let interludes : List Interlude := [.reserve caller (asked "10.0.0.0/24" 30) .never,
      .reserve caller (asked "10.0.0.0/23" 27) .never,
      .disturb (.insert .empty (options.keyLead ++ quarter.pool.lockName) ⟨"other", 0, 9⟩)]
    let used := Interlude.runAll options 1 interludes reserved
    let again : Session := .start ⟨9, 9, true⟩ .empty
    reserveOn options 1 caller quarter .never before = (.ok n, reserved) ∧
      ∃ after, reserveOn options 1 again quarter .never (n.giveBack used) = (.ok n, after) ∧
        quarter.pool.reserved after = quarter.pool.reserved used := by
  intro options asked quarter caller n before reserved interludes used again
  have chosen : quarter.choose 1 (quarter.pool.reserved before) = .ok n := by decide +kernel
  have first : reserveOn options 1 caller quarter .never before = (.ok n, reserved) := by
    refine Prod.ext ?_ rfl
    rw [reserveOn_of_free options 1 caller quarter .never (s := before) (by decide +kernel),
      SubnetRequest.reserveAtOnce, chosen]
  refine ⟨first, (freed_subnets_are_reserved_again options 1 caller quarter .never before first).2
    interludes again .never (.inr ?_)⟩
  intro lease found
  have leases : (n.giveBack used).leases =
      .insert .empty (options.keyLead ++ quarter.pool.lockName) ⟨"other", 0, 9⟩ :=
    Network.leases_giveBack n used
  rw [Store.lease?, leases, Table.get?_insert, if_pos rfl] at found
  obtain rfl := Option.some.inj found
  rfl

end PoolCall

end Testbed
