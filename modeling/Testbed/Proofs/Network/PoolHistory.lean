import Testbed.Proofs.Network.Pool

/-!
Histories of pools.  Any callers reserve subnets and give networks back, one call after the other, on one
store that was empty at first.  Callers choose base blocks, lengths and counts as they like, and give back
what they like, even what nobody has reserved.

The invariant is `SubnetsApart`: every text in a pool is the written form of a block, and the blocks share
no address.  Reserving keeps it because no text of a pool is overlooked when a subnet is chosen; giving
back keeps it because it only takes texts away.
-/

namespace Testbed

/-- A call on the pools. -/
inductive PoolCall where
  /-- Somebody, at some instant and with any locks of his own, reserves a subnet. -/
  | reserve (caller : Session) (request : SubnetRequest) (signal : Signal)
  | free (network : Network)
  | freeAll (networks : List Network)

namespace PoolCall

/-- Whether a call is about a pool. -/
def Touches (pool : Pool) : PoolCall → Prop
  | .reserve _ request _ => request.pool = pool
  | .free network => network.pool = pool
  | .freeAll networks => ∃ network ∈ networks, network.pool = pool

/-- Reserve a subnet on a store that others use as well. -/
def reserveOn (options : LockOptions) (padding : Nat) (caller : Session) (request : SubnetRequest)
    (signal : Signal) (s : Store) : Except NetworkError Network × Store :=
  let (result, after) := { caller with store := s }.reserveNetwork options padding request signal
  (result, after.store)

/-- The store after a call. -/
def run (options : LockOptions) (padding : Nat) (s : Store) : PoolCall → Store
  | .reserve caller request signal => (reserveOn options padding caller request signal s).2
  | .free network => network.giveBack s
  | .freeAll networks => Network.giveBackAll networks s

/-- The store after several calls, each of which ends before the next begins. -/
def runAll (options : LockOptions) (padding : Nat) (calls : List PoolCall) (s : Store) : Store :=
  calls.foldl (run options padding) s

end PoolCall

/-- Some texts are written forms of blocks, and different blocks among them share no address. -/
structure SubnetsApart (texts : List String) : Prop where
  written : ∀ text ∈ texts, ∃ b : Block, text = b.text
  apart : ∀ b c : Block, b.text ∈ texts → c.text ∈ texts → b ≠ c → b.Disjoint c

namespace SubnetsApart

variable {texts more : List String}

/-- No subnets at all do not overlap. -/
theorem nil : SubnetsApart [] := ⟨by simp, by simp⟩

/-- Fewer subnets do not overlap if the many do not. -/
theorem subset (h : SubnetsApart texts) (fewer : ∀ text ∈ more, text ∈ texts) : SubnetsApart more :=
  ⟨fun text mem => h.written text (fewer text mem),
    fun b c hb hc => h.apart b c (fewer _ hb) (fewer _ hc)⟩

/-- A subnet that is granted while `texts` are in use joins them. -/
theorem grant {padding : Nat} {r : SubnetRequest} {n : Network} {base subnet : Block}
    (h : SubnetsApart texts) (g : r.Grant padding texts n base subnet)
    (joined : ∀ text, text ∈ more ↔ text = n.cidr ∨ text ∈ texts) : SubnetsApart more := by
  have fromOld : ∀ c : Block, c.text ∈ texts → subnet.Disjoint c :=
    fun c mem => g.sound.apart c.text mem c (Block.parse?_text c)
  have isNew : ∀ c : Block, c.text = n.cidr → c = subnet :=
    fun c same => Block.text_injective (same.trans g.cidr)
  constructor
  · intro text mem
    rcases (joined text).1 mem with rfl | old
    · exact ⟨subnet, g.cidr⟩
    · exact h.written text old
  · intro b c hb hc different
    rcases (joined _).1 hb with newB | oldB <;> rcases (joined _).1 hc with newC | oldC
    · exact absurd ((isNew b newB).trans (isNew c newC).symm) different
    · rw [isNew b newB]
      exact fromOld c oldC
    · rw [isNew c newC]
      exact (fromOld b oldB).symm
    · exact h.apart b c oldB oldC different

/-- Texts without repetition that are apart are the written forms of pairwise disjoint blocks. -/
theorem exists_blocks (h : SubnetsApart texts) (distinct : texts.Nodup) :
    ∃ blocks : List Block, texts = blocks.map Block.text ∧ blocks.Pairwise Block.Disjoint := by
  induction texts with
  | nil => exact ⟨[], rfl, .nil⟩
  | cons text rest ih =>
      obtain ⟨outside, distinct⟩ := List.nodup_cons.1 distinct
      obtain ⟨blocks, rfl, disjoint⟩ := ih (h.subset fun _ mem => List.mem_cons_of_mem _ mem) distinct
      obtain ⟨b, rfl⟩ := h.written text (List.mem_cons_self ..)
      refine ⟨b :: blocks, rfl, List.pairwise_cons.2 ⟨fun c mem => ?_, disjoint⟩⟩
      have listed : c.text ∈ blocks.map Block.text := List.mem_map_of_mem mem
      apply h.apart b c (List.mem_cons_self ..) (List.mem_cons_of_mem _ listed)
      rintro rfl
      exact outside listed

end SubnetsApart

namespace PoolCall

variable {options : LockOptions} {padding : Nat} {s : Store}

/-- What a reservation on a shared store does to the pools. -/
theorem reserveOn_cases (options : LockOptions) (padding : Nat) (caller : Session)
    (r : SubnetRequest) (signal : Signal) (s : Store) :
    (∃ error t, reserveOn options padding caller r signal s = (.error error, t) ∧
      (∀ cidr, error ≠ .alreadyReserved cidr) ∧ ∀ pool : Pool, pool.reserved t = pool.reserved s) ∨
    ∃ n base subnet t, reserveOn options padding caller r signal s = (.ok n, t) ∧
      r.Grant padding (r.pool.reserved s) n base subnet ∧
      ∀ (pool : Pool) (text : String),
        text ∈ pool.reserved t ↔ (pool = r.pool ∧ text = n.cidr) ∨ text ∈ pool.reserved s := by
  rcases Session.reserveNetwork_cases options padding r signal { caller with store := s } with
    ⟨error, t, reserved, other, stock, -⟩ | ⟨n, base, subnet, t, reserved, grant, gains, -⟩
  · refine .inl ⟨error, t.store, ?_, other, fun pool => stock.members _⟩
    simp only [reserveOn, reserved]
  · refine .inr ⟨n, base, subnet, t.store, ?_, grant, gains.mem_reserved⟩
    simp only [reserveOn, reserved]

/-- One call keeps the subnets of every pool apart. -/
theorem apart_run (apart : ∀ pool : Pool, SubnetsApart (pool.reserved s)) (call : PoolCall)
    (pool : Pool) : SubnetsApart (pool.reserved (run options padding s call)) := by
  cases call with
  | reserve caller r signal =>
      rcases reserveOn_cases options padding caller r signal s with
        ⟨error, t, reserved, -, same⟩ | ⟨n, base, subnet, t, reserved, grant, joined⟩
      · rw [run, reserved, same]
        exact apart pool
      · rw [run, reserved]
        by_cases own : pool = r.pool
        · subst own
          exact (apart _).grant grant fun text => by simp [joined]
        · exact (apart pool).subset fun text mem => by simpa [joined, own] using mem
  | free network =>
      exact (apart pool).subset fun text mem => (Network.mem_members_giveBack.1 mem).2
  | freeAll networks =>
      exact (apart pool).subset fun text mem => Network.giveBackAll_subset mem

/-- Any number of calls keeps the subnets of every pool apart. -/
theorem apart_runAll (calls : List PoolCall) (apart : ∀ pool : Pool, SubnetsApart (pool.reserved s)) :
    ∀ pool : Pool, SubnetsApart (pool.reserved (runAll options padding calls s)) := by
  induction calls generalizing s with
  | nil => exact apart
  | cons call rest ih => exact ih (apart_run apart call)

/-- A call leaves the pools alone that it is not about. -/
theorem reserved_run_of_not_touches {call : PoolCall} {pool : Pool} (elsewhere : ¬ call.Touches pool) :
    pool.reserved (run options padding s call) = pool.reserved s := by
  cases call with
  | reserve caller r signal =>
      rcases reserveOn_cases options padding caller r signal s with
        ⟨error, t, reserved, -, same⟩ | ⟨n, base, subnet, t, reserved, grant, joined⟩
      · rw [run, reserved, same]
      · rw [run, reserved]
        apply Store.members_eq_of_mem_iff
        intro text
        have other : pool ≠ r.pool := fun same => elsewhere same.symm
        exact (joined pool text).trans (by simp [other, Pool.reserved])
  | free network =>
      apply Store.members_eq_of_mem_iff
      intro text
      rw [run, Network.mem_members_giveBack]
      apply and_iff_right
      rintro ⟨-, same, -⟩
      exact elsewhere (Pool.setKey_injective same)
  | freeAll networks =>
      refine Network.members_giveBackAll_of_ne fun n mem same => elsewhere ?_
      exact ⟨n, mem, Pool.setKey_injective same⟩

/-- After any calls the pools hold pairwise disjoint subnets.  The next reservation grants a subnet that
keeps away from all of them and touches its own pool only, or it changes no pool; it never finds its
subnet taken. -/
theorem pools_stay_disjoint (options : LockOptions) (padding : Nat) (calls : List PoolCall) :
    let s := runAll options padding calls .empty
    (∀ pool : Pool, ∃ blocks : List Block,
      pool.reserved s = blocks.map Block.text ∧ blocks.Pairwise Block.Disjoint) ∧
    (∀ caller r signal,
      match reserveOn options padding caller r signal s with
      | (.ok n, after) =>
        (∃ base subnet, r.Grant padding (r.pool.reserved s) n base subnet) ∧
          ∀ (pool : Pool) (text : String),
            text ∈ pool.reserved after ↔ (pool = r.pool ∧ text = n.cidr) ∨ text ∈ pool.reserved s
      | (.error error, after) =>
        (∀ cidr, error ≠ .alreadyReserved cidr) ∧ ∀ pool : Pool, pool.reserved after = pool.reserved s) ∧
    ∀ (call : PoolCall) (pool : Pool), ¬ call.Touches pool →
      pool.reserved (run options padding s call) = pool.reserved s := by
  intro s
  have apart : ∀ pool : Pool, SubnetsApart (pool.reserved s) :=
    apart_runAll calls fun pool => SubnetsApart.nil
  refine ⟨fun pool => (apart pool).exists_blocks (s.nodup_members _), ?_, ?_⟩
  · intro caller r signal
    rcases reserveOn_cases options padding caller r signal s with
      ⟨error, t, reserved, other, same⟩ | ⟨n, base, subnet, t, reserved, grant, joined⟩
    · rw [reserved]
      exact ⟨other, same⟩
    · rw [reserved]
      exact ⟨⟨base, subnet, grant⟩, joined⟩
  · intro call pool elsewhere
    exact reserved_run_of_not_touches elsewhere

/-- Two callers reserve quarters of one block, and a third caller gets another quarter, with three addresses
since it asked for none. -/
theorem three_quarters_in_one_pool :
    let options : LockOptions := ⟨"lock:", ⟨5⟩, ⟨2⟩, ⟨1⟩, ⟨4⟩, ⟨20⟩⟩
    let quarter : SubnetRequest := ⟨⟨"id", "pool", .docker⟩, "10.0.0.7/24", 26, 0⟩
    let caller (instant : Nat) : Session := .start ⟨instant, instant, true⟩ .empty
    let s := runAll options 1 [.reserve (caller 0) quarter .never, .reserve (caller 3) quarter .never] .empty
    quarter.pool.reserved s = ["10.0.0.0/26", "10.0.0.64/26"] ∧
      (∃ blocks : List Block,
        quarter.pool.reserved s = blocks.map Block.text ∧ blocks.Pairwise Block.Disjoint) ∧
      ∃ n after base subnet, reserveOn options 1 (caller 4) quarter .never s = (.ok n, after) ∧
        quarter.Grant 1 (quarter.pool.reserved s) n base subnet ∧ n.cidr = "10.0.0.128/26" ∧
        n.ips.length = 3 := by
  intro options quarter caller s
  obtain ⟨apart, granted, -⟩ := pools_stay_disjoint options 1
    [.reserve (caller 0) quarter .never, .reserve (caller 3) quarter .never]
  have shown : (reserveOn options 1 (caller 4) quarter .never s).1.toOption.map
      (fun n => (n.cidr, n.ips.length)) = some ("10.0.0.128/26", 3) := by decide +kernel
  have grant := granted (caller 4) quarter .never
  refine ⟨by decide +kernel, apart quarter.pool, ?_⟩
  rcases reserved : reserveOn options 1 (caller 4) quarter .never s with ⟨result, after⟩
  cases result with
  | error e =>
      rw [reserved] at shown
      cases shown
  | ok n =>
      rw [reserved] at shown grant
      obtain ⟨⟨base, subnet, grant⟩, -⟩ := grant
      obtain ⟨cidr, count⟩ := Prod.mk.inj (Option.some.inj shown)
      exact ⟨n, after, base, subnet, rfl, grant, cidr, count⟩

end PoolCall

end Testbed
