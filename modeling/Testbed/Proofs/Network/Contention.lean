import Testbed.Proofs.Network.Call
import Testbed.Proofs.Network.PoolHistory

/-!
Calls for subnets that run at the same time.

The steps of all calls follow one another in any order.  Between any two of them time may pass, and
strangers do to leases what they like, so that a lock may be lost at any moment.

The invariant `Contention.Sound` needs no lock: adding a subnet finds out whether it was there, so of
several calls that have chosen the same subnet only one is granted it.  Subnets of one length are the same
or share no address, and so what the calls were granted is disjoint.
-/

namespace Testbed

/-- A call for a subnet. -/
structure SubnetCall where
  request : SubnetRequest
  stage : CallStage
deriving Inhabited

namespace SubnetCall

/-- The subnet that a call was granted and has not given back, with its pool. -/
def granted? (call : SubnetCall) : Option (Pool × String) :=
  call.stage.granted?.map fun network => (call.request.pool, network.cidr)

/-- The network that a call has in mind was chosen by the allocator from what was in use at some time. -/
def Sound (padding : Nat) (call : SubnetCall) : Prop :=
  ∀ network, call.stage.outcome? = some (.ok network) →
    ∃ inUse base subnet, call.request.Grant padding inUse network base subnet

/-- A call that waits for the lock of its pool since now. -/
def start (options : LockOptions) (request : SubnetRequest) (holder : String) (now : Nat) : SubnetCall :=
  ⟨request, .waiting (.start options request.pool.lockName holder now)⟩

end SubnetCall

/-- Calls for subnets that run at the same time on one store. -/
structure Contention where
  clock : Clock
  store : Store
  calls : List SubnetCall

namespace Contention

/-- What happens next. -/
inductive Move where
  /-- Somebody asks for a subnet. -/
  | call (request : SubnetRequest)
  /-- One of the calls does something. -/
  | act (index : Nat) (act : CallAct)
  /-- The clock shows another time. -/
  | elapse (clock : Clock)
  /-- Strangers do something to the leases. -/
  | disturb (leases : Leases)

/-- No call has been made. -/
def start (clock : Clock) (store : Store) : Contention := ⟨clock, store, []⟩

/-- What a move leaves.  Every call waits for its lock under a token that no other call has. -/
def move (options : LockOptions) (padding : Nat) (c : Contention) : Move → Contention
  | .call request =>
    { c with calls := c.calls ++
        [.start options request (token (c.calls.length + 1)) c.clock.wall] }
  | .act index act =>
    match c.calls[index]? with
    | some call =>
      let (stage, store) := call.stage.act padding c.clock call.request c.store act
      { c with store, calls := c.calls.set index { call with stage } }
    | none => c
  | .elapse clock => { c with clock }
  | .disturb leases => { c with store := { c.store with leases } }

/-- What several moves leave. -/
def runAll (options : LockOptions) (padding : Nat) (moves : List Move) (c : Contention) : Contention :=
  moves.foldl (move options padding) c

/-- Something that the call at an index has, if there is such a call and it has it. -/
def at? {β : Type} (c : Contention) (f : SubnetCall → Option β) (index : Nat) : Option β :=
  c.calls[index]?.bind f

/-- The subnets in a pool that calls of one length were granted and have not given back. -/
def subnets (c : Contention) (pool : Pool) (length : Nat) : List String :=
  c.calls.filterMap fun call =>
    if call.request.pool = pool ∧ call.request.length = length then call.stage.granted?.map Network.cidr
    else none

variable {options : LockOptions} {padding : Nat} {c : Contention}

/-- A move of a call changes the store and that call, in one of the listed ways. -/
theorem move_act_cases (options : LockOptions) (padding : Nat) (c : Contention) (index : Nat)
    (act : CallAct) :
    (c.calls[index]? = none ∧ c.move options padding (.act index act) = c) ∨
    ∃ call stage store, c.calls[index]? = some call ∧
      CallStage.Acted padding c.clock call.request c.store act call.stage stage store ∧
      c.move options padding (.act index act) =
        { c with store, calls := c.calls.set index { call with stage } } := by
  cases found : c.calls[index]? with
  | none => exact .inl ⟨rfl, by simp only [move, found]⟩
  | some call =>
      refine .inr ⟨call, _, _, rfl, CallStage.acted act call.stage, ?_⟩
      simp only [move, found]

section Lookup

variable {calls : List SubnetCall} {index other : Nat} {call new : SubnetCall}

/-- After a call was changed, a call at some index is that call or was there before. -/
theorem lookup_set (found : (calls.set index new)[other]? = some call) :
    (other = index ∧ call = new) ∨ (other ≠ index ∧ calls[other]? = some call) := by
  rw [List.getElem?_set] at found
  split at found
  · next same =>
      split at found
      · exact .inl ⟨same.symm, (Option.some.inj found).symm⟩
      · cases found
  · next different => exact .inr ⟨Ne.symm different, found⟩

/-- After a call was made, a call at some index is that call or was there before. -/
theorem lookup_append (found : (calls ++ [new])[other]? = some call) :
    (other = calls.length ∧ call = new) ∨ calls[other]? = some call := by
  rcases Nat.lt_trichotomy other calls.length with before | last | after
  · rw [List.getElem?_append_left before] at found
    exact .inr found
  · subst last
    rw [List.getElem?_concat_length] at found
    exact .inl ⟨rfl, (Option.some.inj found).symm⟩
  · rw [List.getElem?_eq_none (by simp; omega)] at found
    cases found

end Lookup

section At

variable {β : Type} {f : SubnetCall → Option β}

/-- Only the call that was changed has something else now. -/
theorem at?_set {index : Nat} {call : SubnetCall} (found : c.calls[index]? = some call)
    (new : SubnetCall) (store : Store) :
    at? { c with store, calls := c.calls.set index new } f = Function.update (c.at? f) index (f new) := by
  obtain ⟨inside, -⟩ := List.getElem?_eq_some_iff.1 found
  funext other
  rw [at?]
  by_cases same : other = index
  · subst same
    simp [inside]
  · rw [Function.update_of_ne same, List.getElem?_set_ne (Ne.symm same), at?]

/-- The call that is found at an index is the one that is looked at. -/
theorem at?_of_found {index : Nat} {call : SubnetCall} (found : c.calls[index]? = some call) :
    c.at? f index = f call := by
  rw [at?, found]
  rfl

/-- A change of a call that leaves what it has makes no difference. -/
theorem at?_set_of_eq {index : Nat} {call new : SubnetCall} (found : c.calls[index]? = some call)
    (same : f new = f call) (store : Store) :
    at? { c with store, calls := c.calls.set index new } f = c.at? f := by
  rw [at?_set found, Function.update_eq_self_iff, at?_of_found found]
  exact same

/-- A new call that has nothing yet makes no difference. -/
theorem at?_append {new : SubnetCall} (nothing : f new = none) :
    at? { c with calls := c.calls ++ [new] } f = c.at? f := by
  funext index
  rw [at?, at?]
  rcases Nat.lt_trichotomy index c.calls.length with before | last | after
  · rw [List.getElem?_append_left before]
  · subst last
    simp [nothing]
  · rw [List.getElem?_eq_none (by simp; omega), List.getElem?_eq_none (by omega)]

end At

/-- The granted subnets are in their pools, each of them granted to one call only. -/
structure Sound (padding : Nat) (c : Contention) : Prop where
  calls : ∀ call ∈ c.calls, call.Sound padding
  listed : ∀ {index pool text}, c.at? SubnetCall.granted? index = some (pool, text) →
    text ∈ pool.reserved c.store
  once : ∀ {index other subnet}, c.at? SubnetCall.granted? index = some subnet →
    c.at? SubnetCall.granted? other = some subnet → index = other

namespace Sound

variable {index : Nat} {call : SubnetCall} {stage : CallStage} {store : Store} {n : Network}

/-- A network that a call was granted is from the pool that it asked. -/
theorem granted (h : c.Sound padding) (found : c.calls[index]? = some call)
    (had : call.stage.granted? = some n) : c.at? SubnetCall.granted? index = some (n.pool, n.cidr) := by
  obtain ⟨inUse, base, subnet, grant⟩ :=
    h.calls call (List.mem_of_getElem? found) n (CallStage.outcome?_of_granted? had)
  rw [at?_of_found found, grant.pool]
  simp only [SubnetCall.granted?, had, Option.map_some]

/-- A step that leaves the stock as it is. -/
theorem kept (h : c.Sound padding) (found : c.calls[index]? = some call)
    (sound : ∀ d ∈ c.calls.set index { call with stage }, d.Sound padding)
    (same : c.store.SameStock store) (kept : stage.granted? = call.stage.granted?) :
    Sound padding { c with store, calls := c.calls.set index { call with stage } } := by
  have grants : at? { c with store, calls := c.calls.set index { call with stage } }
      SubnetCall.granted? = c.at? SubnetCall.granted? :=
    at?_set_of_eq found (by simp only [SubnetCall.granted?, kept]) store
  refine ⟨sound, ?_, ?_⟩
  · intro j pool text granted
    rw [grants] at granted
    rw [Pool.reserved, same.members]
    exact h.listed granted
  · rw [grants]
    exact h.once

/-- A step that finds a subnet new in its pool.  No other call has it, because all that calls have is in
the pools. -/
theorem gained (h : c.Sound padding) (found : c.calls[index]? = some call)
    (sound : ∀ d ∈ c.calls.set index { call with stage }, d.Sound padding)
    (granted : stage.granted? = some n) (new : n.cidr ∉ call.request.pool.reserved c.store)
    (gains : c.store.Gains store call.request.pool.setKey n.cidr) :
    Sound padding { c with store, calls := c.calls.set index { call with stage } } := by
  have grants : at? { c with store, calls := c.calls.set index { call with stage } }
      SubnetCall.granted? =
        Function.update (c.at? SubnetCall.granted?) index (some (call.request.pool, n.cidr)) := by
    rw [at?_set found]
    simp only [SubnetCall.granted?, granted, Option.map_some]
  refine ⟨sound, ?_, ?_⟩
  · intro j pool text has
    rw [grants, Function.update_apply] at has
    rw [gains.mem_reserved]
    split at has
    · obtain ⟨rfl, rfl⟩ := Prod.mk.inj (Option.some.inj has)
      exact .inl ⟨rfl, rfl⟩
    · exact .inr (h.listed has)
  · intro i j subnet one two
    rw [grants, Function.update_apply] at one two
    split at one <;> split at two
    · next hi hj => rw [hi, hj]
    · obtain rfl := Option.some.inj one
      exact absurd (h.listed two) new
    · obtain rfl := Option.some.inj two
      exact absurd (h.listed one) new
    · exact h.once one two

/-- A step that gives a network back.  What it takes out of the pool is not what another call has. -/
theorem returned (h : c.Sound padding) (found : c.calls[index]? = some call)
    (sound : ∀ d ∈ c.calls.set index { call with stage }, d.Sound padding)
    (had : call.stage.granted? = some n) (gone : stage.granted? = none) :
    Sound padding { c with store := n.giveBack c.store, calls := c.calls.set index { call with stage } } := by
  have grants : at? { c with store := n.giveBack c.store, calls := c.calls.set index { call with stage } }
      SubnetCall.granted? = Function.update (c.at? SubnetCall.granted?) index none := by
    rw [at?_set found]
    simp only [SubnetCall.granted?, gone, Option.map_none]
  refine ⟨sound, ?_, ?_⟩
  · intro j pool text has
    rw [grants, Function.update_apply] at has
    split at has
    · cases has
    · next other =>
        refine Network.mem_members_giveBack.2 ⟨?_, h.listed has⟩
        rintro ⟨-, samePool, rfl⟩
        obtain rfl := Pool.setKey_injective samePool
        exact other (h.once has (h.granted found had))
  · intro i j subnet one two
    rw [grants, Function.update_apply] at one two
    split at one
    · cases one
    · split at two
      · cases two
      · exact h.once one two

/-- A step of a call keeps the granted subnets in their pools and apart. -/
theorem act (h : c.Sound padding) {what : CallAct} (found : c.calls[index]? = some call)
    (acted : CallStage.Acted padding c.clock call.request c.store what call.stage stage store) :
    Sound padding { c with store, calls := c.calls.set index { call with stage } } := by
  have sound : ∀ d ∈ c.calls.set index { call with stage }, d.Sound padding := by
    intro d mem
    rcases List.mem_or_eq_of_mem_set mem with mem | rfl
    · exact h.calls d mem
    · intro n result
      rcases acted.chosen_of_ok result with before | chosen
      · exact h.calls call (List.mem_of_getElem? found) n before
      · exact ⟨_, SubnetRequest.choose_eq_ok chosen⟩
  rcases acted.stock with ⟨same, kept⟩ | ⟨n, -, granted, new, gains⟩ | ⟨n, -, had, gone, rfl⟩
  · exact h.kept found sound same kept
  · exact h.gained found sound granted new gains
  · exact h.returned found sound had gone

/-- Every move keeps the granted subnets in their pools and apart. -/
theorem move (h : c.Sound padding) (m : Move) : (c.move options padding m).Sound padding := by
  cases m with
  | call request =>
      let new := SubnetCall.start options request (token (c.calls.length + 1)) c.clock.wall
      have grants : at? { c with calls := c.calls ++ [new] } SubnetCall.granted? =
          c.at? SubnetCall.granted? := at?_append rfl
      refine ⟨?_, ?_, ?_⟩
      · intro d mem
        rcases List.mem_append.1 mem with mem | mem
        · exact h.calls d mem
        · obtain rfl := List.mem_singleton.1 mem
          intro n result
          cases result
      · intro j pool text granted
        exact h.listed (grants ▸ granted)
      · intro i j subnet one two
        exact h.once (grants ▸ one) (grants ▸ two)
  | act index what =>
      rcases c.move_act_cases options padding index what with
        ⟨-, still⟩ | ⟨call, stage, store, found, acted, moved⟩
      · rw [still]
        exact h
      · rw [moved]
        exact h.act found acted
  | elapse clock => exact ⟨h.calls, h.listed, h.once⟩
  | disturb leases => exact ⟨h.calls, h.listed, h.once⟩

/-- A contention stays sound through any moves. -/
theorem runAll (h : c.Sound padding) (moves : List Move) :
    (c.runAll options padding moves).Sound padding := by
  induction moves generalizing c with
  | nil => exact h
  | cons m rest ih => exact ih (h.move m)

/-- A contention in which nobody has called is sound. -/
theorem start (clock : Clock) (store : Store) : (Contention.start clock store).Sound padding := by
  refine ⟨by simp [Contention.start], ?_, ?_⟩
  · intro index pool text granted
    cases granted
  · intro index other subnet one
    cases one

end Sound

/-- The subnets of a pool are those that the calls on it were granted, at their length. -/
theorem mem_subnets {pool : Pool} {length : Nat} {text : String} :
    text ∈ c.subnets pool length ↔ ∃ call ∈ c.calls, (call.request.pool = pool ∧
      call.request.length = length) ∧ ∃ n, call.stage.granted? = some n ∧ n.cidr = text := by
  simp only [subnets, List.mem_filterMap, Option.ite_none_right_eq_some, Option.map_eq_some_iff]

namespace Sound

variable {pool : Pool} {length : Nat}

/-- A granted subnet is a block of the length that was asked for. -/
theorem exists_block (h : c.Sound padding) {text : String} (mem : text ∈ c.subnets pool length) :
    ∃ b : Block, text = b.text ∧ b.length = length := by
  obtain ⟨call, among, ⟨-, rfl⟩, n, granted, rfl⟩ := mem_subnets.1 mem
  obtain ⟨inUse, base, subnet, grant⟩ :=
    h.calls call among n (CallStage.outcome?_of_granted? granted)
  exact ⟨subnet, grant.cidr, grant.sound.length⟩

/-- The subnets that were granted at one length in a pool do not overlap. -/
theorem apart (h : c.Sound padding) : SubnetsApart (c.subnets pool length) := by
  constructor
  · intro text mem
    obtain ⟨b, rfl, -⟩ := h.exists_block mem
    exact ⟨b, rfl⟩
  · intro x y hx hy different
    obtain ⟨x', hx, lengthX⟩ := h.exists_block hx
    obtain ⟨y', hy, lengthY⟩ := h.exists_block hy
    obtain rfl := Block.text_injective hx
    obtain rfl := Block.text_injective hy
    exact Block.disjoint_of_length_eq (lengthX.trans lengthY.symm) different

/-- No subnet is granted twice. -/
theorem nodup_subnets (h : c.Sound padding) : (c.subnets pool length).Nodup := by
  rw [subnets, List.Nodup, List.pairwise_filterMap]
  refine List.pairwise_iff_getElem.2 fun i j hi hj less text one text' two => ?_
  simp only [Option.ite_none_right_eq_some, Option.map_eq_some_iff] at one two
  obtain ⟨⟨poolI, -⟩, n, grantedI, rfl⟩ := one
  obtain ⟨⟨poolJ, -⟩, m, grantedJ, rfl⟩ := two
  intro same
  have hasI : c.at? SubnetCall.granted? i = some (pool, n.cidr) := by
    simp [at?, hi, SubnetCall.granted?, grantedI, poolI]
  have hasJ : c.at? SubnetCall.granted? j = some (pool, n.cidr) := by
    simp [at?, hj, SubnetCall.granted?, grantedJ, poolJ, same]
  exact absurd (h.once hasI hasJ) (Nat.ne_of_lt less)

end Sound

/-- Calls that run at the same time are never granted overlapping subnets of one length, whatever becomes
of their locks.

At every moment of every run, out of any store, the subnets of one length that calls were granted in one
pool and have not given back are pairwise disjoint blocks, and all of them are listed in the pool.  The
base blocks, and what calls of other lengths do, make no difference. -/
theorem granted_subnets_stay_disjoint (options : LockOptions) (padding : Nat) (clock : Clock)
    (store : Store) (moves : List Move) (pool : Pool) (length : Nat) :
    let c := (start clock store).runAll options padding moves
    (∃ blocks : List Block,
      c.subnets pool length = blocks.map Block.text ∧ blocks.Pairwise Block.Disjoint) ∧
    ∀ text ∈ c.subnets pool length, text ∈ pool.reserved c.store := by
  intro c
  have sound : c.Sound padding := (Sound.start clock store).runAll moves
  refine ⟨sound.apart.exists_blocks sound.nodup_subnets, ?_⟩
  intro text mem
  obtain ⟨call, among, ⟨rfl, -⟩, n, granted, rfl⟩ := mem_subnets.1 mem
  obtain ⟨i, hi, rfl⟩ := List.getElem_of_mem among
  have owned : c.at? SubnetCall.granted? i = some (c.calls[i].request.pool, n.cidr) := by
    simp [at?, hi, SubnetCall.granted?, granted]
  exact sound.listed owned

/-- The second caller takes the lock over when the first lease has run out, and is granted the subnet that
the first had chosen.  The first, who has not noticed, finds it taken; the third gets the next one. -/
theorem subnets_after_a_lost_lock :
    let options : LockOptions := ⟨"lock:", ⟨5⟩, ⟨2⟩, ⟨1⟩, ⟨4⟩, ⟨20⟩⟩
    let request (id : String) : SubnetRequest := ⟨⟨id, "pool", .docker⟩, "10.0.0.0/8", 24, 1⟩
    let all (index : Nat) : List Move :=
      [.act index .attempt, .act index .step, .act index .step, .act index .step, .act index .step]
    let moves := [.call (request "a"), .call (request "b"), .call (request "c"), .act 0 .attempt,
      .act 0 .step, .elapse ⟨5, 5, true⟩] ++ all 1 ++ [.act 0 .step, .act 0 .step, .act 0 .step] ++ all 2
    let c := (start ⟨0, 0, true⟩ .empty).runAll options 1 moves
    c.subnets ⟨.docker, "pool"⟩ 24 = ["10.0.0.0/24", "10.0.1.0/24"] ∧
      ∃ blocks : List Block, c.subnets ⟨.docker, "pool"⟩ 24 = blocks.map Block.text ∧
        blocks.Pairwise Block.Disjoint := by
  intro options request all moves c
  refine ⟨by decide +kernel, ?_⟩
  exact (granted_subnets_stay_disjoint options 1 ⟨0, 0, true⟩ .empty moves ⟨.docker, "pool"⟩ 24).1

end Contention

end Testbed
