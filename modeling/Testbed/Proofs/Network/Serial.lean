import Testbed.Proofs.Network.AtOnce
import Testbed.Proofs.Network.Exclusion

/-!
Calls that run at the same time, executed one after the other.

While no lease runs out, every reservation has the effect it would have if all of it were done at the
moment at which it reads its pool.  The steps in between do not show, because nobody else adds to the pool
up to the step that adds the subnet: that would take the lock.  Subnets are given back without the lock,
also in that time, but what is given back is in the pool, and what was chosen is not, so the two do not
meet.

`Contention.Serial` compares the store with the one that the serial execution has made so far.  The one is
behind the other by the subnets that were chosen and not added yet.
-/

namespace Testbed

/-! ### The serial execution -/

/-- The turn of a call in the serial execution. -/
inductive Turn where
  /-- All of the reservation that the call at an index asked for. -/
  | reserve (index : Nat) (request : SubnetRequest)
  | free (network : Network)
deriving Repr, DecidableEq

namespace Turn

/-- The call whose reservation it is. -/
def index? : Turn → Option Nat
  | .reserve index _ => some index
  | .free _ => none

/-- The turn as a call that ends before the next begins. -/
def call (caller : Nat → Session) (signal : Nat → Signal) : Turn → PoolCall
  | .reserve index request => .reserve (caller index) request (signal index)
  | .free network => .free network

end Turn

/-- The turn that comes with an act of the call at an index. -/
def Moment.turn? (index : Nat) (request : SubnetRequest) : Moment → Option Turn
  | .quiet => none
  | .reading => some (.reserve index request)
  | .returning network => some (.free network)

namespace Contention

/-- The turn that comes with a move: a reservation when it reads its pool, a return when it is made. -/
def Move.turn? (c : Contention) : Move → Option Turn
  | .act index what =>
    c.calls[index]?.bind fun call => (CallStage.moment what call.stage).turn? index call.request
  | _ => none

/-- The turns in the order of their moments. -/
def turns (options : LockOptions) (padding : Nat) : List Move → Contention → List Turn
  | [], _ => []
  | m :: rest, c => (m.turn? c).toList ++ turns options padding rest (c.move options padding m)

/-- Before every move no lease of a call that has a lock has run out, and strangers leave these leases
alone. -/
def Undisturbed (options : LockOptions) (padding : Nat) : List Move → Contention → Prop
  | [], _ => True
  | m :: rest, c => c.Running ∧ m.Spares c ∧ Undisturbed options padding rest (c.move options padding m)

instance decidableUndisturbed (options : LockOptions) (padding : Nat) :
    ∀ (moves : List Move) (c : Contention), Decidable (Undisturbed options padding moves c)
  | [], _ => isTrue trivial
  | m :: rest, c =>
    have := decidableUndisturbed options padding rest (c.move options padding m)
    inferInstanceAs (Decidable (c.Running ∧ m.Spares c ∧ _))

end Contention

section Serve

variable (options : LockOptions) (padding : Nat) (caller : Nat → Session) (signal : Nat → Signal)

/-- The store after some turns. -/
def serve (turns : List Turn) (s : Store) : Store :=
  PoolCall.runAll options padding (turns.map (Turn.call caller signal)) s

/-- One more turn is one more call after the others. -/
theorem serve_concat (turns : List Turn) (turn : Turn) (s : Store) :
    serve options padding caller signal (turns ++ [turn]) s =
      PoolCall.run options padding (serve options padding caller signal turns s)
        (turn.call caller signal) := by
  simp [serve, PoolCall.runAll]

/-- What the serial execution says about the outcome of the call at an index. -/
inductive Served (s : Store) (index : Nat) (request : SubnetRequest) (turns : List Turn) :
    Option (Except NetworkError Network) → Prop where
  /-- The call has not read its pool, and it is not its turn yet. -/
  | undecided (absent : ∀ turn ∈ turns, turn.index? ≠ some index) : Served s index request turns none
  /-- The call has given up waiting for the lock, and never gets a turn. -/
  | gaveUp {error : StoreError} (waited : error.endsWait = true)
      (absent : ∀ turn ∈ turns, turn.index? ≠ some index) :
      Served s index request turns (some (.error (.store error)))
  /-- The call has one turn, and the outcome is that of the reservation made then. -/
  | atTurn (before after : List Turn) (order : turns = before ++ .reserve index request :: after)
      (once : ∀ turn ∈ before ++ after, turn.index? ≠ some index) :
      Served s index request turns
        (some (PoolCall.reserveOn options padding (caller index) request (signal index)
          (serve options padding caller signal before s)).1)

variable {options padding caller signal}

/-- A call about which the serial execution says nothing has had no turn yet. -/
theorem Served.absent {s : Store} {index : Nat} {request : SubnetRequest} {turns : List Turn}
    (h : Served options padding caller signal s index request turns none) :
    ∀ turn ∈ turns, turn.index? ≠ some index := by
  cases h with
  | undecided absent => exact absent

/-- A turn of another call makes no difference. -/
theorem Served.concat {s : Store} {index : Nat} {request : SubnetRequest} {turns : List Turn}
    {outcome : Option (Except NetworkError Network)}
    (h : Served options padding caller signal s index request turns outcome) {turn : Turn}
    (other : turn.index? ≠ some index) :
    Served options padding caller signal s index request (turns ++ [turn]) outcome := by
  have extended : ∀ {turns : List Turn}, (∀ turn ∈ turns, turn.index? ≠ some index) →
      ∀ turn' ∈ turns ++ [turn], turn'.index? ≠ some index := by
    intro turns absent turn' mem
    rcases List.mem_append.1 mem with mem | mem
    · exact absent turn' mem
    · rw [List.mem_singleton.1 mem]
      exact other
  cases h with
  | undecided absent => exact .undecided (extended absent)
  | gaveUp waited absent => exact .gaveUp waited (extended absent)
  | atTurn before after order once =>
      apply Served.atTurn before (after ++ [turn])
      · rw [order, List.append_assoc, List.cons_append]
      · rw [← List.append_assoc]
        exact extended once

end Serve

/-! ### One step, against the serial execution -/

namespace CallStage

/-- A call that has chosen a network holds the lock. -/
theorem guard_of_pending? {stage : CallStage} {n : Network} (h : stage.pending? = some n) :
    ∃ guard, stage.guard? = some guard := by
  cases stage with
  | waiting a => cases h
  | returned m => cases h
  | reserving stage =>
      cases stage with
      | confirming guard m => exact ⟨guard, rfl⟩
      | adding guard m => exact ⟨guard, rfl⟩
      | choosing guard => cases h
      | releasing guard result => cases h
      | finished result => cases h

/-- What a step of a call does to the pools and to its own outcome, if the call knows of no lost lock and
what it has chosen is still free. -/
inductive Effect (padding : Nat) (r : SubnetRequest) (s : Store) :
    Moment → CallStage → CallStage → Store → Prop where
  | quiet {before after t} (stock : s.SameStock t) (pending : after.pending? = before.pending?)
      (outcome : after.outcome? = before.outcome?) : Effect padding r s .quiet before after t
  | gaveUp {before after error} (waited : StoreError.endsWait error = true)
      (pending : after.pending? = before.pending?) (undecided : before.outcome? = none)
      (outcome : after.outcome? = some (.error (.store error))) :
      Effect padding r s .quiet before after s
  | read {before after guard} (locked : before.guard? = some guard) (undecided : before.outcome? = none)
      (outcome : after.outcome? = some (r.reserveAtOnce padding s).1)
      (pending : after.pending? = (r.reserveAtOnce padding s).1.toOption) :
      Effect padding r s .reading before after s
  | added {before after t n} (pending : before.pending? = some n) (settled : after.pending? = none)
      (outcome : after.outcome? = before.outcome?) (gains : s.Gains t r.pool.setKey n.cidr) :
      Effect padding r s .quiet before after t
  | freed {before after n} (granted : before.granted? = some n)
      (pending : after.pending? = before.pending?) (outcome : after.outcome? = before.outcome?) :
      Effect padding r s (.returning n) before after (n.giveBack s)

/-- An act of a call that holds its lock, and whose choice is still free, has one of the
effects described. -/
theorem Acted.effect {padding : Nat} {clock : Clock} {r : SubnetRequest} {s t : Store} {act : CallAct}
    {before after : CallStage} (h : Acted padding clock r s act before after t)
    (kept : ∀ guard, before.guard? = some guard → guard.lost = false)
    (fresh : ∀ n, before.pending? = some n → n.cidr ∉ r.pool.reserved s) :
    Effect padding r s (moment act before) before after t := by
  cases h with
  | idle quiet =>
      rw [quiet]
      exact .quiet (.refl s) rfl rfl
  | gaveUp waited => cases act <;> exact .gaveUp waited rfl rfl rfl
  | refused key holder => exact .quiet (.refl s) rfl rfl
  | acquired free => exact .quiet (.of_eq rfl rfl) rfl rfl
  | extended held found own => exact .quiet (.of_eq rfl rfl) rfl rfl
  | lost held gone =>
      exact .quiet (.refl s) (ReservationStage.pending?_setGuard _) (ReservationStage.outcome?_setGuard _)
  | @chosen guard n found =>
      apply Effect.read rfl rfl
      · simp only [SubnetRequest.reserveAtOnce, found]
        rfl
      · simp only [SubnetRequest.reserveAtOnce, found]
        rfl
  | @unchosen guard error failed =>
      apply Effect.read rfl rfl
      · simp only [SubnetRequest.reserveAtOnce, failed]
        rfl
      · simp only [SubnetRequest.reserveAtOnce, failed]
        rfl
  | confirmed held => exact .quiet (.refl s) rfl rfl
  | @unconfirmed guard n lost => cases (kept guard rfl).symm.trans lost
  | added new => exact .added rfl rfl rfl (.of_addMembers s _ _)
  | @taken guard n old => exact absurd old (fresh n rfl)
  | @released guard result => exact .quiet (guard.sameStock_drop s) rfl rfl
  | freed => exact .freed rfl rfl rfl

end CallStage

namespace SubnetCall

/-- The subnet that a call has chosen and not added, with its pool. -/
def pending? (call : SubnetCall) : Option (Pool × String) :=
  call.stage.pending?.map fun network => (call.request.pool, network.cidr)

end SubnetCall

namespace Contention

variable {options : LockOptions} {padding : Nat} {caller : Nat → Session} {signal : Nat → Signal}
  {c : Contention} {origin : Store} {order : List Turn}

/-- What is looked at in a call is found in the call at that index. -/
theorem at?_eq_some {β : Type} {f : SubnetCall → Option β} {index : Nat} {x : β} :
    c.at? f index = some x ↔ ∃ call, c.calls[index]? = some call ∧ f call = some x :=
  Option.bind_eq_some_iff

/-- Of the calls for one pool only the one that has the lock has chosen a subnet. -/
theorem Guarded.exclusive_pending (h : c.Guarded options) {i j : Nat} {call : SubnetCall} {guard : Guard}
    {text : String} (found : c.calls[i]? = some call) (mine : call.stage.guard? = some guard)
    (other : c.at? SubnetCall.pending? j = some (call.request.pool, text)) : i = j := by
  obtain ⟨d, there, pending⟩ := at?_eq_some.1 other
  obtain ⟨n, pending, pair⟩ := Option.map_eq_some_iff.1 pending
  obtain ⟨guard', locked⟩ := CallStage.guard_of_pending? pending
  exact h.exclusive found there mine locked (Prod.mk.inj pair).1.symm

/-- Where something is found after it was put where nothing was. -/
theorem exists_update_of_none {β : Type} {f : Nat → Option β} {index : Nat} (free : f index = none)
    {new : Option β} {x : β} :
    (∃ i, Function.update f index new i = some x) ↔ new = some x ∨ ∃ i, f i = some x := by
  constructor
  · rintro ⟨i, found⟩
    rw [Function.update_apply] at found
    split at found
    · exact .inl found
    · exact .inr ⟨i, found⟩
  · rintro (rfl | ⟨i, found⟩)
    · exact ⟨index, Function.update_self ..⟩
    · refine ⟨i, (Function.update_of_ne ?_ ..).trans found⟩
      rintro rfl
      cases free.symm.trans found

/-- The state of the calls after the turns `order`, compared with their serial execution from `origin`. -/
structure Serial (options : LockOptions) (padding : Nat) (caller : Nat → Session)
    (signal : Nat → Signal) (origin : Store) (order : List Turn) (c : Contention) : Prop where
  leases : (serve options padding caller signal order origin).leases = .empty
  stock : ∀ (pool : Pool) (text : String),
    text ∈ pool.reserved (serve options padding caller signal order origin) ↔
      text ∈ pool.reserved c.store ∨ ∃ index, c.at? SubnetCall.pending? index = some (pool, text)
  fresh : ∀ {index : Nat} {pool : Pool} {text : String},
    c.at? SubnetCall.pending? index = some (pool, text) → text ∉ pool.reserved c.store
  known : ∀ turn ∈ order, ∀ index ∈ turn.index?, index < c.calls.length
  served : ∀ {index : Nat} {call : SubnetCall}, c.calls[index]? = some call →
    Served options padding caller signal origin index call.request order call.stage.outcome?

namespace Serial

variable {index : Nat} {call : SubnetCall} {stage : CallStage} {store : Store}

/-- A call that keeps its outcome, without a turn. -/
theorem served_set (h : c.Serial options padding caller signal origin order)
    (found : c.calls[index]? = some call) (outcome : stage.outcome? = call.stage.outcome?)
    {i : Nat} {d : SubnetCall} (there : (c.calls.set index { call with stage })[i]? = some d) :
    Served options padding caller signal origin i d.request order d.stage.outcome? := by
  rcases lookup_set there with ⟨rfl, rfl⟩ | ⟨-, before⟩
  · simp only [outcome]
    exact h.served found
  · exact h.served before

/-- Every turn is that of a call that there is, also after one of the calls has gone on. -/
theorem known_set (h : c.Serial options padding caller signal origin order) (new : SubnetCall) :
    ∀ turn ∈ order, ∀ i ∈ turn.index?, i < (c.calls.set index new).length := by
  rw [List.length_set]
  exact h.known

/-- A step that does nothing to the pools. -/
theorem quiet (h : c.Serial options padding caller signal origin order)
    (found : c.calls[index]? = some call) (stock : c.store.SameStock store)
    (pending : stage.pending? = call.stage.pending?)
    (served : ∀ {i : Nat} {d : SubnetCall}, (c.calls.set index { call with stage })[i]? = some d →
      Served options padding caller signal origin i d.request order d.stage.outcome?) :
    Serial options padding caller signal origin order
      { c with store, calls := c.calls.set index { call with stage } } := by
  have same : at? { c with store, calls := c.calls.set index { call with stage } }
      SubnetCall.pending? = c.at? SubnetCall.pending? :=
    at?_set_of_eq found (by simp only [SubnetCall.pending?, pending]) store
  have reserved : ∀ pool : Pool, pool.reserved store = pool.reserved c.store :=
    fun pool => stock.members pool.setKey
  refine ⟨h.leases, ?_, ?_, h.known_set _, served⟩
  · intro pool text
    rw [same, reserved]
    exact h.stock pool text
  · intro i pool text chosen
    rw [same] at chosen
    rw [reserved]
    exact h.fresh chosen

/-- A step that adds what was chosen.  The serial execution has it already. -/
theorem added (h : c.Serial options padding caller signal origin order) (guarded : c.Guarded options)
    {n : Network} (found : c.calls[index]? = some call) (pending : call.stage.pending? = some n)
    (settled : stage.pending? = none) (outcome : stage.outcome? = call.stage.outcome?)
    (gains : c.store.Gains store call.request.pool.setKey n.cidr) :
    Serial options padding caller signal origin order
      { c with store, calls := c.calls.set index { call with stage } } := by
  have was : c.at? SubnetCall.pending? index = some (call.request.pool, n.cidr) := by
    rw [at?_of_found found]
    simp only [SubnetCall.pending?, pending, Option.map_some]
  have now : at? { c with store, calls := c.calls.set index { call with stage } }
      SubnetCall.pending? = Function.update (c.at? SubnetCall.pending?) index none := by
    rw [at?_set found]
    simp only [SubnetCall.pending?, settled, Option.map_none]
  refine ⟨h.leases, ?_, ?_, h.known_set _, h.served_set found outcome⟩
  · intro pool text
    rw [now, gains.mem_reserved, h.stock]
    constructor
    · rintro (old | ⟨i, chosen⟩)
      · exact .inl (.inr old)
      · by_cases same : i = index
        · rw [same, was] at chosen
          obtain ⟨rfl, rfl⟩ := Prod.mk.inj (Option.some.inj chosen)
          exact .inl (.inl ⟨rfl, rfl⟩)
        · exact .inr ⟨i, by rw [Function.update_of_ne same, chosen]⟩
    · rintro ((⟨rfl, rfl⟩ | old) | ⟨i, chosen⟩)
      · exact .inr ⟨index, was⟩
      · exact .inl old
      · rw [Function.update_apply] at chosen
        split at chosen
        · cases chosen
        · exact .inr ⟨i, chosen⟩
  · intro i pool text chosen
    rw [now, Function.update_apply] at chosen
    split at chosen
    · cases chosen
    · next other =>
        rw [gains.mem_reserved]
        rintro (⟨rfl, rfl⟩ | old)
        · -- Two calls would have chosen in one pool.
          obtain ⟨guard, locked⟩ := CallStage.guard_of_pending? pending
          exact other (guarded.exclusive_pending found locked chosen).symm
        · exact h.fresh chosen old

/-- A network is given back here and in the serial execution. -/
theorem freed (h : c.Serial options padding caller signal origin order) (sound : c.Sound padding)
    {n : Network} (found : c.calls[index]? = some call) (granted : call.stage.granted? = some n)
    (pending : stage.pending? = call.stage.pending?) (outcome : stage.outcome? = call.stage.outcome?) :
    Serial options padding caller signal origin (order ++ [.free n])
      { c with store := n.giveBack c.store, calls := c.calls.set index { call with stage } } := by
  have same : at? { c with store := n.giveBack c.store, calls := c.calls.set index { call with stage } }
      SubnetCall.pending? = c.at? SubnetCall.pending? :=
    at?_set_of_eq found (by simp only [SubnetCall.pending?, pending]) _
  have listed : n.cidr ∈ n.pool.reserved c.store := sound.listed (sound.granted found granted)
  refine ⟨?_, ?_, ?_, ?_, ?_⟩
  · rw [serve_concat]
    exact (Network.leases_giveBack _ _).trans h.leases
  · intro pool text
    rw [serve_concat, same]
    -- What is given back is in the pool, and what others have chosen is not.
    have apart : (∃ i, c.at? SubnetCall.pending? i = some (pool, text)) →
        ¬ (n.cidr.isEmpty = false ∧ n.pool.setKey = pool.setKey ∧ text = n.cidr) := by
      rintro ⟨i, chosen⟩ ⟨-, samePool, rfl⟩
      obtain rfl := Pool.setKey_injective samePool
      exact h.fresh chosen listed
    have before := h.stock pool text
    simp only [Pool.reserved] at before ⊢
    refine Network.mem_members_giveBack.trans ?_
    rw [Network.mem_members_giveBack, before, and_or_left, and_iff_right_of_imp apart]
  · intro i pool text chosen
    rw [same] at chosen
    exact fun mem => h.fresh chosen (Network.mem_members_giveBack.1 mem).2
  · intro turn mem i turned
    rcases List.mem_append.1 mem with mem | mem
    · exact h.known_set _ turn mem i turned
    · rw [List.mem_singleton.1 mem] at turned
      cases turned
  · intro i d there
    exact (h.served_set found outcome there).concat (by simp [Turn.index?])

/-- A call that has the lock and has not chosen finds in its pool what the serial execution holds there,
because nobody else has chosen in it. -/
theorem reserved_eq (h : c.Serial options padding caller signal origin order)
    (guarded : c.Guarded options) {guard : Guard} (found : c.calls[index]? = some call)
    (locked : call.stage.guard? = some guard) (none_chosen : c.at? SubnetCall.pending? index = none) :
    call.request.pool.reserved (serve options padding caller signal order origin) =
      call.request.pool.reserved c.store := by
  apply Store.members_eq_of_mem_iff
  intro text
  refine (h.stock call.request.pool text).trans (or_iff_left ?_)
  rintro ⟨i, chosen⟩
  obtain rfl := guarded.exclusive_pending found locked chosen
  cases none_chosen.symm.trans chosen

/-- In the serial execution nobody has a lock when a turn begins. -/
theorem reserveOn_eq (h : c.Serial options padding caller signal origin order) (index : Nat)
    (r : SubnetRequest) :
    PoolCall.reserveOn options padding (caller index) r (signal index)
        (serve options padding caller signal order origin) =
      r.reserveAtOnce padding (serve options padding caller signal order origin) := by
  apply PoolCall.reserveOn_of_free
  rw [Store.lease?, h.leases]
  rfl

/-- A step that reads the pool.  The serial execution makes all of the reservation now. -/
theorem read (h : c.Serial options padding caller signal origin order) (guarded : c.Guarded options)
    {guard : Guard} (found : c.calls[index]? = some call) (locked : call.stage.guard? = some guard)
    (undecided : call.stage.outcome? = none)
    (outcome : stage.outcome? = some (call.request.reserveAtOnce padding c.store).1)
    (pending : stage.pending? = (call.request.reserveAtOnce padding c.store).1.toOption) :
    Serial options padding caller signal origin (order ++ [.reserve index call.request])
      { c with calls := c.calls.set index { call with stage } } := by
  have none_chosen : c.at? SubnetCall.pending? index = none := by
    rw [at?_of_found found, SubnetCall.pending?]
    cases chosen : call.stage.pending? with
    | none => rfl
    | some n => cases undecided.symm.trans (CallStage.outcome?_of_pending? chosen)
  have sameResult : (call.request.reserveAtOnce padding
      (serve options padding caller signal order origin)).1 =
        (call.request.reserveAtOnce padding c.store).1 :=
    SubnetRequest.reserveAtOnce_fst (h.reserved_eq guarded found locked none_chosen)
  have turn := h.reserveOn_eq index call.request
  have after : serve options padding caller signal (order ++ [.reserve index call.request]) origin =
      (call.request.reserveAtOnce padding (serve options padding caller signal order origin)).2 := by
    rw [serve_concat, ← turn]
    rfl
  have waiting := h.served found
  rw [undecided] at waiting
  have now : at? { c with calls := c.calls.set index { call with stage } } SubnetCall.pending? =
      Function.update (c.at? SubnetCall.pending?) index (call.request.gain? padding c.store) := by
    have set := at?_set (f := SubnetCall.pending?) found { call with stage } c.store
    simp only [SubnetCall.pending?, pending] at set
    exact set
  refine ⟨?_, ?_, ?_, ?_, ?_⟩
  · rw [after, SubnetRequest.leases_reserveAtOnce]
    exact h.leases
  · intro pool text
    rw [after, SubnetRequest.mem_reserved_reserveAtOnce, SubnetRequest.gain?, sameResult,
      ← SubnetRequest.gain?, now, exists_update_of_none none_chosen, h.stock]
    exact or_left_comm
  · intro i pool text chosen
    rw [now, Function.update_apply] at chosen
    split at chosen
    · exact SubnetRequest.not_mem_of_gain? chosen
    · exact h.fresh chosen
  · intro turn mem i turned
    rcases List.mem_append.1 mem with mem | mem
    · exact h.known_set _ turn mem i turned
    · rw [List.mem_singleton.1 mem] at turned
      obtain rfl : index = i := Option.some.inj turned
      rw [List.length_set]
      exact (List.getElem?_eq_some_iff.1 found).1
  · intro i d there
    rcases lookup_set there with ⟨rfl, rfl⟩ | ⟨other, before⟩
    · rw [outcome, ← sameResult, ← turn]
      apply Served.atTurn order [] rfl
      rw [List.append_nil]
      exact waiting.absent
    · apply (h.served before).concat
      rintro ⟨⟩
      exact other rfl

/-- A move and the turn that comes with it. -/
theorem move (h : c.Serial options padding caller signal origin order) (sound : c.Sound padding)
    (guarded : c.Guarded options) (m : Move) :
    Serial options padding caller signal origin (order ++ (m.turn? c).toList)
      (c.move options padding m) := by
  cases m with
  | call request =>
      simp only [Move.turn?, Option.toList_none, List.append_nil]
      have same : at? (c.move options padding (.call request)) SubnetCall.pending? =
          c.at? SubnetCall.pending? := at?_append rfl
      refine ⟨h.leases, ?_, ?_, ?_, ?_⟩
      · rw [same]
        exact h.stock
      · rw [same]
        exact h.fresh
      · intro turn mem i turned
        have := h.known turn mem i turned
        simp only [Contention.move, List.length_append]
        omega
      · intro i d there
        rcases lookup_append there with ⟨rfl, rfl⟩ | before
        · refine .undecided fun turn mem turned => ?_
          exact Nat.lt_irrefl _ (h.known turn mem c.calls.length turned)
        · exact h.served before
  | act index what =>
      rcases c.move_act_cases options padding index what with
        ⟨nobody, still⟩ | ⟨call, stage, store, found, acted, moved⟩
      · rw [still, Move.turn?, nobody, Option.bind_none, Option.toList_none, List.append_nil]
        exact h
      · have kept : ∀ guard, call.stage.guard? = some guard → guard.lost = false :=
          fun guard mine => (guarded.held found guard mine).kept
        have fresh : ∀ n, call.stage.pending? = some n →
            n.cidr ∉ call.request.pool.reserved c.store := by
          intro n chosen
          have has : c.at? SubnetCall.pending? index = some (call.request.pool, n.cidr) := by
            rw [at?_of_found found, SubnetCall.pending?, chosen, Option.map_some]
          exact h.fresh has
        have effect := acted.effect kept fresh
        rw [moved, Move.turn?, found, Option.bind_some]
        generalize CallStage.moment what call.stage = moment at effect
        cases effect with
        | quiet stock pending outcome =>
            rw [Moment.turn?, Option.toList_none, List.append_nil]
            exact h.quiet found stock pending (h.served_set found outcome)
        | gaveUp waited pending undecided outcome =>
            rw [Moment.turn?, Option.toList_none, List.append_nil]
            have waiting := h.served found
            rw [undecided] at waiting
            refine h.quiet found (.refl _) pending ?_
            intro i d there
            rcases lookup_set there with ⟨rfl, rfl⟩ | ⟨-, before⟩
            · rw [outcome]
              exact .gaveUp waited waiting.absent
            · exact h.served before
        | read locked undecided outcome pending =>
            exact h.read guarded found locked undecided outcome pending
        | added pending settled outcome gains =>
            rw [Moment.turn?, Option.toList_none, List.append_nil]
            exact h.added guarded found pending settled outcome gains
        | freed granted pending outcome => exact h.freed sound found granted pending outcome
  | elapse clock =>
      simp only [Move.turn?, Option.toList_none, List.append_nil]
      exact ⟨h.leases, h.stock, h.fresh, h.known, h.served⟩
  | disturb leases =>
      simp only [Move.turn?, Option.toList_none, List.append_nil]
      exact ⟨h.leases, h.stock, h.fresh, h.known, h.served⟩

/-- A whole run and its turns, as long as no lock is lost. -/
theorem runAll (h : c.Serial options padding caller signal origin order) (sound : c.Sound padding)
    (guarded : c.Guarded options) {moves : List Move} (quiet : Undisturbed options padding moves c) :
    Serial options padding caller signal origin (order ++ turns options padding moves c)
      (c.runAll options padding moves) := by
  induction moves generalizing c order with
  | nil =>
      rw [turns, List.append_nil]
      exact h
  | cons m rest ih =>
      obtain ⟨running, spares, quiet⟩ := quiet
      rw [turns, ← List.append_assoc]
      exact ih (h.move sound guarded m) (sound.move m) (guarded.move running spares) quiet

/-- At the beginning no turn has been taken, and nothing differs from the serial execution. -/
theorem start (clock : Clock) (store : Store) :
    Serial options padding caller signal { store with leases := .empty } [] (.start clock store) := by
  refine ⟨rfl, ?_, ?_, ?_, ?_⟩
  · intro pool text
    refine (or_iff_left ?_).symm
    rintro ⟨index, chosen⟩
    cases chosen
  · intro index pool text chosen
    cases chosen
  · intro turn mem
    cases mem
  · intro index call found
    cases found

end Serial

/-- Calls that run at the same time come to what they would come to one after the other, as long as no
lease runs out and strangers keep away from the locks that are held.

The serial execution begins with nobody holding a lock, and makes all of each reservation at the moment at
which the call read its pool; whoever makes it there, with whatever signal, makes no difference.  Every call
that has ended, or has read its pool, has the result of its one turn; or it has given up waiting for the
lock and has no turn.  At every moment the pools hold what the serial execution holds there, but for the
subnets that were chosen and not added yet; so a pool for which no call is at that point is the same in
both. -/
theorem undisturbed_calls_are_serial (options : LockOptions) (padding : Nat) (caller : Nat → Session)
    (signal : Nat → Signal) (clock : Clock) (store : Store) (moves : List Move)
    (quiet : Undisturbed options padding moves (start clock store)) :
    let c := (start clock store).runAll options padding moves
    let order := turns options padding moves (start clock store)
    let origin : Store := { store with leases := .empty }
    let served := serve options padding caller signal order origin
    (∀ index call, c.calls[index]? = some call →
      Served options padding caller signal origin index call.request order call.stage.outcome?) ∧
    (∀ (pool : Pool) (text : String), text ∈ pool.reserved served ↔
      text ∈ pool.reserved c.store ∨ ∃ call ∈ c.calls, call.pending? = some (pool, text)) ∧
    ∀ pool : Pool, (∀ call ∈ c.calls, call.request.pool = pool → call.stage.pending? = none) →
      pool.reserved c.store = pool.reserved served := by
  intro c order origin served
  have serial : Serial options padding caller signal origin order c :=
    (Serial.start clock store).runAll (Sound.start clock store) (Guarded.start clock store) quiet
  have stock : ∀ (pool : Pool) (text : String), text ∈ pool.reserved served ↔
      text ∈ pool.reserved c.store ∨ ∃ call ∈ c.calls, call.pending? = some (pool, text) := by
    intro pool text
    rw [serial.stock]
    simp only [at?_eq_some, List.mem_iff_getElem?]
    constructor
    · rintro (old | ⟨i, call, found, pending⟩)
      · exact .inl old
      · exact .inr ⟨call, ⟨i, found⟩, pending⟩
    · rintro (old | ⟨call, ⟨i, found⟩, pending⟩)
      · exact .inl old
      · exact .inr ⟨i, call, found, pending⟩
  refine ⟨fun index call found => serial.served found, stock, ?_⟩
  intro pool settled
  apply Store.members_eq_of_mem_iff
  intro text
  refine ((stock pool text).trans (or_iff_left ?_)).symm
  rintro ⟨call, mem, chosen⟩
  obtain ⟨n, pending, pair⟩ := Option.map_eq_some_iff.1 chosen
  cases (settled call mem (Prod.mk.inj pair).1).symm.trans pending

/-- The first network is given back between the moment at which the second call reads the pool and the
moment at which it adds to it; the third call gives up waiting.  The second is still served as if the first
network had been in use all the time. -/
theorem return_while_another_chooses :
    let options : LockOptions := ⟨"lock:", ⟨5⟩, ⟨2⟩, ⟨1⟩, ⟨4⟩, ⟨20⟩⟩
    let pool : Pool := ⟨.docker, "pool"⟩
    let request (id base : String) (length : Nat) : SubnetRequest :=
      ⟨⟨id, "pool", .docker⟩, base, length, 1⟩
    let moves := [.call (request "a" "10.0.0.0/16" 24), .call (request "b" "10.0.0.0/8" 16),
      .call (request "c" "10.0.0.0/8" 20), .act 0 .attempt, .act 0 .step, .act 0 .step, .act 0 .step,
      .act 0 .step, .act 1 .attempt, .act 1 .step, .act 2 .attempt, .act 0 .free, .elapse ⟨4, 4, true⟩,
      .act 1 .tick, .elapse ⟨6, 6, true⟩, .act 1 .step, .act 1 .step, .act 1 .step, .act 2 .giveUp]
    let before := start ⟨0, 0, true⟩ .empty
    let c := before.runAll options 1 moves
    let order := turns options 1 moves before
    Undisturbed options 1 moves before ∧ order.map Turn.index? = [some 0, some 1, none] ∧
      pool.reserved c.store = ["10.1.0.0/16"] ∧
      pool.reserved c.store =
        pool.reserved (serve options 1 (fun _ => default) (fun _ => .never) order .empty) := by
  intro options pool request moves before c order
  have quiet : Undisturbed options 1 moves before := by decide +kernel
  have main := undisturbed_calls_are_serial options 1 (fun _ => default) (fun _ => .never)
    ⟨0, 0, true⟩ .empty moves quiet
  refine ⟨quiet, by decide +kernel, by decide +kernel, ?_⟩
  exact main.2.2 pool (by decide +kernel)

end Contention

end Testbed
