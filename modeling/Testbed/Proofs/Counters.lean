import Testbed.Proofs.Store

/-!
Taking amounts from several counters at once.

Requests are met in their order, and requests for one counter share what it holds.  So a request is judged
by its counter less all that the requests in front of it ask of the same counter: `Short` says that this is
too little, and the first request that is short is the one that is named.  Unless amounts are below zero,
nobody can do better by asking in another order.

What is left of a counter is kept in 64 bits.  These hold it as it is unless amounts are below zero and too
large for them; `Exact` says that they always do.

`takeBeside` meets the same requests without touching the counters before the end: what is left of each
counter is kept beside them and written down when all requests are met.
-/

namespace Testbed

namespace Table

variable {α : Type}

/-- What is under a key after all entries of a table were put on another one. -/
theorem get?_insertAll_entries (t upper : Table α) (key : String) :
    (t.insertAll upper.entries).get? key = (upper.get? key).or (t.get? key) := by
  cases found : upper.get? key with
  | none =>
      have absent : key ∉ upper.keys := by
        rw [mem_keys, contains, found]
        exact Bool.false_ne_true
      rw [t.get?_insertAll_of_notMem absent, Option.none_or]
  | some value =>
      have mem : (key, value) ∈ upper.entries := mem_entries.2 found
      rw [t.get?_insertAll_of_mem upper.nodup_keys mem, Option.some_or]

/-- It does not matter on which of the two tables an entry is put. -/
theorem insertAll_insert (t upper : Table α) (key : String) (value : α) :
    t.insertAll (upper.insert key value).entries = (t.insertAll upper.entries).insert key value := by
  apply ext
  intro other
  rw [get?_insertAll_entries, get?_insert, get?_insert, get?_insertAll_entries]
  by_cases same : key = other
  · rw [if_pos same, if_pos same, Option.some_or]
  · rw [if_neg same, if_neg same]

end Table

namespace Counters

/-! ### Requests that cannot be met -/

/-- Counters are known by what they hold. -/
theorem ext_value? {c d : Counters} (same : ∀ key, c.value? key = d.value? key) : c = d := by
  apply Table.ext
  intro key
  exact Option.map_injective (fun _ _ => Int64.toInt_inj.1) (same key)

/-- What a counter holds, less what the requests in front of an index ask of it. -/
def left (c : Counters) (requests : List (String × Int)) (i : Nat) (key : String) : Int :=
  c.holding key - total key (requests.take i)

/-- For the request at an index too little is left of its counter. -/
def Short (c : Counters) (requests : List (String × Int)) (i : Nat) : Prop :=
  ∃ request ∈ requests[i]?, kept (c.left requests i request.1) < request.2

instance (c : Counters) (requests : List (String × Int)) : DecidablePred (c.Short requests) :=
  fun i => inferInstanceAs (Decidable (∃ request ∈ requests[i]?,
    kept (c.left requests i request.1) < request.2))

/-- The request at an index is short, and none in front of it is. -/
def FirstShort (c : Counters) (requests : List (String × Int)) (i : Nat) : Prop :=
  c.Short requests i ∧ ∀ j < i, ¬ c.Short requests j

instance (c : Counters) (requests : List (String × Int)) : DecidablePred (c.FirstShort requests) :=
  fun i => inferInstanceAs (Decidable (c.Short requests i ∧ ∀ j < i, ¬ c.Short requests j))

/-- Whatever is left of a counter at any point of the requests, 64 bits hold it. -/
def Exact (c : Counters) (requests : List (String × Int)) : Prop :=
  ∀ i key, Fits (c.left requests i key)

variable {c : Counters} {key : String} {amount : Int} {requests rest : List (String × Int)} {i j : Nat}

/-- Only one request is the first. -/
theorem FirstShort.unique (first : c.FirstShort requests i) (other : c.FirstShort requests j) : i = j := by
  rcases Nat.lt_trichotomy i j with before | same | after
  · exact absurd first.1 (other.2 i before)
  · exact same
  · exact absurd other.1 (first.2 j after)

/-- Where 64 bits hold every remainder, an amount is short if it is above what the ones before it leave. -/
theorem Exact.short (exact : c.Exact requests) :
    c.Short requests i ↔ ∃ request ∈ requests[i]?, c.left requests i request.1 < request.2 := by
  simp only [Short, kept_of_fits (exact i _)]

/-- Where 64 bits hold every remainder, they hold what is left after the whole list. -/
theorem Exact.kept_left (exact : c.Exact requests) (key : String) :
    kept (c.holding key - total key requests) = c.holding key - total key requests := by
  have last := exact requests.length key
  rw [left, List.take_length] at last
  exact kept_of_fits last

/-- In an empty list nothing is short. -/
theorem not_short_nil : ¬ c.Short [] i := by
  intro short
  obtain ⟨request, listed, -⟩ := short
  cases listed

/-- The first request is short if its counter holds less than it asks. -/
theorem short_zero : c.Short ((key, amount) :: rest) 0 ↔ c.holding key < amount := by
  simp [Short, left, total, kept_of_fits (c.fits_holding key)]

/-- A request is short exactly if it is so once the first request has been met. -/
theorem short_succ : c.Short ((key, amount) :: rest) (i + 1) ↔
    Short (c.put key (c.holding key - amount)) rest i := by
  have same_left : ∀ k, kept (c.left ((key, amount) :: rest) (i + 1) k) =
      kept (left (c.put key (c.holding key - amount)) rest i k) := by
    intro k
    rw [left, left, List.take_succ_cons, total_cons, holding_put]
    by_cases same : key = k
    · subst same
      rw [if_pos rfl, if_pos rfl, kept_sub, Int.sub_sub]
    · rw [if_neg same, if_neg same, Int.zero_add]
  simp only [Short, List.getElem?_cons_succ, same_left]

/-- Which request is the first to be short is not changed by meeting the first request of all. -/
theorem firstShort_succ (enough : ¬ c.holding key < amount) :
    c.FirstShort ((key, amount) :: rest) (i + 1) ↔
      FirstShort (c.put key (c.holding key - amount)) rest i := by
  rw [FirstShort, FirstShort, short_succ, and_congr_right_iff]
  intro _
  constructor
  · intro before j less
    rw [← short_succ]
    exact before (j + 1) (Nat.succ_lt_succ less)
  · intro before j less
    cases j with
    | zero => rwa [short_zero]
    | succ j =>
        rw [short_succ]
        exact before j (Nat.lt_of_succ_lt_succ less)

/-- The request that is named is the first that is short. -/
theorem takeFrom_eq_error (index : Nat) :
    c.takeFrom index requests = .error (index + i) ↔ c.FirstShort requests i := by
  induction requests generalizing c index i with
  | nil => simp [takeFrom, FirstShort, not_short_nil]
  | cons head rest ih =>
      obtain ⟨key, amount⟩ := head
      rw [takeFrom]
      by_cases short : c.holding key < amount
      · rw [if_pos short]
        constructor
        · intro named
          obtain rfl : i = 0 := by simpa using Except.error.inj named
          exact ⟨short_zero.2 short, fun j less => absurd less (Nat.not_lt_zero j)⟩
        · rintro ⟨-, before⟩
          obtain rfl | positive := Nat.eq_zero_or_pos i
          · rfl
          · exact absurd (short_zero.2 short) (before 0 positive)
      · rw [if_neg short]
        cases i with
        | zero =>
            -- The first request has been met, so a later one is named.
            constructor
            · intro named
              exact absurd (lt_of_takeFrom_error named).1 (by omega)
            · rintro ⟨first, -⟩
              exact absurd (short_zero.1 first) short
        | succ i => rw [firstShort_succ short, ← ih (index + 1), Nat.add_right_comm, Nat.add_assoc]

/-- Taking fails with the first position that is short, and with no other. -/
theorem take_eq_error : c.take requests = .error i ↔ c.FirstShort requests i := by
  rw [← takeFrom_eq_error 0, Nat.zero_add]
  rfl

/-! ### Requests in another order -/

/-- What is asked of a counter is no amount below zero. -/
theorem amounts_nonneg (fair : ∀ r ∈ requests, 0 ≤ r.2) :
    ∀ amount ∈ (requests.filter (·.1 = key)).map Prod.snd, 0 ≤ amount := by
  intro amount mem
  obtain ⟨r, listed, rfl⟩ := List.mem_map.1 mem
  exact fair r (List.mem_of_mem_filter listed)

/-- No request asks more of a counter than all requests together. -/
theorem amount_le_total (fair : ∀ r ∈ requests, 0 ≤ r.2) (mem : (key, amount) ∈ requests) :
    amount ≤ total key requests := by
  apply List.single_le_sum (amounts_nonneg fair)
  exact List.mem_map.2 ⟨(key, amount), List.mem_filter.2 ⟨mem, by simp⟩, rfl⟩

/-- Totals do not depend on the order of the requests. -/
theorem total_perm {other : List (String × Int)} (perm : other.Perm requests) (key : String) :
    total key other = total key requests :=
  ((perm.filter _).map _).sum_eq

/-- Of a counter that holds nothing, or is not there, nothing can be had. -/
theorem total_eq_zero_of_takeFrom {after : Counters} {index : Nat}
    (taken : c.takeFrom index requests = .ok after) (fair : ∀ r ∈ requests, 0 ≤ r.2)
    (empty : c.holding key = 0) : total key requests = 0 := by
  by_cases asked : key ∈ requests.map Prod.fst
  · have enough := (exists_takeFrom_iff fair index).1 ⟨after, taken⟩ key asked
    rw [empty] at enough
    exact Int.le_antisymm enough (total_nonneg fair)
  · exact total_eq_zero asked

/-- What becomes of the counters does not depend on the order of the requests, unless amounts are below
zero. -/
theorem take_perm {other : List (String × Int)} (perm : other.Perm requests)
    (fair : ∀ r ∈ requests, 0 ≤ r.2) : (c.take other).toOption = (c.take requests).toOption := by
  have sameKeys : ∀ key, key ∈ other.map Prod.fst ↔ key ∈ requests.map Prod.fst :=
    fun key => (perm.map Prod.fst).mem_iff
  have met : (∃ after, c.take other = .ok after) ↔ ∃ after, c.take requests = .ok after := by
    refine (exists_takeFrom_iff (fun r mem => fair r (perm.mem_iff.1 mem)) 0).trans ?_
    refine Iff.trans ?_ (exists_takeFrom_iff fair 0).symm
    simp only [sameKeys, total_perm perm]
  cases taken : c.take requests with
  | error i =>
      cases taken' : c.take other with
      | error j => rfl
      | ok after =>
          obtain ⟨after, other_taken⟩ := met.1 ⟨after, taken'⟩
          cases taken.symm.trans other_taken
  | ok after =>
      obtain ⟨after', taken'⟩ := met.2 ⟨after, taken⟩
      obtain rfl : after' = after := by
        apply ext_value?
        intro key
        rw [value?_of_takeFrom taken key, value?_of_takeFrom taken' key, total_perm perm]
        simp only [sameKeys]
      rw [taken']

/-! ### A remainder beside the counters -/

/-- Meet requests from the counters and from what earlier requests have left of them, which is noted
beside. -/
def drawFrom (c remaining : Counters) (index : Nat) : List (String × Int) → Except Nat Counters
  | [] => .ok remaining
  | (key, amount) :: rest =>
    let available := (remaining.value? key).getD (c.holding key)
    if available < amount then .error index
    else drawFrom c (remaining.put key (available - amount)) (index + 1) rest

/-- Meet all requests, and only then write down what they have left. -/
def takeBeside (c : Counters) (requests : List (String × Int)) : Except Nat Counters :=
  (c.drawFrom .empty 0 requests).map fun remaining => c.insertAll remaining.entries

/-- Writing down what is left comes to meeting the requests from counters where it is written down already. -/
theorem drawFrom_map (c remaining : Counters) (index : Nat) (requests : List (String × Int)) :
    (c.drawFrom remaining index requests).map (fun r => c.insertAll r.entries) =
      takeFrom (c.insertAll remaining.entries) index requests := by
  induction requests generalizing remaining index with
  | nil => rfl
  | cons head rest ih =>
      obtain ⟨key, amount⟩ := head
      have available : holding (c.insertAll remaining.entries) key =
          (remaining.value? key).getD (c.holding key) := by
        rw [holding, value?, Table.get?_insertAll_entries, holding, value?, value?]
        cases remaining.get? key <;> rfl
      rw [drawFrom, takeFrom, available]
      split
      · rfl
      · rw [ih, put, Table.insertAll_insert]
        rfl

/-- Both ways to meet requests come to the same. -/
theorem takeBeside_eq (c : Counters) (requests : List (String × Int)) :
    c.takeBeside requests = c.take requests := drawFrom_map c .empty 0 requests

end Counters

namespace Store

variable {s : Store} {requests : List (String × Int)}

/-- Reserving from counters names the first request that is short and changes nothing, or takes all that is
asked. -/
theorem reserveCounters_cases (s : Store) (requests : List (String × Int)) :
    (∃ i, s.counters.FirstShort requests i ∧ s.reserveCounters requests = (some i, s)) ∨
    ∃ counters, (∀ i, ¬ s.counters.Short requests i) ∧ s.counters.take requests = .ok counters ∧
      s.reserveCounters requests = (none, { s with counters }) := by
  rw [reserveCounters]
  cases taken : s.counters.take requests with
  | error i => exact .inl ⟨i, Counters.take_eq_error.1 taken, rfl⟩
  | ok counters =>
      refine .inr ⟨counters, fun i => ?_, rfl, rfl⟩
      -- If any request is short, then one of them is the first.
      induction i using Nat.strong_induction_on with
      | h i before =>
          intro short
          cases taken.symm.trans (Counters.take_eq_error.2 ⟨short, before⟩)

/-- The request that is named is the first that is short. -/
theorem reserveCounters_eq_some {i : Nat} :
    (s.reserveCounters requests).1 = some i ↔ s.counters.FirstShort requests i := by
  rcases s.reserveCounters_cases requests with ⟨j, first, done⟩ | ⟨counters, enough, -, done⟩
  · rw [done, Option.some.injEq]
    constructor
    · rintro rfl
      exact first
    · exact first.unique
  · rw [done]
    exact iff_of_false (by simp) fun first => enough i first.1

/-- Who is refused changes nothing. -/
theorem reserveCounters_of_refused (refused : (s.reserveCounters requests).1.isSome = true) :
    (s.reserveCounters requests).2 = s := by
  rcases s.reserveCounters_cases requests with ⟨j, -, done⟩ | ⟨counters, -, -, done⟩
  · rw [done]
  · rw [done] at refused
    cases refused

/-- Who is not refused takes all that was asked, and nothing else. -/
theorem reserveCounters_of_met (met : (s.reserveCounters requests).1 = none) :
    (∀ key, (s.reserveCounters requests).2.counter? key =
      if key ∈ requests.map Prod.fst then
        some (Counters.kept (s.counters.holding key - Counters.total key requests))
      else s.counter? key) ∧
      (s.reserveCounters requests).2 =
        { s with counters := (s.reserveCounters requests).2.counters } := by
  rcases s.reserveCounters_cases requests with ⟨j, -, done⟩ | ⟨counters, -, taken, done⟩
  · rw [done] at met
    cases met
  · rw [done]
    exact ⟨Counters.value?_of_takeFrom taken, rfl⟩

/-- Who asks for amounts that are not below zero, and is not refused, takes them to the last bit. -/
theorem reserveCounters_of_met_of_fair (met : (s.reserveCounters requests).1 = none)
    (fair : ∀ r ∈ requests, 0 ≤ r.2) (key : String) :
    (s.reserveCounters requests).2.counter? key =
      if key ∈ requests.map Prod.fst then some (s.counters.holding key - Counters.total key requests)
      else s.counter? key := by
  rcases s.reserveCounters_cases requests with ⟨j, -, done⟩ | ⟨counters, -, taken, done⟩
  · rw [done] at met
    cases met
  · rw [done]
    exact Counters.value?_of_takeFrom_of_fair taken fair key

/-- Reserving from counters in another order refuses, or leaves, the same. -/
theorem reserveCounters_perm {other : List (String × Int)} (perm : other.Perm requests)
    (fair : ∀ r ∈ requests, 0 ≤ r.2) :
    (s.reserveCounters other).1.isSome = (s.reserveCounters requests).1.isSome ∧
      (s.reserveCounters other).2 = (s.reserveCounters requests).2 := by
  have same := Counters.take_perm (c := s.counters) perm fair
  rw [reserveCounters, reserveCounters]
  revert same
  cases s.counters.take other <;> cases s.counters.take requests
  all_goals simp [Except.toOption]

end Store

namespace Ledger

/-- A reservation of quotas is refused for the quota at the first request that is short. -/
theorem reserve_of_firstShort {quotas : List Quota} {s : Store} {i : Nat}
    (first : s.counters.FirstShort (requests quotas) i) :
    ∃ q, quotas[i]? = some q ∧ reserve quotas s = (.error (.quotaUnavailable q.scope q.kind), s) := by
  obtain ⟨request, listed, -⟩ := first.1
  rw [requests, List.getElem?_map] at listed
  obtain ⟨q, found, -⟩ := Option.map_eq_some_iff.1 listed
  refine ⟨q, found, ?_⟩
  simp only [reserve, Store.reserveCounters, Counters.take_eq_error.2 first, found]

/-- A reservation of quotas goes as the reservation of its requests goes. -/
theorem reserve_of_reserveCounters (quotas : List Quota) (s : Store) :
    match s.reserveCounters (requests quotas) with
    | (none, lowered) => reserve quotas s = (.ok (), lowered)
    | (some i, _) => ∃ q, quotas[i]? = some q ∧
        reserve quotas s = (.error (.quotaUnavailable q.scope q.kind), s) := by
  rcases s.reserveCounters_cases (requests quotas) with ⟨i, first, done⟩ | ⟨counters, -, -, done⟩
  · rw [done]
    exact reserve_of_firstShort first
  · rw [done]
    simp only [reserve, done]

end Ledger

namespace Store

/-- Amounts are taken from several counters all together or not at all, and who is refused learns of the
first request that cannot be met.

A request is named exactly if it is the first that is short, and then nothing has changed.  If none is, every
counter that was asked holds less by all that was asked of it, beginning with zero if it did not exist, and
nothing else has changed.  All this is so in 64 bits: where these hold what is left of each counter, they make
no difference, and amounts that are not below zero never make them do so.  Where no amount is below zero,
another order of the requests makes no difference to what happens to the store.  The counters need not be
written before all requests are met.  A reservation of quotas is refused for the quota at the named
position. -/
theorem counters_are_taken_together (s : Store) (requests : List (String × Int)) :
    let short := (s.reserveCounters requests).1
    let after := (s.reserveCounters requests).2
    (∀ i, short = some i ↔ s.counters.FirstShort requests i) ∧
    (short.isSome = true → after = s) ∧
    (short = none →
      (∀ key, after.counter? key =
        if key ∈ requests.map Prod.fst then
          some (Counters.kept (s.counters.holding key - Counters.total key requests))
        else s.counter? key) ∧
      after = { s with counters := after.counters }) ∧
    (s.counters.Exact requests →
      (∀ i, s.counters.Short requests i ↔
        ∃ request ∈ requests[i]?, s.counters.left requests i request.1 < request.2) ∧
      ∀ key, Counters.kept (s.counters.holding key - Counters.total key requests) =
        s.counters.holding key - Counters.total key requests) ∧
    (short = none → (∀ r ∈ requests, 0 ≤ r.2) → ∀ key, after.counter? key =
      if key ∈ requests.map Prod.fst then some (s.counters.holding key - Counters.total key requests)
      else s.counter? key) ∧
    (∀ other : List (String × Int), other.Perm requests → (∀ r ∈ requests, 0 ≤ r.2) →
      (s.reserveCounters other).1.isSome = short.isSome ∧ (s.reserveCounters other).2 = after) ∧
    s.counters.takeBeside requests = s.counters.take requests ∧
    ∀ quotas : List Quota,
      match s.reserveCounters (Ledger.requests quotas) with
      | (none, lowered) => Ledger.reserve quotas s = (.ok (), lowered)
      | (some i, _) => ∃ q, quotas[i]? = some q ∧
          Ledger.reserve quotas s = (.error (.quotaUnavailable q.scope q.kind), s) := by
  intro short after
  refine ⟨?_, ?_, ?_, ?_, ?_, ?_, s.counters.takeBeside_eq requests, ?_⟩
  · exact fun i => reserveCounters_eq_some
  · exact reserveCounters_of_refused
  · exact reserveCounters_of_met
  · exact fun exact' => ⟨fun i => exact'.short, exact'.kept_left⟩
  · exact reserveCounters_of_met_of_fair
  · exact fun other perm fair => reserveCounters_perm perm fair
  · exact fun quotas => Ledger.reserve_of_reserveCounters quotas s

/-- A counter that is asked twice has to hold both amounts: the second request is named. -/
example :
    let counters := Table.empty.insert "docker:VM" 3
    (reserveCounters { empty with counters } [("docker:VM", 2), ("docker:SUBNET", 0), ("docker:VM", 2)]).1 =
      some 2 := by decide

end Store

end Testbed
