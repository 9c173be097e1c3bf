import Testbed.Proofs.Counters
import Testbed.Proofs.Ledger

/-!
Which counters exist.

Reserving writes down what it leaves of every counter that it was asked for, whether the counter was there or
not.  A counter that is not there holds nothing, so only nothing can be had of it; but a reservation of
nothing is granted, and leaves the counter behind.  From then on the counter exists at zero, and beginning it
comes too late.

So the counters after some reservations are those from before and those that a granted reservation names
(`isSome_journal`), and what is new among them holds zero, because nothing was asked of it
(`asks_nothing_journal`).
-/

namespace Testbed.Ledger

variable {s : Store} {key : String} {quotas : List Quota}

/-! ### One reservation -/

/-- A reservation leaves the counters that were there, and those that it names if it is granted. -/
theorem isSome_reserve (quotas : List Quota) (s : Store) (key : String) :
    ((reserve quotas s).2.counter? key).isSome = true ↔
      (s.counter? key).isSome = true ∨
        (reserve quotas s).1.isOk = true ∧ ∃ q ∈ quotas, q.key = key := by
  rcases reserve_cases quotas s with ⟨counters, taken, done⟩ | ⟨q, -, failed⟩
  · have lowered := Counters.value?_of_takeFrom taken key
    rw [done, ← mem_requests, Store.counter?, lowered]
    by_cases asked : key ∈ (requests quotas).map Prod.fst
    · simp [asked, Except.isOk, Except.toBool]
    · simp [asked, Store.counter?]
  · rw [failed]
    simp [Except.isOk, Except.toBool]

/-- A reservation that is granted asks nothing of a counter that holds nothing, or is not there. -/
theorem asks_nothing_reserve (fair : ∀ q ∈ quotas, 0 ≤ q.amount.toInt)
    (granted : (reserve quotas s).1.isOk = true) (empty : s.counters.holding key = 0) :
    ∀ q ∈ quotas, q.key = key → q.amount.toInt = 0 := by
  rcases reserve_cases quotas s with ⟨counters, taken, -⟩ | ⟨q, -, failed⟩
  · intro q mem same
    have zero := Counters.total_eq_zero_of_takeFrom taken (requests_nonneg fair) empty
    have listed : (key, q.amount.toInt) ∈ requests quotas := same ▸ List.mem_map_of_mem mem
    have most := Counters.amount_le_total (requests_nonneg fair) listed
    rw [zero] at most
    exact Int.le_antisymm most (fair q mem)
  · rw [failed] at granted
    cases granted

/-- A counter that holds nothing, or is not there, holds nothing after a reservation. -/
theorem holding_reserve (fair : ∀ q ∈ quotas, 0 ≤ q.amount.toInt) (empty : s.counters.holding key = 0) :
    (reserve quotas s).2.counters.holding key = 0 := by
  rcases reserve_cases quotas s with ⟨counters, taken, done⟩ | ⟨q, -, failed⟩
  · have zero := Counters.total_eq_zero_of_takeFrom taken (requests_nonneg fair) empty
    rw [done, Counters.holding, Counters.value?_of_takeFrom_of_fair taken (requests_nonneg fair) key, zero, empty]
    split
    · rfl
    · exact empty
  · rwa [failed]

/-! ### Reservations one after the other -/

/-- The history in which clients make reservations and nothing else. -/
def reservations (calls : List (Nat × List Quota)) : List (Nat × Call) :=
  calls.map fun call => (call.1, .reserve call.2)

/-- A reservation that was granted names a counter. -/
def Named (key : String) (entries : List Entry) : Prop :=
  ∃ client quotas, (⟨client, .reserve quotas, true⟩ : Entry) ∈ entries ∧ ∃ q ∈ quotas, q.key = key

/-- The newest entry names a key if it was granted and asks for it. -/
theorem named_cons (client : Nat) {granted : Bool} {entries : List Entry} :
    Named key (⟨client, .reserve quotas, granted⟩ :: entries) ↔
      (granted = true ∧ ∃ q ∈ quotas, q.key = key) ∨ Named key entries := by
  constructor
  · intro named
    obtain ⟨client', quotas', mem, asked⟩ := named
    rcases List.mem_cons.1 mem with first | later
    · cases first
      exact .inl ⟨rfl, asked⟩
    · exact .inr ⟨client', quotas', later, asked⟩
  · intro named
    rcases named with ⟨rfl, asked⟩ | ⟨client', quotas', later, asked⟩
    · exact ⟨client, quotas, List.mem_cons_self, asked⟩
    · exact ⟨client', quotas', List.mem_cons_of_mem _ later, asked⟩

variable {calls : List (Nat × List Quota)}

/-- Reservations leave the counters that were there, and those that a granted one names. -/
theorem isSome_journal (calls : List (Nat × List Quota)) (s : Store) (key : String) :
    ((journal s (reservations calls)).2.counter? key).isSome = true ↔
      (s.counter? key).isSome = true ∨ Named key (journal s (reservations calls)).1 := by
  induction calls generalizing s with
  | nil => simp [reservations, journal, Named]
  | cons call rest ih =>
      obtain ⟨client, quotas⟩ := call
      have first := isSome_reserve quotas s key
      have later := ih (reserve quotas s).2
      rw [first, or_assoc, ← named_cons client] at later
      exact later

/-- A counter that holds nothing, or is not there, still holds nothing after reservations. -/
theorem holding_journal (fair : ∀ call ∈ calls, ∀ q ∈ call.2, 0 ≤ q.amount.toInt)
    (empty : s.counters.holding key = 0) :
    (journal s (reservations calls)).2.counters.holding key = 0 := by
  induction calls generalizing s with
  | nil => exact empty
  | cons call rest ih =>
      obtain ⟨first, later⟩ := List.forall_mem_cons.1 fair
      exact ih later (holding_reserve first empty)

/-- The granted reservations that name a counter that holds nothing, or is not there, ask nothing of it. -/
theorem asks_nothing_journal (fair : ∀ call ∈ calls, ∀ q ∈ call.2, 0 ≤ q.amount.toInt)
    (empty : s.counters.holding key = 0) {client : Nat} {quotas : List Quota}
    (mem : (⟨client, .reserve quotas, true⟩ : Entry) ∈ (journal s (reservations calls)).1) :
    ∀ q ∈ quotas, q.key = key → q.amount.toInt = 0 := by
  induction calls generalizing s with
  | nil => cases mem
  | cons call rest ih =>
      obtain ⟨first, later⟩ := List.forall_mem_cons.1 fair
      rcases List.mem_cons.1 mem with same | there
      · injection same with _ same granted
        injection same with same
        subst same
        exact asks_nothing_reserve first granted.symm empty
      · exact ih later (holding_reserve first empty) there

/-- The reservations of the journal are those that were made. -/
theorem mem_calls {client : Nat} {quotas : List Quota} {granted : Bool}
    (mem : (⟨client, .reserve quotas, granted⟩ : Entry) ∈ (journal s (reservations calls)).1) :
    (client, quotas) ∈ calls := by
  have made : (client, Call.reserve quotas) ∈ reservations calls := by
    rw [← map_journal (reservations calls) s]
    exact List.mem_map_of_mem mem
  obtain ⟨call, listed, same⟩ := List.mem_map.1 made
  cases same
  exact listed

/-- Whatever is reserved, the counters that exist are the old ones and those that a granted reservation
names.

A counter that was not there is named by such a reservation only to ask nothing of it.  It then exists with
nothing in it, and limits that come later do not begin it; they begin the other counters at their maximum.
So as long as no reservation asks for nothing, the same counters exist as before. -/
theorem granted_reservations_make_counters (s : Store) (calls : List (Nat × List Quota))
    (fair : ∀ call ∈ calls, ∀ q ∈ call.2, 0 ≤ q.amount.toInt) (key : String) :
    let entries := (journal s (reservations calls)).1
    let after := (journal s (reservations calls)).2
    ((after.counter? key).isSome = true ↔ (s.counter? key).isSome = true ∨ Named key entries) ∧
    (s.counter? key = none →
      (∀ client quotas, (⟨client, .reserve quotas, true⟩ : Entry) ∈ entries →
        ∀ q ∈ quotas, q.key = key → q.amount.toInt = 0) ∧
      (Named key entries → ∀ limits, (init limits after).counter? key = some 0) ∧
      (¬ Named key entries → ∀ limits, (init limits after).counter? key =
        (limits.find? (·.key = key)).map fun limit => limit.maximum.toInt)) ∧
    ((∀ call ∈ calls, ∀ q ∈ call.2, q.amount.toInt ≠ 0) →
      (after.counter? key).isSome = (s.counter? key).isSome) := by
  intro entries after
  have exist : (after.counter? key).isSome = true ↔ (s.counter? key).isSome = true ∨ Named key entries :=
    isSome_journal calls s key
  have nothing : s.counter? key = none → s.counters.holding key = 0 := by
    intro absent
    have found : s.counters.value? key = none := absent
    rw [Counters.holding, found, Option.getD_none]
  refine ⟨exist, fun absent => ⟨fun client quotas mem => ?_, fun named limits => ?_, fun silent limits => ?_⟩,
    fun positive => ?_⟩
  · exact asks_nothing_journal fair (nothing absent) mem
  · have known : (after.counter? key).isSome = true := exist.2 (.inr named)
    obtain ⟨held, found⟩ := Option.isSome_iff_exists.1 known
    have empty : (after.counters.value? key).getD 0 = 0 := holding_journal fair (nothing absent)
    have found' : after.counters.value? key = some held := found
    rw [found', Option.getD_some] at empty
    rw [counter?_init_of_isSome limits known, found, empty]
  · have unknown : after.counter? key = none := by
      rw [← Option.not_isSome_iff_eq_none, exist, absent]
      simpa using silent
    rw [counter?_init, unknown, Option.none_or]
  · rw [Bool.eq_iff_iff, exist, or_iff_left_iff_imp]
    intro named
    by_contra absent
    obtain ⟨client, quotas, mem, q, asked, same⟩ := named
    have zero := asks_nothing_journal fair (nothing (Option.not_isSome_iff_eq_none.1 absent)) mem q asked same
    exact positive (client, quotas) (mem_calls mem) q asked zero

/-- A reservation that is granted asks one counter for all it holds and another, which is not there, for
nothing; one that is refused asks a third for nothing.  Limits that come later find the second counter, but
not the third. -/
theorem granted_and_refused_reservations_of_nothing :
    let machines (n : Int64) : Quota := ⟨.docker, .vm, n⟩
    let calls : List (Nat × List Quota) :=
      [(0, [machines 2, ⟨.yandexCloud, .vm, 0⟩]), (1, [⟨.docker, .subnet, 0⟩, machines 1])]
    let after := (journal (init [⟨.docker, .vm, 2⟩] .empty) (reservations calls)).2
    (∀ limits, (init limits after).counter? (quotaKey .yandexCloud .vm) = some 0) ∧
      ∀ limits, (init limits after).counter? (quotaKey .docker .subnet) =
        (limits.find? (·.key = quotaKey .docker .subnet)).map fun limit => limit.maximum.toInt := by
  intro machines calls after
  have account (key : String) := granted_reservations_make_counters (init [⟨.docker, .vm, 2⟩] .empty) calls
    (by decide) key
  have made : (journal (init [⟨.docker, .vm, 2⟩] .empty) (reservations calls)).1 =
      [⟨0, .reserve [machines 2, ⟨.yandexCloud, .vm, 0⟩], true⟩,
        ⟨1, .reserve [⟨.docker, .subnet, 0⟩, machines 1], false⟩] := by decide +kernel
  constructor
  · obtain ⟨-, fresh, -⟩ := account (quotaKey .yandexCloud .vm)
    obtain ⟨-, named, -⟩ := fresh (by decide +kernel)
    apply named
    rw [made, named_cons]
    exact .inl ⟨rfl, ⟨.yandexCloud, .vm, 0⟩, by simp, rfl⟩
  · obtain ⟨-, fresh, -⟩ := account (quotaKey .docker .subnet)
    obtain ⟨-, -, silent⟩ := fresh (by decide +kernel)
    apply silent
    rw [made, named_cons, named_cons]
    intro named
    rcases named with ⟨-, asked⟩ | ⟨refused, -⟩ | ⟨client, quotas, mem, -⟩
    · exact absurd asked (by decide +kernel)
    · cases refused
    · cases mem

/-- Whoever reserves nothing of a counter that is not there makes it, at zero, and its limit comes too
late. -/
theorem reserving_nothing_makes_a_counter :
    let key := quotaKey .docker .vm
    let limits : List QuotaLimit := [⟨.docker, .vm, 64⟩]
    let after := (reserve [⟨.docker, .vm, 0⟩] .empty).2
    Store.empty.counter? key = none ∧ after.counter? key = some 0 ∧
      (init limits after).counter? key = some 0 ∧ (init limits .empty).counter? key = some 64 := by
  decide +kernel

end Testbed.Ledger
