import Testbed.Proofs.Store

/-!
Histories of the quota ledger.

Any number of clients begin counters, reserve quotas and give quotas back, in any order.  Reserving and
giving back are one step each.  Beginning is one step for each limit, so a call that others interrupt is
listed as several calls with fewer limits (`init_append`).

The `journal` of a history says which calls were made, by whom, and whether they were granted.  A counter is
known by the journal alone: it holds what it began with and what was given back, less what was granted, or
rather what 64 bits keep of that (`counter?_journal`).

While nobody gives back more than was granted so far, a counter stays between zero and its maximum, and 64 bits
keep all of it.  Whoever gives back first and reserves later may drive it above its maximum in between, and
amounts that are large enough take it out of 64 bits.
-/

namespace Testbed.Ledger

/-- A call on the ledger. -/
inductive Call where
  | init (limits : List QuotaLimit)
  | reserve (quotas : List Quota)
  | free (quotas : List Quota)
deriving Repr, Inhabited, DecidableEq

namespace Call

/-- The result of a call and the store after it. -/
def run (s : Store) : Call → Except StoreError Unit × Store
  | .init limits => (.ok (), Ledger.init limits s)
  | .reserve quotas => Ledger.reserve quotas s
  | .free quotas => (.ok (), Ledger.free quotas s)

/-- No maximum and no amount is below zero. -/
def NonNegative : Call → Prop
  | .init limits => ∀ limit ∈ limits, 0 ≤ limit.maximum.toInt
  | .reserve quotas | .free quotas => ∀ quota ∈ quotas, 0 ≤ quota.amount.toInt

instance : DecidablePred NonNegative
  | .init limits => inferInstanceAs (Decidable (∀ limit ∈ limits, 0 ≤ limit.maximum.toInt))
  | .reserve quotas | .free quotas =>
    inferInstanceAs (Decidable (∀ quota ∈ quotas, 0 ≤ quota.amount.toInt))

end Call

/-- What a counter begins with: the maximum of the first limit on it.  Nothing if it is asked of, or given
to, before. -/
def begun? (key : String) : List Call → Option Int
  | [] => none
  | .init limits :: rest =>
    match limits.find? (·.key = key) with
    | some limit => some limit.maximum.toInt
    | none => begun? key rest
  | .reserve quotas :: rest | .free quotas :: rest =>
    if ∃ quota ∈ quotas, quota.key = key then none else begun? key rest

/-- A call that was made. -/
structure Entry where
  client : Nat
  call : Call
  granted : Bool
deriving Repr, Inhabited, DecidableEq

/-- The calls that were made by a history of clients and calls, and the store after them. -/
def journal (s : Store) : List (Nat × Call) → List Entry × Store
  | [] => ([], s)
  | (client, call) :: rest =>
    let (result, after) := call.run s
    let (entries, last) := journal after rest
    (⟨client, call, result.isOk⟩ :: entries, last)

namespace Entry

/-- What a call took of a counter. -/
def taken (key : String) (e : Entry) : Int :=
  match e.call with
  | .reserve quotas => if e.granted then amountOf key quotas else 0
  | _ => 0

/-- What a call gave back to a counter. -/
def freed (key : String) (e : Entry) : Int :=
  match e.call with
  | .free quotas => amountOf key quotas
  | _ => 0

end Entry

/-- What was taken of a counter altogether. -/
def taken (key : String) (entries : List Entry) : Int := (entries.map (Entry.taken key)).sum

/-- What was given back to a counter altogether. -/
def freed (key : String) (entries : List Entry) : Int := (entries.map (Entry.freed key)).sum

/-- The calls of one client. -/
def byClient (client : Nat) (entries : List Entry) : List Entry :=
  entries.filter (·.client = client)

/-! ### One call -/

variable {s : Store} {key : String}

/-- A counter that exists is not begun again, and no other counter is begun. -/
theorem counter?_initCounter (s : Store) (other : String) (value : Int) :
    (s.initCounter other value).2.counter? key =
      if other = key then some ((s.counter? key).getD (Counters.kept value)) else s.counter? key := by
  have found : s.counters.contains other = (s.counter? other).isSome := (Option.isSome_map ..).symm
  rw [Store.initCounter, found]
  cases held : s.counter? other with
  | some value' =>
      by_cases same : other = key
      · subst same
        simp [held]
      · simp [same]
  | none =>
      simp only [Option.isSome_none, Bool.false_eq_true, if_false]
      refine (s.counters.value?_put other key value).trans ?_
      by_cases same : other = key
      · subst same
        simp [held]
      · simp only [if_neg same]
        rfl

/-- Beginning counters leaves those alone that exist, and begins others with their first limit. -/
theorem counter?_init (limits : List QuotaLimit) (s : Store) (key : String) :
    (init limits s).counter? key =
      (s.counter? key).or ((limits.find? (·.key = key)).map fun limit => limit.maximum.toInt) := by
  induction limits generalizing s with
  | nil => simp [init]
  | cons limit rest ih =>
      have step : init (limit :: rest) s =
          init rest (s.initCounter limit.key limit.maximum.toInt).2 := rfl
      rw [step, ih, counter?_initCounter, Counters.kept_toInt]
      by_cases same : limit.key = key
      · cases held : s.counter? key <;> simp [same]
      · simp [same]

/-- Limits leave a counter that has begun as it is. -/
theorem counter?_init_of_isSome (limits : List QuotaLimit) (known : (s.counter? key).isSome = true) :
    (init limits s).counter? key = s.counter? key := by
  obtain ⟨held, found⟩ := Option.isSome_iff_exists.1 known
  rw [counter?_init, found, Option.some_or]

/-- The requests are about the counters that the quotas name. -/
theorem mem_requests {quotas : List Quota} :
    key ∈ (requests quotas).map Prod.fst ↔ ∃ quota ∈ quotas, quota.key = key := by
  constructor
  · intro mem
    obtain ⟨request, listed, same⟩ := List.mem_map.1 mem
    obtain ⟨quota, asked, rfl⟩ := List.mem_map.1 listed
    exact ⟨quota, asked, same⟩
  · intro named
    obtain ⟨quota, asked, same⟩ := named
    exact List.mem_map.2 ⟨quota.request, List.mem_map_of_mem asked, same⟩

/-- Quotas that do not name a counter ask nothing of it. -/
theorem not_mem_requests {quotas : List Quota} (silent : ¬ ∃ quota ∈ quotas, quota.key = key) :
    key ∉ (requests quotas).map Prod.fst := fun mem => silent (mem_requests.1 mem)

/-- Quotas that do not name a counter take nothing of it. -/
theorem amountOf_eq_zero {quotas : List Quota} (silent : ¬ ∃ quota ∈ quotas, quota.key = key) :
    amountOf key quotas = 0 := Counters.total_eq_zero (not_mem_requests silent)

/-- A counter that exists moves by what it is asked for or given, whether quotas name it or not. -/
theorem moved_of_known {asked : Prop} [Decidable asked] {held change : Int} (fits : Counters.Fits held)
    (still : ¬ asked → change = 0) :
    (if asked then some (Counters.kept (held + change)) else some held) =
      some (Counters.kept (held + change)) := by
  by_cases h : asked
  · rw [if_pos h]
  · rw [if_neg h, still h, Int.add_zero, Counters.kept_of_fits fits]

/-- What one entry does to a counter that exists. -/
theorem counter?_run {held : Int} (client : Nat) (call : Call) (known : s.counter? key = some held) :
    let entry : Entry := ⟨client, call, (call.run s).1.isOk⟩
    (call.run s).2.counter? key = some (Counters.kept (held + (entry.freed key - entry.taken key))) := by
  intro entry
  have found : s.counters.value? key = some held := known
  have fits : Counters.Fits held := Counters.fits_of_value? found
  have holding : s.counters.holding key = held := by rw [Counters.holding, found, Option.getD_some]
  cases call with
  | init limits =>
      have same : (init limits s).counter? key = some held := by
        rw [counter?_init_of_isSome limits (by simp [known]), known]
      simpa [Call.run, entry, Entry.freed, Entry.taken, Counters.kept_of_fits fits] using same
  | reserve quotas =>
      rcases reserve_cases quotas s with ⟨counters, taken, done⟩ | ⟨q, -, failed⟩
      · have lowered := Counters.value?_of_takeFrom taken key
        have unasked : key ∉ (requests quotas).map Prod.fst → -amountOf key quotas = 0 := by
          intro absent
          rw [amountOf, Counters.total_eq_zero absent, neg_zero]
        rw [holding, found, sub_eq_add_neg] at lowered
        have moved : (Call.run s (.reserve quotas)).2.counter? key =
            some (Counters.kept (held + -amountOf key quotas)) := by
          rw [Call.run, done]
          exact lowered.trans (moved_of_known fits unasked)
        simpa [entry, Entry.freed, Entry.taken, Call.run, done, Except.isOk, Except.toBool] using moved
      · simp [entry, Entry.freed, Entry.taken, Call.run, failed, Except.isOk, Except.toBool, known,
          Counters.kept_of_fits fits]
  | free quotas =>
      have raised := Counters.value?_giveBack s.counters key (requests quotas)
      rw [holding, found] at raised
      have moved : (free quotas s).counter? key = some (Counters.kept (held + amountOf key quotas)) :=
        raised.trans (moved_of_known fits Counters.total_eq_zero)
      simpa [entry, Entry.freed, Entry.taken, Call.run] using moved

/-- Amounts that are not below zero do not bring a counter below zero. -/
theorem nonneg_run {held : Int} (client : Nat) {call : Call} (known : s.counter? key = some held)
    (nonneg : 0 ≤ held) (fair : call.NonNegative) :
    let entry : Entry := ⟨client, call, (call.run s).1.isOk⟩
    0 ≤ held + (entry.freed key - entry.taken key) := by
  intro entry
  cases call with
  | init limits => simpa [entry, Entry.freed, Entry.taken] using nonneg
  | reserve quotas =>
      rcases reserve_cases quotas s with ⟨counters, taken, done⟩ | ⟨q, -, failed⟩
      · have enough : amountOf key quotas ≤ held := by
          by_cases asked : key ∈ (requests quotas).map Prod.fst
          · have most := (Counters.exists_takeFrom_iff (requests_nonneg fair) 0).1 ⟨counters, taken⟩ key asked
            have found : s.counters.value? key = some held := known
            rwa [Counters.holding, found, Option.getD_some] at most
          · rwa [amountOf, Counters.total_eq_zero asked]
        simpa [entry, Entry.freed, Entry.taken, Call.run, done, Except.isOk, Except.toBool] using enough
      · simpa [entry, Entry.freed, Entry.taken, Call.run, failed, Except.isOk, Except.toBool] using nonneg
  | free quotas =>
      have given := amountOf_nonneg fair key
      simp only [entry, Entry.freed, Entry.taken]
      omega

/-- A call that does not mention a counter. -/
def Call.Silent (key : String) : Call → Prop
  | .init limits => limits.find? (·.key = key) = none
  | .reserve quotas | .free quotas => ¬ ∃ quota ∈ quotas, quota.key = key

/-- A counter is begun by the first call that mentions it, or by a later one if the first does not. -/
theorem begun?_cons {call : Call} {rest : List Call} {first : Int}
    (begun : begun? key (call :: rest) = some first) :
    (∃ limits limit, call = .init limits ∧ limits.find? (·.key = key) = some limit ∧
      limit.maximum.toInt = first) ∨ call.Silent key ∧ begun? key rest = some first := by
  cases call with
  | init limits =>
      rw [begun?] at begun
      cases found : limits.find? (·.key = key) with
      | some limit =>
          simp only [found, Option.some.injEq] at begun
          exact .inl ⟨limits, limit, rfl, found, begun⟩
      | none =>
          simp only [found] at begun
          exact .inr ⟨found, begun⟩
  | reserve quotas =>
      rw [begun?] at begun
      split at begun
      · cases begun
      · next silent => exact .inr ⟨silent, begun⟩
  | free quotas =>
      rw [begun?] at begun
      split at begun
      · cases begun
      · next silent => exact .inr ⟨silent, begun⟩

/-- A counter that is begun with maxima that are not below zero is not begun below zero. -/
theorem nonneg_of_begun {history : List (Nat × Call)} {first : Int}
    (fair : ∀ event ∈ history, event.2.NonNegative) (begun : begun? key (history.map Prod.snd) = some first) :
    0 ≤ first := by
  induction history with
  | nil => cases begun
  | cons head rest ih =>
      obtain ⟨client, call⟩ := head
      obtain ⟨fair_first, fair_rest⟩ := List.forall_mem_cons.1 fair
      rcases begun?_cons begun with ⟨limits, limit, rfl, found, rfl⟩ | ⟨-, later⟩
      · exact fair_first limit (List.mem_of_find?_eq_some found)
      · exact ih fair_rest later

/-- A call that does not mention a counter does not make it, and counts for nothing. -/
theorem silent_run (client : Nat) {call : Call} (silent : call.Silent key) (fresh : s.counter? key = none) :
    let entry : Entry := ⟨client, call, (call.run s).1.isOk⟩
    (call.run s).2.counter? key = none ∧ entry.freed key = 0 ∧ entry.taken key = 0 := by
  intro entry
  cases call with
  | init limits =>
      have nothing : limits.find? (·.key = key) = none := silent
      refine ⟨?_, rfl, rfl⟩
      rw [Call.run, counter?_init, fresh, nothing]
      rfl
  | reserve quotas =>
      refine ⟨?_, rfl, by simp [entry, Entry.taken, amountOf_eq_zero silent]⟩
      rcases reserve_cases quotas s with ⟨counters, taken, done⟩ | ⟨q, -, failed⟩
      · have lowered := Counters.value?_of_takeFrom taken key
        rw [if_neg (not_mem_requests silent)] at lowered
        rw [Call.run, done]
        exact lowered.trans fresh
      · rw [Call.run, failed]
        exact fresh
  | free quotas =>
      refine ⟨?_, by simp [entry, Entry.freed, amountOf_eq_zero silent], rfl⟩
      have raised := Counters.value?_giveBack s.counters key (requests quotas)
      rw [if_neg (not_mem_requests silent)] at raised
      exact raised.trans fresh

/-! ### Any number of calls -/

variable {history : List (Nat × Call)}

/-- The journal lists the calls of the history, in their order. -/
theorem map_journal (history : List (Nat × Call)) (s : Store) :
    (journal s history).1.map (fun entry => (entry.client, entry.call)) = history := by
  induction history generalizing s with
  | nil => rfl
  | cons head rest ih =>
      obtain ⟨client, call⟩ := head
      exact congrArg ((client, call) :: ·) (ih (call.run s).2)

/-- The journal of some calls is the entry of the first and the journal of the others after it. -/
theorem journal_cons (s : Store) (client : Nat) (call : Call) (rest : List (Nat × Call)) :
    journal s ((client, call) :: rest) =
      (⟨client, call, (call.run s).1.isOk⟩ :: (journal (call.run s).2 rest).1,
        (journal (call.run s).2 rest).2) := rfl

/-- A journal is kept on from where it has come to. -/
theorem journal_append (s : Store) (first second : List (Nat × Call)) :
    journal s (first ++ second) =
      ((journal s first).1 ++ (journal (journal s first).2 second).1,
        (journal (journal s first).2 second).2) := by
  induction first generalizing s with
  | nil => rfl
  | cons head rest ih =>
      obtain ⟨client, call⟩ := head
      rw [List.cons_append, journal_cons, journal_cons, ih]
      rfl

/-- What was given back to a counter, less what was taken of it. -/
def balance (key : String) (entries : List Entry) : Int := freed key entries - taken key entries

/-- The newest entry adds what it gives back and subtracts what it takes. -/
theorem balance_cons (key : String) (e : Entry) (rest : List Entry) :
    balance key (e :: rest) = e.freed key - e.taken key + balance key rest := by
  simp only [balance, freed, taken, List.map_cons, List.sum_cons]
  omega

/-- The balance of two journals, one after the other, is the sum of theirs. -/
theorem balance_append (key : String) (first second : List Entry) :
    balance key (first ++ second) = balance key first + balance key second := by
  simp only [balance, freed, taken, List.map_append, List.sum_append]
  omega

/-- From when a counter exists, the journal says how it moves. -/
theorem counter?_journal {held : Int} (known : s.counter? key = some held) :
    (journal s history).2.counter? key = some (Counters.kept (held + balance key (journal s history).1)) := by
  induction history generalizing s held with
  | nil =>
      have fits : Counters.Fits held := Counters.fits_of_value? known
      simpa [journal, balance, freed, taken, Counters.kept_of_fits fits] using known
  | cons head rest ih =>
      obtain ⟨client, call⟩ := head
      have later := ih (counter?_run client call known)
      rw [Counters.kept_add, add_assoc, ← balance_cons] at later
      exact later

/-- As long as 64 bits keep all of a counter, amounts that are never below zero keep it from going below
zero. -/
theorem nonneg_journal {held : Int} (known : s.counter? key = some held) (nonneg : 0 ≤ held)
    (fair : ∀ event ∈ history, event.2.NonNegative)
    (room : ∀ earlier, earlier <+: history → held + balance key (journal s earlier).1 < 2 ^ 63) :
    0 ≤ held + balance key (journal s history).1 := by
  induction history generalizing s held with
  | nil => simpa [journal, balance, freed, taken] using nonneg
  | cons head rest ih =>
      obtain ⟨client, call⟩ := head
      let entry : Entry := ⟨client, call, (call.run s).1.isOk⟩
      let next : Int := held + (entry.freed key - entry.taken key)
      have split_off : ∀ later, held + balance key (journal s ((client, call) :: later)).1 =
          next + balance key (journal (call.run s).2 later).1 := by
        intro later
        rw [journal, balance_cons, ← add_assoc]
      have start : 0 ≤ next := nonneg_run client known nonneg (fair (client, call) List.mem_cons_self)
      have below : next < 2 ^ 63 := by
        have once := room [(client, call)] ((List.prefix_append [(client, call)] rest))
        rwa [split_off, journal, balance, freed, taken, List.map_nil, List.map_nil, sub_self, add_zero] at once
      have fits : Counters.Fits next := ⟨(show -2 ^ 63 ≤ (0 : Int) by decide).trans start, below⟩
      have known_next : (call.run s).2.counter? key = some next := by
        rw [counter?_run client call known]
        exact congrArg some (Counters.kept_of_fits fits)
      rw [split_off]
      apply ih known_next start
      · exact fun event mem => fair event (List.mem_cons_of_mem _ mem)
      · intro earlier early
        rw [← split_off]
        exact room _ ((List.prefix_cons_inj _).2 early)

/-- Some call of a history begins the counter, and none before that counts for anything. -/
theorem exists_begun {first : Int} (fresh : s.counter? key = none)
    (begun : begun? key (history.map Prod.snd) = some first) :
    ∃ before later, history = before ++ later ∧ (journal s before).2.counter? key = some first ∧
      ∀ earlier, earlier <+: before → balance key (journal s earlier).1 = 0 := by
  induction history generalizing s with
  | nil => cases begun
  | cons head rest ih =>
      obtain ⟨client, call⟩ := head
      have nothing_yet : balance key (journal s []).1 = 0 := rfl
      rcases begun?_cons begun with ⟨limits, limit, rfl, found, rfl⟩ | ⟨silent, begun_later⟩
      · refine ⟨[(client, .init limits)], rest, rfl, ?_, fun earlier early => ?_⟩
        · change (init limits s).counter? key = _
          rw [counter?_init, fresh, found]
          rfl
        · rcases List.prefix_cons_iff.1 early with rfl | ⟨later, rfl, none_left⟩
          · exact nothing_yet
          · obtain rfl := List.prefix_nil.1 none_left
            rfl
      · obtain ⟨still_fresh, nothing_freed, nothing_taken⟩ := silent_run client silent fresh
        obtain ⟨before, later, rfl, known, quiet⟩ := ih still_fresh begun_later
        refine ⟨(client, call) :: before, later, rfl, known, fun earlier early => ?_⟩
        rcases List.prefix_cons_iff.1 early with rfl | ⟨rest', rfl, early'⟩
        · exact nothing_yet
        · rw [journal, balance_cons, nothing_freed, nothing_taken, quiet rest' early']
          rfl

/-- A sum over a journal is the sum of the sums over its clients. -/
theorem sum_byClient (f : Entry → Int) {entries : List Entry} {clients : Finset Nat}
    (known : ∀ e ∈ entries, e.client ∈ clients) :
    ∑ client ∈ clients, ((byClient client entries).map f).sum = (entries.map f).sum := by
  induction entries with
  | nil => simp [byClient]
  | cons e rest ih =>
      have own : ∀ client, ((byClient client (e :: rest)).map f).sum =
          (if e.client = client then f e else 0) + ((byClient client rest).map f).sum := by
        intro client
        by_cases same : e.client = client <;> simp [byClient, same]
      have later := ih fun e mem => known e (List.mem_cons_of_mem _ mem)
      simp only [own, Finset.sum_add_distrib, later, List.map_cons, List.sum_cons]
      rw [Finset.sum_ite_eq, if_pos (known e (List.mem_cons_self ..))]

/-- If no client has given back more than it took, no more was given back than was taken. -/
theorem freed_le_taken {entries : List Entry}
    (fair : ∀ client, freed key (byClient client entries) ≤ taken key (byClient client entries)) :
    freed key entries ≤ taken key entries := by
  have known : ∀ e ∈ entries, e.client ∈ (entries.map Entry.client).toFinset := by
    intro e mem
    exact List.mem_toFinset.2 (List.mem_map_of_mem mem)
  rw [freed, taken, ← sum_byClient (Entry.freed key) known, ← sum_byClient (Entry.taken key) known]
  exact Finset.sum_le_sum fun client _ => fair client

/-- A client that makes no call has no entry. -/
theorem byClient_eq_nil {client : Nat} (absent : client ∉ history.map Prod.fst) :
    byClient client (journal s history).1 = [] := by
  apply List.filter_eq_nil_iff.2
  intro e mem own
  have listed : (e.client, e.call) ∈ history := by
    rw [← map_journal history s]
    exact List.mem_map_of_mem mem
  exact absent (List.mem_map.2 ⟨_, listed, of_decide_eq_true own⟩)

/-- The accounts of a counter are exact at every moment, that is after every history.

It holds the maximum of the first limit on it and what was given back since, less what was granted, as 64 bits
keep it; later limits and refused reservations change nothing.  If no amount and no maximum is below zero and
the accounts never come to 2 ^ 63, the counter is never below zero.  And if at every moment so far no client
had given back more than that client was granted, the counter is between zero and its maximum, and 64 bits keep
it as it is. -/
theorem counter_accounts_are_exact (s : Store) (history : List (Nat × Call)) (key : String) (first : Int)
    (fresh : s.counter? key = none) (begun : begun? key (history.map Prod.snd) = some first) :
    let entries := (journal s history).1
    let now := (journal s history).2
    now.counter? key = some (Counters.kept (first + freed key entries - taken key entries)) ∧
    (Counters.Fits (first + freed key entries - taken key entries) →
      now.counter? key = some (first + freed key entries - taken key entries)) ∧
    (∀ limits, (init limits now).counter? key = now.counter? key) ∧
    (∀ quotas error after, reserve quotas now = (.error error, after) → after = now) ∧
    ((∀ event ∈ history, event.2.NonNegative) →
      ((∀ earlier, earlier <+: history →
          first + freed key (journal s earlier).1 - taken key (journal s earlier).1 < 2 ^ 63) →
        ∀ held, now.counter? key = some held → 0 ≤ held) ∧
      ((∀ earlier, earlier <+: history → ∀ client, freed key (byClient client (journal s earlier).1) ≤
          taken key (byClient client (journal s earlier).1)) →
        now.counter? key = some (first + freed key entries - taken key entries) ∧
        ∀ held, now.counter? key = some held → 0 ≤ held ∧ held ≤ first)) := by
  intro entries now
  obtain ⟨before, later, rfl, known, quiet⟩ := exists_begun fresh begun
  have settled : ∀ rest, first + freed key (journal s (before ++ rest)).1 -
      taken key (journal s (before ++ rest)).1 =
        first + balance key (journal (journal s before).2 rest).1 := by
    intro rest
    have all : balance key (journal s (before ++ rest)).1 =
        balance key (journal (journal s before).2 rest).1 := by
      rw [journal_append, balance_append, quiet before (List.prefix_refl before), zero_add]
    rw [← all, balance, add_sub_assoc]
  have moved : now.counter? key = some (Counters.kept (first + freed key entries - taken key entries)) := by
    rw [settled, ← counter?_journal known]
    simp only [now, journal_append]
  have nonneg : (∀ event ∈ before ++ later, event.2.NonNegative) →
      (∀ earlier, earlier <+: before ++ later →
        first + freed key (journal s earlier).1 - taken key (journal s earlier).1 < 2 ^ 63) →
      Counters.Fits (first + freed key entries - taken key entries) ∧
        0 ≤ first + freed key entries - taken key entries := by
    intro fair room
    have start : 0 ≤ first := nonneg_of_begun fair begun
    have above : 0 ≤ first + freed key entries - taken key entries := by
      rw [settled]
      apply nonneg_journal known start
      · exact fun event mem => fair event (List.mem_append_right _ mem)
      · intro earlier early
        rw [← settled]
        exact room _ ((List.prefix_append_right_inj before).2 early)
    exact ⟨⟨(show -2 ^ 63 ≤ (0 : Int) by decide).trans above, room _ (List.prefix_refl _)⟩, above⟩
  refine ⟨moved, fun fits => ?_, fun limits => ?_, fun quotas error after => reserve_error, fun fair => ⟨?_, ?_⟩⟩
  · rw [moved, Counters.kept_of_fits fits]
  · apply counter?_init_of_isSome
    rw [moved, Option.isSome_some]
  · intro room held found
    obtain ⟨fits, above⟩ := nonneg fair room
    rw [moved, Counters.kept_of_fits fits] at found
    exact Option.some.inj found ▸ above
  · intro honest
    have bounded : ∀ earlier, earlier <+: before ++ later →
        first + freed key (journal s earlier).1 - taken key (journal s earlier).1 ≤ first := by
      intro earlier early
      have less := freed_le_taken (honest earlier early)
      omega
    have small : first < 2 ^ 63 := (Counters.fits_of_value? known).2
    obtain ⟨fits, above⟩ := nonneg fair fun earlier early => (bounded earlier early).trans_lt small
    have exact' : now.counter? key = some (first + freed key entries - taken key entries) := by
      rw [moved, Counters.kept_of_fits fits]
    refine ⟨exact', fun held found => ?_⟩
    obtain rfl := Option.some.inj (exact'.symm.trans found)
    exact ⟨above, bounded _ (List.prefix_refl _)⟩

/-- Two clients begin one counter, the second too late; a reservation that names the counter twice is
granted and one that asks for too much is refused, and a part is given back. -/
theorem shared_counter_accounts :
    let machines (n : Int64) : Quota := ⟨.docker, .vm, n⟩
    let history : List (Nat × Call) :=
      [(0, .init [⟨.docker, .vm, 5⟩]), (1, .init [⟨.docker, .vm, 9⟩]),
        (0, .reserve [machines 2, machines 2]), (1, .reserve [machines 1, machines 1]),
        (1, .reserve [machines 1]), (0, .free [machines 3])]
    let key := quotaKey .docker .vm
    let entries := (journal .empty history).1
    entries.map Entry.granted = [true, true, true, false, true, true] ∧
      (journal .empty history).2.counter? key = some (5 + 3 - 5) ∧
      ∀ held, (journal .empty history).2.counter? key = some held → 0 ≤ held ∧ held ≤ 5 := by
  intro machines history key entries
  have begun : begun? key (history.map Prod.snd) = some 5 := by decide +kernel
  obtain ⟨-, -, -, -, bounds⟩ := counter_accounts_are_exact .empty history key 5 rfl begun
  obtain ⟨-, bounded⟩ := bounds (by decide)
  have checked : ∀ earlier ∈ history.inits, ∀ client ∈ [0, 1],
      freed key (byClient client (journal .empty earlier).1) ≤
        taken key (byClient client (journal .empty earlier).1) := by decide +kernel
  have honest : ∀ earlier, earlier <+: history → ∀ client,
      freed key (byClient client (journal .empty earlier).1) ≤
        taken key (byClient client (journal .empty earlier).1) := by
    intro earlier early client
    by_cases known : client ∈ [0, 1]
    · exact checked earlier ((List.mem_inits ..).2 early) client known
    · have clients : ∀ client ∈ history.map Prod.fst, client ∈ [0, 1] := by decide
      rw [byClient_eq_nil fun mem => known (clients client ((early.map Prod.fst).subset mem))]
      exact le_refl 0
  obtain ⟨holds, between⟩ := bounded honest
  have amounts : freed key entries = 3 ∧ taken key entries = 5 := by decide +kernel
  refine ⟨by decide +kernel, ?_, between⟩
  rw [holds, amounts.1, amounts.2]

/-- Amounts are not below zero, and no client gives back more than it takes; but one gives back before it
takes, and in between the counter is above its maximum.  And whoever gives back enough brings a counter out of
64 bits, and far below zero. -/
theorem given_back_ahead_or_out_of_bounds :
    let machines (n : Int64) : Quota := ⟨.docker, .vm, n⟩
    let limited : Nat × Call := (0, .init [⟨.docker, .vm, 64⟩])
    let key := quotaKey .docker .vm
    let ahead : List (Nat × Call) := [limited, (1, .free [machines 5]), (1, .reserve [machines 5])]
    let flood : List (Nat × Call) := [limited, (1, .free [machines Int64.maxValue])]
    ((∀ event ∈ ahead, event.2.NonNegative) ∧
      (∀ client, freed key (byClient client (journal .empty ahead).1) ≤
        taken key (byClient client (journal .empty ahead).1)) ∧
      (journal .empty (ahead.take 2)).2.counter? key = some 69) ∧
    (∀ event ∈ flood, event.2.NonNegative) ∧
      64 + freed key (journal .empty flood).1 - taken key (journal .empty flood).1 = 2 ^ 63 + 63 ∧
      (journal .empty flood).2.counter? key = some (63 - 2 ^ 63) := by
  intro machines limited key ahead flood
  refine ⟨⟨by decide, fun client => ?_, by decide +kernel⟩, by decide, by decide +kernel, by decide +kernel⟩
  by_cases known : client ∈ [0, 1]
  · have checked : ∀ client ∈ [0, 1], freed key (byClient client (journal .empty ahead).1) ≤
        taken key (byClient client (journal .empty ahead).1) := by decide +kernel
    exact checked client known
  · have clients : ∀ client ∈ ahead.map Prod.fst, client ∈ [0, 1] := by decide
    rw [byClient_eq_nil fun mem => known (clients client mem)]
    exact le_refl 0

end Testbed.Ledger
