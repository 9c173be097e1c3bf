import Mathlib
import Testbed.Quota.Ledger

/-!
What a store holds, seen through `Store.members` and `Store.counter?`.

Sets are described by membership and counters by the total that a list of requests asks of a key.  Nothing
here opens a table again: later modules know the store by these laws only.  `Store.SameStock` says that two
stores hold the same sets and counters.  Texts and leases do not count as stock, because nobody runs out of
them.
-/

namespace Testbed

/-! ### Keys of a table -/

namespace Entries

variable {α : Type}

/-- Something is found under a key exactly if the key is there. -/
theorem isSome_find? (key : String) (entries : List (String × α)) :
    (find? key entries).isSome = true ↔ key ∈ entries.map Prod.fst := by
  induction entries with
  | nil => simp [find?]
  | cons head rest ih =>
      obtain ⟨k, value⟩ := head
      by_cases hk : k = key
      · simp [find?, hk]
      · simp [find?, hk, ih, Ne.symm hk]

/-- What is found under a key is an entry. -/
theorem mem_of_find? {key : String} {value : α} {entries : List (String × α)}
    (found : find? key entries = some value) : (key, value) ∈ entries := by
  induction entries with
  | nil => cases found
  | cons entry rest ih =>
      rw [find?] at found
      split at found
      · next same =>
          obtain rfl := Option.some.inj found
          simp [← same]
      · exact List.mem_cons_of_mem _ (ih found)

/-- In ascending order there is one value under a key, and it is found. -/
theorem find?_of_mem {key : String} {value : α} {entries : List (String × α)} (ascending : Ascending entries)
    (mem : (key, value) ∈ entries) : find? key entries = some value := by
  induction entries with
  | nil => cases mem
  | cons entry rest ih =>
      obtain ⟨before, sorted⟩ := List.pairwise_cons.1 ascending
      rcases List.mem_cons.1 mem with rfl | later
      · exact find?_head
      · have other : entry.1 ≠ key := Std.ne_of_lt (before (key, value) later)
        rw [find?, if_neg other]
        exact ih sorted later

end Entries

namespace Table

variable {α : Type}

/-- The entries are what can be looked up. -/
theorem mem_entries {t : Table α} {key : String} {value : α} :
    (key, value) ∈ t.entries ↔ t.get? key = some value :=
  ⟨Entries.find?_of_mem t.ascending, Entries.mem_of_find?⟩

/-- The keys are those that the table contains. -/
theorem mem_keys {t : Table α} {key : String} : key ∈ t.keys ↔ t.contains key = true :=
  (Entries.isSome_find? key t.entries).symm

/-- No key is there twice. -/
theorem nodup_keys (t : Table α) : t.keys.Nodup := by
  refine List.pairwise_map.2 (t.ascending.imp ?_)
  intro a b h heq
  rw [heq] at h
  exact String.lt_irrefl _ h

/-- After an insertion there is the new key, beside those before. -/
theorem contains_insert (t : Table α) (key other : String) (value : α) :
    (t.insert key value).contains other = true ↔ other = key ∨ t.contains other = true := by
  rw [contains, get?_insert, contains]
  by_cases h : key = other
  · simp [h]
  · simp [h, Ne.symm h]

/-- After erasing a key there are all others. -/
theorem contains_erase (t : Table α) (key other : String) :
    (t.erase key).contains other = true ↔ other ≠ key ∧ t.contains other = true := by
  rw [contains, get?_erase, contains]
  by_cases h : key = other
  · simp [h]
  · simp [h, Ne.symm h]

/-- A table without values is known by its keys. -/
theorem eq_of_contains_iff {s t : Table Unit}
    (h : ∀ key, s.contains key = true ↔ t.contains key = true) : s = t := by
  apply Table.ext
  intro key
  have same := h key
  rw [contains, contains] at same
  cases hs : s.get? key <;> cases ht : t.get? key <;> simp_all

end Table

/-! ### Sets -/

namespace Members

/-- The list of the members has what the set contains. -/
theorem mem_toList {s : Members} {x : String} : x ∈ s.toList ↔ s.contains x = true := Table.mem_keys

/-- Sets with the same members are listed alike. -/
theorem toList_eq_of_mem_iff {s t : Members} (h : ∀ x, x ∈ s.toList ↔ x ∈ t.toList) :
    s.toList = t.toList := by
  have same : s = t := Table.eq_of_contains_iff fun x => by
    rw [← mem_toList, ← mem_toList]
    exact h x
  rw [same]

/-- Adding members joins them to the set. -/
theorem mem_addAll {x : String} {members : List String} {s : Members} :
    x ∈ (s.addAll members).2.toList ↔ x ∈ members ∨ x ∈ s.toList := by
  induction members generalizing s with
  | nil => simp [addAll]
  | cons m rest ih =>
      rw [addAll]
      simp only [ih, mem_toList, Table.contains_insert, List.mem_cons]
      tauto

/-- Removing members takes them out of the set. -/
theorem mem_removeAll {x : String} {members : List String} {s : Members} :
    x ∈ (s.removeAll members).2.toList ↔ x ∉ members ∧ x ∈ s.toList := by
  induction members generalizing s with
  | nil => simp [removeAll]
  | cons m rest ih =>
      rw [removeAll]
      simp only [ih, mem_toList, Table.contains_erase, List.mem_cons]
      tauto

/-- Adding one member changes nothing exactly when the member was there. -/
theorem addAll_singleton_eq_zero {x : String} {s : Members} :
    (s.addAll [x]).1 = 0 ↔ x ∈ s.toList := by
  rw [mem_toList]
  by_cases h : s.contains x = true
  · simp [addAll, h]
  · simp [addAll, h]

end Members

namespace Store

/-- No member of a set is listed twice. -/
theorem nodup_members (s : Store) (key : String) : (s.members key).Nodup := Table.nodup_keys _

/-- Setting the members of a key changes that set and no other. -/
theorem membersAt_setMembers (s : Store) (key other : String) (members : Members) :
    (s.setMembers key members).membersAt other =
      if key = other then members else s.membersAt other := by
  rw [membersAt, setMembers, Table.get?_set]
  by_cases h : key = other
  · rw [if_pos h, if_pos h]
    by_cases empty : members.isEmpty = true
    · -- A set without members is not kept, and an absent set reads as the empty one.
      have none : members.entries = [] := List.isEmpty_iff.1 empty
      have same : members = .empty := by
        cases members
        simp_all [Table.empty]
      simp [same, Table.isEmpty, Table.empty]
    · simp [empty]
  · rw [if_neg h, if_neg h, membersAt]

/-- Members are added under one key; other sets stay. -/
theorem mem_members_addMembers {s : Store} {key other x : String} {added : List String} :
    x ∈ (s.addMembers key added).2.members other ↔
      (key = other ∧ x ∈ added) ∨ x ∈ s.members other := by
  rw [addMembers, members, membersAt_setMembers]
  by_cases h : key = other
  · subst h
    simp [Members.mem_addAll, members]
  · simp [h, members]

/-- Members are removed under one key; other sets stay. -/
theorem mem_members_removeMembers {s : Store} {key other x : String} {removed : List String} :
    x ∈ (s.removeMembers key removed).2.members other ↔
      ¬ (key = other ∧ x ∈ removed) ∧ x ∈ s.members other := by
  rw [removeMembers, members, membersAt_setMembers]
  by_cases h : key = other
  · subst h
    simp [Members.mem_removeAll, members]
  · simp [h, members]

/-- Nothing is added exactly when the member was there. -/
theorem addMembers_singleton_eq_zero {s : Store} {key x : String} :
    (s.addMembers key [x]).1 = 0 ↔ x ∈ s.members key := Members.addAll_singleton_eq_zero

/-- Two sets with the same members are listed alike. -/
theorem members_eq_of_mem_iff {s t : Store} {key other : String}
    (h : ∀ x, x ∈ s.members key ↔ x ∈ t.members other) : s.members key = t.members other :=
  Members.toList_eq_of_mem_iff h

@[simp] theorem counter?_addMembers (s : Store) (key other : String) (added : List String) :
    (s.addMembers key added).2.counter? other = s.counter? other := rfl

@[simp] theorem counter?_removeMembers (s : Store) (key other : String) (removed : List String) :
    (s.removeMembers key removed).2.counter? other = s.counter? other := rfl

end Store

/-! ### Numbers of 64 bits -/

namespace Counters

/-- What 64 bits keep of a number, read with a sign. -/
def kept (n : Int) : Int := (Int64.ofInt n).toInt

/-- A number that 64 bits keep as it is. -/
def Fits (n : Int) : Prop := -2 ^ 63 ≤ n ∧ n < 2 ^ 63

instance : DecidablePred Fits := fun n => inferInstanceAs (Decidable (-2 ^ 63 ≤ n ∧ n < 2 ^ 63))

/-- What fits in 64 bits is kept as it is. -/
theorem kept_of_fits {n : Int} (fits : Fits n) : kept n = n := Int64.toInt_ofInt_of_le fits.1 fits.2

/-- A number of 64 bits is kept as it is. -/
theorem kept_toInt (n : Int64) : kept n.toInt = n.toInt := by rw [kept, Int64.ofInt_toInt]

/-- A number of 64 bits fits in them. -/
theorem fits_toInt (n : Int64) : Fits n.toInt := ⟨n.le_toInt, n.toInt_lt⟩

/-- What was dropped from a number does not show in a sum with it. -/
theorem kept_add (m n : Int) : kept (kept m + n) = kept (m + n) := by
  simp only [kept, Int64.toInt_ofInt]
  exact Int.bmod_add_bmod

/-- What was dropped from a number does not show in a difference to it. -/
theorem kept_sub (m n : Int) : kept (kept m - n) = kept (m - n) := by
  simp only [kept, Int64.toInt_ofInt]
  exact Int.bmod_sub_bmod

/-- What is left of a number that fits, after no more than it was taken away. -/
theorem fits_sub {held amount : Int} (fits : Fits held) (nonneg : 0 ≤ amount) (enough : amount ≤ held) :
    Fits (held - amount) := by
  obtain ⟨-, below⟩ := fits
  constructor <;> omega

/-! ### Counters -/

/-- Having a counter hold a number leaves the others alone. -/
theorem value?_put (c : Counters) (key other : String) (value : Int) :
    (c.put key value).value? other = if key = other then some (kept value) else c.value? other := by
  rw [value?, put, Table.get?_insert]
  by_cases h : key = other
  · rw [if_pos h, if_pos h]
    rfl
  · rw [if_neg h, if_neg h]
    rfl

/-- Putting a value under a key keeps what fits of it there, and changes nothing else. -/
theorem holding_put (c : Counters) (key other : String) (value : Int) :
    holding (c.put key value) other = if key = other then kept value else c.holding other := by
  rw [holding, value?_put]
  by_cases h : key = other <;> simp [h, holding]

/-- What a counter holds fits in 64 bits. -/
theorem fits_of_value? {c : Counters} {key : String} {held : Int} (found : c.value? key = some held) :
    Fits held := by
  obtain ⟨n, -, rfl⟩ := Option.map_eq_some_iff.1 found
  exact fits_toInt n

/-- What a counter holds, or zero, fits in 64 bits. -/
theorem fits_holding (c : Counters) (key : String) : Fits (c.holding key) := by
  rw [holding]
  cases found : c.value? key with
  | none => decide
  | some held => exact fits_of_value? found

/-- How much a list of requests asks of a counter altogether. -/
def total (key : String) (requests : List (String × Int)) : Int :=
  ((requests.filter (·.1 = key)).map Prod.snd).sum

/-- One more request counts for its own key. -/
theorem total_cons (key k : String) (amount : Int) (rest : List (String × Int)) :
    total key ((k, amount) :: rest) = (if k = key then amount else 0) + total key rest := by
  by_cases h : k = key <;> simp [total, h]

/-- Nothing is asked of a counter that no request names. -/
theorem total_eq_zero {key : String} {requests : List (String × Int)}
    (h : key ∉ requests.map Prod.fst) : total key requests = 0 := by
  have none : requests.filter (·.1 = key) = [] := by
    refine List.filter_eq_nil_iff.2 fun request mem heq => h ?_
    exact List.mem_map.2 ⟨request, mem, of_decide_eq_true heq⟩
  simp [total, none]

/-- Amounts that are not below zero do not add up to less. -/
theorem total_nonneg {key : String} {requests : List (String × Int)} (fair : ∀ r ∈ requests, 0 ≤ r.2) :
    0 ≤ total key requests := by
  apply List.sum_nonneg
  intro amount mem
  obtain ⟨r, listed, rfl⟩ := List.mem_map.1 mem
  exact fair r (List.mem_of_mem_filter listed)

/-- What a counter holds after amounts were added. -/
theorem value?_giveBack (c : Counters) (key : String) (requests : List (String × Int)) :
    (c.giveBack requests).value? key =
      if key ∈ requests.map Prod.fst then some (kept (c.holding key + total key requests))
      else c.value? key := by
  induction requests generalizing c with
  | nil => simp [giveBack]
  | cons head rest ih =>
      obtain ⟨k, amount⟩ := head
      rw [giveBack, ih, total_cons, holding_put, value?_put, List.map_cons]
      by_cases hk : k = key
      · subst hk
        by_cases mem : k ∈ rest.map Prod.fst
        · simp [mem, kept_add, add_assoc]
        · simp [mem, total_eq_zero mem]
      · simp only [hk, if_false, zero_add, List.mem_cons, Ne.symm hk, false_or]

/-- What a counter holds after amounts were taken. -/
theorem value?_of_takeFrom {c after : Counters} {index : Nat} {requests : List (String × Int)}
    (h : c.takeFrom index requests = .ok after) (key : String) :
    after.value? key =
      if key ∈ requests.map Prod.fst then some (kept (c.holding key - total key requests))
      else c.value? key := by
  induction requests generalizing c index with
  | nil =>
      obtain rfl : c = after := by simpa [takeFrom] using h
      simp
  | cons head rest ih =>
      obtain ⟨k, amount⟩ := head
      rw [takeFrom] at h
      split at h
      · cases h
      · rw [ih h, total_cons, holding_put, value?_put, List.map_cons]
        by_cases hk : k = key
        · subst hk
          by_cases mem : k ∈ rest.map Prod.fst
          · simp [mem, kept_sub, sub_sub]
          · simp [mem, total_eq_zero mem]
        · simp only [hk, if_false, zero_add, List.mem_cons, Ne.symm hk, false_or]

/-- Whoever takes amounts that are not below zero leaves a counter what it held, less the amount. -/
theorem holding_put_sub {c : Counters} {key : String} {amount : Int} (nonneg : 0 ≤ amount)
    (enough : ¬ c.holding key < amount) (other : String) :
    holding (c.put key (c.holding key - amount)) other =
      c.holding other - if key = other then amount else 0 := by
  rw [holding_put]
  by_cases same : key = other
  · subst same
    rw [if_pos rfl, if_pos rfl, kept_of_fits (fits_sub (c.fits_holding key) nonneg (Int.not_lt.1 enough))]
  · rw [if_neg same, if_neg same, sub_zero]

/-- Amounts that are not below zero can be taken exactly if every counter holds what is asked of it
altogether. -/
theorem exists_takeFrom_iff {c : Counters} {requests : List (String × Int)}
    (fair : ∀ r ∈ requests, 0 ≤ r.2) (index : Nat) :
    (∃ after, c.takeFrom index requests = .ok after) ↔
      ∀ key ∈ requests.map Prod.fst, total key requests ≤ c.holding key := by
  induction requests generalizing c index with
  | nil => simp [takeFrom]
  | cons head rest ih =>
      obtain ⟨k, amount⟩ := head
      have first : 0 ≤ amount := fair (k, amount) List.mem_cons_self
      have fair_rest : ∀ r ∈ rest, 0 ≤ r.2 := fun r mem => fair r (List.mem_cons_of_mem _ mem)
      rw [takeFrom]
      by_cases short : c.holding k < amount
      · rw [if_pos short]
        constructor
        · intro taken
          obtain ⟨after, taken⟩ := taken
          cases taken
        · intro enough
          have later : 0 ≤ total k rest := total_nonneg fair_rest
          have := enough k List.mem_cons_self
          rw [total_cons, if_pos rfl] at this
          omega
      · -- A counter holds all that is asked of it if it holds the rest once the first request has been met.
        have split_off : ∀ key, total key ((k, amount) :: rest) ≤ c.holding key ↔
            total key rest ≤ holding (c.put k (c.holding k - amount)) key := by
          intro key
          rw [total_cons, holding_put_sub first short, le_sub_iff_add_le']
        rw [if_neg short, ih fair_rest, List.map_cons, List.forall_mem_cons]
        simp only [split_off]
        rw [iff_and_self]
        intro enough
        by_cases again : k ∈ rest.map Prod.fst
        · exact enough k again
        · -- Nothing more is asked of the counter.
          rw [total_eq_zero again, holding_put_sub first short, if_pos rfl]
          omega

/-- What a counter holds after amounts were taken that are not below zero: no bit is lost of it. -/
theorem value?_of_takeFrom_of_fair {c after : Counters} {index : Nat} {requests : List (String × Int)}
    (h : c.takeFrom index requests = .ok after) (fair : ∀ r ∈ requests, 0 ≤ r.2) (key : String) :
    after.value? key =
      if key ∈ requests.map Prod.fst then some (c.holding key - total key requests) else c.value? key := by
  rw [value?_of_takeFrom h]
  by_cases asked : key ∈ requests.map Prod.fst
  · have enough := (exists_takeFrom_iff fair index).1 ⟨after, h⟩ key asked
    rw [if_pos asked, if_pos asked, kept_of_fits (fits_sub (c.fits_holding key) (total_nonneg fair) enough)]
  · rw [if_neg asked, if_neg asked]

/-- A counter that exists if anything is asked of it moves by what is asked of it. -/
theorem moved_eq_map (move : Int → Int) {asked : Prop} [Decidable asked] {value : Option Int}
    (known : asked → value.isSome = true) (still : ¬ asked → ∀ held, value = some held → move held = held) :
    (if asked then some (move (value.getD 0)) else value) = value.map move := by
  by_cases h : asked
  · obtain ⟨held, rfl⟩ := Option.isSome_iff_exists.1 (known h)
    simp [h]
  · cases value with
    | none => simp [h]
    | some held => simp [h, still h held rfl]

/-- Positive amounts can be taken only from counters that exist. -/
theorem isSome_of_takeFrom {c after : Counters} {index : Nat} {requests : List (String × Int)}
    (h : c.takeFrom index requests = .ok after) (positive : ∀ r ∈ requests, 0 < r.2) :
    ∀ r ∈ requests, (c.value? r.1).isSome = true := by
  induction requests generalizing c index with
  | nil => simp
  | cons head rest ih =>
      obtain ⟨k, amount⟩ := head
      rw [takeFrom] at h
      split at h
      · cases h
      · next enough =>
          have exists' : (c.value? k).isSome = true := by
            have := positive (k, amount) (by simp)
            rw [holding] at enough
            cases hc : c.value? k with
            | some value => rfl
            | none => simp [hc] at enough; omega
          intro r mem
          rcases List.mem_cons.1 mem with rfl | mem
          · exact exists'
          · have later := ih h (fun r mem => positive r (by simp [mem])) r mem
            rw [value?_put] at later
            by_cases hk : k = r.1
            · rwa [← hk]
            · simpa [hk] using later

/-- The request that cannot be met is one of the requests. -/
theorem lt_of_takeFrom_error {c : Counters} {index short : Nat} {requests : List (String × Int)}
    (h : c.takeFrom index requests = .error short) :
    index ≤ short ∧ short < index + requests.length := by
  induction requests generalizing c index with
  | nil => simp [takeFrom] at h
  | cons head rest ih =>
      rw [takeFrom] at h
      split at h
      · obtain rfl : index = short := by simpa using h
        simp
      · have := ih h
        simp only [List.length_cons]
        omega

/-- Amounts are taken from counters that hold enough of them, each asked once. -/
theorem takeFrom_of_enough {c : Counters} {requests : List (String × Int)}
    (distinct : (requests.map Prod.fst).Nodup) (enough : ∀ r ∈ requests, r.2 ≤ c.holding r.1)
    (index : Nat) : ∃ after, c.takeFrom index requests = .ok after := by
  induction requests generalizing c index with
  | nil => exact ⟨c, rfl⟩
  | cons head rest ih =>
      obtain ⟨k, amount⟩ := head
      obtain ⟨other, distinct⟩ := List.nodup_cons.1 distinct
      obtain ⟨first, others⟩ := List.forall_mem_cons.1 enough
      rw [takeFrom, if_neg (Int.not_lt.2 first)]
      refine ih distinct (fun r mem => ?_) (index + 1)
      have apart : k ≠ r.1 := fun same => other (List.mem_map.2 ⟨r, mem, same.symm⟩)
      rw [holding_put, if_neg apart]
      exact others r mem

end Counters

/-! ### Stock -/

namespace Store

/-- Both stores hold the same sets and the same counters. -/
structure SameStock (s t : Store) : Prop where
  members : ∀ key, t.members key = s.members key
  counter? : ∀ key, t.counter? key = s.counter? key

namespace SameStock

variable {s t u : Store}

theorem refl (s : Store) : SameStock s s := ⟨fun _ => rfl, fun _ => rfl⟩

/-- What leaves the stock twice leaves it as it was at first. -/
theorem trans (one : SameStock s t) (two : SameStock t u) : SameStock s u :=
  ⟨fun key => (two.members key).trans (one.members key),
    fun key => (two.counter? key).trans (one.counter? key)⟩

/-- Stores that differ in their texts and leases only. -/
theorem of_eq (sets : t.sets = s.sets) (counters : t.counters = s.counters) : SameStock s t :=
  ⟨fun key => by simp [Store.members, membersAt, sets],
    fun key => by simp [Store.counter?, counters]⟩

end SameStock

/-- Extending a lease leaves sets and counters. -/
theorem sameStock_extendLease (s : Store) (now : Nat) (key holder : String) (ttl : Duration) :
    SameStock s (s.extendLease now key holder ttl).2 := .of_eq rfl rfl

/-- Releasing a lease leaves sets and counters. -/
theorem sameStock_releaseLease (s : Store) (key holder : String) :
    SameStock s (s.releaseLease key holder).2 := .of_eq rfl rfl

end Store

/-! ### Quotas -/

namespace Ledger

/-- How much some quotas take of a counter. -/
def amountOf (key : String) (quotas : List Quota) : Int := Counters.total key (requests quotas)

/-- Quotas that are not below zero ask for amounts that are not. -/
theorem requests_nonneg {quotas : List Quota} (fair : ∀ quota ∈ quotas, 0 ≤ quota.amount.toInt) :
    ∀ request ∈ requests quotas, 0 ≤ request.2 := by
  intro request mem
  obtain ⟨quota, asked, rfl⟩ := List.mem_map.1 mem
  exact fair quota asked

/-- A counter that quotas name exists if all that they name do. -/
theorem isSome_of_mem_keys {quotas : List Quota} {s : Store}
    (known : ∀ q ∈ quotas, (s.counter? q.key).isSome = true) {key : String}
    (asked : key ∈ (requests quotas).map Prod.fst) : (s.counter? key).isSome = true := by
  obtain ⟨request, listed, rfl⟩ := List.mem_map.1 asked
  obtain ⟨q, mem, rfl⟩ := List.mem_map.1 listed
  exact known q mem

@[simp] theorem members_free (quotas : List Quota) (s : Store) (key : String) :
    (free quotas s).members key = s.members key := rfl

/-- Quotas that are not below zero take no less than nothing. -/
theorem amountOf_nonneg {quotas : List Quota} (fair : ∀ q ∈ quotas, 0 ≤ q.amount.toInt) (key : String) :
    0 ≤ amountOf key quotas := Counters.total_nonneg (requests_nonneg fair)

/-- What a counter holds after quotas were given back to counters that exist. -/
theorem counter?_free {quotas : List Quota} {s : Store}
    (known : ∀ q ∈ quotas, (s.counter? q.key).isSome = true) (key : String) :
    (free quotas s).counter? key =
      (s.counter? key).map fun held => Counters.kept (held + amountOf key quotas) := by
  have raised := Counters.value?_giveBack s.counters key (requests quotas)
  refine raised.trans (Counters.moved_eq_map (fun held => Counters.kept (held + amountOf key quotas))
    (isSome_of_mem_keys known) fun absent held found => ?_)
  rw [amountOf, Counters.total_eq_zero absent, add_zero]
  exact Counters.kept_of_fits (Counters.fits_of_value? found)

/-- A reservation takes every quota from the counters, or refuses one of them and changes nothing. -/
theorem reserve_cases (quotas : List Quota) (s : Store) :
    (∃ counters, s.counters.take (requests quotas) = .ok counters ∧
      reserve quotas s = (.ok (), { s with counters })) ∨
    ∃ q ∈ quotas, reserve quotas s = (.error (.quotaUnavailable q.scope q.kind), s) := by
  rw [reserve, Store.reserveCounters]
  cases taken : s.counters.take (requests quotas) with
  | ok counters => exact .inl ⟨counters, rfl, rfl⟩
  | error short =>
      have inRange : short < quotas.length := by
        simpa [requests] using (Counters.lt_of_takeFrom_error taken).2
      refine .inr ⟨quotas[short], List.getElem_mem inRange, ?_⟩
      simp only [List.getElem?_eq_getElem inRange]

/-- A reservation succeeds when every counter holds what is asked of it, once. -/
theorem reserve_of_enough {quotas : List Quota} {s : Store} (distinct : (quotas.map Quota.key).Nodup)
    (enough : ∀ q ∈ quotas, ∃ held, s.counter? q.key = some held ∧ q.amount.toInt ≤ held) :
    ∃ counters, reserve quotas s = (.ok (), { s with counters }) := by
  have keys : (requests quotas).map Prod.fst = quotas.map Quota.key := List.map_map
  have held : ∀ r ∈ requests quotas, r.2 ≤ s.counters.holding r.1 := by
    intro r mem
    obtain ⟨q, asked, rfl⟩ := List.mem_map.1 mem
    obtain ⟨held, found, bound⟩ := enough q asked
    have found : s.counters.value? q.request.1 = some held := found
    rw [Counters.holding, found]
    exact bound
  obtain ⟨counters, taken⟩ := Counters.takeFrom_of_enough (keys ▸ distinct) held 0
  exact ⟨counters, by simp only [reserve, Store.reserveCounters, Counters.take, taken]⟩

/-- A reservation that succeeds lowers every counter by what was asked of it. -/
theorem counter?_of_reserve {quotas : List Quota} {s after : Store}
    (h : reserve quotas s = (.ok (), after)) (positive : ∀ q ∈ quotas, 0 < q.amount.toInt) :
    (∀ q ∈ quotas, (s.counter? q.key).isSome = true) ∧
      (∀ key, after.counter? key = (s.counter? key).map (· - amountOf key quotas)) ∧
      ∀ key, after.members key = s.members key := by
  rcases reserve_cases quotas s with ⟨counters, taken, done⟩ | ⟨q, -, failed⟩
  · obtain rfl : { s with counters } = after := by simpa [done] using h
    have known : ∀ q ∈ quotas, (s.counter? q.key).isSome = true := by
      intro q mem
      refine Counters.isSome_of_takeFrom taken ?_ q.request (List.mem_map_of_mem mem)
      intro r hr
      obtain ⟨q, mem, rfl⟩ := List.mem_map.1 hr
      exact positive q mem
    refine ⟨known, fun key => ?_, fun _ => rfl⟩
    have fair : ∀ q ∈ quotas, 0 ≤ q.amount.toInt := fun q mem => (positive q mem).le
    have lowered := Counters.value?_of_takeFrom_of_fair taken (requests_nonneg fair) key
    refine lowered.trans (Counters.moved_eq_map (· - amountOf key quotas)
      (isSome_of_mem_keys known) fun absent held _ => ?_)
    rw [amountOf, Counters.total_eq_zero absent, sub_zero]
  · rw [failed] at h
    cases h

/-- Quotas that were taken and are given back leave no trace. -/
theorem counter?_free_of_lowered {quotas : List Quota} {s t : Store}
    (known : ∀ q ∈ quotas, (s.counter? q.key).isSome = true)
    (lowered : ∀ key, t.counter? key = (s.counter? key).map (· - amountOf key quotas)) (key : String) :
    (free quotas t).counter? key = s.counter? key := by
  have stillKnown : ∀ q ∈ quotas, (t.counter? q.key).isSome = true := by
    intro q mem
    rw [lowered, Option.isSome_map]
    exact known q mem
  rw [counter?_free stillKnown, lowered]
  cases found : s.counter? key with
  | none => rfl
  | some held =>
      have fits : Counters.Fits held := Counters.fits_of_value? found
      simp only [Option.map_some, sub_add_cancel, Counters.kept_of_fits fits]

/-- A reservation that fails leaves the store as it is. -/
theorem reserve_error {quotas : List Quota} {s after : Store} {error : StoreError}
    (h : reserve quotas s = (.error error, after)) : after = s := by
  rcases reserve_cases quotas s with ⟨counters, -, done⟩ | ⟨q, -, failed⟩
  · rw [done] at h
    cases h
  · rw [failed] at h
    exact (Prod.mk.inj h).2.symm

end Ledger

end Testbed
