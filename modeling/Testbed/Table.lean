/-!
Finite maps keyed by text.  A `Table` lists its entries in strictly ascending key order, so two tables
with the same look-ups are the same table, and the order in which a table is shown does not depend on
the order in which it was filled.

The laws of look-up after insertion and removal need no assumption on the entries; the order of the
entries is a field of the type and is kept by every operation.
-/

namespace Testbed

universe u v

/-- The entries of a table are in strictly ascending key order. -/
def Ascending {α : Type u} (entries : List (String × α)) : Prop :=
  entries.Pairwise fun a b => a.1 < b.1

namespace Entries

variable {α : Type u} {β : Type v}

/-- The value under a key. -/
def find? (key : String) : List (String × α) → Option α
  | [] => none
  | (k, value) :: rest => if k = key then some value else find? key rest

/-- Put a value under a key, in key order, replacing what was there. -/
def put (key : String) (value : α) : List (String × α) → List (String × α)
  | [] => [(key, value)]
  | (k, old) :: rest =>
    if key < k then (key, value) :: (k, old) :: rest
    else if key = k then (key, value) :: rest
    else (k, old) :: put key value rest

/-- Leave out the entries under a key. -/
def drop (key : String) (entries : List (String × α)) : List (String × α) :=
  entries.filter fun entry => entry.1 ≠ key

/-- What is there after putting an entry is that entry or was there before. -/
theorem mem_put {key : String} {value : α} {entry : String × α} {entries : List (String × α)}
    (h : entry ∈ put key value entries) : entry = (key, value) ∨ entry ∈ entries := by
  induction entries with
  | nil => simpa [put] using h
  | cons head rest ih =>
    obtain ⟨k, old⟩ := head
    rw [put] at h
    split at h
    · simpa using h
    · split at h
      · simp only [List.mem_cons] at h ⊢
        exact h.imp_right .inr
      · simp only [List.mem_cons] at h ⊢
        rcases h with h | h
        · exact .inr (.inl h)
        · exact (ih h).imp_right .inr

/-- Putting an entry keeps the keys ascending. -/
theorem ascending_put (key : String) (value : α) {entries : List (String × α)}
    (h : Ascending entries) : Ascending (put key value entries) := by
  induction entries with
  | nil => simp [put, Ascending]
  | cons head rest ih =>
    obtain ⟨k, old⟩ := head
    obtain ⟨before, sorted⟩ := List.pairwise_cons.1 h
    rw [put]
    split
    · next hlt =>
      refine List.pairwise_cons.2 ⟨fun entry mem => ?_, h⟩
      rcases List.mem_cons.1 mem with rfl | mem
      · exact hlt
      · exact String.lt_trans hlt (before entry mem)
    · split
      · next heq =>
        subst heq
        exact List.pairwise_cons.2 ⟨before, sorted⟩
      · next hge hne =>
        refine List.pairwise_cons.2 ⟨fun entry mem => ?_, ih sorted⟩
        rcases mem_put mem with rfl | mem
        · exact Std.lt_of_le_of_ne (String.not_lt.1 hge) (Ne.symm hne)
        · exact before entry mem

/-- Dropping a key keeps the keys ascending. -/
theorem ascending_drop (key : String) {entries : List (String × α)} (h : Ascending entries) :
    Ascending (drop key entries) :=
  List.Pairwise.filter _ h

/-- Putting a value changes what is found under its key and nothing else. -/
theorem find?_put (key other : String) (value : α) (entries : List (String × α)) :
    find? other (put key value entries) =
      if key = other then some value else find? other entries := by
  induction entries with
  | nil => rfl
  | cons head rest ih =>
    obtain ⟨k, old⟩ := head
    rw [put]
    split
    · simp [find?]
    · split
      · next heq => subst heq; by_cases hk : key = other <;> simp [find?, hk]
      · next hne =>
        simp only [find?, ih]
        by_cases hk : k = other
        · subst hk; simp [hne]
        · simp [hk]

/-- Dropping a key changes what is found under it and nothing else. -/
theorem find?_drop (key other : String) (entries : List (String × α)) :
    find? other (drop key entries) = if key = other then none else find? other entries := by
  induction entries with
  | nil => simp [drop, find?]
  | cons head rest ih =>
    obtain ⟨k, old⟩ := head
    rw [drop] at ih ⊢
    by_cases hk : k = key
    · subst hk
      simp only [ne_eq, not_true_eq_false, decide_false, List.filter_cons]
      by_cases ho : k = other <;> simp_all [find?]
    · simp only [ne_eq, hk, not_false_eq_true, decide_true, List.filter_cons, if_true, find?, ih]
      by_cases ho : k = other
      · subst ho; simp [Ne.symm hk]
      · simp [ho]

/-- Nothing is found under a key below all others. -/
theorem find?_eq_none_of_lt {key : String} {entries : List (String × α)}
    (h : ∀ entry ∈ entries, key < entry.1) : find? key entries = none := by
  induction entries with
  | nil => rfl
  | cons head rest ih =>
    have hne : head.1 ≠ key := fun heq => by
      have := h head (by simp)
      rw [heq] at this
      exact String.lt_irrefl _ this
    rw [find?, if_neg hne]
    exact ih fun entry mem => h entry (by simp [mem])

/-- The first entry is found under its key. -/
theorem find?_head {entries : List (String × α)} {k : String} {value : α} :
    find? k ((k, value) :: entries) = some value := by simp [find?]

/-- Ascending lists with the same look-ups are equal. -/
theorem eq_of_find?_eq {left right : List (String × α)} (hl : Ascending left)
    (hr : Ascending right) (h : ∀ key, find? key left = find? key right) : left = right := by
  induction left generalizing right with
  | nil =>
    cases right with
    | nil => rfl
    | cons head rest => have := h head.1; rw [find?_head] at this; simp [find?] at this
  | cons a left ih =>
    obtain ⟨hal, sortedLeft⟩ := List.pairwise_cons.1 hl
    cases right with
    | nil => have := h a.1; rw [find?_head] at this; simp [find?] at this
    | cons b right =>
      obtain ⟨hbr, sortedRight⟩ := List.pairwise_cons.1 hr
      have hkey : a.1 = b.1 := by
        rcases Std.lt_trichotomy a.1 b.1 with hlt | heq | hlt
        · have hnone : find? a.1 (b :: right) = none := find?_eq_none_of_lt fun e mem => by
            rcases List.mem_cons.1 mem with rfl | mem
            · exact hlt
            · exact String.lt_trans hlt (hbr e mem)
          have := h a.1
          rw [hnone, find?_head] at this
          cases this
        · exact heq
        · have hnone : find? b.1 (a :: left) = none := find?_eq_none_of_lt fun e mem => by
            rcases List.mem_cons.1 mem with rfl | mem
            · exact hlt
            · exact String.lt_trans hlt (hal e mem)
          have := h b.1
          rw [hnone, find?_head] at this
          cases this
      obtain ⟨ka, va⟩ := a
      obtain ⟨kb, vb⟩ := b
      simp only at hkey
      subst hkey
      have hval := h ka
      simp only [find?_head, Option.some.injEq] at hval
      subst hval
      congr 1
      refine ih sortedLeft sortedRight fun key => ?_
      by_cases hk : ka = key
      · subst hk
        rw [find?_eq_none_of_lt hal, find?_eq_none_of_lt hbr]
      · have := h key
        simpa [find?, hk] using this

end Entries

/-- A finite map from text to `α`. -/
structure Table (α : Type u) where
  /-- The entries, in strictly ascending key order. -/
  entries : List (String × α)
  ascending : Ascending entries
deriving Repr, DecidableEq

namespace Table

variable {α : Type u} {β : Type v}

/-- The table without entries. -/
def empty : Table α := ⟨[], .nil⟩

instance : Inhabited (Table α) := ⟨empty⟩
instance : EmptyCollection (Table α) := ⟨empty⟩

/-- The value under a key. -/
def get? (t : Table α) (key : String) : Option α := Entries.find? key t.entries

/-- Whether a key is present. -/
def contains (t : Table α) (key : String) : Bool := (t.get? key).isSome

/-- Put a value under a key, replacing what was there. -/
def insert (t : Table α) (key : String) (value : α) : Table α :=
  ⟨Entries.put key value t.entries, Entries.ascending_put key value t.ascending⟩

/-- Remove a key. -/
def erase (t : Table α) (key : String) : Table α :=
  ⟨Entries.drop key t.entries, Entries.ascending_drop key t.ascending⟩

/-- Store a value, or remove the key when there is none. -/
def set (t : Table α) (key : String) : Option α → Table α
  | some value => t.insert key value
  | none => t.erase key

/-- Add entries from left to right; a later entry replaces an earlier one under the same key. -/
def insertAll (t : Table α) (entries : List (String × α)) : Table α :=
  entries.foldl (fun t entry => t.insert entry.1 entry.2) t

/-- The table that holds the given entries. -/
def ofList (entries : List (String × α)) : Table α := empty.insertAll entries

/-- The keys in ascending order. -/
def keys (t : Table α) : List String := t.entries.map Prod.fst

/-- Number of entries. -/
def size (t : Table α) : Nat := t.entries.length

/-- Whether there is no entry. -/
def isEmpty (t : Table α) : Bool := t.entries.isEmpty

/-- Two tables with the same value under each key are one table. -/
@[ext] theorem ext {s t : Table α} (h : ∀ key, s.get? key = t.get? key) : s = t := by
  obtain ⟨left, hl⟩ := s
  obtain ⟨right, hr⟩ := t
  obtain rfl := Entries.eq_of_find?_eq hl hr h
  rfl

@[simp] theorem get?_empty (key : String) : (empty : Table α).get? key = none := rfl

/-- Inserting a value changes what is under its key and nothing else. -/
theorem get?_insert (t : Table α) (key other : String) (value : α) :
    (t.insert key value).get? other = if key = other then some value else t.get? other :=
  Entries.find?_put key other value t.entries

@[simp] theorem get?_insert_self (t : Table α) (key : String) (value : α) :
    (t.insert key value).get? key = some value := by simp [get?_insert]

theorem get?_insert_of_ne (t : Table α) {key other : String} (value : α) (h : key ≠ other) :
    (t.insert key value).get? other = t.get? other := by simp [get?_insert, h]

/-- Entries under other keys do not change what is under a key. -/
theorem get?_insertAll_of_notMem (t : Table α) {entries : List (String × α)} {key : String}
    (h : key ∉ entries.map Prod.fst) : (t.insertAll entries).get? key = t.get? key := by
  induction entries generalizing t with
  | nil => rfl
  | cons entry rest ih =>
    obtain ⟨other, later⟩ := not_or.1 fun mem => h (List.mem_cons.2 mem)
    exact (ih (t.insert entry.1 entry.2) later).trans (t.get?_insert_of_ne entry.2 (Ne.symm other))

/-- Of entries under different keys, each is found under its own. -/
theorem get?_insertAll_of_mem (t : Table α) {entries : List (String × α)} {key : String} {value : α}
    (distinct : (entries.map Prod.fst).Nodup) (mem : (key, value) ∈ entries) :
    (t.insertAll entries).get? key = some value := by
  induction entries generalizing t with
  | nil => cases mem
  | cons entry rest ih =>
    obtain ⟨fresh, distinctRest⟩ := List.nodup_cons.1 distinct
    rcases List.mem_cons.1 mem with rfl | later
    · exact (get?_insertAll_of_notMem _ fresh).trans (t.get?_insert_self key value)
    · exact ih (t.insert entry.1 entry.2) distinctRest later

/-- Inserting two lists, one after the other, inserts them as one. -/
theorem insertAll_append (t : Table α) (first second : List (String × α)) :
    t.insertAll (first ++ second) = (t.insertAll first).insertAll second :=
  List.foldl_append

/-- What is found under a key was added last, or else was there before. -/
theorem get?_insertAll (t : Table α) (entries : List (String × α)) (key : String) :
    (t.insertAll entries).get? key = ((ofList entries).get? key).or (t.get? key) := by
  induction entries generalizing t with
  | nil => rfl
  | cons entry rest ih =>
    have rest_of : ∀ u : Table α, (u.insertAll (entry :: rest)).get? key =
        ((ofList rest).get? key).or ((u.insert entry.1 entry.2).get? key) :=
      fun u => ih (u.insert entry.1 entry.2)
    rw [ofList, rest_of, rest_of, Option.or_assoc, get?_insert, get?_insert]
    split <;> rfl

/-- Adding entries again changes nothing. -/
theorem insertAll_again (t : Table α) (entries : List (String × α)) :
    (t.insertAll entries).insertAll entries = t.insertAll entries := by
  ext key
  rw [get?_insertAll, get?_insertAll, ← Option.or_assoc, Option.or_self]

/-- Erasing a key changes what is under it and nothing else. -/
theorem get?_erase (t : Table α) (key other : String) :
    (t.erase key).get? other = if key = other then none else t.get? other :=
  Entries.find?_drop key other t.entries

@[simp] theorem get?_erase_self (t : Table α) (key : String) : (t.erase key).get? key = none := by
  simp [get?_erase]

theorem get?_erase_of_ne (t : Table α) {key other : String} (h : key ≠ other) :
    (t.erase key).get? other = t.get? other := by simp [get?_erase, h]

/-- Setting or clearing a key changes what is under it and nothing else. -/
theorem get?_set (t : Table α) (key other : String) (value : Option α) :
    (t.set key value).get? other = if key = other then value else t.get? other := by
  cases value with
  | none => exact t.get?_erase key other
  | some value => exact t.get?_insert key other value

end Table

end Testbed
