import Testbed.Proofs.ByteOrder
import Testbed.Proofs.Document
import Testbed.Store.Document

/-!
The stored sets as mathematical sets.

A store means a finite set of texts under every key (`Store.meaning`), the empty one where nothing is kept.
A call takes the store to one that means what the call makes of the sets, and reports by how many elements
its own set changed (`SetCall.run_refines`); a whole course of calls does so by induction (`runAll_refines`).

How a set came about does not show: its members are listed in the order of their bytes, its document reads
back as the same set, and it is kept exactly as long as it has members.
-/

namespace Testbed

/-! ### Counting -/

namespace Members

/-- The set of the members. -/
def meaning (s : Members) : Finset String := s.toList.toFinset

/-- Meant are the members in the list. -/
theorem mem_meaning {s : Members} {x : String} : x ∈ s.meaning ↔ x ∈ s.toList := List.mem_toFinset

/-- Meant are the members that are contained. -/
theorem mem_meaning_iff_contains {s : Members} {x : String} : x ∈ s.meaning ↔ s.contains x = true :=
  mem_meaning.trans mem_toList

/-- Inserting a member means that it is there. -/
theorem meaning_insert (s : Members) (x : String) : meaning (s.insert x ()) = insert x s.meaning := by
  ext y
  rw [mem_meaning_iff_contains, Table.contains_insert, Finset.mem_insert, mem_meaning_iff_contains]

/-- Erasing a member means that it is not there. -/
theorem meaning_erase (s : Members) (x : String) : meaning (s.erase x) = s.meaning.erase x := by
  ext y
  rw [mem_meaning_iff_contains, Table.contains_erase, Finset.mem_erase, mem_meaning_iff_contains]

theorem meaning_addAll (s : Members) (added : List String) :
    (s.addAll added).2.meaning = s.meaning ∪ added.toFinset := by
  ext x
  rw [mem_meaning, mem_addAll, Finset.mem_union, mem_meaning, List.mem_toFinset, or_comm]

theorem meaning_removeAll (s : Members) (removed : List String) :
    (s.removeAll removed).2.meaning = s.meaning \ removed.toFinset := by
  ext x
  rw [mem_meaning, mem_removeAll, Finset.mem_sdiff, mem_meaning, List.mem_toFinset, and_comm]

/-- What is reported as added is what the set has grown by. -/
theorem card_addAll (s : Members) (added : List String) :
    s.meaning.card + (s.addAll added).1 = (s.addAll added).2.meaning.card := by
  induction added generalizing s with
  | nil => rfl
  | cons x rest ih =>
      have later := ih (s.insert x ())
      rw [meaning_insert] at later
      rw [addAll]
      by_cases there : s.contains x = true
      · rw [Finset.insert_eq_of_mem (mem_meaning_iff_contains.2 there)] at later
        simpa [there] using later
      · rw [Finset.card_insert_of_notMem fun mem => there (mem_meaning_iff_contains.1 mem)] at later
        simp only [there, Bool.false_eq_true, if_false]
        omega

/-- What is reported as removed is what the set has shrunk by. -/
theorem card_removeAll (s : Members) (removed : List String) :
    (s.removeAll removed).2.meaning.card + (s.removeAll removed).1 = s.meaning.card := by
  induction removed generalizing s with
  | nil => rfl
  | cons x rest ih =>
      have later := ih (s.erase x)
      rw [meaning_erase] at later
      rw [removeAll]
      by_cases there : s.contains x = true
      · have one := Finset.card_erase_add_one (mem_meaning_iff_contains.2 there)
        simp only [there, if_true]
        omega
      · rw [Finset.erase_eq_of_notMem fun mem => there (mem_meaning_iff_contains.1 mem)] at later
        simpa [there] using later

/-- There are no members exactly if the list of them is empty. -/
theorem isEmpty_iff {s : Members} : s.isEmpty = true ↔ s.toList = [] := by
  rw [Table.isEmpty, List.isEmpty_iff, toList, Table.keys, List.map_eq_nil_iff]

/-- The members are listed in the order of their bytes. -/
theorem pairwise_bytes (s : Members) : s.toList.Pairwise fun x y => Text.bytes x < Text.bytes y :=
  List.pairwise_map.2 (s.ascending.imp Text.bytes_lt)

/-- A set reads back from its document. -/
theorem ofDocument?_toDocument (s : Members) : ofDocument? s.toDocument = some s := by
  have members : (Document.texts s.toList).list? Document.text? = some s.toList :=
    Arrangement.asWritten.reads_texts s.toList
  rw [ofDocument?, toDocument, members, Option.map_some]
  refine congrArg some (Table.eq_of_contains_iff fun x => ?_)
  rw [← mem_toList, ← mem_toList, mem_addAll]
  exact or_iff_left (List.not_mem_nil (a := x))

end Members

/-! ### One call -/

/-- Finite sets of texts by key. -/
abbrev SetsByKey := String → Finset String

namespace Store

/-- The set under every key. -/
def meaning (s : Store) : SetsByKey := fun key => (s.membersAt key).meaning

/-- A key is kept exactly as long as its set has members. -/
def Kept (s : Store) (key : String) : Prop := s.sets.contains key = true ↔ s.members key ≠ []

end Store

/-- A call that changes a stored set. -/
inductive SetCall where
  | add (key : String) (members : List String)
  | remove (key : String) (members : List String)
deriving Repr, Inhabited, DecidableEq

namespace SetCall

/-- The key that a call is about. -/
def key : SetCall → String
  | .add key _ | .remove key _ => key

/-- What a call makes of its set. -/
def apply (set : Finset String) : SetCall → Finset String
  | .add _ members => set ∪ members.toFinset
  | .remove _ members => set \ members.toFinset

/-- By how many elements a call changes its set: an addition lets it grow, a removal lets it shrink. -/
def change (set : Finset String) : SetCall → Nat
  | .add key members => ((SetCall.add key members).apply set).card - set.card
  | .remove key members => set.card - ((SetCall.remove key members).apply set).card

/-- A call on sets; also by how many elements its set changes. -/
def step (sets : SetsByKey) (call : SetCall) : Nat × SetsByKey :=
  (call.change (sets call.key), Function.update sets call.key (call.apply (sets call.key)))

/-- A call on a store; also what it reports. -/
def run (s : Store) : SetCall → Nat × Store
  | .add key members => s.addMembers key members
  | .remove key members => s.removeMembers key members

/-- The set that a call leaves under its key, with what the call reports. -/
def outcome (before : Members) : SetCall → Nat × Members
  | .add _ members => before.addAll members
  | .remove _ members => before.removeAll members

/-- A call looks at the set under its key, and puts another one in its place. -/
theorem run_eq (s : Store) (call : SetCall) :
    call.run s = ((call.outcome (s.membersAt call.key)).1,
      s.setMembers call.key (call.outcome (s.membersAt call.key)).2) := by
  cases call <;> rfl

/-- A call means what it does to the finite set. -/
theorem meaning_outcome (before : Members) (call : SetCall) :
    (call.outcome before).2.meaning = call.apply before.meaning := by
  cases call with
  | add key members => exact before.meaning_addAll members
  | remove key members => exact before.meaning_removeAll members

/-- A call counts the members that the finite set gains or loses. -/
theorem count_outcome (before : Members) (call : SetCall) :
    (call.outcome before).1 = call.change before.meaning := by
  have after := call.meaning_outcome before
  cases call with
  | add key members =>
      have grown := before.card_addAll members
      rw [change, ← after, outcome]
      omega
  | remove key members =>
      have shrunk := before.card_removeAll members
      rw [change, ← after, outcome]
      omega

variable {call : SetCall} {s : Store} {key : String}

/-- A call changes the set under its own key and no other. -/
theorem membersAt_run (call : SetCall) (s : Store) (key : String) : (call.run s).2.membersAt key =
    if call.key = key then (call.outcome (s.membersAt call.key)).2 else s.membersAt key := by
  rw [run_eq]
  exact s.membersAt_setMembers call.key key _

/-- A call does to the store what it does to the sets that the store means. -/
theorem run_refines (call : SetCall) (s : Store) :
    ((call.run s).1, (call.run s).2.meaning) = call.step s.meaning := by
  refine Prod.ext ?_ (funext fun key => ?_)
  · rw [run_eq]
    exact call.count_outcome _
  · simp only [Store.meaning, step, membersAt_run]
    by_cases own : call.key = key
    · subst own
      rw [if_pos rfl, Function.update_self]
      exact call.meaning_outcome _
    · rw [if_neg own, Function.update_of_ne (Ne.symm own), Store.meaning]

/-- Under other keys than its own a call leaves everything as it is. -/
theorem get?_run (other : call.key ≠ key) : (call.run s).2.sets.get? key = s.sets.get? key := by
  rw [run_eq]
  exact (s.sets.get?_set call.key key _).trans (if_neg other)

/-- A call keeps its own key as long as the set has members. -/
theorem kept_run (call : SetCall) (s : Store) : (call.run s).2.Kept call.key := by
  have found := s.sets.get?_set call.key call.key
  rw [Store.Kept, Store.members, membersAt_run, if_pos rfl, run_eq, Table.contains, Store.setMembers, found,
    if_pos rfl, ← not_iff_not, not_not, ← Members.isEmpty_iff]
  split
  · next none => simp [none]
  · next some => simp [some]

/-- A call on another key does not change whether a key is kept. -/
theorem kept_run_of_ne (other : call.key ≠ key) : (call.run s).2.Kept key ↔ s.Kept key := by
  rw [Store.Kept, Store.Kept, Table.contains, Table.contains, get?_run other, Store.members, membersAt_run,
    if_neg other, Store.members]

/-! ### A course of calls -/

/-- Calls on sets, one after the other; also by how many elements each changes its set. -/
def stepAll (sets : SetsByKey) : List SetCall → List Nat × SetsByKey
  | [] => ([], sets)
  | call :: rest =>
    let (change, after) := call.step sets
    let (changes, last) := stepAll after rest
    (change :: changes, last)

/-- Calls on a store, one after the other; also what each of them reports. -/
def runAll (s : Store) : List SetCall → List Nat × Store
  | [] => ([], s)
  | call :: rest =>
    let (count, after) := call.run s
    let (counts, last) := runAll after rest
    (count :: counts, last)

/-- Calls do to the store what they do to the sets that the store means. -/
theorem runAll_refines (calls : List SetCall) (s : Store) :
    ((runAll s calls).1, (runAll s calls).2.meaning) = stepAll s.meaning calls := by
  induction calls generalizing s with
  | nil => rfl
  | cons call rest ih =>
      have later := ih (call.run s).2
      rw [stepAll, ← call.run_refines s]
      simp only [runAll, ← later]

/-- Calls on other keys leave what is stored under a key. -/
theorem get?_runAll {calls : List SetCall} (others : ∀ call ∈ calls, call.key ≠ key) :
    (runAll s calls).2.sets.get? key = s.sets.get? key := by
  induction calls generalizing s with
  | nil => rfl
  | cons call rest ih =>
      obtain ⟨other, later⟩ := List.forall_mem_cons.1 others
      exact (ih later).trans (get?_run other)

/-- Calls change nothing but sets. -/
theorem exists_runAll_eq (calls : List SetCall) (s : Store) :
    ∃ sets, (runAll s calls).2 = { s with sets } := by
  induction calls generalizing s with
  | nil => exact ⟨s.sets, rfl⟩
  | cons call rest ih =>
      obtain ⟨sets, after⟩ := ih (call.run s).2
      rw [run_eq] at after
      exact ⟨sets, by rw [runAll, run_eq, after]; rfl⟩

/-- A key that is kept as it should be stays so. -/
theorem kept_runAll_of_kept (kept : s.Kept key) (calls : List SetCall) : (runAll s calls).2.Kept key := by
  induction calls generalizing s with
  | nil => exact kept
  | cons call rest ih =>
      apply ih
      by_cases own : call.key = key
      · exact own ▸ call.kept_run s
      · exact (kept_run_of_ne own).2 kept

/-- A key that some call is about is kept as it should be from then on. -/
theorem kept_runAll {calls : List SetCall} (mem : call ∈ calls) : (runAll s calls).2.Kept call.key := by
  induction calls generalizing s with
  | nil => cases mem
  | cons first rest ih =>
      rcases List.mem_cons.1 mem with rfl | later
      · exact kept_runAll_of_kept (call.kept_run s) rest
      · exact ih later

end SetCall

/-- The stored sets are finite sets, whatever is added and removed in whatever order.

After any calls a key lists the members of the set that the calls make of what was under it, in the order of
their bytes and each of them once, and the set reads back from its document.  Every call reports by how many
elements its set grew or shrank, so a member that is named twice or was there before does not count.  A key
that was kept as it should be, or that some call was about, is there exactly as long as its set has members;
what is under the other keys is as it was, and so is everything in the store that is not a set. -/
theorem stored_sets_are_finite_sets (s : Store) (calls : List SetCall) :
    (SetCall.runAll s calls).1 = (SetCall.stepAll s.meaning calls).1 ∧
    (∀ key,
      ((SetCall.runAll s calls).2.members key).toFinset = (SetCall.stepAll s.meaning calls).2 key ∧
      (((SetCall.runAll s calls).2.members key).Pairwise fun x y => Text.bytes x < Text.bytes y) ∧
      Members.ofDocument? ((SetCall.runAll s calls).2.membersAt key).toDocument =
        some ((SetCall.runAll s calls).2.membersAt key)) ∧
    (∀ key, s.Kept key ∨ key ∈ calls.map SetCall.key → (SetCall.runAll s calls).2.Kept key) ∧
    (∀ key, key ∉ calls.map SetCall.key →
      (SetCall.runAll s calls).2.sets.get? key = s.sets.get? key) ∧
    ∃ sets, (SetCall.runAll s calls).2 = { s with sets } := by
  have refines := SetCall.runAll_refines calls s
  refine ⟨congrArg Prod.fst refines, fun key => ⟨?_, ?_, ?_⟩, fun key known => ?_, fun key others => ?_, ?_⟩
  · exact congrFun (congrArg Prod.snd refines) key
  · exact Members.pairwise_bytes _
  · exact Members.ofDocument?_toDocument _
  · cases known with
    | inl kept => exact SetCall.kept_runAll_of_kept kept calls
    | inr called =>
        obtain ⟨call, mem, rfl⟩ := List.mem_map.1 called
        exact SetCall.kept_runAll mem
  · refine SetCall.get?_runAll fun call mem same => ?_
    exact others (List.mem_map.2 ⟨call, mem, same⟩)
  · exact SetCall.exists_runAll_eq calls s

/-- A member that is named twice counts once, and the members come in the order of their bytes. -/
example : (SetCall.runAll .empty [.add "s" ["é", "z", "é"], .add "s" ["z", "~"]]).1 = [2, 1] ∧
    (SetCall.runAll .empty [.add "s" ["é", "z", "é"], .add "s" ["z", "~"]]).2.members "s" =
      ["z", "~", "é"] := by decide +kernel

end Testbed
