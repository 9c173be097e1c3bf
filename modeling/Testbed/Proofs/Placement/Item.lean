import Mathlib.Data.List.Forall2
import Testbed.Placement.Item

/-!
What placing a database can result in, and what the operations on an item set do to its names.

Every step of planning and wiring either has a result or reports a defect of the template.  `Yields P`
says this of a step, together with a property `P` of the result, so that a property is followed through
a sequence of steps without asking at each of them how it can fail.  That a shortage of addresses is
reported by binding, and by nothing else, is a consequence.

The order of the items is followed by their names: an item set changes under planning only by items that
are put at the end, and by changes to an item that leave its name alone.
-/

namespace Testbed

variable {α β : Type}

/-! ### Related lists -/

/-- Related lists have related elements at the same places. -/
theorem exists_getElem?_of_forall₂ {R : α → β → Prop} {as : List α} {bs : List β}
    (related : List.Forall₂ R as bs) {i : Nat} {b : β} (at_i : bs[i]? = some b) :
    ∃ a, as[i]? = some a ∧ R a b := by
  induction related generalizing i with
  | nil => simp at at_i
  | @cons a b' as bs head rest ih =>
      cases i with
      | zero =>
          obtain rfl : b' = b := by simpa using at_i
          exact ⟨a, rfl, head⟩
      | succ i => exact ih at_i

/-- What is in one of two related lists is related to something in the other. -/
theorem exists_mem_of_forall₂ {R : α → β → Prop} {as : List α} {bs : List β}
    (related : List.Forall₂ R as bs) {b : β} (mem : b ∈ bs) : ∃ a ∈ as, R a b := by
  obtain ⟨i, at_i⟩ := List.mem_iff_getElem?.1 mem
  obtain ⟨a, a_at_i, head⟩ := exists_getElem?_of_forall₂ related at_i
  exact ⟨a, List.mem_of_getElem? a_at_i, head⟩

/-- Elements that are related to the elements at the same places of a list are related to a beginning of
that list. -/
theorem forall₂_take_of_getElem? {R : α → β → Prop} {as : List α} {bs : List β}
    (h : ∀ (i : Nat) (a : α), as[i]? = some a → ∃ b, bs[i]? = some b ∧ R a b) :
    List.Forall₂ R as (bs.take as.length) := by
  induction as generalizing bs with
  | nil => exact .nil
  | cons a as ih =>
      obtain ⟨b, at_zero, related⟩ := h 0 a rfl
      cases bs with
      | nil => cases at_zero
      | cons b' bs =>
          obtain rfl : b' = b := Option.some.inj at_zero
          apply List.Forall₂.cons related
          exact ih fun i a' at_i => h (i + 1) a' at_i

/-- What related elements agree on is the same for related lists. -/
theorem map_eq_map_of_forall₂ {γ : Type} {R : α → β → Prop} {as : List α} {bs : List β}
    {f : α → γ} {g : β → γ} (related : List.Forall₂ R as bs) (agree : ∀ a b, R a b → f a = g b) :
    as.map f = bs.map g := by
  induction related with
  | nil => rfl
  | cons head _ ih => rw [List.map_cons, List.map_cons, agree _ _ head, ih]

/-- Related lists are put together to the same list, if what is taken from each pair is the same. -/
theorem flatMap_eq_flatMap_of_forall₂ {γ : Type} {R : α → β → Prop} {as : List α} {bs : List β}
    {f : α → List γ} {g : β → List γ} (related : List.Forall₂ R as bs)
    (agree : ∀ a b, R a b → f a = g b) : as.flatMap f = bs.flatMap g := by
  rw [List.flatMap_def, List.flatMap_def, map_eq_map_of_forall₂ related agree]

/-- Related lists agree on whether some item passes a test, if each pair does. -/
theorem any_eq_any_of_forall₂ {R : α → β → Prop} {as : List α} {bs : List β} {f : α → Bool}
    {g : β → Bool} (related : List.Forall₂ R as bs) (agree : ∀ a b, R a b → f a = g b) :
    as.any f = bs.any g := by
  induction related with
  | nil => rfl
  | cons head _ ih => rw [List.any_cons, List.any_cons, agree _ _ head, ih]

/-! ### Results of steps -/

/-- What is fine has a result. -/
theorem exists_ok_of_isOk {ε : Type} {x : Except ε α} (h : x.isOk = true) : ∃ a, x = .ok a := by
  cases x with
  | ok a => exact ⟨a, rfl⟩
  | error e => cases h

/-- What is not fine has an error. -/
theorem exists_error_of_isOk {ε : Type} {x : Except ε α} (h : x.isOk = false) :
    ∃ e, x = .error e := by
  cases x with
  | ok a => cases h
  | error e => exact ⟨e, rfl⟩

/-- The first of several steps that succeed together, and the others. -/
theorem exists_ok_of_bind {ε : Type} {x : Except ε α} {f : α → Except ε β} {b : β}
    (h : x >>= f = .ok b) : ∃ a, x = .ok a ∧ f a = .ok b := by
  cases x with
  | ok a => exact ⟨a, rfl, h⟩
  | error e => cases h

/-- A step of placing a database: its result, if there is one, has a property, and it fails only because
of a defect of the template. -/
def Yields (P : α → Prop) : Except PlacementError α → Prop
  | .ok a => P a
  | .error e => ∃ d, e = .configurationInvalid d

namespace Yields

/-- A result with the property is one. -/
theorem pure {P : α → Prop} {a : α} (h : P a) : Yields P (.ok a) := h

/-- A defect is all that a step may report. -/
theorem defect {P : α → Prop} (d : Defect) : Yields P (Testbed.defect d) := ⟨d, rfl⟩

/-- The property of a result. -/
theorem of_ok {P : α → Prop} {x : Except PlacementError α} {a : α} (h : Yields P x) (hx : x = .ok a) :
    P a := by
  subst hx
  exact h

/-- The error of a step is a defect. -/
theorem of_error {P : α → Prop} {x : Except PlacementError α} {e : PlacementError} (h : Yields P x)
    (hx : x = .error e) : ∃ d, e = .configurationInvalid d := by
  subst hx
  exact h

theorem mono {P Q : α → Prop} {x : Except PlacementError α} (h : Yields P x) (hPQ : ∀ a, P a → Q a) :
    Yields Q x := by
  cases x with
  | ok a => exact hPQ a h
  | error e => exact h

/-- Two properties of a result can be stated together. -/
theorem and {P Q : α → Prop} {x : Except PlacementError α} (h : Yields P x) (h' : Yields Q x) :
    Yields (fun a => P a ∧ Q a) x := by
  cases x with
  | ok a => exact ⟨h, h'⟩
  | error e => exact h

/-- The property of a first result carries over to the steps that come after it. -/
theorem bind {P : α → Prop} {Q : β → Prop} {x : Except PlacementError α}
    {f : α → Except PlacementError β} (hx : Yields P x) (hf : ∀ a, P a → Yields Q (f a)) :
    Yields Q (x >>= f) := by
  cases x with
  | ok a => exact hf a hx
  | error e => exact hx

/-- A property that every step of a fold keeps. -/
theorem foldlM {P : β → Prop} {f : β → α → Except PlacementError β}
    (step : ∀ b a, P b → Yields P (f b a)) {b : β} (h : P b) (as : List α) :
    Yields P (as.foldlM f b) := by
  induction as generalizing b with
  | nil => exact h
  | cons a as ih =>
      rw [List.foldlM_cons]
      exact bind (step b a h) fun _ kept => ih kept

/-- Steps that are taken for each element of a list on its own. -/
theorem mapM {R : α → β → Prop} {f : α → Except PlacementError β} {as : List α}
    (step : ∀ a ∈ as, Yields (R a) (f a)) : Yields (List.Forall₂ R as) (as.mapM f) := by
  induction as with
  | nil =>
      rw [List.mapM_nil]
      exact pure .nil
  | cons a as ih =>
      rw [List.mapM_cons]
      apply bind (step a List.mem_cons_self)
      intro b related
      apply bind (ih fun a' mem => step a' (List.mem_cons_of_mem a mem))
      intro bs rest
      exact pure (.cons related rest)

end Yields

/-! ### Names of items -/

namespace ItemSet

/-- An item set has as many names as items. -/
theorem length_names (s : ItemSet) : s.names.length = s.size := List.length_map ..

/-- A name that finds no item is the name of no item. -/
theorem get?_eq_none {s : ItemSet} {name : String} : s.get? name = none ↔ name ∉ s.names := by
  simp [get?, names]

/-- An item is found under its own name. -/
theorem name_of_get? {s : ItemSet} {name : String} {item : Item} (found : s.get? name = some item) :
    item.name = name := by
  simpa using List.find?_some found

/-- A change that keeps the name of the item that it is about keeps all names and their order. -/
theorem names_modify {s : ItemSet} {name : String} {change : Item → Item}
    (keep : ∀ item, item.name = name → (change item).name = name) :
    (s.modify name change).names = s.names := by
  obtain ⟨items⟩ := s
  induction items with
  | nil => rfl
  | cons item rest ih =>
      rw [names, modify, modify.go]
      by_cases same : item.name = name
      · rw [if_pos same]
        simp [names, keep item same, same]
      · rw [if_neg same]
        exact congrArg (item.name :: ·) ih

/-- A new item goes to the end. -/
theorem ensure_yields {s : ItemSet} {name : String} (fresh : name ∉ s.names)
    (hardware : Option Hardware) : Yields (·.names = s.names ++ [name]) (s.ensure name hardware) := by
  rw [ensure.eq_def, get?_eq_none.2 fresh]
  cases hardware with
  | none => exact Yields.defect _
  | some hardware =>
      apply Yields.pure
      simp [names, Item.new]

/-- Items that are added one after the other, under names of which none is in use, are put at the end in
the order of their indices. -/
theorem addEach_yields {add : ItemSet → Nat → Except PlacementError ItemSet} {name : Nat → String}
    (injective : ∀ i j, name i = name j → i = j)
    (step : ∀ s index, name index ∉ s.names →
      Yields (·.names = s.names ++ [name index]) (add s index))
    (count index : Nat) {s : ItemSet}
    (fresh : ∀ i, index ≤ i → name i ∉ s.names) :
    Yields (·.names = s.names ++ (List.range' index count).map name) (addEach add count index s) := by
  induction count generalizing index s with
  | zero =>
      apply Yields.pure
      simp
  | succ count ih =>
      have added := step s index (fresh index (Nat.le_refl index))
      rw [addEach]
      cases result : add s index with
      | error e => exact added.of_error result
      | ok next =>
          have names_next : next.names = s.names ++ [name index] := added.of_ok result
          have fresh_next : ∀ i, index + 1 ≤ i → name i ∉ next.names := by
            intro i later mem
            rw [names_next] at mem
            rcases List.mem_append.1 mem with old | new
            · exact fresh i (by omega) old
            · have := injective i index (List.mem_singleton.1 new)
              omega
          apply (ih (index + 1) fresh_next).mono
          intro last names_last
          rw [names_last, names_next, List.range'_succ]
          simp

end ItemSet

end Testbed
