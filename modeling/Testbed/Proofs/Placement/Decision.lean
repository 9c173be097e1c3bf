import Testbed.Proofs.Placement.Item

/-!
On what a step of placing a database depends.

`Decides C P` says of a step when it succeeds: if the condition `C` holds it has a result, with the
property `P`, and if it does not the step reports a defect of the template.  The condition of a sequence of
steps is the conjunction of theirs, so that what a template has to be like is collected pass by pass, from
conditions that are stated without the code of the passes.
-/

namespace Testbed

variable {α β : Type}

/-- A step of placing a database has a result with a property exactly if a condition holds, and reports a
defect of the template otherwise. -/
def Decides (C : Prop) (P : α → Prop) : Except PlacementError α → Prop
  | .ok a => C ∧ P a
  | .error e => ¬ C ∧ ∃ d, e = .configurationInvalid d

namespace Decides

variable {C D : Prop} {P Q : α → Prop} {x : Except PlacementError α}

/-- A step that always succeeds asks for nothing. -/
theorem pure {a : α} (h : P a) : Decides True P (.ok a) := ⟨trivial, h⟩

/-- A step that only reports a defect can never be met. -/
theorem defect (d : Defect) : Decides False P (Testbed.defect d) := ⟨id, d, rfl⟩

/-- Other words for the condition. -/
theorem iff (h : Decides C P x) (same : C ↔ D) : Decides D P x := by
  cases x with
  | ok a => exact ⟨same.1 h.1, h.2⟩
  | error e => exact ⟨fun d => h.1 (same.2 d), h.2⟩

theorem mono (h : Decides C P x) (hPQ : ∀ a, P a → Q a) : Decides C Q x := by
  cases x with
  | ok a => exact ⟨h.1, hPQ a h.2⟩
  | error e => exact h

/-- One step after another succeeds if both do. -/
theorem bind {Q : β → Prop} {f : α → Except PlacementError β} (hx : Decides C P x)
    (hf : ∀ a, C → P a → Decides D Q (f a)) : Decides (C ∧ D) Q (x >>= f) := by
  cases x with
  | ok a =>
      have next := hf a hx.1 hx.2
      change Decides (C ∧ D) Q (f a)
      exact next.iff ⟨fun d => ⟨hx.1, d⟩, fun both => both.2⟩
  | error e => exact ⟨fun both => hx.1 both.1, hx.2⟩

/-- A step after which nothing can fail. -/
theorem map {Q : β → Prop} {f : α → β} (hx : Decides C P x) (hf : ∀ a, C → P a → Q (f a)) :
    Decides C Q (x >>= fun a => .ok (f a)) :=
  (hx.bind fun a c h => pure (hf a c h)).iff (and_iff_left trivial)

/-- A check that refuses what it finds wrong. -/
theorem check [Decidable C] {d : Defect} (h : ¬ C → Decides D P x) :
    Decides (¬ C ∧ D) P (if C then Testbed.defect d else x) := by
  split
  · next wrong => exact (defect d).iff ⟨False.elim, fun both => both.1 wrong⟩
  · next right => exact (h right).iff ⟨fun d => ⟨right, d⟩, fun both => both.2⟩

/-- What is known of a result anyway. -/
theorem yields (h : Decides C P x) (h' : Yields Q x) : Decides C (fun a => P a ∧ Q a) x := by
  cases x with
  | ok a => exact ⟨h.1, h.2, h'⟩
  | error e => exact h

/-- A result shows that the condition holds. -/
theorem toYields (h : Decides C P x) : Yields (fun a => C ∧ P a) x := by
  cases x with
  | ok a => exact h
  | error e => exact h.2

/-- A result that is there. -/
theorem of_ok {a : α} (h : Decides C P x) (hx : x = .ok a) : C ∧ P a := by
  subst hx
  exact h

/-- The condition is that there is a result. -/
theorem exists_ok (h : Decides C P x) (c : C) : ∃ a, x = .ok a ∧ P a := by
  cases x with
  | ok a => exact ⟨a, rfl, h.2⟩
  | error e => exact absurd c h.1

/-- A step that succeeds only if the condition holds, and then with a property. -/
theorem of_exists (h : Decides C P x) (found : C → ∃ a, x = .ok a ∧ Q a) : Decides C Q x := by
  cases x with
  | ok a =>
      obtain ⟨a', same, q⟩ := found h.1
      obtain rfl := Except.ok.inj same
      exact ⟨h.1, q⟩
  | error e => exact h

/-- A result is what the step results in. -/
theorem result (h : Decides C P x) : Decides C (fun a => P a ∧ x = .ok a) x := by
  cases x with
  | ok a => exact ⟨h.1, h.2, rfl⟩
  | error e => exact h

/-- What fails for want of the condition reports a defect. -/
theorem exists_defect (h : Decides C P x) (c : ¬ C) : ∃ d, x = .error (.configurationInvalid d) := by
  cases x with
  | ok a => exact absurd h.1 c
  | error e =>
      obtain ⟨d, rfl⟩ := h.2
      exact ⟨d, rfl⟩

/-- Steps that are taken for each element of a list on its own. -/
theorem mapM {R : α → β → Prop} {C : α → Prop} {f : α → Except PlacementError β} {as : List α}
    (step : ∀ a ∈ as, Decides (C a) (R a) (f a)) :
    Decides (∀ a ∈ as, C a) (List.Forall₂ R as) (as.mapM f) := by
  induction as with
  | nil =>
      rw [List.mapM_nil]
      exact (pure .nil).iff (by simp)
  | cons a as ih =>
      rw [List.mapM_cons]
      have rest := ih fun a' mem => step a' (List.mem_cons_of_mem a mem)
      have both := (step a List.mem_cons_self).bind fun b _ related =>
        rest.bind fun bs _ others => pure (List.Forall₂.cons related others)
      exact both.iff (by simp)

/-- Steps that are taken for each element of a list and do not fail, by what each element is known to come
from. -/
theorem mapM_related {γ : Type} {S : γ → α → Prop} {R : α → β → Prop} {f : α → Except PlacementError β}
    {cs : List γ} {as : List α} (related : List.Forall₂ S cs as)
    (step : ∀ c a, S c a → Decides True (R a) (f a)) :
    Decides True (List.Forall₂ R as) (as.mapM f) := by
  have each : ∀ a ∈ as, Decides True (R a) (f a) := by
    intro a mem
    obtain ⟨c, -, from_c⟩ := exists_mem_of_forall₂ related mem
    exact step c a from_c
  exact (mapM each).iff (by simp)

end Decides

namespace ItemSet

/-- Things that are added one after the other, where `P index` is what holds before the thing of that
index. -/
theorem addEach_decides {add : ItemSet → Nat → Except PlacementError ItemSet} {C : Nat → Prop}
    {P : Nat → ItemSet → Prop} (step : ∀ index s, P index s → Decides (C index) (P (index + 1)) (add s index))
    (count index : Nat) {s : ItemSet} (h : P index s) :
    Decides (∀ i, index ≤ i → i < index + count → C i) (P (index + count)) (addEach add count index s) := by
  induction count generalizing index s with
  | zero => exact (Decides.pure h).iff ⟨fun _ i low high => absurd high (Nat.not_lt.2 low), fun _ => trivial⟩
  | succ count ih =>
      have both := (step index s h).bind fun t _ kept => ih (index + 1) kept
      have unfolded : addEach add (count + 1) index s =
          (add s index >>= fun t => addEach add count (index + 1) t) := by
        rw [addEach]
        cases add s index with
        | ok t => rfl
        | error e => rfl
      have last : index + (count + 1) = index + 1 + count := by omega
      rw [unfolded, last]
      apply both.iff
      constructor
      · rintro ⟨first, others⟩ i low high
        rcases Nat.eq_or_lt_of_le low with rfl | later
        · exact first
        · exact others i later high
      · intro all
        exact ⟨all index (Nat.le_refl index) (by omega), fun i low high => all i (by omega) high⟩

end ItemSet

end Testbed
