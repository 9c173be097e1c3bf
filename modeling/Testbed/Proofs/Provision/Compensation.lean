import Testbed.Provision.Lifecycle

/-!
Undoing goes through to the end and keeps every error.

What an attempt has registered is undone from the newest step to the oldest, each step once, whatever the
others return.  To say so of any actions, they are made to keep a journal: an action enters its number and
how it has ended, and does otherwise what it did before.  The error that is returned can then be told from
the journal, and its kind is that of the error that came first.
-/

namespace Testbed

/-- What was done, in order: the numbers of the actions, with the errors of those that have failed. -/
abbrev Journal := List (Nat × Option ProvisionError)

/-- The errors of a journal, in order. -/
def Journal.failures (journal : Journal) : List ProvisionError := journal.filterMap Prod.snd

namespace ProvisionError

/-- Two errors are the same to a caller, who looks at the kind and at whether trying again can help. -/
def Alike (e f : ProvisionError) : Prop := e.kind = f.kind ∧ e.isRetryable = f.isRetryable

/-- Errors of one kind are alike. -/
theorem alike_of_kind {e f : ProvisionError} (same : e.kind = f.kind) : e.Alike f :=
  ⟨same, by rw [isRetryable, isRetryable, same]⟩

/-- An error stays what it is to a caller, whatever goes wrong while cleaning up after it. -/
theorem compensation_alike (primary : ProvisionError) (cleanup : List ProvisionError) :
    (compensation primary cleanup).Alike primary := alike_of_kind (by rw [kind])

/-- What goes wrong in cleaning up does not change what kind of error it is. -/
theorem withCleanup_alike (primary : ProvisionError) (cleanup : List ProvisionError) :
    (primary.withCleanup cleanup).Alike primary := by
  rw [withCleanup]
  split
  · exact ⟨rfl, rfl⟩
  · exact compensation_alike primary cleanup

/-- No error contains itself. -/
theorem compensation_ne (primary : ProvisionError) (cleanup : List ProvisionError) :
    compensation primary cleanup ≠ primary := by
  intro same
  have smaller := congrArg sizeOf same
  simp only [compensation.sizeOf_spec] at smaller
  omega

end ProvisionError

namespace Rollback

variable {σ : Type}

/-- What is registered from the first step to the last. -/
def ofSteps (steps : List (String × Action σ)) : Rollback σ :=
  steps.foldl (fun r step => r.register step.1 step.2) .empty

/-- The error with which an action has ended, if it has failed. -/
def failure? : Except ProvisionError Unit → Option ProvisionError
  | .ok () => none
  | .error e => some e

/-- An action that enters in a journal which one it is and how it has ended. -/
def journaled (number : Nat) (action : Action σ) : Action (σ × Journal) := fun (s, journal) =>
  let (result, s) := action s
  (result, s, journal ++ [(number, failure? result)])

/-- Steps that keep a journal, in which each goes by its place among them. -/
def journaledSteps (steps : List (String × Action σ)) : List (String × Action (σ × Journal)) :=
  steps.zipIdx.map fun (step, number) => (step.1, journaled number step.2)

/-- The step that was registered last comes first. -/
theorem steps_ofSteps (steps : List (String × Action σ)) : (ofSteps steps).steps = steps.reverse := by
  have registered : ∀ r : Rollback σ,
      (steps.foldl (fun r step => r.register step.1 step.2) r).steps = steps.reverse ++ r.steps := by
    induction steps with
    | nil => exact fun _ => rfl
    | cons step rest ih =>
        intro r
        rw [List.foldl_cons, ih, List.reverse_cons, List.append_assoc]
        rfl
  exact (registered .empty).trans (List.append_nil _)

/-- Every action works on what the one before it has left behind. -/
theorem runAll_snd (steps : List (String × Action σ)) (s : σ) :
    (runAll steps s).2 = steps.foldl (fun s step => (step.2 s).2) s := by
  induction steps generalizing s with
  | nil => rfl
  | cons step rest ih =>
      rw [List.foldl_cons, ← ih]
      rcases done : step.2 s with ⟨result, after⟩
      simp only [runAll, done]
      cases result with
      | ok _ => rfl
      | error e => rfl

/-- Numbered actions are taken once each in the order in which they are listed, and come to what they come
to without a journal. -/
theorem runAll_journaled (listed : List ((String × Action σ) × Nat)) (s : σ) (earlier : Journal) :
    ∃ journal : Journal,
      runAll (listed.map fun (step, number) => (step.1, journaled number step.2)) (s, earlier) =
        ((runAll (listed.map Prod.fst) s).1, (runAll (listed.map Prod.fst) s).2, earlier ++ journal) ∧
      journal.map Prod.fst = listed.map Prod.snd ∧
      journal.failures = (runAll (listed.map Prod.fst) s).1 := by
  induction listed generalizing s earlier with
  | nil => exact ⟨[], by simp [runAll], rfl, rfl⟩
  | cons entry rest ih =>
      obtain ⟨⟨name, action⟩, number⟩ := entry
      rcases done : action s with ⟨result, after⟩
      obtain ⟨journal, same, numbers, failures⟩ := ih after (earlier ++ [(number, failure? result)])
      refine ⟨(number, failure? result) :: journal, ?_, ?_, ?_⟩
      · simp only [List.map_cons, runAll, journaled, done]
        rw [same]
        cases result with
        | ok _ => simp
        | error e => simp
      · simp only [List.map_cons, numbers]
      · simp only [List.map_cons, runAll, done]
        cases result with
        | ok _ => exact failures
        | error e => exact congrArg (e :: ·) failures

/-- Registered steps that keep a journal, against the same steps without one. -/
theorem run_journaled (steps : List (String × Action σ)) (primary : ProvisionError) (s : σ) :
    ∃ journal : Journal,
      (ofSteps (journaledSteps steps)).run primary (s, []) =
        (((ofSteps steps).run primary s).1, ((ofSteps steps).run primary s).2, journal) ∧
      journal.map Prod.fst = (List.range steps.length).reverse ∧
      ((ofSteps steps).run primary s).1 = primary.withCleanup journal.failures := by
  obtain ⟨journal, same, numbers, failures⟩ := runAll_journaled steps.zipIdx.reverse s []
  have unnumbered : steps.zipIdx.reverse.map Prod.fst = steps.reverse := by
    rw [List.map_reverse, List.zipIdx_map_fst]
  rw [unnumbered] at same failures
  refine ⟨journal, ?_, ?_, ?_⟩
  · simp only [run, steps_ofSteps, journaledSteps, ← List.map_reverse]
    rw [same]
    rfl
  · rw [numbers, List.map_reverse, List.zipIdx_map_snd, List.range_eq_range']
  · simp only [run, steps_ofSteps, failures]

end Rollback

namespace Provisioner

variable {σ : Type}

/-- A run is taken down, or something is named that has failed. -/
theorem teardown_error {p : Provisioner σ} {signal : Signal} {run : ProvisionedRun} {w : World σ}
    {e : ProvisionError} (failed : (p.teardown signal run w).1 = .error e) :
    ∃ cleanup, cleanup ≠ [] ∧ e = .teardown cleanup := by
  rw [teardown] at failed
  split at failed
  · cases failed
  · next error _ _ _ =>
    cases failed
    exact ⟨[error], List.cons_ne_nil _ _, rfl⟩

/-- An abandoned run ends with an error like the one for which it was abandoned. -/
theorem abandonment_alike (primary : ProvisionError) (torn : Except ProvisionError Unit) :
    (abandonment primary torn).Alike primary := by
  rw [abandonment.eq_def]
  split
  · exact ⟨rfl, rfl⟩
  · exact ProvisionError.compensation_alike primary _
  · exact ProvisionError.compensation_alike primary _

/-- An abandoned run ends with its own error exactly if all of it was torn down. -/
theorem abandonment_eq_primary_iff {primary : ProvisionError} {torn : Except ProvisionError Unit} :
    abandonment primary torn = primary ↔ torn = .ok () := by
  constructor
  · intro alone
    rw [abandonment.eq_def] at alone
    split at alone
    · rfl
    · exact absurd alone (ProvisionError.compensation_ne primary _)
    · exact absurd alone (ProvisionError.compensation_ne primary _)
  · rintro rfl
    rfl

end Provisioner

namespace Rollback

/-- Undoing takes every step once, the newest first, and loses no error.

Registered steps that keep a journal show that all of them were taken, in the reverse order, and each works
on what the one before it has left behind.  If none has failed the error is returned as it was, and
otherwise with exactly the errors of the journal; either way a caller sees the same kind of error.  The
same holds of a run that is abandoned: the error comes back alone exactly if the run was taken down, and
otherwise with what has failed in taking it down. -/
theorem undoing_keeps_every_error {σ τ : Type} (steps : List (String × Action σ))
    (primary : ProvisionError) (s : σ) (p : Provisioner τ) (run : ProvisionedRun) (w : World τ) :
    let undone := (ofSteps steps).run primary s
    let torn := (p.teardown .never run w).1
    let abandoned := (p.abandon primary run w).1
    (∃ journal : Journal,
      (ofSteps (journaledSteps steps)).run primary (s, []) = (undone.1, undone.2, journal) ∧
      journal.map Prod.fst = (List.range steps.length).reverse ∧
      (journal.failures = [] → undone.1 = primary) ∧
      (journal.failures ≠ [] → undone.1 = .compensation primary journal.failures)) ∧
    undone.2 = steps.foldr (fun step s => (step.2 s).2) s ∧
    undone.1.Alike primary ∧
    abandoned.Alike primary ∧
    (abandoned = primary ↔ torn = .ok ()) ∧
    ∀ e, torn = .error e →
      ∃ cleanup, cleanup ≠ [] ∧ e = .teardown cleanup ∧ abandoned = .compensation primary cleanup := by
  intro undone torn abandoned
  have abandoned_eq : abandoned = Provisioner.abandonment primary torn := rfl
  refine ⟨?_, ?_, ProvisionError.withCleanup_alike primary _, ?_, ?_, ?_⟩
  · obtain ⟨journal, same, numbers, told⟩ := run_journaled steps primary s
    refine ⟨journal, same, numbers, fun none_failed => ?_, fun some_failed => ?_⟩
    · exact told.trans (if_pos (List.isEmpty_iff.2 none_failed))
    · exact told.trans (if_neg fun empty => some_failed (List.isEmpty_iff.1 empty))
  · change (runAll (ofSteps steps).steps s).2 = _
    rw [runAll_snd, steps_ofSteps, List.foldl_reverse]
  · exact Provisioner.abandonment_alike primary torn
  · exact Provisioner.abandonment_eq_primary_iff
  · intro e failed
    obtain ⟨cleanup, some_failed, rfl⟩ := Provisioner.teardown_error failed
    refine ⟨cleanup, some_failed, rfl, ?_⟩
    rw [abandoned_eq, failed]
    rfl

end Rollback

end Testbed
