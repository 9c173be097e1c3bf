import Testbed.Proofs.Deployment.Memory
import Testbed.Proofs.Deployment.Status

/-!
Creating a deployment, call by call.

Resources are created in order, the network first.  When one cannot be created, those before it are deleted
again, newest first and each of them once, whatever the answers are; nothing else is asked, and the error is
that of the creation.  A backend that only remembers is then as it was before, unless a deletion fails.
-/

namespace Testbed

variable {σ : Type}

namespace Reconciler

/-! ### Removing -/

/-- Removing several resources asks for one deletion each, whatever the answers are. -/
theorem removeAll_recorded (b : Backend σ) (rs : List Resource) (s : σ) (calls : List Call) :
    ∃ answers : List (Except DeployError Unit), answers.length = rs.length ∧
      b.recorded.removeAll rs (s, calls) = (b.removeAll rs s, calls ++ List.zipWith .delete rs answers) := by
  induction rs generalizing s calls with
  | nil => exact ⟨[], rfl, by simp [Backend.removeAll]⟩
  | cons r rest ih =>
      let answer := (b.delete r s).1
      obtain ⟨answers, length, rested⟩ := ih (b.delete r s).2 (calls ++ [.delete r answer])
      refine ⟨answer :: answers, by simp [length], ?_⟩
      have first : b.recorded.removeAll (r :: rest) (s, calls) =
          b.recorded.removeAll rest ((b.delete r s).2, calls ++ [.delete r answer]) := by
        rw [Backend.removeAll, List.foldl_cons, remove_recorded]
        rfl
      have plain : b.removeAll (r :: rest) s = b.removeAll rest (b.delete r s).2 := by
        rw [Backend.removeAll, List.foldl_cons, state_remove]
        rfl
      rw [first, rested, plain, List.append_assoc]
      rfl

/-! ### Creating in order -/

/-- The calls that create `rest` one after the other, when the `created` resources, newest first, were
created before. -/
inductive Creation : List Resource → List Resource → Option DeployError → List Call → Prop where
  | done {created : List Resource} : Creation created [] none []
  | next {created rest : List Resource} {r : Resource} {error : Option DeployError} {calls : List Call}
      (later : Creation (r :: created) rest error calls) :
      Creation created (r :: rest) error (.create r (.ok ()) :: calls)
  | failed {created rest : List Resource} {r : Resource} {e : DeployError}
      {answers : List (Except DeployError Unit)} (length : answers.length = created.length) :
      Creation created (r :: rest) (some e)
        (.create r (.error e) :: List.zipWith .delete created answers)

section Equations

variable {b : Backend σ} {r : Resource} {s t : σ}

/-- A resource whose creation is accepted joins those that were created before the rest is asked for. -/
theorem createAll_of_ok (made : b.create r s = (.ok (), t)) (created rest : List Resource) :
    createAll b created (r :: rest) s = createAll b (r :: created) rest t := by
  simp only [createAll, made]

/-- A resource whose creation is refused ends the creation; what was created before it is removed. -/
theorem createAll_of_error {e : DeployError} (failed : b.create r s = (.error e, t))
    (created rest : List Resource) :
    createAll b created (r :: rest) s = (some e, b.removeAll created t) := by
  simp only [createAll, failed]

/-- The recording backend answers as the backend does and writes the call down. -/
theorem recorded_create {answer : Except DeployError Unit} (answered : b.create r s = (answer, t))
    (calls : List Call) : b.recorded.create r (s, calls) = (answer, t, calls ++ [.create r answer]) := by
  simp only [Backend.recorded, answered]

end Equations

/-- Recording the calls of a creation changes nothing else. -/
theorem createAll_recorded (b : Backend σ) (created rest : List Resource) (s : σ) (calls : List Call) :
    ∃ new, createAll b.recorded created rest (s, calls) =
        ((createAll b created rest s).1, (createAll b created rest s).2, calls ++ new) ∧
      Creation created rest (createAll b created rest s).1 new := by
  induction rest generalizing created s calls with
  | nil => exact ⟨[], by simp [createAll], .done⟩
  | cons r rest ih =>
      obtain ⟨answer, t, answered⟩ : ∃ answer t, b.create r s = (answer, t) := ⟨_, _, rfl⟩
      have recorded := recorded_create answered calls
      cases answer with
      | ok _ =>
          obtain ⟨new, same, creation⟩ := ih (r :: created) t (calls ++ [.create r (.ok ())])
          rw [createAll_of_ok answered, createAll_of_ok recorded, same]
          exact ⟨.create r (.ok ()) :: new, by rw [List.append_assoc]; rfl, .next creation⟩
      | error e =>
          obtain ⟨answers, length, removed⟩ :=
            removeAll_recorded b created t (calls ++ [.create r (.error e)])
          rw [createAll_of_error answered, createAll_of_error recorded, removed]
          exact ⟨_, by rw [List.append_assoc]; rfl, .failed length⟩

/-- Everything is created, or something is not, and then what was created is deleted. -/
theorem Creation.outcomes {created rest : List Resource} {error : Option DeployError}
    {calls : List Call} (h : Creation created rest error calls) :
    (error = none ∧ calls = rest.map (.create · (.ok ()))) ∨
    ∃ made r left e answers, rest = made ++ r :: left ∧ error = some e ∧
      answers.length = (made.reverse ++ created).length ∧
      calls = made.map (.create · (.ok ())) ++
        .create r (.error e) :: List.zipWith .delete (made.reverse ++ created) answers := by
  induction h with
  | done => exact .inl ⟨rfl, rfl⟩
  | @next created rest r error calls later ih =>
      rcases ih with ⟨rfl, rfl⟩ | ⟨made, r', left, e, answers, rfl, rfl, length, rfl⟩
      · exact .inl ⟨rfl, rfl⟩
      · refine .inr ⟨r :: made, r', left, e, answers, rfl, rfl, ?_, ?_⟩
        · rw [length, List.reverse_cons, List.append_assoc]
          rfl
        · rw [List.reverse_cons, List.append_assoc]
          rfl
  | @failed created rest r e answers length =>
      exact .inr ⟨[], r, rest, e, answers, rfl, rfl, length, rfl⟩

/-! ### Deployments -/

/-- What a creation asks of the backend, and what it comes to. -/
inductive Created (d : Deployment) : Except DeployError Deployment → List Call → Prop where
  /-- Everything is created, and nothing else is asked. -/
  | whole (creating : ∀ r ∈ d.resources, r.status = .creating) :
      Created d (.ok d) (d.resources.map (.create · (.ok ())))
  /-- One resource cannot be created; those before it are deleted, newest first and each of them once,
  whatever is answered, and those after it are not asked for. -/
  | undone {made left : List Resource} {r : Resource} {e : DeployError}
      {answers : List (Except DeployError Unit)} (order : d.resources = made ++ r :: left)
      (length : answers.length = made.length) :
      Created d (.error e) (made.map (.create · (.ok ())) ++
        .create r (.error e) :: List.zipWith .delete made.reverse answers)

/-- Creation over the recording backend is creation, beside the calls it made. -/
theorem create_recorded (b : Backend σ) (t : DeploymentTemplate) (stamps : Stamps) (s : σ) :
    ∃ calls, create b.recorded t stamps (s, []) =
        ((create b t stamps s).1, (create b t stamps s).2, calls) ∧
      Created (.new t stamps) (create b t stamps s).1 calls := by
  obtain ⟨calls, same, creation⟩ := createAll_recorded b [] (Deployment.new t stamps).resources s []
  refine ⟨calls, ?_⟩
  rw [create.eq_def, create.eq_def]
  dsimp only
  rw [same]
  generalize createAll b [] (Deployment.new t stamps).resources s = ended at creation
  obtain ⟨error, s'⟩ := ended
  rcases creation.outcomes with ⟨none, rfl⟩ | ⟨made, r, left, e, answers, order, some, length, rfl⟩
  · obtain rfl : error = .none := none
    exact ⟨rfl, .whole fun r mem => (Deployment.creating_new mem).1⟩
  · obtain rfl : error = .some e := some
    rw [List.append_nil] at length ⊢
    exact ⟨rfl, .undone order (by simpa using length)⟩

end Reconciler

namespace Memory

/-- A creation that fails leaves what was live before, if its resources are new and deletions succeed. -/
theorem live_of_failed_creation {t : DeploymentTemplate} {stamps : Stamps} {m : Memory}
    (deletable : m.failingDeletes = 0) (unknown : ∀ id ∈ t.resourceIds, ¬ Live id m) {e : DeployError}
    (failed : (Reconciler.create backend t stamps m).1 = .error e) (id : String) :
    Live id (Reconciler.create backend t stamps m).2 ↔ Live id m := by
  obtain ⟨made, n, live, failing, ⟨-, -, ended⟩ | ⟨-, -, error, ended⟩⟩ :=
    createAll_cases [] (Deployment.new t stamps).resources m
  · simp [Reconciler.create, ended] at failed
  · have after : (Reconciler.create backend t stamps m).2 =
        backend.removeAll ((Deployment.new t stamps).resources.take made).reverse n := by
      simp [Reconciler.create, ended]
    have fresh : id ∈ ((Deployment.new t stamps).resources.take made).map Resource.id → ¬ Live id m := by
      intro mem
      apply unknown id
      rw [← Deployment.resourceIds_new t stamps]
      exact ((List.take_sublist made _).map Resource.id).subset mem
    rw [after, live_removeAll, live, failing, deletable, List.drop_zero, List.map_reverse, List.mem_reverse]
    tauto

end Memory

namespace Reconciler

/-- A creation cleans up exactly what it has made.

On every backend, the resources of a template are created in their order up to the first that cannot be; then
those that were created are deleted again, newest first and each of them once, whatever is answered, and the
error of the creation is returned.  When all were created, nothing is deleted and all of them are creating.
On the remembering backend, as long as deletions succeed and no resource has been live before, the same
resources are live after a failure as before. -/
theorem creation_cleans_up_what_it_made (t : DeploymentTemplate) (stamps : Stamps) :
    (Deployment.new t stamps).resourceIds = t.resourceIds ∧
    (∀ {σ : Type} (b : Backend σ) (s : σ), ∃ calls,
      create b.recorded t stamps (s, []) = ((create b t stamps s).1, (create b t stamps s).2, calls) ∧
        Created (.new t stamps) (create b t stamps s).1 calls) ∧
    ∀ m : Memory, m.failingDeletes = 0 → (∀ id ∈ t.resourceIds, ¬ Memory.Live id m) →
      ∀ e, (create Memory.backend t stamps m).1 = .error e →
        ∀ id, Memory.Live id (create Memory.backend t stamps m).2 ↔ Memory.Live id m :=
  ⟨Deployment.resourceIds_new t stamps, fun b s => create_recorded b t stamps s,
    fun _ deletable unknown _ failed id => Memory.live_of_failed_creation deletable unknown failed id⟩

/-- The machine of a deployment cannot be created, and its network is removed from a backend that keeps
another resource. -/
theorem network_removed_without_its_machine :
    let m : Memory := { Memory.new (some 1) with
      observations := .ofList [("spare", 3)]
      createsLeft := some 1 }
    let after := create Memory.backend oneMachine (.still 0) m
    m.failingDeletes = 0 ∧ (∀ id ∈ oneMachine.resourceIds, ¬ Memory.Live id m) ∧
      after.1 = .error (.backend "injected create failure for vm-0") ∧ after.2.deleted = ["d1-net"] ∧
      ∀ id, Memory.Live id after.2 ↔ Memory.Live id m := by
  intro m after
  have unknown : ∀ id ∈ oneMachine.resourceIds, ¬ Memory.Live id m := by
    simp only [Memory.Live]
    decide +kernel
  have failed : after.1 = .error (.backend "injected create failure for vm-0") := by rfl
  exact ⟨rfl, unknown, failed, by decide +kernel,
    (creation_cleans_up_what_it_made oneMachine (.still 0)).2.2 m rfl unknown _ failed⟩

end Reconciler

end Testbed
