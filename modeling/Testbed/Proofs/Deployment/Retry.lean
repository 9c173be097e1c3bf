import Testbed.Proofs.Deployment.Memory
import Testbed.Proofs.Deployment.Status

/-!
Taking a deployment down until it succeeds.

A deletion stops at the first resource that cannot be deleted: those before it are deleted, it says of itself
that it is being destroyed although it is still there, and those after it are as they were.  The next attempt
may begin with this record, or with a copy of the original one, which knows nothing about the first attempt.
`Tried` is what one attempt on the remembering backend leaves: it either uses up one of the failures that
were asked for, or leaves no resource live.
-/

namespace Testbed

variable {σ : Type}

/-! ### Attempts -/

namespace Reconciler

/-- An attempt to take a deployment down. -/
structure DeletionAttempt where
  stamps : Stamps
  /-- Whether it begins with a copy of the original record, and not with what the last attempt has left. -/
  afresh : Bool

/-- Take a deployment down again and again, until that succeeds or no attempt is left. -/
def retry (b : Backend σ) (original : Deployment) :
    List DeletionAttempt → Deployment → σ → List (Except DeployError Unit) × Deployment × σ
  | [], d, s => ([], d, s)
  | attempt :: rest, d, s =>
    match destroy b (if attempt.afresh then original else d) attempt.stamps s with
    | (.ok (), d, s) => ([.ok ()], d, s)
    | (.error e, d, s) =>
      let (results, d, s) := retry b original rest d s
      (.error e :: results, d, s)

end Reconciler

/-! ### Destroyed deployments -/

/-- A visit that changes no resource changes nothing. -/
theorem Deployment.visit_eq_self {change : Nat → Resource → σ → Resource × σ} {d : Deployment} {s : σ}
    (still : ∀ i, ∀ r ∈ d.resources, change i r s = (r, s)) : d.visit change s = (d, s) := by
  have machines : ∀ (vms : List Vm) (i : Nat),
      (∀ i, ∀ vm ∈ vms, change i vm.resource s = (vm.resource, s)) →
        visitVms change i vms s = (vms, s) := by
    intro vms
    induction vms with
    | nil => exact fun _ _ => rfl
    | cons vm rest ih =>
        intro i still
        have first := still i vm List.mem_cons_self
        have others := ih (i + 1) fun i other mem => still i other (List.mem_cons_of_mem _ mem)
        simp only [visitVms, first, others]
  have network := still 0 d.network List.mem_cons_self
  have vms := machines d.vms 1 fun i vm mem => still i _ (List.mem_cons_of_mem _ (List.mem_map_of_mem mem))
  simp only [visit, network, vms]

namespace Reconciler

/-- Taking a destroyed deployment down does nothing. -/
theorem destroy_of_isDestroyed (b : Backend σ) {d : Deployment} (gone : d.isDestroyed = true)
    (stamps : Stamps) (s : σ) : destroy b d stamps s = (.ok (), d, s) := by
  have still : d.visit (takeDown b stamps) (none, s) = (d, none, s) := by
    apply Deployment.visit_eq_self
    intro i r mem
    have destroyed : r.status = .destroyed := of_decide_eq_true (List.all_eq_true.1 gone r mem)
    rw [takeDown, if_pos (.inr destroyed)]
  simp only [destroy, still, outcome]

section Equations

variable {b : Backend σ} {original d d' : Deployment} {attempt : DeletionAttempt} {s s' : σ}

/-- A deletion that succeeds is the last attempt. -/
theorem retry_of_ok
    (done : destroy b (if attempt.afresh then original else d) attempt.stamps s = (.ok (), d', s'))
    (rest : List DeletionAttempt) : retry b original (attempt :: rest) d s = ([.ok ()], d', s') := by
  simp only [retry, done]

/-- A deletion that fails is followed by the next attempt, on what it left. -/
theorem retry_of_error {e : DeployError}
    (failed : destroy b (if attempt.afresh then original else d) attempt.stamps s = (.error e, d', s'))
    (rest : List DeletionAttempt) : retry b original (attempt :: rest) d s =
      (.error e :: (retry b original rest d' s').1, (retry b original rest d' s').2) := by
  simp only [retry, failed]

end Equations

end Reconciler

namespace Memory

open Reconciler

/-! ### One attempt -/

/-- A resource is not live, and the record says so or the backend would say it when asked. -/
structure Gone (r : Resource) (m : Memory) : Prop where
  dead : ¬ Live r.id m
  known : r.status = .destroyed ∨ m.failingDeletes = 0

/-- What an attempt does while it goes on, to the state of the backend and to what is known of its error;
`ids` are its resources. -/
structure Onward (ids : List String) (t u : Option DeployError × Memory) : Prop where
  fewer : Fewer Live t.2 u.2
  others : ∀ id, id ∉ ids → u.2.observations.get? id = t.2.observations.get? id
  /-- An error uses up one of the failures that were asked for. -/
  spent : u.2.failingDeletes + u.1.toList.length = t.2.failingDeletes + t.1.toList.length
  /-- An error is not forgotten. -/
  told : u.1 = none → t.1 = none

namespace Onward

variable {ids : List String} {t u v : Option DeployError × Memory}

theorem refl (t : Option DeployError × Memory) : Onward ids t t := ⟨fun _ h => h, fun _ _ => rfl, rfl, id⟩

/-- What leads on from where something else led does so from its beginning. -/
theorem trans (one : Onward ids t u) (two : Onward ids u v) : Onward ids t v where
  fewer id live := one.fewer id (two.fewer id live)
  others id other := (two.others id other).trans (one.others id other)
  spent := two.spent.trans one.spent
  told none := one.told (two.told none)

/-- What is gone stays gone, up to an error. -/
theorem gone (h : Onward ids t u) {r : Resource} (before : t.1 = none → Gone r t.2) (fine : u.1 = none) :
    Gone r u.2 := by
  have was := h.told fine
  have same : u.2.failingDeletes = t.2.failingDeletes := by
    have spent := h.spent
    rwa [fine, was] at spent
  have gone := before was
  exact ⟨fun live => gone.dead (h.fewer _ live), gone.known.imp_right same.trans⟩

end Onward

/-- Asking for the deletion of a resource leads on, and it is gone unless there is an error. -/
theorem takeDown_onward {ids : List String} {r : Resource} {t : Option DeployError × Memory}
    (mem : r.id ∈ ids) (accurate : r.Accurate Live t.2) (stamps : Stamps) (i : Nat) :
    Onward ids t (takeDown backend stamps i r t).2 ∧
      ((takeDown backend stamps i r t).2.1 = none →
        Gone (takeDown backend stamps i r t).1 (takeDown backend stamps i r t).2.2) := by
  obtain ⟨error, m⟩ := t
  rw [takeDown]
  split
  · next skipped =>
      refine ⟨.refl _, fun fine => ?_⟩
      have destroyed : r.status = .destroyed := skipped.resolve_left (by simp [show error = none from fine])
      exact ⟨accurate destroyed, .inl destroyed⟩
  · next asked =>
      obtain rfl : error = none := by simpa using (not_or.1 asked).1
      dsimp only
      rcases delete_outcomes (r.enter .destroying (stamps.nth (2 * i))) m with
        ⟨left, failing, answer⟩ | ⟨free, -, answer⟩ | ⟨free, unknown, answer⟩
      · rw [answer]
        refine ⟨⟨fun _ live => live, fun _ _ => rfl, failing.symm, fun none => ?_⟩, fun none => ?_⟩
        · cases none
        · cases none
      · rw [answer]
        refine ⟨⟨fun id live => ((live_forget m r.id id).1 live).2, fun id other => ?_, rfl, id⟩, fun _ => ?_⟩
        · exact m.observations.get?_erase_of_ne fun same => other (same ▸ mem)
        · exact ⟨fun live => ((live_forget m r.id r.id).1 live).1 rfl, .inr free⟩
      · rw [answer]
        exact ⟨⟨fun _ live => live, fun _ _ => rfl, rfl, id⟩, fun _ => ⟨unknown, .inl rfl⟩⟩

/-- What an attempt leaves: it has met one of the failures that were asked for, or nothing is live any
more. -/
structure Tried (d : Deployment) (m : Memory) (result : Except DeployError Unit × Deployment × Memory) :
    Prop where
  names : result.2.1.resourceIds = d.resourceIds
  accurate : result.2.1.Accurate Live result.2.2
  fewer : Fewer Live m result.2.2
  others : ∀ id, id ∉ d.resourceIds → result.2.2.observations.get? id = m.observations.get? id
  ended : (∃ e, result.1 = .error e ∧ m.failingDeletes = result.2.2.failingDeletes + 1) ∨
    result.1 = .ok () ∧ m.failingDeletes = result.2.2.failingDeletes ∧
      ∀ r ∈ result.2.1.resources, Gone r result.2.2

/-- Every deletion over the backend in memory either succeeds or uses up one of the failures to come. -/
theorem destroy_tried {d : Deployment} {m : Memory} (accurate : d.Accurate Live m) (stamps : Stamps) :
    Tried d m (destroy backend d stamps m) := by
  have named : ∀ r ∈ d.resources, r.id ∈ d.resourceIds := fun r mem => List.mem_map_of_mem mem
  have keeps := visit_keeps (takeDown backend stamps)
    (fun i _ _ accurate => takeDown_keeps honest stamps i accurate) accurate
  have leads := Deployment.visit_leads (takeDown backend stamps)
    (fun r t => r.id ∈ d.resourceIds ∧ r.Accurate Live t.2) (fun r t => t.1 = none → Gone r t.2)
    (Onward d.resourceIds) .refl (fun _ _ _ => .trans)
    (fun r t u before onward => ⟨before.1, fun destroyed live => before.2 destroyed (onward.fewer _ live)⟩)
    (fun r t u after onward => onward.gone after)
    (fun i r t before => (takeDown_onward before.1 before.2 stamps i).symm)
    (d := d) (t := (none, m)) fun r mem => ⟨named r mem, accurate r mem⟩
  have names := Deployment.resourceIds_visit (id_takeDown (b := backend) stamps) d (none, m)
  rw [destroy]
  revert keeps leads names
  generalize d.visit (takeDown backend stamps) (none, m) = ended
  obtain ⟨d', error, m'⟩ := ended
  rintro ⟨accurate', fewer⟩ ⟨gone, onward⟩ names
  refine ⟨names, accurate', fewer, onward.others, ?_⟩
  have spent : m'.failingDeletes + error.toList.length = m.failingDeletes := onward.spent
  cases error with
  | none => exact .inr ⟨rfl, spent.symm, fun r mem => gone r mem rfl⟩
  | some e => exact .inl ⟨e, rfl, spent.symm⟩

/-- When everything is gone, one more attempt finds it out and leaves the backend as it is. -/
theorem destroy_of_gone {d : Deployment} {m : Memory} (gone : ∀ r ∈ d.resources, Gone r m)
    (stamps : Stamps) : ∃ d', destroy backend d stamps m = (.ok (), d', m) ∧ d'.isDestroyed = true := by
  obtain ⟨destroyed, same⟩ := Deployment.visit_leads (takeDown backend stamps)
    (fun r t => t = (none, m) ∧ Gone r m) (fun r _ => r.status = .destroyed)
    (fun t u => t = (none, m) → u = (none, m)) (fun _ same => same) (fun _ _ _ one two same => two (one same))
    (fun r t u before later => ⟨later before.1, before.2⟩) (fun r t u after _ => after)
    (fun i r t before => by
      obtain ⟨rfl, gone⟩ := before
      rw [takeDown]
      split
      · next skipped => exact ⟨skipped.resolve_left (by simp), fun _ => rfl⟩
      · next asked =>
          have free : m.failingDeletes = 0 := gone.known.resolve_left (not_or.1 asked).2
          dsimp only
          rcases delete_outcomes (r.enter .destroying (stamps.nth (2 * i))) m with
            ⟨left, failing, -⟩ | ⟨-, live, -⟩ | ⟨-, -, answer⟩
          · rw [free] at failing
            cases failing
          · exact absurd live gone.dead
          · rw [answer]
            exact ⟨rfl, fun _ => rfl⟩)
    (d := d) (t := (none, m)) fun r mem => ⟨rfl, gone r mem⟩
  refine ⟨(d.visit (takeDown backend stamps) (none, m)).1, ?_, ?_⟩
  · simp only [destroy, same rfl, outcome]
  · exact List.all_eq_true.2 fun r mem => decide_eq_true (destroyed r mem)

/-! ### All attempts -/

/-- What retrying comes to. -/
structure TakenDown (original : Deployment) (m : Memory)
    (result : List (Except DeployError Unit) × Deployment × Memory) : Prop where
  /-- The last attempt succeeds, and each of the others has met one of the failures that were asked for. -/
  attempts : ∃ errors : List DeployError, result.1 = errors.map .error ++ [.ok ()] ∧
    m.failingDeletes = result.2.2.failingDeletes + errors.length
  names : result.2.1.resourceIds = original.resourceIds
  gone : ∀ r ∈ result.2.1.resources, Gone r result.2.2
  others : ∀ id, id ∉ original.resourceIds → result.2.2.observations.get? id = m.observations.get? id

/-- With more attempts than failures to come, the deployment is taken down. -/
theorem retry_takenDown (attempts : List DeletionAttempt) {original d : Deployment} {m : Memory}
    (names : d.resourceIds = original.resourceIds) (accurate : original.Accurate Live m)
    (left : d.Accurate Live m) (enough : m.failingDeletes < attempts.length) :
    TakenDown original m (retry backend original attempts d m) := by
  induction attempts generalizing d m with
  | nil => cases enough
  | cons attempt rest ih =>
      let d₀ := if attempt.afresh then original else d
      have sameNames : d₀.resourceIds = original.resourceIds := by
        cases choice : attempt.afresh <;> simp [d₀, choice, names]
      have record : d₀.Accurate Live m := by
        cases choice : attempt.afresh <;> simpa [d₀, choice]
      have tried := destroy_tried record attempt.stamps
      obtain ⟨result, d', m', done⟩ : ∃ result d' m', destroy backend d₀ attempt.stamps m = (result, d', m') :=
        ⟨_, _, _, rfl⟩
      rw [done] at tried
      rcases tried.ended with ⟨e, failed, spent⟩ | ⟨fine, spent, gone⟩
      · obtain rfl : result = .error e := failed
        have fewerLeft : m'.failingDeletes < rest.length := by
          simp only [List.length_cons] at enough spent
          omega
        have again : original.Accurate Live m' := fun r mem destroyed live =>
          accurate r mem destroyed (tried.fewer _ live)
        obtain ⟨⟨errors, results, count⟩, names', gone, others⟩ :=
          ih (tried.names.trans sameNames) again tried.accurate fewerLeft
        rw [retry_of_error done]
        refine ⟨⟨e :: errors, ?_, ?_⟩, names', gone, fun id other => ?_⟩
        · rw [results, List.map_cons, List.cons_append]
        · rw [spent, count, List.length_cons, Nat.add_assoc]
        · exact (others id other).trans (tried.others id (sameNames ▸ other))
      · obtain rfl : result = .ok () := fine
        rw [retry_of_ok done]
        exact ⟨⟨[], rfl, spent⟩, tried.names.trans sameNames, gone,
          fun id other => tried.others id (sameNames ▸ other)⟩

/-- Retrying to take a deployment down converges.

Whatever the statuses of its resources are, as long as none is recorded as destroyed that is still live, and
however many deletions are set to fail: of any attempts, each with the record that the last one has left or
with a copy of the original one, at most one more than there are failures is needed until one succeeds.
Then no resource of the deployment is live, and every other resource of the backend is kept as it was.  One
more attempt finds every resource destroyed and changes nothing in the backend; and once every resource is
destroyed, an attempt makes no call and changes nothing at all. -/
theorem retried_deletion_converges (original : Deployment) (m : Memory)
    (accurate : original.Accurate Live m) (attempts : List DeletionAttempt)
    (enough : m.failingDeletes < attempts.length) :
    let result := retry backend original attempts original m
    TakenDown original m result ∧ result.1.length ≤ m.failingDeletes + 1 ∧
      (∀ id ∈ original.resourceIds, ¬ Live id result.2.2) ∧
      (result.2.1.isDestroyed = true → ∀ stamps, destroy backend.recorded result.2.1 stamps (result.2.2, []) =
        (.ok (), result.2.1, result.2.2, [])) ∧
      ∀ stamps, ∃ d, destroy backend result.2.1 stamps result.2.2 = (.ok (), d, result.2.2) ∧
        d.isDestroyed = true ∧ ∀ later, destroy backend.recorded d later (result.2.2, []) =
          (.ok (), d, result.2.2, []) := by
  intro result
  have down : TakenDown original m result := retry_takenDown attempts rfl accurate accurate enough
  refine ⟨down, ?_, ?_, ?_, ?_⟩
  · obtain ⟨errors, results, count⟩ := down.attempts
    rw [results, List.length_append, List.length_map, List.length_singleton]
    omega
  · intro id mem
    rw [← down.names] at mem
    obtain ⟨r, listed, rfl⟩ := List.mem_map.1 mem
    exact (down.gone r listed).dead
  · exact fun destroyed stamps => destroy_of_isDestroyed backend.recorded destroyed stamps _
  · intro stamps
    obtain ⟨d, again, destroyed⟩ := destroy_of_gone down.gone stamps
    exact ⟨d, again, destroyed, fun later => destroy_of_isDestroyed backend.recorded destroyed later _⟩

/-- The network is destroyed, and two deletions are set to fail: the machine is deleted at the third attempt,
after one with the record of the first and one with a copy of the original; another resource is kept. -/
theorem machine_deleted_at_the_third_attempt :
    let m : Memory := { Memory.new none with
      observations := .ofList [("d1-vm-0", 0), ("spare", 3)]
      failingDeletes := 2 }
    let d := (Deployment.new oneMachine (.still 0)).modify 0 (·.enter .destroyed 0)
    let attempts : List DeletionAttempt := [⟨.still 1, false⟩, ⟨.still 2, false⟩, ⟨.still 3, true⟩]
    let result := retry backend d attempts d m
    d.resources.map (·.status) = [.destroyed, .creating] ∧ d.Accurate Live m ∧
      m.failingDeletes < attempts.length ∧ TakenDown d m result ∧
      result.2.1.resources.map (·.status) = [.destroyed, .destroying] ∧ result.2.2.deleted = ["d1-vm-0"] ∧
      result.2.2.observations.get? "spare" = some 3 := by
  intro m d attempts result
  have accurate : d.Accurate Live m := by
    simp only [Deployment.Accurate, Resource.Accurate, Live]
    decide +kernel
  have enough : m.failingDeletes < attempts.length := by decide
  exact ⟨by decide +kernel, accurate, enough, (retried_deletion_converges d m accurate attempts enough).1,
    by decide +kernel, by decide +kernel, by decide +kernel⟩

end Memory

end Testbed
