import Testbed.Deployment.Backend.Memory
import Testbed.Proofs.Deployment.Reconciler
import Testbed.Proofs.Store

/-!
What the remembering backend keeps.

It is honest.  When creating several resources stops midway, the ones that were created are removed again,
newest first, and as many removals fail as deletions are set to fail; what they leave behind stays live.
-/

namespace Testbed

namespace Memory

/-- Whether a resource is live. -/
def Live (id : String) (m : Memory) : Prop := m.contains id = true

/-- Writing down the observations of a resource makes it live and leaves the others as they are. -/
theorem live_insert (t : Table Nat) (id other : String) (seen : Nat) (m : Memory) :
    ({ m with observations := t.insert id seen } : Memory).Live other ↔
      other = id ∨ t.contains other = true := Table.contains_insert t id other seen

/-- Observing keeps what is kept, and says that a resource is not known only when it is not. -/
theorem observe_cases (r : Resource) (m : Memory) :
    (∀ id, Live id (observe r m).2 ↔ Live id m) ∧
      ∀ what, (observe r m).1 = .error (.notFound what) → ¬ Live r.id (observe r m).2 := by
  rw [observe]
  split
  · exact ⟨fun _ => .rfl, by simp [injected]⟩
  · split
    · next missing =>
        refine ⟨fun _ => .rfl, fun what _ => ?_⟩
        simp [Live, contains, Table.contains, missing]
    · next seen found =>
        refine ⟨fun id => ?_, by simp⟩
        have known : m.observations.contains r.id = true := by simp [Table.contains, found]
        refine (live_insert m.observations r.id id (seen + 1) m).trans ⟨?_, .inr⟩
        rintro (rfl | live)
        · exact known
        · exact live

/-- All that a deletion can come to: it fails when that was asked for, and else its resource is kept no
more. -/
theorem delete_outcomes (r : Resource) (m : Memory) :
    (∃ left, m.failingDeletes = left + 1 ∧
      backend.delete r m = (.error (injected "delete" r.name), { m with failingDeletes := left })) ∨
    (m.failingDeletes = 0 ∧ Live r.id m ∧
      backend.delete r m = (.ok (), { m.forget r.id with deleted := m.deleted ++ [r.id] })) ∨
    (m.failingDeletes = 0 ∧ ¬ Live r.id m ∧ backend.delete r m = (.error (.notFound r.id), m)) := by
  simp only [backend, delete]
  split
  · next left failing => exact .inl ⟨left, failing, rfl⟩
  · next none =>
      split
      · next known => exact .inr (.inl ⟨none, known, rfl⟩)
      · next unknown => exact .inr (.inr ⟨none, unknown, rfl⟩)

/-- Forgetting a resource takes it out of those that are live, and no other. -/
theorem live_forget (m : Memory) (id other : String) :
    Live other (m.forget id) ↔ other ≠ id ∧ Live other m := Table.contains_erase m.observations id other

/-- Deleting makes nothing live. -/
theorem delete_cases (r : Resource) (m : Memory) :
    (∀ id, Live id (backend.delete r m).2 → Live id m) ∧
      ∀ what, (backend.delete r m).1 = .error (.notFound what) → ¬ Live r.id (backend.delete r m).2 := by
  rcases delete_outcomes r m with ⟨left, -, same⟩ | ⟨-, -, same⟩ | ⟨-, unknown, same⟩
  · rw [same]
    exact ⟨fun _ live => live, fun _ found => by cases found⟩
  · rw [same]
    exact ⟨fun id live => ((live_forget m r.id id).1 live).2, fun _ found => by cases found⟩
  · rw [same]
    exact ⟨fun _ live => live, fun _ _ => unknown⟩

/-- The backend in memory answers that nothing is known only of what is not live. -/
theorem honest : backend.Honest Live where
  observe r m id := ((observe_cases r m).1 id).1
  delete r m id := (delete_cases r m).1 id
  unobserved r m := (observe_cases r m).2
  undeleted r m := (delete_cases r m).2

/-! ### Removing what was created -/

/-- A removal fails as long as deletions are set to fail; else its resource is live no more. -/
theorem remove_eq (r : Resource) (m : Memory) :
    (backend.remove r m).2.failingDeletes = m.failingDeletes - 1 ∧
      ∀ id, Live id (backend.remove r m).2 ↔ Live id m ∧ (m.failingDeletes = 0 → id ≠ r.id) := by
  rw [Reconciler.state_remove]
  rcases delete_outcomes r m with ⟨left, failing, same⟩ | ⟨none, -, same⟩ | ⟨none, unknown, same⟩
  · rw [same, failing]
    exact ⟨rfl, fun id => ⟨fun live => ⟨live, nofun⟩, And.left⟩⟩
  · rw [same, none]
    exact ⟨none, fun id => (live_forget m r.id id).trans (by simp [and_comm])⟩
  · rw [same, none]
    exact ⟨rfl, fun id => ⟨fun live => ⟨live, fun _ known => unknown (known ▸ live)⟩, And.left⟩⟩

/-- Of several removals the first ones fail, as many as deletions are set to fail. -/
theorem live_removeAll (resources : List Resource) (m : Memory) (id : String) :
    Live id (backend.removeAll resources m) ↔
      Live id m ∧ id ∉ (resources.drop m.failingDeletes).map Resource.id := by
  induction resources generalizing m with
  | nil => simp [Backend.removeAll]
  | cons r rest ih =>
      obtain ⟨failing, removed⟩ := remove_eq r m
      have step : backend.removeAll (r :: rest) m = backend.removeAll rest (backend.remove r m).2 := rfl
      rw [step, ih, removed, failing]
      cases m.failingDeletes with
      | zero => simp [and_assoc]
      | succ left => simp

/-! ### Creating -/

/-- A creation succeeds unless none is left. -/
theorem create_cases (r : Resource) (m : Memory) :
    (m.createsLeft = some 0 ∧ ∃ error, backend.create r m = (.error error, m)) ∨
    ∃ n, backend.create r m = (.ok (), n) ∧ (∀ id, Live id n ↔ id = r.id ∨ Live id m) ∧
      n.failingDeletes = m.failingDeletes ∧
      (∀ left, m.createsLeft = some left → n.createsLeft = some (left - 1) ∧ 0 < left) ∧
      (m.createsLeft = none → n.createsLeft = none) := by
  simp only [backend, create]
  cases numbered : m.createsLeft with
  | none =>
      exact .inr ⟨_, rfl, fun id => live_insert m.observations r.id id 0 m, rfl, by simp,
        fun _ => rfl⟩
  | some left =>
      cases left with
      | zero => exact .inl ⟨rfl, _, rfl⟩
      | succ left =>
          let fewer : Memory := { m with createsLeft := some left }
          exact .inr ⟨_, rfl, fun id => live_insert m.observations r.id id 0 fewer, rfl, by simp,
            by simp⟩

/-- Creating either creates all resources, or stops after those that may be created and removes them
again. -/
theorem createAll_cases (created resources : List Resource) (m : Memory) :
    ∃ made t, (∀ id, Live id t ↔ id ∈ (resources.take made).map Resource.id ∨ Live id m) ∧
      t.failingDeletes = m.failingDeletes ∧
      ((made = resources.length ∧ (∀ left, m.createsLeft = some left → resources.length ≤ left) ∧
          Reconciler.createAll backend created resources m = (none, t)) ∨
        (made < resources.length ∧ m.createsLeft = some made ∧ ∃ error,
          Reconciler.createAll backend created resources m =
            (some error, backend.removeAll ((resources.take made).reverse ++ created) t))) := by
  induction resources generalizing created m with
  | nil => exact ⟨0, m, by simp, rfl, .inl ⟨rfl, by simp, rfl⟩⟩
  | cons r rest ih =>
      rcases create_cases r m with ⟨none, error, failed⟩ | ⟨n, done, live, failing, numbered, free⟩
      · refine ⟨0, m, by simp, rfl, .inr ⟨by simp, none, error, ?_⟩⟩
        simp only [Reconciler.createAll, failed]
        rfl
      · obtain ⟨made, t, later, failing', ending⟩ := ih (r :: created) n
        refine ⟨made + 1, t, fun id => ?_, failing'.trans failing, ?_⟩
        · rw [later, live, List.take_succ_cons, List.map_cons, List.mem_cons]
          tauto
        · have step : Reconciler.createAll backend created (r :: rest) m =
              Reconciler.createAll backend (r :: created) rest n := by
            simp only [Reconciler.createAll, done]
          rw [step]
          rcases ending with ⟨all, enough, ended⟩ | ⟨short, stopped, error, ended⟩
          · refine .inl ⟨by simp [all], fun left h => ?_, ended⟩
            obtain ⟨fewer, positive⟩ := numbered left h
            have := enough _ fewer
            simp only [List.length_cons]
            omega
          · refine .inr ⟨by simpa using short, ?_, error, ?_⟩
            · cases h : m.createsLeft with
              | none => simp [free h] at stopped
              | some left =>
                  obtain ⟨fewer, positive⟩ := numbered left h
                  rw [fewer] at stopped
                  have : left - 1 = made := Option.some.inj stopped
                  exact congrArg some (by omega)
            · rw [ended, List.take_succ_cons, List.reverse_cons, List.append_assoc,
                List.singleton_append]

/-- Creating a deployment stops midway, and cleaning up after it fails: some of its `size` resources can
be created, but not all, and the first deletion fails. -/
structure Interrupted (size : Nat) (m : Memory) : Prop where
  midway : ∃ made, m.createsLeft = some made ∧ 0 < made ∧ made < size
  unclean : 0 < m.failingDeletes

/-- When live resources are removed, newest first, one stays live exactly if there is one and the first
deletion fails. -/
theorem live_removeAll_reverse {made : List Resource} {m : Memory}
    (distinct : (made.map Resource.id).Nodup) (live : ∀ id ∈ made.map Resource.id, Live id m) :
    (∃ id ∈ made.map Resource.id, Live id (backend.removeAll made.reverse m)) ↔
      made ≠ [] ∧ 0 < m.failingDeletes := by
  constructor
  · rintro ⟨id, mem, left⟩
    obtain ⟨-, kept⟩ := (live_removeAll _ _ _).1 left
    constructor
    · rintro rfl
      cases mem
    · apply Nat.pos_of_ne_zero
      intro none
      apply kept
      rw [none, List.drop_zero, List.map_reverse, List.mem_reverse]
      exact mem
  · rintro ⟨nonempty, unclean⟩
    -- The newest resource is removed first, so it is the one that stays.
    obtain ⟨earlier, newest, rfl⟩ : ∃ earlier newest, made = earlier ++ [newest] :=
      ⟨_, _, (List.dropLast_append_getLast nonempty).symm⟩
    obtain ⟨more, first⟩ : ∃ more, m.failingDeletes = more + 1 := ⟨m.failingDeletes - 1, by omega⟩
    refine ⟨newest.id, by simp, (live_removeAll _ _ _).2 ⟨live _ (by simp), ?_⟩⟩
    rw [first, List.reverse_append, List.reverse_singleton, List.singleton_append,
      List.drop_succ_cons]
    intro mem
    obtain ⟨other, listed, same⟩ := List.mem_map.1 mem
    have earlierToo : newest.id ∈ earlier.map Resource.id :=
      same ▸ List.mem_map_of_mem (List.mem_reverse.1 (List.mem_of_mem_drop listed))
    rw [List.map_append] at distinct
    exact (List.nodup_append.1 distinct).2.2 _ earlierToo _ (by simp) rfl

/-- Creating the resources of a deployment that are new to the backend either makes all of them live, or
fails; and then some stay live exactly when creating was interrupted. -/
theorem createAll_new {resources : List Resource} {m : Memory}
    (distinct : (resources.map Resource.id).Nodup)
    (unknown : ∀ id ∈ resources.map Resource.id, ¬ Live id m) :
    (∃ t, Reconciler.createAll backend [] resources m = (none, t) ∧
      ¬ Interrupted resources.length m) ∨
    ∃ error t, Reconciler.createAll backend [] resources m = (some error, t) ∧
      ((∃ id ∈ resources.map Resource.id, Live id t) ↔ Interrupted resources.length m) := by
  obtain ⟨made, t, live, failing, ⟨-, enough, ended⟩ | ⟨short, stopped, error, ended⟩⟩ :=
    createAll_cases [] resources m
  · refine .inl ⟨t, ended, fun interrupted => ?_⟩
    obtain ⟨left, numbered, -, few⟩ := interrupted.midway
    have := enough left numbered
    omega
  · refine .inr ⟨error, _, ended, ?_⟩
    rw [List.append_nil]
    have part := (List.take_sublist made resources).map Resource.id
    have stays := live_removeAll_reverse (distinct.sublist part) fun id mem => (live id).2 (.inl mem)
    rw [failing] at stays
    constructor
    · rintro ⟨id, mem, left⟩
      have known : id ∈ (resources.take made).map Resource.id := by
        rcases (live id).1 ((live_removeAll _ _ _).1 left).1 with known | old
        · exact known
        · exact absurd old (unknown id mem)
      obtain ⟨some, unclean⟩ := stays.1 ⟨id, known, left⟩
      have positive : 0 < made := by
        apply Nat.pos_of_ne_zero
        rintro rfl
        exact some rfl
      exact ⟨⟨made, stopped, positive, short⟩, unclean⟩
    · rintro ⟨⟨left, numbered, positive, few⟩, unclean⟩
      obtain rfl : made = left := Option.some.inj (stopped.symm.trans numbered)
      have some : resources.take made ≠ [] := by
        intro empty
        have := congrArg List.length empty
        simp only [List.length_take, List.length_nil] at this
        omega
      obtain ⟨id, mem, left⟩ := stays.2 ⟨some, unclean⟩
      exact ⟨id, part.subset mem, left⟩

/-! ### Deployments -/

/-- A provider on the remembering backend, with its reconcile interval and its templates. -/
def provider (setup : Nat × (VmTemplate → VmTemplate)) : Provider Memory := ⟨backend, setup.1, setup.2⟩

/-- The record of a deployment names its resources, and is accurate about those that are destroyed. -/
structure Recorded (ids : List String) (d : Deployment) (m : Memory) : Prop where
  names : d.resourceIds = ids
  accurate : d.Accurate Live m

/-- Nothing of a deployment is live when its record says that all of it is destroyed. -/
theorem Recorded.not_live {ids : List String} {d : Deployment} {m : Memory} (recorded : Recorded ids d m)
    (destroyed : d.isDestroyed = true) : ¬ ∃ id ∈ ids, Live id m := by
  rintro ⟨id, mem, live⟩
  rw [← recorded.names] at mem
  exact recorded.accurate.not_live destroyed id mem live

/-- A provider keeps records, and makes nothing live but by creating. -/
theorem keeps_recorded (setup : Nat × (VmTemplate → VmTemplate)) (ids : List String) :
    (provider setup).service.Keeps (Recorded ids) (Reconciler.Fewer Live) :=
  have named := (provider setup).keeps_resourceIds ids
  have accurate := (provider setup).keeps_accurate honest
  { refl := accurate.refl
    trans := accurate.trans
    stable := fun recorded fewer => ⟨recorded.names, accurate.stable recorded.accurate fewer⟩
    process := fun stamps recorded =>
      have after := accurate.process stamps recorded.accurate
      ⟨⟨(named.process stamps recorded.names).1, after.1⟩, after.2⟩
    destroy := fun stamps recorded =>
      have after := accurate.destroy stamps recorded.accurate
      ⟨⟨(named.destroy stamps recorded.names).1, after.1⟩, after.2⟩ }

/-- Creating a deployment makes nothing live but its resources, and records it accurately. -/
theorem create_adds (setup : Nat × (VmTemplate → VmTemplate)) (t : DeploymentTemplate) (stamps : Stamps)
    (m : Memory) :
    let after := (provider setup).service.create t stamps m
    (∀ id, Live id after.2 → id ∈ t.resourceIds ∨ Live id m) ∧
      ∀ d, after.1 = .ok d → d.Accurate Live after.2 := by
  simp only [Provider.service, provider, Reconciler.service, Reconciler.create]
  obtain ⟨made, n, live, -, ending⟩ := createAll_cases [] (Deployment.new t stamps).resources m
  have adds : ∀ id, Live id n → id ∈ t.resourceIds ∨ Live id m := by
    intro id was
    apply ((live id).1 was).imp_left
    intro mem
    rw [← Deployment.resourceIds_new t stamps]
    exact ((List.take_sublist made _).map Resource.id).subset mem
  rcases ending with ⟨-, -, ended⟩ | ⟨-, -, error, ended⟩
  · rw [ended]
    refine ⟨adds, fun d created => ?_⟩
    obtain rfl := Except.ok.inj created
    exact (Deployment.accurate_new Live t stamps n).relabel setup.2
  · rw [ended]
    exact ⟨fun id was => adds id ((live_removeAll _ _ _).1 was).1, by simp [Except.map]⟩

/-- Creating a deployment whose resources are new to the backend. -/
theorem create_deployment (setup : Nat × (VmTemplate → VmTemplate)) {t : DeploymentTemplate}
    (stamps : Stamps) {m : Memory} (distinct : t.resourceIds.Nodup)
    (unknown : ∀ id ∈ t.resourceIds, ¬ Live id m) :
    (∃ d n, (provider setup).service.create t stamps m = (.ok d, n) ∧ Recorded t.resourceIds d n ∧
      ¬ Interrupted t.resourceIds.length m) ∨
    ∃ error n, (provider setup).service.create t stamps m = (.error error, n) ∧
      ((∃ id ∈ t.resourceIds, Live id n) ↔ Interrupted t.resourceIds.length m) := by
  have names : (Deployment.new t stamps).resources.map Resource.id = t.resourceIds :=
    Deployment.resourceIds_new t stamps
  have size : (Deployment.new t stamps).resources.length = t.resourceIds.length := by
    rw [← names, List.length_map]
  rw [← names] at distinct unknown
  have made := createAll_new distinct unknown
  rw [names, size] at made
  rcases made with ⟨n, created, whole⟩ | ⟨error, n, created, left⟩
  · refine .inl ⟨(Deployment.new t stamps).relabel setup.2, n, ?_, ⟨?_, ?_⟩, whole⟩
    · simp only [Provider.service, provider, Reconciler.service, Reconciler.create, created]
      rfl
    · rw [Deployment.resourceIds, Deployment.resources_relabel, names]
    · exact (Deployment.accurate_new Live t stamps n).relabel setup.2
  · refine .inr ⟨error, n, ?_, left⟩
    simp only [Provider.service, provider, Reconciler.service, Reconciler.create, created]
    rfl

end Memory

end Testbed
