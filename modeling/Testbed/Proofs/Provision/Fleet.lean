import Testbed.Proofs.Provision.Addresses

/-!
Histories of many runs on one store.

A `Fleet` is the world together with every run that was provisioned in it, each as the last call on it has
left it, and the stakes that failed attempts have kept.  Calls follow one another in any order: runs are
provisioned, taken down and abandoned as often as anybody likes, time passes, and the backend moves as it
pleases.

The invariant is that the accounts are right: the store is the one at the beginning without the stakes of
the runs that are not released and without the stakes that were kept.  A stake that was given back twice,
or that belonged to somebody else, would put the accounts out.
-/

namespace Testbed

variable {σ : Type}

/-- The world and the runs that were provisioned in it. -/
structure Fleet (σ : Type) where
  world : World σ
  /-- In the order in which they were provisioned. -/
  runs : List ProvisionedRun
  /-- What failed attempts have kept. -/
  kept : List Stake

/-- A call of somebody on a fleet, or something that happens to it. -/
inductive FleetCall (σ : Type) where
  | provision (run : RunContext) (request : ProvisionRequest) (signal : Signal)
  | teardown (index : Nat) (signal : Signal)
  | abandon (index : Nat) (primary : ProvisionError)
  | elapse (ms : Nat)
  | disturb (machines : σ)

namespace FleetCall

/-- The run that a call takes down. -/
def index? : FleetCall σ → Option Nat
  | .teardown index _ => some index
  | .abandon index _ => some index
  | _ => none

end FleetCall

namespace Fleet

/-- A fleet without runs. -/
def start (w : World σ) : Fleet σ := ⟨w, [], []⟩

/-- What a failed attempt has kept. -/
def keptBy (p : Provisioner σ) (run : RunContext) (request : ProvisionRequest) (signal : Signal)
    (w : World σ) (error : ProvisionError) : List Stake :=
  if error.isCompensation then
    ((p.equip? run request signal w).map fun equipped => p.stakeOf run request equipped.1).toList
  else []

/-- The fleet after a call.  A call on a run that does not exist changes nothing. -/
def call (p : Provisioner σ) (f : Fleet σ) : FleetCall σ → Fleet σ
  | .provision run request signal =>
    match p.provision run request signal f.world with
    | (.ok r, world) => { f with world, runs := f.runs ++ [r] }
    | (.error error, world) =>
      { f with world, kept := keptBy p run request signal f.world error ++ f.kept }
  | .teardown index signal =>
    match f.runs[index]? with
    | some r =>
      let (_, r, world) := p.teardown signal r f.world
      { f with world, runs := f.runs.set index r }
    | none => f
  | .abandon index primary =>
    match f.runs[index]? with
    | some r =>
      let (_, r, world) := p.abandon primary r f.world
      { f with world, runs := f.runs.set index r }
    | none => f
  | .elapse ms => { f with world := f.world.pause ms }
  | .disturb machines => { f with world := { f.world with machines } }

/-- The fleet after several calls. -/
def after (p : Provisioner σ) (calls : List (FleetCall σ)) (f : Fleet σ) : Fleet σ :=
  calls.foldl (call p) f

/-- The stakes of the runs that are not released. -/
def openStakes (runs : List ProvisionedRun) : List Stake :=
  (runs.filter fun r => !r.isReleased).map ProvisionedRun.stake

/-- All stakes that are taken. -/
def held (f : Fleet σ) : List Stake := openStakes f.runs ++ f.kept

/-! ### Stakes of a list of runs -/

/-- An entry that is listed no more leaves the list, and no other does. -/
theorem filter_set_perm {α β : Type} (P : α → Bool) (f : α → β) {xs : List α} {index : Nat} {x y : α}
    (found : xs[index]? = some x) (listed : P x = true) (gone : P y = false) :
    ((xs.filter P).map f).Perm (f x :: ((xs.set index y).filter P).map f) := by
  induction xs generalizing index with
  | nil => simp at found
  | cons head rest ih =>
      cases index with
      | zero =>
          obtain rfl : head = x := by simpa using found
          simp [listed, gone]
      | succ index =>
          have later : ((rest.filter P).map f).Perm (f x :: ((rest.set index y).filter P).map f) :=
            ih (by simpa using found)
          rw [List.set_cons_succ, List.filter_cons, List.filter_cons]
          split
          · exact (later.cons _).trans (List.Perm.swap _ _ _)
          · exact later

/-- A run that is released at last takes its own stake out, and no other. -/
theorem openStakes_set {runs : List ProvisionedRun} {index : Nat} {r r' : ProvisionedRun}
    (found : runs[index]? = some r) (held : r.isReleased = false) (released : r'.isReleased = true) :
    (openStakes runs).Perm (r.stake :: openStakes (runs.set index r')) :=
  filter_set_perm (y := r') (fun r : ProvisionedRun => !r.isReleased) ProvisionedRun.stake found
    (by rw [held, Bool.not_false]) (by rw [released, Bool.not_true])

/-- Putting a run back as it was changes nothing. -/
theorem set_self {runs : List ProvisionedRun} {index : Nat} {r : ProvisionedRun}
    (found : runs[index]? = some r) : runs.set index r = runs := by
  obtain ⟨inside, rfl⟩ := List.getElem?_eq_some_iff.1 found
  exact List.set_getElem_self inside

/-! ### One call -/

/-- What a call of `teardown` on the run `r` promises: `result` is what it returns, with the run and the
world after it. -/
structure Release (w : World σ) (r : ProvisionedRun)
    (result : Except ProvisionError Unit × ProvisionedRun × World σ) : Prop where
  /-- A released run is left alone, and so is the world: no call reaches the backend. -/
  idle : r.isReleased = true → result = (.ok (), r, w)
  decided : result.1 = .ok () ↔ result.2.1.isReleased = true
  failed : result.2.1.isReleased = false →
    (∃ errors, errors ≠ [] ∧ result.1 = .error (.teardown errors)) ∧ result.2.1 = r ∧
      w.store.SameStock result.2.2.store
  gone : result.2.1.isReleased = true → result.2.1.placement.deployment.isDestroyed = true
  stake : result.2.1.stake = r.stake
  resources : result.2.1.resourceIds = r.resourceIds
  /-- The stake goes back as a whole, out of a world in which nothing else has changed but time. -/
  returned : r.isReleased = false → result.2.1.isReleased = true →
    ∃ v : World σ, w.session.Passes v.session ∧ result.2.2 = v.setStore (r.stake.giveBack v.store)

variable {p : Provisioner σ} {providers : ByTarget (Provider σ)}

/-- A run that was released knows that it was. -/
theorem isReleased_released (r : ProvisionedRun) (d : Deployment) :
    (r.released d).isReleased = true := rfl

/-- Every teardown of a consistent run keeps its promise, and the run stays consistent. -/
theorem release_teardown {r : ProvisionedRun} (consistent : r.Consistent) (p : Provisioner σ)
    (providers : ByTarget (Provider σ)) (signal : Signal) (w : World σ) :
    Release w r ((p.withProviders providers).teardown signal r w) ∧
      ((p.withProviders providers).teardown signal r w).2.1.Consistent := by
  have keeps : ∀ service, (p.withProviders providers).service
      r.placement.deployment.template.identifier.target = .ok service →
        service.Keeps (fun d _ => d.resourceIds = r.resourceIds) (fun _ _ => True) := by
    intro service supported
    obtain ⟨provider, rfl⟩ := Provisioner.provider_of_service supported
    exact provider.keeps_resourceIds _
  rcases Provisioner.teardown_cases consistent keeps (fun _ => trivial) signal (w := w) rfl with
    ⟨done, same⟩ | ⟨held, d, v, passes, -, named, gone, down⟩ | ⟨held, error, v, passes, -, down⟩
  · rw [same]
    refine ⟨⟨fun _ => rfl, by simp [done], by simp [done], fun _ => ?_, rfl, rfl, by simp [done]⟩,
      consistent⟩
    exact consistent.gone (consistent.isReleased.symm.trans done)
  · rw [down]
    exact ⟨⟨by simp [held], by simp [isReleased_released], by simp [isReleased_released],
      fun _ => gone, rfl, named, fun _ _ => ⟨v, passes, rfl⟩⟩, .released gone⟩
  · rw [down]
    exact ⟨⟨by simp [held], by simp [held],
      fun _ => ⟨⟨[error], by simp, rfl⟩, rfl, passes.stock⟩, by simp [held], rfl, rfl, by simp [held]⟩,
      consistent⟩

/-- A call of `abandon` does to the fleet what a call of `teardown` without a signal does. -/
theorem call_abandon (p : Provisioner σ) (f : Fleet σ) (index : Nat) (primary : ProvisionError) :
    f.call p (.abandon index primary) = f.call p (.teardown index .never) := by
  rw [call, call]
  split <;> rfl

/-! ### Any calls -/

/-- What holds of a fleet that began with the store `before`. -/
structure Sound (before : Store) (f : Fleet σ) : Prop where
  accounts : Accounts before f.world.store f.held
  consistent : ∀ r ∈ f.runs, r.Consistent

variable {before : Store} {f : Fleet σ}

/-- Taking a run down keeps the accounts right, and changes no stake but that run's. -/
theorem teardown_sound (sound : f.Sound before) (p : Provisioner σ)
    (providers : ByTarget (Provider σ)) {index : Nat} (signal : Signal) {r : ProvisionedRun}
    (found : f.runs[index]? = some r) :
    let g := f.call (p.withProviders providers) (.teardown index signal)
    g.Sound before ∧ (g.held = f.held ∨ f.held.Perm (r.stake :: g.held)) := by
  intro g
  have consistent := sound.consistent r (List.mem_of_getElem? found)
  obtain ⟨release, stays⟩ := release_teardown consistent p providers signal f.world
  have after : g = { f with
      world := ((p.withProviders providers).teardown signal r f.world).2.2
      runs := f.runs.set index ((p.withProviders providers).teardown signal r f.world).2.1 } := by
    simp only [g, call, found]
  generalize (p.withProviders providers).teardown signal r f.world = outcome at release stays after
  obtain ⟨result, r', w⟩ := outcome
  have members : ∀ other ∈ g.runs, other.Consistent := by
    intro other mem
    rw [after] at mem
    rcases List.mem_or_eq_of_mem_set mem with mem | rfl
    · exact sound.consistent other mem
    · exact stays
  have unchanged : r' = r → g.held = f.held := by
    rintro rfl
    rw [after, held, held, set_self found]
  cases done : r'.isReleased with
  | false =>
      obtain ⟨-, same, stock⟩ := release.failed done
      refine ⟨⟨?_, members⟩, .inl (unchanged same)⟩
      rw [unchanged same, after]
      exact sound.accounts.trans_same stock
  | true =>
      cases open' : r.isReleased with
      | true =>
          obtain ⟨-, rfl, rfl⟩ : result = .ok () ∧ r' = r ∧ w = f.world := by
            simpa using release.idle open'
          refine ⟨⟨?_, members⟩, .inl (unchanged rfl)⟩
          rw [unchanged rfl, after]
          exact sound.accounts
      | false =>
          have fewer : f.held.Perm (r.stake :: g.held) := by
            rw [after]
            exact (openStakes_set found open' done).append_right f.kept
          obtain ⟨v, passes, rfl⟩ := release.returned open' done
          refine ⟨⟨?_, members⟩, .inr fewer⟩
          have accounts := (sound.accounts.trans_same passes.stock).of_perm fewer
          rw [after] at accounts ⊢
          exact accounts.giveBack

/-- A call keeps the accounts right. -/
theorem call_sound (sound : f.Sound before) (p : Provisioner σ)
    (providers : ByTarget (Provider σ)) (c : FleetCall σ) :
    (f.call (p.withProviders providers) c).Sound before := by
  cases c with
  | provision run request signal =>
      rcases (p.withProviders providers).provision_cases run request signal f.world with
        ⟨error, v, provisioned, plain, stock⟩ |
          ⟨error, v, network, u, provisioned, failed, equipped, taken⟩ |
          ⟨placement, v, network, u, provisioned, -, rfl, taken⟩
      · rw [call, provisioned]
        refine ⟨?_, sound.consistent⟩
        simp only [keptBy, plain]
        exact sound.accounts.trans_same stock
      · rw [call, provisioned]
        refine ⟨?_, sound.consistent⟩
        simp only [keptBy, failed, equipped]
        have fair := (p.withProviders providers).fair_stakeOf run request network
        exact (sound.accounts.take taken fair).of_perm List.perm_middle.symm
      · rw [call, provisioned]
        constructor
        · let quotas := (p.withProviders providers).runQuotas run request.database
          let r := ProvisionedRun.new run quotas placement
          have joined : (openStakes (f.runs ++ [r]) ++ f.kept).Perm (r.stake :: f.held) := by
            simp only [openStakes, held, List.filter_append, List.map_append]
            exact List.perm_append_comm.append_right f.kept
          have fair := (p.withProviders providers).fair_stakeOf run request placement.network
          exact (sound.accounts.take taken fair).of_perm joined.symm
        · intro r mem
          rcases List.mem_append.1 mem with mem | mem
          · exact sound.consistent r mem
          · obtain rfl := List.mem_singleton.1 mem
            exact .new ..
  | teardown index signal =>
      cases found : f.runs[index]? with
      | some r => exact (teardown_sound sound p providers signal found).1
      | none =>
          rw [call, found]
          exact sound
  | abandon index primary =>
      rw [call_abandon]
      cases found : f.runs[index]? with
      | some r => exact (teardown_sound sound p providers .never found).1
      | none =>
          rw [call, found]
          exact sound
  | elapse ms =>
      exact ⟨sound.accounts.trans_same (f.world.session.passes_pause ms).stock, sound.consistent⟩
  | disturb machines => exact ⟨sound.accounts, sound.consistent⟩

/-- Any number of calls keeps the accounts right. -/
theorem after_sound (sound : f.Sound before) (p : Provisioner σ)
    (providers : ByTarget (Provider σ)) (calls : List (FleetCall σ)) :
    (after (p.withProviders providers) calls f).Sound before := by
  induction calls generalizing f with
  | nil => exact sound
  | cons c rest ih => exact ih (call_sound sound p providers c)

/-- A fleet without runs is sound. -/
theorem start_sound (w : World σ) : (start w).Sound w.store := ⟨.nil _, by simp [start]⟩

/-- A call leaves all runs alone but the one that it takes down. -/
theorem runs_call_of_ne {c : FleetCall σ} {index : Nat} {r : ProvisionedRun}
    (found : f.runs[index]? = some r) (other : c.index? ≠ some index) :
    (f.call p c).runs[index]? = some r := by
  have inside : index < f.runs.length := (List.getElem?_eq_some_iff.1 found).1
  have elsewhere : ∀ (i : Nat) (r' : ProvisionedRun), i ≠ index →
      (f.runs.set i r')[index]? = some r := by
    intro i r' ne
    rw [List.getElem?_set_ne ne, found]
  cases c with
  | provision run request signal =>
      rw [call]
      split
      · exact (List.getElem?_append_left inside).trans found
      · exact found
  | teardown i signal =>
      have ne : i ≠ index := fun same => other (congrArg some same)
      rw [call]
      split
      · exact elsewhere i _ ne
      · exact found
  | abandon i primary =>
      have ne : i ≠ index := fun same => other (congrArg some same)
      rw [call]
      split
      · exact elsewhere i _ ne
      · exact found
  | elapse ms => exact found
  | disturb machines => exact found

/-- A released run stays as it is, whatever anybody calls. -/
theorem released_stays (sound : f.Sound before) (p : Provisioner σ)
    (providers : ByTarget (Provider σ)) (calls : List (FleetCall σ)) {index : Nat}
    {r : ProvisionedRun} (found : f.runs[index]? = some r) (released : r.isReleased = true) :
    (after (p.withProviders providers) calls f).runs[index]? = some r := by
  induction calls generalizing f with
  | nil => exact found
  | cons c rest ih =>
      apply ih (call_sound sound p providers c)
      have consistent := sound.consistent r (List.mem_of_getElem? found)
      have idle := fun signal => (release_teardown consistent p providers signal f.world).1.idle released
      have untouched : ∀ signal,
          (f.call (p.withProviders providers) (.teardown index signal)).runs[index]? = some r := by
        intro signal
        simp only [call, found, idle signal]
        rw [set_self found, found]
      by_cases own : c.index? = some index
      · cases c with
        | teardown i signal =>
            obtain rfl : i = index := by simpa [FleetCall.index?] using own
            exact untouched signal
        | abandon i primary =>
            obtain rfl : i = index := by simpa [FleetCall.index?] using own
            rw [call_abandon]
            exact untouched .never
        | provision run request signal => simp [FleetCall.index?] at own
        | elapse ms => simp [FleetCall.index?] at own
        | disturb machines => simp [FleetCall.index?] at own
      · exact runs_call_of_ne found own

/-- Whatever was called, the accounts are right, and every run is released once, as a whole, after its
machines are gone.  A teardown or an abandonment of a run keeps the promises of `Release`, gives back no
stake but that run's, and nothing once the run is released; other calls leave the run alone. -/
theorem runs_are_released_once (p : Provisioner σ) (providers : ByTarget (Provider σ)) (w : World σ)
    (calls : List (FleetCall σ)) :
    let p := p.withProviders providers
    let f := after p calls (start w)
    Accounts w.store f.world.store f.held ∧
    ∀ (index : Nat) (r : ProvisionedRun), f.runs[index]? = some r →
      (∀ signal, Release f.world r (p.teardown signal r f.world)) ∧
      (∀ primary, ∃ result,
        Release f.world r (result, (p.abandon primary r f.world).2) ∧
        (p.abandon primary r f.world).1 = Provisioner.abandonment primary result) ∧
      (∀ c : FleetCall σ, c.index? = some index →
        (f.call p c).held = f.held ∨ f.held.Perm (r.stake :: (f.call p c).held)) ∧
      (∀ c : FleetCall σ, c.index? ≠ some index → (f.call p c).runs[index]? = some r) ∧
      (r.isReleased = true → ∀ more, (after p more f).runs[index]? = some r) := by
  intro q f
  have sound : f.Sound w.store := after_sound (start_sound w) p providers calls
  refine ⟨sound.accounts, fun index r found => ?_⟩
  have consistent := sound.consistent r (List.mem_of_getElem? found)
  refine ⟨fun signal => (release_teardown consistent p providers signal f.world).1, ?_, ?_, ?_, ?_⟩
  · intro primary
    exact ⟨_, (release_teardown consistent p providers .never f.world).1, rfl⟩
  · intro c own
    cases c with
    | teardown i signal =>
        obtain rfl : i = index := by simpa [FleetCall.index?] using own
        exact (teardown_sound sound p providers signal found).2
    | abandon i primary =>
        obtain rfl : i = index := by simpa [FleetCall.index?] using own
        rw [call_abandon]
        exact (teardown_sound sound p providers .never found).2
    | provision run request signal => simp [FleetCall.index?] at own
    | elapse ms => simp [FleetCall.index?] at own
    | disturb machines => simp [FleetCall.index?] at own
  · intro c other
    exact runs_call_of_ne found other
  · intro released more
    exact released_stays sound p providers more found released

section Sample

open Provisioner

/-- One run, on the local host. -/
def oneRun : Fleet Memory :=
  after (sample.onMemory sampleSetups) [.provision ⟨"run1", .docker⟩ sampleRequest .never] (start idleWorld)

/-- How many stakes are taken, and how many machines are left. -/
def counts (f : Fleet Memory) : Nat × Option Int :=
  (f.held.length, f.world.store.counter? (quotaKey .docker .vm))

/-- The run is taken down and gives back its machine.  When it is taken down again it gives back nothing. -/
theorem second_teardown_gives_nothing_back :
    let p := sample.onMemory sampleSetups
    let g := oneRun.call p (.teardown 0 .never)
    ∃ r gone, oneRun.runs = [r] ∧ r.isReleased = false ∧ g.runs = [gone] ∧ gone.isReleased = true ∧
      Release oneRun.world r (p.teardown .never r oneRun.world) ∧
      (p.teardown .never r oneRun.world).1 = .ok () ∧
      counts oneRun = (1, some 63) ∧ counts g = (0, some 64) ∧
      p.teardown .never gone g.world = (.ok (), gone, g.world) := by
  intro p g
  have released := runs_are_released_once sample
    ⟨sampleSetups.docker.map Memory.provider, sampleSetups.yandexCloud.map Memory.provider⟩ idleWorld
  have before : oneRun.runs.map ProvisionedRun.isReleased = [false] ∧ counts oneRun = (1, some 63) := by
    decide +kernel
  have later : (oneRun.call (sample.onMemory sampleSetups) (.teardown 0 .never)).runs.map
      ProvisionedRun.isReleased = [true] ∧
        counts (oneRun.call (sample.onMemory sampleSetups) (.teardown 0 .never)) = (0, some 64) := by
    decide +kernel
  obtain ⟨r, runs, open'⟩ := List.map_eq_singleton_iff.1 before.1
  obtain ⟨gone, runs_later, ended⟩ := List.map_eq_singleton_iff.1 later.1
  have release := ((released [.provision ⟨"run1", .docker⟩ sampleRequest .never]).2 0 r
    (congrArg (·[0]?) runs)).1 .never
  have idle := (((released [.provision ⟨"run1", .docker⟩ sampleRequest .never, .teardown 0 .never]).2 0 gone
    (congrArg (·[0]?) runs_later)).1 .never).idle ended
  have same : g.runs = [(p.teardown .never r oneRun.world).2.1] := by
    simp only [g, call, runs]
    rfl
  have returned : (p.teardown .never r oneRun.world).2.1 = gone :=
    List.singleton_inj.1 (same.symm.trans runs_later)
  exact ⟨r, gone, runs, open', runs_later, ended, release, release.decided.2 (returned ▸ ended),
    before.2, later.2, idle⟩

end Sample

end Fleet

end Testbed
