import Testbed.Proofs.Deployment.Rounds

/-!
How the resources of a deployment become ready while it is waited for.

A resource that is being created becomes ready in a pass that sees it ready and synced.  It is observed in
the later passes too, and its record takes over what they see, but its status stays, and a wait looks at
the statuses.  So the resources of a deployment that is returned were seen to be ready one by one, and only
those that became ready in its last pass were certainly ready when they were seen last.
-/

namespace Testbed

variable {σ : Type}

/-- Every resource is being created, or was seen to be ready. -/
def Deployment.Rising (d : Deployment) : Prop :=
  ∀ r ∈ d.resources, r.status = .creating ∨ r.status = .ready

/-- The answer to an observation. -/
def Call.observation? : Call → Option (Except DeployError Observation)
  | .observe _ answer => some answer
  | _ => none

namespace Polling

open Reconciler

/-! ### What passes see -/

namespace Pass

/-- The answer to the call at a position, if that is an observation. -/
def answer? (p : Pass) (position : Nat) : Option (Except DeployError Observation) :=
  p.calls[position]?.bind Call.observation?

/-- The resource at a position is found in a status. -/
def Finds (p : Pass) (position : Nat) (status : ResourceStatus) : Prop :=
  ∃ r, p.before.resources[position]? = some r ∧ r.status = status

/-- The call at a position observes the resource at this position. -/
def Observes (p : Pass) (position : Nat) : Prop :=
  ∃ r answer, p.before.resources[position]? = some r ∧ p.calls[position]? = some (.observe r answer)

/-- The resource at a position becomes ready, and is seen so. -/
structure MakesReady (p : Pass) (position : Nat) : Prop where
  before : p.Finds position .creating
  seen : ∃ o, p.answer? position = some (.ok o) ∧ o.ready = true ∧ o.synced = true
  after : ∃ r, p.after.resources[position]? = some r ∧ r.status = .ready

end Pass

/-- What was observed last of the resource at a position.  An answer that is an error observes nothing. -/
def lastObservation (position : Nat) (passes : List Pass) : Option Observation :=
  (passes.filterMap fun p => (p.answer? position).bind Except.toOption).getLast?

/-- What was seen last is what the later passes saw last, or else what the first pass saw. -/
theorem lastObservation_cons (position : Nat) (p : Pass) (rest : List Pass) :
    lastObservation position (p :: rest) =
      (lastObservation position rest).or ((p.answer? position).bind Except.toOption) := by
  rw [lastObservation, lastObservation, List.filterMap_cons]
  cases (p.answer? position).bind Except.toOption with
  | none => rw [Option.or_none]
  | some o => rw [List.getLast?_cons]; cases (List.getLast? _) <;> rfl

/-- A pass that sees the resource is the last to have seen it. -/
theorem lastObservation_concat {position : Nat} (passes : List Pass) {p : Pass} {o : Observation}
    (seen : p.answer? position = some (.ok o)) : lastObservation position (passes ++ [p]) = some o := by
  rw [lastObservation, List.filterMap_append]
  simp [seen, Except.toOption]

/-- If any pass has seen a resource, something was seen last. -/
theorem lastObservation_ne_none {position : Nat} {passes : List Pass} {p : Pass} (mem : p ∈ passes)
    {o : Observation} (seen : p.answer? position = some (.ok o)) :
    lastObservation position passes ≠ none := by
  intro nothing
  rw [lastObservation, List.getLast?_eq_none_iff, List.filterMap_eq_nil_iff] at nothing
  simpa [seen, Except.toOption] using nothing p mem

/-! ### One pass -/

/-- All that a pass can do to a resource which is created or ready, and not given up. -/
inductive Glimpse (r : Resource) : Except DeployError Observation → Resource → Prop where
  | unseen {e : DeployError} : Glimpse r (.error e) r
  | seen {o : Observation} : Glimpse r (.ok o) (observed r o)
  | ready {o : Observation} {stamp : UInt64} (creating : r.status = .creating) (up : o.ready = true)
      (synced : o.synced = true) : Glimpse r (.ok o) ((observed r o).enter .ready stamp)

/-- Looking at such a resource takes one call. -/
theorem glimpse_of_looked {interval : Nat} {now stamp : UInt64} {v : Visit}
    (looked : Looked interval now stamp v)
    (rising : v.before.status = .creating ∨ v.before.status = .ready)
    (kept : v.after.status ≠ .degraded) :
    ∃ answer, v.calls = [.observe v.before answer] ∧ Glimpse v.before answer v.after := by
  cases looked with
  | destroyed gone => rcases rising with h | h <;> cases h.symm.trans gone
  | unseen => exact ⟨_, rfl, .unseen⟩
  | gone ending => rcases rising with h | h <;> rcases ending with e | e <;> cases h.symm.trans e
  | invisible => exact ⟨_, rfl, .unseen⟩
  | ready creating up synced => exact ⟨_, rfl, .ready creating up synced⟩
  | abandoned => exact absurd rfl kept
  | stuck => exact absurd rfl kept
  | unmoved => exact ⟨_, rfl, .seen⟩

/-- When every visit makes one call, the calls have the places of the visits. -/
theorem getElem?_calls {visits : List Visit} (single : ∀ v ∈ visits, ∃ call, v.calls = [call])
    {position : Nat} {v : Visit} {call : Call} (listed : visits[position]? = some v)
    (made : v.calls = [call]) : (visits.flatMap Visit.calls)[position]? = some call := by
  induction visits generalizing position with
  | nil => cases listed
  | cons first rest ih =>
      obtain ⟨⟨only, one⟩, others⟩ := List.forall_mem_cons.1 single
      rw [List.flatMap_cons, one]
      cases position with
      | zero =>
          obtain rfl := Option.some.inj listed
          obtain rfl := List.singleton_inj.1 (one.symm.trans made)
          rfl
      | succ position => exact ih others listed

/-- A glimpse leaves the status of a resource, or turns it ready when it is seen ready and synced. -/
theorem Glimpse.status {r r' : Resource} {answer : Except DeployError Observation}
    (h : Glimpse r answer r') : r'.status = r.status ∨ r.status = .creating ∧ r'.status = .ready ∧
      ∃ o, answer = .ok o ∧ o.ready = true ∧ o.synced = true := by
  cases h with
  | unseen => exact .inl rfl
  | seen => exact .inl rfl
  | ready creating up synced => exact .inr ⟨creating, rfl, _, rfl, up, synced⟩

/-- The record takes over what was observed, and stays as it is when nothing was. -/
theorem Glimpse.fields {r r' : Resource} {answer : Except DeployError Observation}
    (h : Glimpse r answer r') :
    (answer.toOption = none ∧ r'.ready = r.ready ∧ r'.synced = r.synced) ∨
      ∃ o, answer.toOption = some o ∧ r'.ready = o.ready ∧ r'.synced = o.synced := by
  cases h with
  | unseen => exact .inl ⟨rfl, rfl, rfl⟩
  | seen => exact .inr ⟨_, rfl, rfl, rfl⟩
  | ready => exact .inr ⟨_, rfl, rfl, rfl⟩

section Made

variable {b : Backend σ} {interval : Nat} {p : Pass} {position : Nat} {r : Resource}

/-- A pass that gives nothing up takes one look at each resource. -/
theorem Pass.Made.exists_glimpses (made : p.Made b interval) (quiet : p.Quiet) (rising : p.before.Rising) :
    ∃ visits : List Visit, visits.map Visit.before = p.before.resources ∧
      visits.map Visit.after = p.after.resources ∧ p.calls = visits.flatMap Visit.calls ∧
      ∀ v ∈ visits, ∃ answer, v.calls = [.observe v.before answer] ∧ Glimpse v.before answer v.after := by
  obtain ⟨now, visits, befores, afters, -, calls, looked⟩ := made.exists_visits
  refine ⟨visits, befores, afters, calls, fun v mem => ?_⟩
  obtain ⟨⟨stamp, looked⟩, -⟩ := looked v mem
  refine glimpse_of_looked looked (rising _ ?_) (quiet.degraded _ ?_)
  · exact befores ▸ List.mem_map_of_mem mem
  · exact afters ▸ List.mem_map_of_mem mem

/-- In a pass that brings nothing bad to light, every resource is looked at once and only glimpsed. -/
theorem Pass.Made.glimpse (made : p.Made b interval) (quiet : p.Quiet) (rising : p.before.Rising)
    (found : p.before.resources[position]? = some r) :
    ∃ answer r', p.calls[position]? = some (.observe r answer) ∧
      p.after.resources[position]? = some r' ∧ Glimpse r answer r' := by
  obtain ⟨visits, befores, afters, calls, glimpses⟩ := made.exists_glimpses quiet rising
  rw [← befores] at found
  obtain ⟨v, listed, rfl⟩ := exists_visit found
  obtain ⟨answer, made, leads⟩ := glimpses v (List.mem_of_getElem? listed)
  refine ⟨answer, v.after, ?_, ?_, leads⟩
  · rw [calls]
    refine getElem?_calls (fun u mem => ?_) listed made
    obtain ⟨_, one, -⟩ := glimpses u mem
    exact ⟨_, one⟩
  · rw [← afters, List.getElem?_map, listed, Option.map_some]

/-- A deployment on the rise is still on the rise after a pass that brings nothing bad to light. -/
theorem Pass.Made.rising (made : p.Made b interval) (quiet : p.Quiet) (rising : p.before.Rising) :
    p.after.Rising := by
  obtain ⟨visits, befores, afters, -, glimpses⟩ := made.exists_glimpses quiet rising
  intro r' mem
  rw [← afters] at mem
  obtain ⟨v, listed, rfl⟩ := List.mem_map.1 mem
  obtain ⟨answer, -, glimpse⟩ := glimpses v listed
  rcases glimpse.status with same | ⟨-, ready, -⟩
  · rw [same]
    exact rising _ (befores ▸ List.mem_map_of_mem listed)
  · exact .inr ready

/-- A pass that leaves all ready has made something ready, unless all was ready before. -/
theorem Pass.Made.makesReady (made : p.Made b interval) (quiet : p.Quiet) (rising : p.before.Rising)
    (notReady : p.before.isReady = false) (ready : p.after.isReady = true) :
    ∃ position, p.MakesReady position := by
  obtain ⟨r, mem, other⟩ : ∃ r ∈ p.before.resources, r.status ≠ .ready := by
    simpa [Deployment.isReady] using notReady
  obtain ⟨position, found⟩ := List.getElem?_of_mem mem
  obtain ⟨answer, r', asked, left, glimpse⟩ := made.glimpse quiet rising found
  have after : r'.status = .ready := by
    simp only [Deployment.isReady, List.all_eq_true, decide_eq_true_eq] at ready
    exact ready r' (List.mem_of_getElem? left)
  rcases glimpse.status with same | ⟨creating, -, o, rfl, up, synced⟩
  · exact absurd (same.symm.trans after) other
  · exact ⟨position, ⟨r, found, creating⟩,
      ⟨o, by rw [answer?, asked]; rfl, up, synced⟩, ⟨r', left, after⟩⟩

end Made

/-! ### Several passes -/

/-- What becomes of the resource at a position in several passes. -/
inductive History (position : Nat) : Resource → List Pass → Resource → Prop where
  | nil {r : Resource} : History position r [] r
  | cons {r r' r'' : Resource} {p : Pass} {rest : List Pass} {answer : Except DeployError Observation}
      (found : p.before.resources[position]? = some r)
      (asked : p.calls[position]? = some (.observe r answer))
      (left : p.after.resources[position]? = some r') (glimpse : Glimpse r answer r')
      (later : History position r' rest r'') : History position r (p :: rest) r''

/-- Passes that follow each other give every resource its history. -/
theorem history_of_chained {b : Backend σ} {interval : Nat} {passes : List Pass} {d d' : Deployment}
    (chained : Chained d passes d') (made : ∀ p ∈ passes, p.Made b interval)
    (quiet : ∀ p ∈ passes, p.Quiet) (rising : d.Rising) {position : Nat} {r : Resource}
    (found : d.resources[position]? = some r) :
    ∃ r', d'.resources[position]? = some r' ∧ History position r passes r' := by
  induction passes generalizing d r with
  | nil =>
      obtain rfl : d = d' := chained
      exact ⟨r, found, .nil⟩
  | cons p rest ih =>
      obtain ⟨rfl, later⟩ := chained
      obtain ⟨first, others⟩ := List.forall_mem_cons.1 made
      obtain ⟨calm, calms⟩ := List.forall_mem_cons.1 quiet
      obtain ⟨answer, r₁, asked, left, glimpse⟩ := first.glimpse calm rising found
      obtain ⟨r', found', history⟩ := ih later others calms (first.rising calm rising) left
      exact ⟨r', found', .cons found asked left glimpse history⟩

/-- Deployments stay on the rise through any number of passes that bring nothing bad to light. -/
theorem rising_of_chained {b : Backend σ} {interval : Nat} {passes : List Pass} {d d' : Deployment}
    (chained : Chained d passes d') (made : ∀ p ∈ passes, p.Made b interval)
    (quiet : ∀ p ∈ passes, p.Quiet) (rising : d.Rising) : d'.Rising := by
  induction passes generalizing d with
  | nil => exact (show d = d' from chained) ▸ rising
  | cons p rest ih =>
      obtain ⟨rfl, later⟩ := chained
      obtain ⟨first, others⟩ := List.forall_mem_cons.1 made
      obtain ⟨calm, calms⟩ := List.forall_mem_cons.1 quiet
      exact ih later others calms (first.rising calm rising)

/-- Passes neither add resources nor remove any. -/
theorem length_of_chained {b : Backend σ} {interval : Nat} {passes : List Pass} {d d' : Deployment}
    (chained : Chained d passes d') (made : ∀ p ∈ passes, p.Made b interval) :
    d'.resources.length = d.resources.length := by
  induction passes generalizing d with
  | nil => rw [show d = d' from chained]
  | cons p rest ih =>
      obtain ⟨rfl, later⟩ := chained
      obtain ⟨first, others⟩ := List.forall_mem_cons.1 made
      obtain ⟨_, visits, befores, afters, -⟩ := first.exists_visits
      rw [ih later others, ← befores, ← afters, List.length_map, List.length_map]

/-- The last of some passes begins where the others left the deployment, and ends where all of them do. -/
theorem chained_of_concat {passes : List Pass} {p : Pass} {d d' : Deployment}
    (chained : Chained d (passes ++ [p]) d') : Chained d passes p.before ∧ p.after = d' := by
  induction passes generalizing d with
  | nil => exact ⟨chained.1.symm, chained.2⟩
  | cons q rest ih => exact ⟨⟨chained.1, (ih chained.2).1⟩, (ih chained.2).2⟩

namespace History

variable {position : Nat} {r r' : Resource} {passes : List Pass}

/-- Every pass of a history observes the resource that the history is about. -/
theorem observes (h : History position r passes r') : ∀ p ∈ passes, p.Observes position := by
  induction h with
  | nil => exact List.forall_mem_nil _
  | cons found asked _ _ _ ih => exact List.forall_mem_cons.2 ⟨⟨_, _, found, asked⟩, ih⟩

/-- The record has the fields of what was observed last. -/
theorem fields (h : History position r passes r') :
    (lastObservation position passes = none ∧ r'.ready = r.ready ∧ r'.synced = r.synced) ∨
      ∃ o, lastObservation position passes = some o ∧ r'.ready = o.ready ∧ r'.synced = o.synced := by
  induction h with
  | nil => exact .inl ⟨rfl, rfl, rfl⟩
  | @cons r r₁ r₂ p rest answer found asked left glimpse later ih =>
      have given : p.answer? position = some answer := by rw [Pass.answer?, asked]; rfl
      rw [lastObservation_cons, given]
      rcases ih with ⟨nothing, ready, synced⟩ | ⟨o, last, same⟩
      · rw [nothing, ready, synced]
        simpa using glimpse.fields
      · rw [last]
        exact .inr ⟨o, rfl, same⟩

/-- What is ready stays so. -/
theorem stays (h : History position r passes r') (ready : r.status = .ready) :
    ∀ p ∈ passes, p.Finds position .ready := by
  induction h with
  | nil => exact List.forall_mem_nil _
  | cons found _ _ glimpse _ ih =>
      rcases glimpse.status with same | ⟨creating, -⟩
      · exact List.forall_mem_cons.2 ⟨⟨_, found, ready⟩, ih (same.trans ready)⟩
      · cases ready.symm.trans creating

end History

/-- The resource at a position is being created, becomes ready as it is seen so, and is ready from then on. -/
def TurnsReady (position : Nat) (passes : List Pass) : Prop :=
  ∃ earlier p later, passes = earlier ++ p :: later ∧ (∀ q ∈ earlier, q.Finds position .creating) ∧
    p.MakesReady position ∧ ∀ q ∈ later, q.Finds position .ready

/-- A resource that was being created and is ready has been turned ready by one of the passes. -/
theorem History.turnsReady {position : Nat} {r r' : Resource} {passes : List Pass}
    (h : History position r passes r') (creating : r.status = .creating) (ready : r'.status = .ready) :
    TurnsReady position passes := by
  induction h with
  | nil => cases creating.symm.trans ready
  | @cons r r₁ r₂ p rest answer found asked left glimpse later ih =>
      rcases glimpse.status with same | ⟨-, now, o, rfl, up, synced⟩
      · obtain ⟨earlier, q, others, rfl, before, turns, after⟩ := ih (same.trans creating) ready
        exact ⟨p :: earlier, q, others, rfl,
          List.forall_mem_cons.2 ⟨⟨_, found, creating⟩, before⟩, turns, after⟩
      · refine ⟨[], p, rest, rfl, List.forall_mem_nil _, ⟨⟨_, found, creating⟩, ?_, _, left, now⟩,
          later.stays now⟩
        exact ⟨o, by rw [Pass.answer?, asked]; rfl, up, synced⟩


/-! ### Waits -/

/-- A loop goes on after a pass when its deployment is not ready yet. -/
theorem notYet_of_going {pollInterval : Duration} {instant : Nat} {v : Readiness.Verdict}
    (going : (Loop.phaseAfter pollInterval instant v).isOver = false) : v = .notYet := by
  cases v with
  | ready => cases going
  | notYet => rfl
  | failed => cases going

/-- Only what is not ready is passed over; and a loop that is not over has more to wait for. -/
structure Loop.Eager (l : Loop) : Prop where
  befores : ∀ p ∈ l.passes, p.before.isReady = false
  going : l.phase.isOver = false → l.deployment.isReady = false

/-- What a loop does keeps it eager. -/
theorem Loop.Eager.act {u : Setting σ} {instant : Nat} {permit : Bool} {l l' : Loop} {s s' : σ}
    (h : l.Eager) (acted : Acted u instant permit l s l' s') : l'.Eager := by
  cases acted with
  | still => exact h
  | admitted queued => exact ⟨h.befores, fun _ => h.going (by rw [queued]; rfl)⟩
  | @passed stamps meanwhile p s' polling run =>
      have before : p.before = l.deployment := by
        rw [show p = (Pass.run u.backend u.interval l.deployment stamps meanwhile s).1 by rw [run]]
        rfl
      refine ⟨List.forall_mem_append.2 ⟨h.befores, List.forall_mem_singleton.2 ?_⟩, fun going => ?_⟩
      · rw [before]
        exact h.going (by rw [polling]; rfl)
      · exact p.not_ready_of_verdict (notYet_of_going going)
  | woken resting => exact ⟨h.befores, fun _ => h.going (by rw [resting]; rfl)⟩
  | crashed => exact ⟨h.befores, fun going => by cases going⟩

section Waits

variable {u : Setting σ} {entries : List Deployment} {w : Wait σ}

/-- Eager loops stay eager through the whole wait. -/
theorem Loop.Eager.kept (u : Setting σ) : Wait.Keeps u Loop.Eager where
  act eager acted := eager.act acted
  take eager _ := ⟨eager.befores, nofun⟩

/-- What is true of a deployment that was polled until it was ready. -/
structure Loop.Latched (l : Loop) : Prop where
  /-- Every pass observes every resource. -/
  observes : ∀ p ∈ l.passes, ∀ position < l.deployment.resources.length, p.Observes position
  turns : ∀ (position : Nat) r, l.deployment.resources[position]? = some r →
    r.status = .ready ∧ TurnsReady position l.passes
  /-- What was observed last is recorded, also after the resource has become ready. -/
  fields : ∀ (position : Nat) r, l.deployment.resources[position]? = some r →
    ∃ o, lastObservation position l.passes = some o ∧ r.ready = o.ready ∧ r.synced = o.synced
  /-- The last pass has made something ready. -/
  last : ∃ p position, l.passes.getLast? = some p ∧ p.MakesReady position
  /-- What the last pass has made ready is recorded as ready and synced. -/
  recorded : ∀ p position r, l.passes.getLast? = some p → p.MakesReady position →
    l.deployment.resources[position]? = some r → r.ready = true ∧ r.synced = true

/-- The last pass of a loop that ends with its deployment ready has made something ready. -/
theorem Loop.last_makesReady {l : Loop} (sound : l.Sound u) (eager : l.Eager)
    (quiet : ∀ p ∈ l.passes, p.Quiet) (rising : l.entry.Rising) (ready : l.deployment.isReady = true)
    (some_passes : l.passes ≠ []) :
    ∃ p position, l.passes.getLast? = some p ∧ p.MakesReady position := by
  obtain ⟨passes, q, eq⟩ := (List.eq_nil_or_concat' l.passes).resolve_left some_passes
  have chained := sound.chained
  have made := sound.made
  rw [eq] at chained made quiet ⊢
  simp only [List.forall_mem_append, List.forall_mem_singleton] at made quiet
  obtain ⟨before, after⟩ := chained_of_concat chained
  have mem : q ∈ l.passes := by simp [eq]
  obtain ⟨position, makes⟩ := made.2.makesReady quiet.2
    (rising_of_chained before made.1 quiet.1 rising) (eager.befores q mem) (after ▸ ready)
  exact ⟨q, position, List.getLast?_concat, makes⟩

/-- A loop that began with all resources being created is latched once its deployment is ready. -/
theorem Loop.latched {l : Loop} (sound : l.Sound u) (eager : l.Eager) (quiet : ∀ p ∈ l.passes, p.Quiet)
    (fresh : ∀ r ∈ l.entry.resources, r.status = .creating) (ready : l.deployment.isReady = true) :
    l.Latched := by
  have rising : l.entry.Rising := fun r mem => .inl (fresh r mem)
  have allReady : ∀ r ∈ l.deployment.resources, r.status = .ready := by
    simpa [Deployment.isReady] using ready
  have history : ∀ position < l.deployment.resources.length, ∃ r r', r.status = .creating ∧
      l.deployment.resources[position]? = some r' ∧ History position r l.passes r' := by
    intro position inside
    rw [length_of_chained sound.chained sound.made] at inside
    have found := List.getElem?_eq_getElem inside
    obtain ⟨r', found', history⟩ := history_of_chained sound.chained sound.made quiet rising found
    exact ⟨_, r', fresh _ (List.mem_of_getElem? found), found', history⟩
  have turns : ∀ (position : Nat) r, l.deployment.resources[position]? = some r →
      TurnsReady position l.passes := by
    intro position r found
    obtain ⟨r₀, r', creating, found', history⟩ := history position (List.getElem?_eq_some_iff.1 found).1
    exact history.turnsReady creating (allReady r' (List.mem_of_getElem? found'))
  have fields : ∀ (position : Nat) r, l.deployment.resources[position]? = some r →
      ∃ o, lastObservation position l.passes = some o ∧ r.ready = o.ready ∧ r.synced = o.synced := by
    intro position r found
    obtain ⟨r₀, r', -, found', history⟩ := history position (List.getElem?_eq_some_iff.1 found).1
    obtain rfl := Option.some.inj (found.symm.trans found')
    obtain ⟨earlier, p, later, same, -, makes, -⟩ := turns position r found
    obtain ⟨o, seen, -⟩ := makes.seen
    have among : p ∈ l.passes := by simp [same]
    rcases history.fields with ⟨nothing, -⟩ | observed
    · exact absurd nothing (lastObservation_ne_none among seen)
    · exact observed
  refine ⟨?_, fun position r found => ⟨allReady r (List.mem_of_getElem? found), turns position r found⟩,
    fields, ?_, ?_⟩
  · intro p mem position inside
    obtain ⟨_, _, -, -, history⟩ := history position inside
    exact history.observes p mem
  · obtain ⟨earlier, p, later, same, -⟩ := turns 0 l.deployment.network rfl
    exact Loop.last_makesReady sound eager quiet rising ready (by simp [same])
  · intro p position r last makes found
    obtain ⟨o, seen, up, synced⟩ := makes.seen
    obtain ⟨o', observed, isReady, isSynced⟩ := fields position r found
    obtain ⟨passes, same⟩ := List.getLast?_eq_some_iff.1 last
    rw [same, lastObservation_concat passes seen] at observed
    obtain rfl := Option.some.inj observed
    exact ⟨isReady.trans up, isSynced.trans synced⟩

/-- What is true of a success, of the passes that were made and of the deployments that come back. -/
structure Success (u : Setting σ) (entries : List Deployment) (loops : List Loop)
    (result : List Deployment) : Prop where
  entries : loops.map Loop.entry = entries
  result : result = loops.map Loop.deployment
  chained : ∀ l ∈ loops, Chained l.entry l.passes l.deployment
  made : ∀ l ∈ loops, ∀ p ∈ l.passes, p.Made u.backend u.interval
  latched : ∀ l ∈ loops, l.Latched

end Waits

/-- In every order in which deployments that were just created may be polled, and whatever their backend
answers: each resource of a deployment that a wait returns became ready in a pass that saw it ready and
synced, and at least one did in the last pass; after that, answers change its record but not its status. -/
theorem readiness_is_latched (u : Setting σ) (created : List (DeploymentTemplate × Stamps)) (s : σ) :
    let entries := created.map fun c => Deployment.new c.1 c.2
    (∀ moves result, ((Wait.start u entries s).runAll u moves).outcome = some (.ok result) →
      Success u entries ((Wait.start u entries s).runAll u moves).loops result) ∧
      Ends u (.start u entries s)
        (Readiness.await (service u.backend u.interval) u.options u.signal entries u.startedAt s) := by
  intro entries
  refine ⟨fun moves result reported => ?_, ends_await u entries s⟩
  have fresh : ∀ d ∈ entries, ∀ r ∈ d.resources, r.status = .creating := by
    intro d mem r listed
    obtain ⟨c, -, rfl⟩ := List.mem_map.1 mem
    exact (Deployment.creating_new listed).1
  have notReady : ∀ d ∈ entries, d.isReady = false := by
    intro d mem
    simp [Deployment.isReady, Deployment.resources, fresh d mem d.network List.mem_cons_self]
  have sound := (Wait.Sound.start u entries s).runAll moves
  have eager := (Loop.Eager.kept u).runAll (w := .start u entries s) (fun l mem => by
    obtain ⟨d, listed, rfl⟩ := List.mem_map.1 mem
    exact ⟨List.forall_mem_nil _, fun _ => notReady d listed⟩) moves
  revert sound eager reported
  generalize (Wait.start u entries s).runAll u moves = w
  intro reported sound eager
  cases sound.reported _ reported with
  | ready all =>
      refine ⟨sound.entries, rfl, fun l mem => (sound.loops l mem).chained,
        fun l mem => (sound.loops l mem).made, fun l mem => ?_⟩
      have entered : l.entry ∈ entries := sound.entries ▸ List.mem_map_of_mem mem
      exact Loop.latched (sound.loops l mem) (eager l mem) ((confirmed_of_sound sound all).quiet l mem)
        (fresh l.entry entered) ((sound.loops l mem).ready (.inr (all l mem)))

/-- The network is seen ready in the first pass and gone in the second, in which its machine cannot be
observed; in the third pass the machine is ready, and the deployment is returned. -/
theorem network_gone_before_machine_is_ready :
    let up : ScriptedAnswer := .succeeds ⟨true, true, none⟩
    let script := Script.new (.ofList [("observe network-bench", [up, .notFound]),
      ("observe vm-0", [.notFound, .backendFails, up])])
    let created := [(oneMachine, Stamps.still 0)]
    let entries := created.map fun c => Deployment.new c.1 c.2
    let u : Setting Script := ⟨Script.backend, 60000, ⟨⟨10⟩, ⟨1000⟩, 1⟩, .never, ⟨0, 0, true⟩⟩
    let round (now : UInt64) : List (Move Script) :=
      [.act 0 .takePermit, .act 0 (.pass (.still now) []), .elapse 10, .act 0 .wake]
    let w := (Wait.start u entries script).runAll u
      (round 0 ++ round 10 ++ round 20 ++ [.collect 0, .finish])
    ∃ result, w.outcome = some (.ok result) ∧ Success u entries w.loops result ∧
      w.loops.map (fun l => l.passes.map fun p => p.after.resources.map (·.status)) =
        [[[.ready, .creating], [.ready, .creating], [.ready, .ready]]] := by
  intro up script created entries u round w
  have all := (readiness_is_latched u created script).1
    (round 0 ++ round 10 ++ round 20 ++ [.collect 0, .finish])
  refine ⟨w.loops.map Loop.deployment, ?_, all _ ?_, ?_⟩
  · decide +kernel
  · decide +kernel
  · decide +kernel

/-- The network is up in the first pass and down in the second, in which the machine comes up: the deployment
is returned, with a network that was down when it was observed last. -/
theorem network_down_when_the_wait_succeeds :
    let up : ScriptedAnswer := .succeeds ⟨true, true, none⟩
    let down : ScriptedAnswer := .succeeds ⟨false, true, none⟩
    let script := Script.new (.ofList [("observe network-bench", [up, down]),
      ("observe vm-0", [down, up])])
    let result := Readiness.await (service Script.backend 600000) ⟨⟨10⟩, ⟨15⟩, 1⟩ .never
      [Deployment.new oneMachine (.still 0)] ⟨0, 0, true⟩ script
    ¬ (∀ deployments, result.1 = .ok deployments → ∀ d ∈ deployments, ∀ r ∈ d.resources,
        r.ready = true ∧ r.synced = true) ∧
      result.2.2.calls =
        ["observe network-bench", "observe vm-0", "observe network-bench", "observe vm-0"] := by
  intro up down script result
  have returned : (result.1.toOption.map fun deployments =>
      deployments.any fun d => d.resources.any fun r => !r.ready) = some true := by
    decide +kernel
  refine ⟨fun all => ?_, by decide +kernel⟩
  cases told : result.1 with
  | error e => simp [told, Except.toOption] at returned
  | ok deployments =>
      simp only [told, Except.toOption, Option.map_some, Option.some_inj, List.any_eq_true] at returned
      obtain ⟨d, mem, r, listed, down⟩ := returned
      simp [(all deployments told d mem r listed).1] at down

end Polling

end Testbed
