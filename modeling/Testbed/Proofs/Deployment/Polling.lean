import Mathlib.Data.List.Basic
import Testbed.Proofs.Deployment.Pass

/-!
Deployments that are polled at the same time.

Every deployment that is waited for has a loop of its own: it takes a permit, passes over its deployment,
gives the permit back, and sleeps unless it is over.  The steps of the loops follow one another in any
order, and time and others go on in between.  The wait collects loops that are over; it ends when all are
ready, when one has failed, at its deadline, and when its signal fires, and which of these comes first is
open as well.

`Wait.Sound` is kept by every move: loops go by the verdicts of their passes, and the wait reports what its
loops, its clock and its signal say.
-/

namespace Testbed

variable {σ : Type}

namespace Polling

/-! ### Loops -/

/-- Where the loop of a deployment stands. -/
inductive Phase where
  /-- It waits for a permit. -/
  | queued
  /-- It has a permit, and its pass is under way. -/
  | polling
  | resting (wakesAt : Nat)
  | ready
  | failed (error : DeployError)
  /-- The wait has taken its deployment. -/
  | collected
deriving DecidableEq

/-- Whether a loop does nothing more by itself. -/
def Phase.isOver : Phase → Bool
  | .ready | .failed _ | .collected => true
  | _ => false

/-- The loop of a deployment, with the passes that it has made. -/
structure Loop where
  /-- The deployment that was handed in. -/
  entry : Deployment
  passes : List Pass
  deployment : Deployment
  phase : Phase

/-- What a wait is given. -/
structure Setting (σ : Type) where
  backend : Backend σ
  interval : Nat
  options : WaitOptions
  signal : Signal
  startedAt : Clock

/-- The instant of the deadline. -/
def Setting.dueAt (u : Setting σ) : Nat := u.startedAt.timer + u.options.deadline.ms

/-- What a loop does next. -/
inductive Act (σ : Type) where
  /-- Take a permit. -/
  | takePermit
  /-- Come to the end of a pass, and give the permit back.  Each entry of `meanwhile` is what others have
  done to the backend before one of the calls, so that passes of other loops may fall in between. -/
  | pass (stamps : Stamps) (meanwhile : List (σ → σ))
  | wake
  /-- Come to grief. -/
  | crash (detail : String)

namespace Loop

/-- The loop of a deployment, before its first pass. -/
def start (d : Deployment) : Loop := ⟨d, [], d, .queued⟩

/-- The deployment that the wait has taken. -/
def collected? (l : Loop) : Option Deployment := if l.phase = .collected then some l.deployment else none

/-- Where a pass that ends at an instant leads. -/
def phaseAfter (pollInterval : Duration) (instant : Nat) : Readiness.Verdict → Phase
  | .ready => .ready
  | .notYet => .resting (instant + pollInterval.ms)
  | .failed error => .failed error

section phaseAfter

variable {pollInterval : Duration} {instant : Nat} {v : Readiness.Verdict}

/-- A loop is ready exactly after a verdict that says so. -/
theorem phaseAfter_eq_ready : phaseAfter pollInterval instant v = .ready ↔ v = .ready := by
  cases v <;> simp [phaseAfter]

/-- A loop fails exactly after a verdict of failure, with the same error. -/
theorem phaseAfter_eq_failed {e : DeployError} :
    phaseAfter pollInterval instant v = .failed e ↔ v = .failed e := by
  cases v <;> simp [phaseAfter]

/-- A verdict ends the polling of a pass, for good or until the next one is due. -/
theorem phaseAfter_ne_polling : phaseAfter pollInterval instant v ≠ .polling := by
  cases v <;> simp [phaseAfter]

/-- A verdict alone does not collect the deployment. -/
theorem phaseAfter_ne_collected : phaseAfter pollInterval instant v ≠ .collected := by
  cases v <;> simp [phaseAfter]

end phaseAfter

/-- What a pass that ends at an instant leaves. -/
def after (u : Setting σ) (instant : Nat) (l : Loop) (p : Pass) : Loop where
  entry := l.entry
  passes := l.passes ++ [p]
  deployment := p.after
  phase := phaseAfter u.options.pollInterval instant p.verdict

/-- What an act leaves; one that is not possible leaves all as it is. -/
def act (u : Setting σ) (instant : Nat) (permit : Bool) (l : Loop) (s : σ) : Act σ → Loop × σ
  | .takePermit => (if l.phase = .queued ∧ permit = true then { l with phase := .polling } else l, s)
  | .pass stamps meanwhile =>
    if l.phase = .polling then
      let (p, s) := Pass.run u.backend u.interval l.deployment stamps meanwhile s
      (l.after u instant p, s)
    else (l, s)
  | .wake =>
    match l.phase with
    | .resting wakesAt => (if wakesAt ≤ instant then { l with phase := .queued } else l, s)
    | _ => (l, s)
  | .crash detail => (if l.phase.isOver then l else { l with phase := .failed (.pollFailed detail) }, s)

end Loop

/-! ### Waits -/

/-- A wait for deployments. -/
structure Wait (σ : Type) where
  clock : Clock
  backend : σ
  loops : List Loop
  /-- The deployments that were taken, each at its place. -/
  ready : List (Option Deployment)
  outcome : Option (Except DeployError (List Deployment))

/-- What happens next. -/
inductive Move (σ : Type) where
  | elapse (ms : Nat)
  /-- Others do something to the backend. -/
  | disturb (change : σ → σ)
  /-- One of the loops does something. -/
  | act (index : Nat) (act : Act σ)
  /-- The wait takes what a loop has ended with. -/
  | collect (index : Nat)
  /-- Everything has been taken. -/
  | finish
  | timeout
  | cancel

namespace Wait

variable (u : Setting σ)

/-- A wait that begins.  Nothing has to be waited for if there are no deployments. -/
def start (entries : List Deployment) (s : σ) : Wait σ where
  clock := u.startedAt
  backend := s
  loops := entries.map .start
  ready := entries.map fun _ => none
  outcome := if entries.isEmpty then some (.ok []) else none

/-- Whether another pass may be under way. -/
def hasPermit (w : Wait σ) : Bool :=
  w.loops.countP (·.phase = .polling) < max 1 u.options.maxConcurrent

/-- What a move leaves while nothing has been reported. -/
def step (w : Wait σ) : Move σ → Wait σ
  | .elapse ms => { w with clock := w.clock.pause ms }
  | .disturb change => { w with backend := change w.backend }
  | .act index act =>
    match w.loops[index]? with
    | some l =>
      let (l, backend) := l.act u w.clock.timer (w.hasPermit u) w.backend act
      { w with backend, loops := w.loops.set index l }
    | none => w
  | .collect index =>
    match w.loops[index]? with
    | some l =>
      match l.phase with
      | .ready => { w with
          loops := w.loops.set index { l with phase := .collected }
          ready := w.ready.set index (some l.deployment) }
      | .failed error => { w with outcome := some (.error error) }
      | _ => w
    | none => w
  | .finish =>
    if w.loops.all (·.phase = .collected) then { w with outcome := some (.ok (w.ready.filterMap id)) } else w
  | .timeout =>
    if u.dueAt ≤ w.clock.timer then
      { w with outcome := some (.error (.timeout ⟨w.clock.timer - u.startedAt.timer⟩)) }
    else w
  | .cancel =>
    if u.signal.hasFired w.clock then { w with outcome := some (.error (.cancelled "readiness wait")) } else w

/-- What a move leaves: nothing happens after the report. -/
def move (w : Wait σ) (m : Move σ) : Wait σ := if w.outcome.isSome then w else w.step u m

/-- What several moves leave. -/
def runAll (moves : List (Move σ)) (w : Wait σ) : Wait σ := moves.foldl (move u) w

end Wait

/-! ### What loops do -/

namespace Loop

variable {u : Setting σ} {instant : Nat} {permit : Bool} {s s' : σ} {l l' : Loop}

/-- All that an act can come to. -/
inductive Acted (u : Setting σ) (instant : Nat) (permit : Bool) (l : Loop) (s : σ) : Loop → σ → Prop where
  | still : Acted u instant permit l s l s
  | admitted (queued : l.phase = .queued) (free : permit = true) :
      Acted u instant permit l s { l with phase := .polling } s
  | passed (stamps : Stamps) (meanwhile : List (σ → σ)) {p : Pass} {s' : σ} (polling : l.phase = .polling)
      (run : Pass.run u.backend u.interval l.deployment stamps meanwhile s = (p, s')) :
      Acted u instant permit l s (l.after u instant p) s'
  | woken {wakesAt : Nat} (resting : l.phase = .resting wakesAt) (due : wakesAt ≤ instant) :
      Acted u instant permit l s { l with phase := .queued } s
  | crashed (detail : String) (busy : l.phase.isOver = false) :
      Acted u instant permit l s { l with phase := .failed (.pollFailed detail) } s

/-- Every act of a loop is one of those that are described. -/
theorem acted (a : Act σ) : Acted u instant permit l s (l.act u instant permit s a).1
    (l.act u instant permit s a).2 := by
  cases a with
  | takePermit =>
      rw [act]
      split
      · next possible => exact .admitted possible.1 possible.2
      · exact .still
  | pass stamps meanwhile =>
      rw [act]
      split
      · next polling => exact .passed stamps meanwhile polling rfl
      · exact .still
  | wake =>
      rw [act]
      split
      · next wakesAt resting =>
          dsimp only
          split
          · next due => exact .woken resting due
          · exact .still
      · exact .still
  | crash detail =>
      rw [act]
      dsimp only
      split
      · exact .still
      · next busy => exact .crashed detail (by simpa using busy)

/-- What is always true of a loop: it goes by the verdicts of its passes. -/
structure Sound (u : Setting σ) (l : Loop) : Prop where
  chained : Chained l.entry l.passes l.deployment
  made : ∀ p ∈ l.passes, p.Made u.backend u.interval
  /-- A pass that has failed was the last. -/
  stopped : ∀ p ∈ l.passes, ∀ e, p.verdict = .failed e → l.phase = .failed e
  told : ∀ e, l.phase = .failed e → (∃ p ∈ l.passes, p.verdict = .failed e) ∨ ∃ detail, e = .pollFailed detail
  ready : l.phase = .ready ∨ l.phase = .collected → l.deployment.isReady = true

namespace Sound

/-- A loop that has done nothing yet is sound. -/
theorem start (u : Setting σ) (d : Deployment) : (Loop.start d).Sound u where
  chained := rfl
  made := List.forall_mem_nil _
  stopped := List.forall_mem_nil _
  told _ failed := by cases failed
  ready ended := by rcases ended with h | h <;> cases h

/-- A loop that has not failed may go on to another phase. -/
theorem enter (h : l.Sound u) (going : ∀ e, l.phase ≠ .failed e) {phase : Phase}
    (told : ∀ e, phase = .failed e → ∃ detail, e = .pollFailed detail)
    (ready : phase = .ready ∨ phase = .collected → l.deployment.isReady = true) :
    Sound u { l with phase } where
  chained := h.chained
  made := h.made
  stopped p mem e failed := absurd (h.stopped p mem e failed) (going e)
  told e failed := .inr (told e failed)
  ready := ready

/-- The wait takes the deployment of a loop that is ready. -/
theorem take (h : l.Sound u) (ready : l.phase = .ready) : Sound u { l with phase := .collected } :=
  h.enter (by simp [ready]) nofun fun _ => h.ready (.inl ready)

/-- A pass carries the history on, and the loop goes by its verdict. -/
theorem pass (h : l.Sound u) {p : Pass} (polling : l.phase = .polling) (stamps : Stamps)
    (meanwhile : List (σ → σ))
    (run : Pass.run u.backend u.interval l.deployment stamps meanwhile s = (p, s')) :
    (l.after u instant p).Sound u := by
  have same : p = (Pass.run u.backend u.interval l.deployment stamps meanwhile s).1 := by rw [run]
  have before : p.before = l.deployment := by rw [same]; rfl
  refine ⟨?_, ?_, ?_, ?_, ?_⟩
  · exact Chained.concat (before ▸ h.chained)
  · exact List.forall_mem_append.2 ⟨h.made, List.forall_mem_singleton.2 ⟨stamps, meanwhile, s, before ▸ same⟩⟩
  · refine List.forall_mem_append.2 ⟨fun q mem e failed => ?_, List.forall_mem_singleton.2 fun e failed => ?_⟩
    · cases (h.stopped q mem e failed).symm.trans polling
    · exact phaseAfter_eq_failed.2 failed
  · exact fun e failed => .inl ⟨p, by simp [Loop.after], phaseAfter_eq_failed.1 failed⟩
  · rintro (ready | collected)
    · exact p.ready_of_verdict (phaseAfter_eq_ready.1 ready)
    · exact absurd collected phaseAfter_ne_collected

/-- Every act keeps what is true of a loop. -/
theorem act (h : l.Sound u) (acted : Acted u instant permit l s l' s') : l'.Sound u := by
  cases acted with
  | still => exact h
  | admitted queued =>
      exact h.enter (by simp [queued]) nofun nofun
  | passed stamps meanwhile polling run => exact h.pass polling stamps meanwhile run
  | woken resting => exact h.enter (by simp [resting]) nofun nofun
  | crashed detail busy =>
      refine h.enter (fun e failed => ?_) (fun e same => ⟨detail, (Phase.failed.inj same).symm⟩) nofun
      rw [failed] at busy
      cases busy

end Sound

end Loop

/-! ### What waits report -/

/-- A loop keeps the deployment it was given at first. -/
theorem Loop.Acted.entry {u : Setting σ} {instant : Nat} {permit : Bool} {s s' : σ} {l l' : Loop}
    (acted : Acted u instant permit l s l' s') : l'.entry = l.entry := by
  cases acted <;> rfl

/-- Only the wait takes deployments. -/
theorem Loop.Acted.collected? {u : Setting σ} {instant : Nat} {permit : Bool} {s s' : σ} {l l' : Loop}
    (acted : Acted u instant permit l s l' s') : l'.collected? = l.collected? := by
  cases acted with
  | still => rfl
  | admitted queued => simp [Loop.collected?, queued]
  | passed _ _ polling => simp [Loop.collected?, Loop.after, Loop.phaseAfter_ne_collected, polling]
  | woken resting => simp [Loop.collected?, resting]
  | crashed _ busy =>
      have other : l.phase ≠ .collected := by
        intro same
        rw [same] at busy
        cases busy
      simp [Loop.collected?, other]

/-- A change of one entry that does not show. -/
theorem map_set_of_eq {α β : Type} {f : α → β} {xs : List α} {index : Nat} {x y : α}
    (found : xs[index]? = some x) (same : f y = f x) : (xs.set index y).map f = xs.map f := by
  obtain ⟨inside, rfl⟩ := List.getElem?_eq_some_iff.1 found
  rw [List.map_set, same, ← List.getElem_map f, List.set_getElem_self]
  rwa [List.length_map]

namespace Wait

variable {u : Setting σ} {entries : List Deployment} {w : Wait σ}

/-- All that a wait may report, and when. -/
inductive Reported (u : Setting σ) (w : Wait σ) : Except DeployError (List Deployment) → Prop where
  | ready (all : ∀ l ∈ w.loops, l.phase = .collected) : Reported u w (.ok (w.loops.map Loop.deployment))
  | failed {l : Loop} {error : DeployError} (mem : l ∈ w.loops) (failed : l.phase = .failed error) :
      Reported u w (.error error)
  | timeout (due : u.dueAt ≤ w.clock.timer) :
      Reported u w (.error (.timeout ⟨w.clock.timer - u.startedAt.timer⟩))
  | cancelled (fired : u.signal.hasFired w.clock = true) :
      Reported u w (.error (.cancelled "readiness wait"))

/-- What is always true of a wait. -/
structure Sound (u : Setting σ) (entries : List Deployment) (w : Wait σ) : Prop where
  entries : w.loops.map Loop.entry = entries
  loops : ∀ l ∈ w.loops, l.Sound u
  /-- Each deployment that was taken is at the place of its loop. -/
  ready : w.ready = w.loops.map Loop.collected?
  reported : ∀ outcome, w.outcome = some outcome → Reported u w outcome

namespace Sound

/-- A wait is sound at its beginning. -/
theorem start (u : Setting σ) (entries : List Deployment) (s : σ) :
    (Wait.start u entries s).Sound u entries := by
  refine ⟨?_, ?_, ?_, ?_⟩
  · simp [Wait.start, Loop.start, Function.comp_def]
  · intro l mem
    obtain ⟨d, -, rfl⟩ := List.mem_map.1 mem
    exact .start u d
  · simp [Wait.start, Loop.start, Loop.collected?, Function.comp_def]
  · intro outcome told
    cases entries with
    | nil =>
        obtain rfl := Option.some.inj told
        exact .ready (List.forall_mem_nil _)
    | cons _ _ => cases told

/-- A step of one loop. -/
theorem act (h : w.Sound u entries) (quiet : w.outcome = none) {index : Nat} {l l' : Loop} {s' : σ}
    (found : w.loops[index]? = some l)
    (acted : Loop.Acted u w.clock.timer (w.hasPermit u) l w.backend l' s') :
    Sound u entries { w with backend := s', loops := w.loops.set index l' } where
  entries := (map_set_of_eq found acted.entry).trans h.entries
  loops other mem := by
    rcases List.mem_or_eq_of_mem_set mem with mem | rfl
    · exact h.loops other mem
    · exact (h.loops l (List.mem_of_getElem? found)).act acted
  ready := h.ready.trans (map_set_of_eq found acted.collected?).symm
  reported outcome told := by cases quiet.symm.trans told

/-- The wait takes a deployment that is ready. -/
theorem take (h : w.Sound u entries) (quiet : w.outcome = none) {index : Nat} {l : Loop}
    (found : w.loops[index]? = some l) (ready : l.phase = .ready) :
    Sound u entries { w with
      loops := w.loops.set index { l with phase := .collected }
      ready := w.ready.set index (some l.deployment) } where
  entries := by
    refine Eq.trans ?_ h.entries
    exact map_set_of_eq found rfl
  loops other mem := by
    rcases List.mem_or_eq_of_mem_set mem with mem | rfl
    · exact h.loops other mem
    · exact (h.loops l (List.mem_of_getElem? found)).take ready
  ready := by
    dsimp only
    rw [h.ready, List.map_set]
    rfl
  reported outcome told := by cases quiet.symm.trans told

/-- A report ends the wait. -/
theorem report (h : w.Sound u entries) {outcome : Except DeployError (List Deployment)}
    (reported : Reported u w outcome) : Sound u entries { w with outcome := some outcome } where
  entries := h.entries
  loops := h.loops
  ready := h.ready
  reported outcome' told := by
    obtain rfl := Option.some.inj told
    -- What a report rests on does not look at the report.
    cases reported with
    | ready all => exact .ready all
    | failed mem failed => exact .failed mem failed
    | timeout due => exact .timeout due
    | cancelled fired => exact .cancelled fired

/-- When all deployments were taken, they are reported in their order. -/
theorem finish_eq (h : w.Sound u entries) (all : ∀ l ∈ w.loops, l.phase = .collected) :
    w.step u .finish = { w with outcome := some (.ok (w.loops.map Loop.deployment)) } := by
  have taken : w.ready.filterMap id = w.loops.map Loop.deployment := by
    rw [h.ready, List.filterMap_map, List.filterMap_eq_map_iff_forall_eq_some]
    exact fun l mem => if_pos (all l mem)
  rw [Wait.step, if_pos (by simpa using all), taken]

/-- Every move of a wait keeps it sound. -/
theorem step (h : w.Sound u entries) (quiet : w.outcome = none) (m : Move σ) :
    (w.step u m).Sound u entries := by
  cases m with
  | elapse ms => exact ⟨h.entries, h.loops, h.ready, fun _ told => by cases quiet.symm.trans told⟩
  | disturb change => exact ⟨h.entries, h.loops, h.ready, fun _ told => by cases quiet.symm.trans told⟩
  | act index a =>
      rw [Wait.step]
      split
      · next l found => exact h.act quiet found (Loop.acted a)
      · exact h
  | collect index =>
      rw [Wait.step]
      split
      · next l found =>
          split
          · next ready => exact h.take quiet found ready
          · next failed => exact h.report (.failed (List.mem_of_getElem? found) failed)
          · exact h
      · exact h
  | finish =>
      by_cases all : ∀ l ∈ w.loops, l.phase = .collected
      · rw [h.finish_eq all]
        exact h.report (.ready all)
      · rw [Wait.step, if_neg (by simpa using all)]
        exact h
  | timeout =>
      rw [Wait.step]
      split
      · next due => exact h.report (.timeout due)
      · exact h
  | cancel =>
      rw [Wait.step]
      split
      · next fired => exact h.report (.cancelled fired)
      · exact h

/-- Every move keeps what is true of a wait. -/
theorem move (h : w.Sound u entries) (m : Move σ) : (w.move u m).Sound u entries := by
  rw [Wait.move]
  split
  · exact h
  · next quiet => exact h.step (by simpa using quiet) m

theorem runAll (h : w.Sound u entries) (moves : List (Move σ)) : (w.runAll u moves).Sound u entries := by
  induction moves generalizing w with
  | nil => exact h
  | cons m rest ih => exact ih (h.move m)

end Sound

/-! ### What every move keeps of each loop -/

/-- All that a move can do to the loops: one of them acts, or is taken. -/
theorem loops_step (u : Setting σ) (w : Wait σ) (m : Move σ) :
    (w.step u m).loops = w.loops ∨ ∃ index l l', w.loops[index]? = some l ∧
      (w.step u m).loops = w.loops.set index l' ∧
        ((∃ s', Loop.Acted u w.clock.timer (w.hasPermit u) l w.backend l' s') ∨
          l.phase = .ready ∧ l' = { l with phase := .collected }) := by
  cases m with
  | act index a =>
      rw [Wait.step]
      split
      · next l found => exact .inr ⟨index, l, _, found, rfl, .inl ⟨_, Loop.acted a⟩⟩
      · exact .inl rfl
  | collect index =>
      rw [Wait.step]
      split
      · next l found =>
          split
          · next ready => exact .inr ⟨index, l, _, found, rfl, .inr ⟨ready, rfl⟩⟩
          · exact .inl rfl
          · exact .inl rfl
      · exact .inl rfl
  | elapse => exact .inl rfl
  | disturb => exact .inl rfl
  | finish =>
      rw [Wait.step]
      split <;> exact .inl rfl
  | timeout =>
      rw [Wait.step]
      split <;> exact .inl rfl
  | cancel =>
      rw [Wait.step]
      split <;> exact .inl rfl

/-- Something is kept of a loop by all that can happen to it. -/
structure Keeps (u : Setting σ) (P : Loop → Prop) : Prop where
  act : ∀ {l l' : Loop} {instant : Nat} {permit : Bool} {s s' : σ}, P l →
    Loop.Acted u instant permit l s l' s' → P l'
  take : ∀ {l : Loop}, P l → l.phase = .ready → P { l with phase := .collected }

namespace Keeps

variable {P : Loop → Prop}

/-- What every act keeps of a loop, every move keeps of all loops of the wait. -/
theorem step (keeps : Keeps u P) (each : ∀ l ∈ w.loops, P l) (m : Move σ) :
    ∀ l ∈ (w.step u m).loops, P l := by
  rcases loops_step u w m with same | ⟨index, l, l', found, same, changed⟩
  · exact same ▸ each
  · intro other mem
    rw [same] at mem
    have before := each l (List.mem_of_getElem? found)
    rcases List.mem_or_eq_of_mem_set mem with mem | rfl
    · exact each other mem
    · rcases changed with ⟨s', acted⟩ | ⟨ready, rfl⟩
      · exact keeps.act before acted
      · exact keeps.take before ready

theorem runAll (keeps : Keeps u P) (each : ∀ l ∈ w.loops, P l) (moves : List (Move σ)) :
    ∀ l ∈ (w.runAll u moves).loops, P l := by
  induction moves generalizing w with
  | nil => exact each
  | cons m rest ih =>
      refine ih ?_
      rw [Wait.move]
      split
      · exact each
      · exact keeps.step each m

end Keeps

end Wait

end Polling

end Testbed
