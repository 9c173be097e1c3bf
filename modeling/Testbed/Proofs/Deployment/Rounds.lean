import Mathlib.Data.List.Forall2
import Testbed.Deployment.Backend.Script
import Testbed.Proofs.Deployment.Polling

/-!
What is reported of deployments that are waited for.

In whatever order the loops of a wait take their steps, its report is true of the passes that were made.
`Readiness.await` polls in rounds, where each loop takes its permit, passes and gives the permit back before
the next one does.  This is one of the orders, and so the report of `await` is true as well.
-/

namespace Testbed

variable {σ : Type}

namespace Script

/-- A script answers with errors only that do not end a wait. -/
theorem endsWait_of_answer {call : String} {r : Resource} {s : Script} {e : DeployError}
    (h : (s.answer call r).1 = .error e) : e.endsWait = false := by
  simp only [answer] at h
  split at h <;> cases h <;> rfl

/-- A script has no answers by which a wait ends. -/
theorem backend_plain : backend.Plain where
  observe r s e h := endsWait_of_answer h
  delete r s e h := by
    cases answered : (s.answer "delete" r).1 with
    | ok o => simp [backend, acknowledge, answered, Except.map] at h
    | error e' =>
        obtain rfl : e' = e := by simpa [backend, acknowledge, answered, Except.map] using h
        exact endsWait_of_answer answered

end Script

/-- The error of a verdict. -/
def Readiness.Verdict.error? : Readiness.Verdict → Option DeployError
  | .failed error => some error
  | _ => none

namespace Polling

open Reconciler

variable {u : Setting σ} {entries : List Deployment} {w w' w'' : Wait σ}

/-! ### Rounds are one of the orders -/

/-- Some moves lead from one moment of a wait to another. -/
def Leads (u : Setting σ) (w w' : Wait σ) : Prop := ∃ moves, w.runAll u moves = w'

namespace Leads

theorem refl (w : Wait σ) : Leads u w w := ⟨[], rfl⟩

/-- Moves that follow each other lead from the first wait to the last. -/
theorem trans (one : Leads u w w') (two : Leads u w' w'') : Leads u w w'' := by
  obtain ⟨moves, rfl⟩ := one
  obtain ⟨others, rfl⟩ := two
  exact ⟨moves ++ others, List.foldl_append⟩

/-- One move leads from an undecided wait to the next. -/
theorem step (quiet : w.outcome = none) (m : Move σ) : Leads u w (w.step u m) := by
  refine ⟨[m], ?_⟩
  simp [Wait.runAll, Wait.move, quiet]

/-- Time goes on. -/
theorem advance (quiet : w.outcome = none) (instant : Nat) :
    Leads u w { w with clock := w.clock.advanceTo instant } :=
  .step quiet (.elapse (instant - w.clock.timer))

/-- What a sound wait leads to is sound. -/
theorem sound (h : Leads u w w') (sound : w.Sound u entries) : w'.Sound u entries := by
  obtain ⟨moves, rfl⟩ := h
  exact sound.runAll moves

end Leads

section Place

variable {done rest : List Loop} {l : Loop}

/-- A move of one loop leaves the loops before and after it. -/
theorem step_act (here : w.loops = done ++ l :: rest) (a : Act σ) :
    w.step u (.act done.length a) = { w with
      backend := (l.act u w.clock.timer (w.hasPermit u) w.backend a).2
      loops := done ++ (l.act u w.clock.timer (w.hasPermit u) w.backend a).1 :: rest } := by
  simp [Wait.step, here]

/-- A loop takes its permit and makes its pass, while no other pass is under way. -/
theorem leads_pass (quiet : w.outcome = none) (calm : ∀ l ∈ w.loops, l.phase ≠ .polling)
    (here : w.loops = done ++ l :: rest) (queued : l.phase = .queued) (stamps : Stamps) :
    Leads u w { w with
      backend := (Pass.run u.backend u.interval l.deployment stamps [] w.backend).2
      loops := done ++
        l.after u w.clock.timer (Pass.run u.backend u.interval l.deployment stamps [] w.backend).1 ::
          rest } := by
  have permit : w.hasPermit u = true := by
    have none_polls : w.loops.countP (·.phase = .polling) = 0 := by
      simpa [List.countP_eq_zero] using calm
    rw [Wait.hasPermit, none_polls, decide_eq_true_iff]
    omega
  have admitted : w.step u (.act done.length .takePermit) =
      { w with loops := done ++ { l with phase := .polling } :: rest } := by
    rw [step_act here, Loop.act, if_pos ⟨queued, permit⟩]
  have first := Leads.step (u := u) quiet (.act done.length .takePermit)
  rw [admitted] at first
  have second := Leads.step (u := u)
    (w := { w with loops := done ++ { l with phase := .polling } :: rest }) quiet
    (.act done.length (.pass stamps []))
  rw [step_act rfl, Loop.act, if_pos rfl] at second
  exact first.trans second

end Place

/-- How a loop stands for a deployment of a round: it is ready, or in the phase of those that are not. -/
structure At (idle : Phase) (t : Readiness.Watched) (l : Loop) : Prop where
  deployment : l.deployment = t.deployment
  phase : l.phase = if t.ready then .ready else idle

/-- A poll is a pass that nobody disturbs, with its verdict. -/
theorem poll_eq (b : Backend σ) (interval : Nat) (d : Deployment) (stamps : Stamps) (s : σ) :
    Readiness.poll (service b interval) d stamps s = ((Pass.run b interval d stamps [] s).1.verdict,
      (Pass.run b interval d stamps [] s).1.after, (Pass.run b interval d stamps [] s).2) := by
  obtain ⟨result, after, state⟩ := process_alike b.undisturbed_simulates interval d stamps
    (t := ((s, []), [])) (s := s) rfl
  have run : Pass.run b interval d stamps [] s =
      (⟨d, (process b interval d stamps s).1, (process b interval d stamps s).2.1,
        (process b.amid.recorded interval d stamps ((s, []), [])).2.2.2⟩, (process b interval d stamps s).2.2) := by
    rw [← result, ← after, ← show _ = (process b interval d stamps s).2.2 from congrArg Prod.fst state]
    rfl
  rw [run, Readiness.poll]
  simp only [service, Pass.verdict]
  cases (process b interval d stamps s).1 <;> rfl

/-- The error of a verdict is that of its failure. -/
theorem error?_eq_some {v : Readiness.Verdict} {e : DeployError} : v.error? = some e ↔ v = .failed e := by
  cases v <;> simp [Readiness.Verdict.error?]

/-- A loop whose pass has not failed is ready or rests for the poll interval. -/
theorem phaseAfter_of_not_failed {v : Readiness.Verdict} (h : v.error? = none) {pollInterval : Duration}
    {instant : Nat} : Loop.phaseAfter pollInterval instant v =
      if decide (v = .ready) = true then .ready else .resting (instant + pollInterval.ms) := by
  cases v with
  | failed => cases h
  | _ => rfl

section Round

variable {svc : DeploymentService σ} {now : UInt64} {t : Readiness.Watched} {rest : List Readiness.Watched}
  {s : σ}

/-- A round does nothing to a deployment that is ready. -/
theorem round_of_ready (ready : t.ready = true) :
    Readiness.round svc now (t :: rest) s = ((Readiness.round svc now rest s).1,
      t :: (Readiness.round svc now rest s).2.1, (Readiness.round svc now rest s).2.2) := by
  rw [Readiness.round, if_pos ready]

/-- The error of a round is that of the first deployment that has failed. -/
theorem round_of_not_ready (notReady : t.ready = false) {v : Readiness.Verdict} {d : Deployment} {s' : σ}
    (polled : Readiness.poll svc t.deployment (.still now) s = (v, d, s')) :
    Readiness.round svc now (t :: rest) s =
      (v.error?.or (Readiness.round svc now rest s').1,
        ⟨d, v = .ready⟩ :: (Readiness.round svc now rest s').2.1, (Readiness.round svc now rest s').2.2) := by
  rw [Readiness.round, if_neg (by simp [notReady]), polled]
  cases v <;> simp [Readiness.Verdict.error?]

end Round

/-- A round in which nothing has failed leaves each loop ready or at rest; otherwise some loop has the error
that the round reports. -/
theorem leads_round {watched : List Readiness.Watched} {loops : List Loop}
    (each : List.Forall₂ (At .queued) watched loops) {done : List Loop} (here : w.loops = done ++ loops)
    (quiet : w.outcome = none) (calm : ∀ l ∈ w.loops, l.phase ≠ .polling) :
    let after := Readiness.round (service u.backend u.interval) w.clock.stamp watched w.backend
    ∃ loops', Leads u w { w with backend := after.2.2, loops := done ++ loops' } ∧
      (after.1 = none → List.Forall₂ (At (.resting (w.clock.timer + u.options.pollInterval.ms)))
        after.2.1 loops') ∧
      ∀ e, after.1 = some e → ∃ l ∈ loops', l.phase = .failed e := by
  induction each generalizing done w with
  | nil => exact ⟨[], here ▸ .refl w, fun _ => .nil, nofun⟩
  | @cons t l rest ls stands others ih =>
      cases ready : t.ready with
      | true =>
          have phase : l.phase = .ready := by rw [stands.phase, if_pos ready]
          have next : w.loops = (done ++ [l]) ++ ls := by simp [here]
          obtain ⟨loops', leads, fine, failed⟩ := ih next quiet calm
          dsimp only
          rw [round_of_ready ready]
          refine ⟨l :: loops', by simpa using leads, ?_, ?_⟩
          · exact fun noError => .cons ⟨stands.deployment, by rw [phase, if_pos ready]⟩ (fine noError)
          · intro e error
            obtain ⟨l', mem, told⟩ := failed e error
            exact ⟨l', List.mem_cons_of_mem _ mem, told⟩
      | false =>
          have queued : l.phase = .queued := by rw [stands.phase, if_neg (by simp [ready])]
          have polled := poll_eq u.backend u.interval t.deployment w.clock.stamp w.backend
          have pass := leads_pass (u := u) quiet calm here queued w.clock.stamp
          rw [stands.deployment] at pass
          revert polled pass
          generalize Pass.run u.backend u.interval t.deployment w.clock.stamp [] w.backend = run
          obtain ⟨p, s'⟩ := run
          intro polled pass
          let new := l.after u w.clock.timer p
          have calmly : ∀ l ∈ done ++ new :: ls, l.phase ≠ .polling := by
            rw [here] at calm
            simp only [List.forall_mem_append, List.forall_mem_cons] at calm ⊢
            exact ⟨calm.1, Loop.phaseAfter_ne_polling, calm.2.2⟩
          obtain ⟨loops', leads, fine, failed⟩ :=
            ih (w := { w with backend := s', loops := done ++ new :: ls })
              (show done ++ new :: ls = (done ++ [new]) ++ ls by simp) quiet calmly
          dsimp only at leads fine failed ⊢
          rw [round_of_not_ready ready polled]
          refine ⟨new :: loops', pass.trans (by simpa using leads), ?_, ?_⟩
          · intro noError
            obtain ⟨notFailed, noOther⟩ := Option.or_eq_none_iff.1 noError
            exact .cons ⟨rfl, phaseAfter_of_not_failed notFailed⟩ (fine noOther)
          · intro e error
            rcases Option.or_eq_some_iff.1 error with first | ⟨-, later⟩
            · exact ⟨new, List.mem_cons_self, Loop.phaseAfter_eq_failed.2 (error?_eq_some.1 first)⟩
            · obtain ⟨l', mem, told⟩ := failed e later
              exact ⟨l', List.mem_cons_of_mem _ mem, told⟩

/-- After the pause, the loops that are not ready wait for their permits again. -/
theorem leads_wake {instant : Nat} {watched : List Readiness.Watched} {loops : List Loop}
    (each : List.Forall₂ (At (.resting instant)) watched loops) {done : List Loop}
    (here : w.loops = done ++ loops) (quiet : w.outcome = none) (due : instant ≤ w.clock.timer) :
    ∃ loops', Leads u w { w with loops := done ++ loops' } ∧
      List.Forall₂ (At .queued) watched loops' := by
  induction each generalizing done w with
  | nil => exact ⟨[], here ▸ .refl w, .nil⟩
  | @cons t l rest ls stands others ih =>
      cases ready : t.ready with
      | true =>
          have next : w.loops = (done ++ [l]) ++ ls := by simp [here]
          obtain ⟨loops', leads, queued⟩ := ih next quiet due
          refine ⟨l :: loops', by simpa using leads, .cons ⟨stands.deployment, ?_⟩ queued⟩
          rw [stands.phase, if_pos ready, if_pos ready]
      | false =>
          have resting : l.phase = .resting instant := by rw [stands.phase, if_neg (by simp [ready])]
          let new := { l with phase := .queued }
          have woken : w.step u (.act done.length .wake) = { w with loops := done ++ new :: ls } := by
            rw [step_act here]
            simp [Loop.act, resting, due, new]
          have first := Leads.step (u := u) quiet (.act done.length .wake)
          rw [woken] at first
          obtain ⟨loops', leads, queued⟩ := ih (w := { w with loops := done ++ new :: ls })
            (show done ++ new :: ls = (done ++ [new]) ++ ls by simp) quiet due
          refine ⟨new :: loops', first.trans (by simpa using leads), .cons ⟨stands.deployment, ?_⟩ queued⟩
          rw [if_neg (by simp [ready])]

/-- A pause is long enough for all loops to wake up. -/
theorem leads_pause {watched : List Readiness.Watched}
    (each : List.Forall₂ (At (.resting (w.clock.timer + u.options.pollInterval.ms))) watched w.loops)
    (quiet : w.outcome = none) :
    ∃ loops', Leads u w { w with clock := w.clock.pause (Readiness.pauseOf u.options), loops := loops' } ∧
      List.Forall₂ (At .queued) watched loops' := by
  have due : w.clock.timer + u.options.pollInterval.ms ≤
      (w.clock.pause (Readiness.pauseOf u.options)).timer := by
    simp only [Clock.pause, Readiness.pauseOf]
    omega
  obtain ⟨loops', wakes, queued⟩ := leads_wake (u := u)
    (w := { w with clock := w.clock.pause (Readiness.pauseOf u.options) })
    each (List.nil_append _).symm (by exact quiet) due
  exact ⟨loops', (Leads.step quiet (.elapse (Readiness.pauseOf u.options))).trans wakes, queued⟩

/-- The deployments of ready loops are taken one after the other. -/
theorem leads_collect {loops : List Loop} (ready : ∀ l ∈ loops, l.phase = .ready) {done : List Loop}
    (here : w.loops = done ++ loops) (quiet : w.outcome = none) :
    ∃ loops' slots, Leads u w { w with loops := done ++ loops', ready := slots } ∧
      (∀ l ∈ loops', l.phase = .collected) ∧ loops'.map Loop.deployment = loops.map Loop.deployment := by
  induction loops generalizing done w with
  | nil => exact ⟨[], w.ready, here ▸ .refl w, List.forall_mem_nil _, rfl⟩
  | cons l ls ih =>
      obtain ⟨first, others⟩ := List.forall_mem_cons.1 ready
      let new := { l with phase := .collected }
      let slots := w.ready.set done.length (some l.deployment)
      have taken : w.step u (.collect done.length) =
          { w with loops := done ++ new :: ls, ready := slots } := by
        simp [Wait.step, here, first, new, slots]
      have one := Leads.step (u := u) quiet (.collect done.length)
      rw [taken] at one
      obtain ⟨loops', slots', leads, collected, same⟩ :=
        ih (w := { w with loops := done ++ new :: ls, ready := slots }) others
          (show done ++ new :: ls = (done ++ [new]) ++ ls by simp) quiet
      refine ⟨new :: loops', slots', one.trans (by simpa using leads), ?_, ?_⟩
      · exact List.forall_mem_cons.2 ⟨rfl, collected⟩
      · rw [List.map_cons, List.map_cons, same]

section Forall₂

variable {idle : Phase} {watched : List Readiness.Watched} {loops : List Loop}

/-- Between two rounds every loop is ready or in the phase they all wait in. -/
theorem phase_of_forall₂ (each : List.Forall₂ (At idle) watched loops) {l : Loop} (mem : l ∈ loops) :
    l.phase = .ready ∨ l.phase = idle := by
  induction each with
  | nil => cases mem
  | @cons t l' rest ls stands others ih =>
      rcases List.mem_cons.1 mem with rfl | mem
      · rw [stands.phase]
        cases t.ready <;> simp
      · exact ih mem

/-- If all that is watched is ready, so are all loops, with the same deployments. -/
theorem ready_of_forall₂ (each : List.Forall₂ (At idle) watched loops)
    (all : watched.all (·.ready) = true) :
    (∀ l ∈ loops, l.phase = .ready) ∧ loops.map Loop.deployment = watched.map (·.deployment) := by
  induction each with
  | nil => exact ⟨List.forall_mem_nil _, rfl⟩
  | @cons t l rest ls stands others ih =>
      rw [List.all_cons, Bool.and_eq_true] at all
      obtain ⟨ready, same⟩ := ih all.2
      refine ⟨List.forall_mem_cons.2 ⟨by rw [stands.phase, if_pos all.1], ready⟩, ?_⟩
      rw [List.map_cons, List.map_cons, same, stands.deployment]

end Forall₂

/-- The wait comes to an end with a report, a time and a state of the backend. -/
def Ends (u : Setting σ) (w : Wait σ) (result : Except DeployError (List Deployment) × Clock × σ) : Prop :=
  ∃ w', Leads u w w' ∧ w'.outcome = some result.1 ∧ w'.clock = result.2.1 ∧ w'.backend = result.2.2

/-- If moves lead to a wait that ends with a result, the wait they began with can end with it. -/
theorem Leads.ends {result : Except DeployError (List Deployment) × Clock × σ} (leads : Leads u w w')
    (ends : Ends u w' result) : Ends u w result := by
  obtain ⟨last, more, reported⟩ := ends
  exact ⟨last, leads.trans more, reported⟩

/-- A wait whose loops are all ready ends with their deployments. -/
theorem ends_ready (sound : w.Sound u entries) (quiet : w.outcome = none)
    (ready : ∀ l ∈ w.loops, l.phase = .ready) :
    Ends u w (.ok (w.loops.map Loop.deployment), w.clock, w.backend) := by
  obtain ⟨loops', slots, leads, collected, same⟩ :=
    leads_collect (u := u) ready (List.nil_append _).symm quiet
  rw [List.nil_append] at leads
  refine leads.ends ⟨_, .step (by exact quiet) .finish, ?_⟩
  rw [(leads.sound sound).finish_eq collected, ← same]
  exact ⟨rfl, rfl, rfl⟩

/-- A wait ends with the error of a loop that has failed. -/
theorem ends_failed (quiet : w.outcome = none) {l : Loop} (mem : l ∈ w.loops) {e : DeployError}
    (failed : l.phase = .failed e) : Ends u w (.error e, w.clock, w.backend) := by
  obtain ⟨index, found⟩ := List.getElem?_of_mem mem
  refine ⟨_, .step quiet (.collect index), ?_⟩
  simp [Wait.step, found, failed]

/-- A signal that fires by some instant ends the wait when it fires. -/
theorem ends_cancelled (quiet : w.outcome = none) {limit instant : Nat}
    (fires : u.signal.interrupts limit = some instant) :
    Ends u w (.error (.cancelled "readiness wait"), w.clock.advanceTo instant, w.backend) := by
  have fired : u.signal.hasFired (w.clock.advanceTo instant) = true := by
    obtain ⟨at_instant, -⟩ := Option.filter_eq_some_iff.1 fires
    have reached : instant ≤ (w.clock.advanceTo instant).timer := by
      simp only [Clock.advanceTo, Clock.pause]
      omega
    simp [Signal.hasFired, Signal.interrupts, at_instant, reached]
  refine (Leads.advance quiet instant).ends ⟨_, .step (by exact quiet) .cancel, ?_⟩
  simp [Wait.step, fired]

/-- A wait whose time has run out ends with a timeout. -/
theorem ends_timeout (quiet : w.outcome = none) (early : w.clock.timer ≤ u.dueAt) :
    Ends u w (.error (.timeout u.options.deadline), w.clock.advanceTo u.dueAt, w.backend) := by
  have now : (w.clock.advanceTo u.dueAt).timer = u.dueAt := by
    simp only [Clock.advanceTo, Clock.pause]
    omega
  have waited : u.dueAt - u.startedAt.timer = u.options.deadline.ms := by
    rw [Setting.dueAt]
    omega
  refine (Leads.advance quiet u.dueAt).ends ⟨_, .step (by exact quiet) .timeout, ?_⟩
  simp [Wait.step, now, waited]

/-- Polling in rounds is one of the orders in which loops take their steps. -/
theorem ends_watch {w : Wait σ} (watched : List Readiness.Watched) (sound : w.Sound u entries)
    (quiet : w.outcome = none) (each : List.Forall₂ (At .queued) watched w.loops) (early : w.clock.timer ≤ u.dueAt) :
    Ends u w (Readiness.watch (service u.backend u.interval) u.options u.signal u.dueAt watched
      w.clock w.backend) := by
  have calm : ∀ l ∈ w.loops, l.phase ≠ .polling := by
    intro l mem
    rcases phase_of_forall₂ each mem with phase | phase <;> simp [phase]
  obtain ⟨loops', leads, fine, failed⟩ := leads_round (u := u) each (List.nil_append _).symm quiet calm
  rw [Readiness.watch]
  revert leads fine failed
  generalize Readiness.round (service u.backend u.interval) w.clock.stamp watched w.backend = after
  obtain ⟨error, rest, t⟩ := after
  intro leads fine failed
  cases error with
  | some e =>
      obtain ⟨l, mem, phase⟩ := failed e rfl
      exact leads.ends (ends_failed (by exact quiet) mem phase)
  | none =>
      dsimp only
      split
      · next all =>
          obtain ⟨ready, same⟩ := ready_of_forall₂ (fine rfl) all
          rw [← same]
          exact leads.ends (ends_ready (leads.sound sound) (by exact quiet) ready)
      · split
        · next instant fires => exact leads.ends (ends_cancelled (by exact quiet) fires)
        · split
          · exact leads.ends (ends_timeout (by exact quiet) early)
          · next later =>
              obtain ⟨loops'', paused, queued⟩ := leads_pause (u := u)
                (w := { w with backend := t, loops := loops' }) (fine rfl) (by exact quiet)
              have onward := leads.trans paused
              have soon : (w.clock.pause (Readiness.pauseOf u.options)).timer ≤ u.dueAt := by
                simp only [Clock.pause]
                omega
              exact onward.ends (ends_watch rest (onward.sound sound) (by exact quiet) queued soon)
termination_by u.dueAt - w.clock.timer
decreasing_by
  simp only [Clock.pause, Readiness.pauseOf, List.nil_append] at *
  omega

/-- Waiting for deployments is one of the orders in which their loops take their steps. -/
theorem ends_await (u : Setting σ) (entries : List Deployment) (s : σ) :
    Ends u (.start u entries s)
      (Readiness.await (service u.backend u.interval) u.options u.signal entries u.startedAt s) := by
  rw [Readiness.await]
  split
  · next nothing => exact ⟨_, .refl _, if_pos nothing, rfl, rfl⟩
  · next something =>
      have quiet : (Wait.start u entries s).outcome = none := if_neg something
      split
      · next fired =>
          refine ⟨_, .step quiet .cancel, ?_⟩
          simp [Wait.step, Wait.start, fired]
      · split
        · next noTime =>
            have now : u.startedAt.advanceTo u.dueAt = u.startedAt := by
              simp [Clock.advanceTo, Clock.pause, Setting.dueAt, noTime]
            have ended := ends_timeout (u := u) quiet (Nat.le_add_right _ _)
            rwa [show (Wait.start u entries s).clock = u.startedAt from rfl, now] at ended
        · have each : List.Forall₂ (At .queued) (entries.map (⟨·, false⟩)) (entries.map .start) := by
            rw [List.forall₂_map_left_iff, List.forall₂_map_right_iff, List.forall₂_same]
            exact fun d _ => ⟨rfl, rfl⟩
          exact ends_watch _ (.start u entries s) quiet each (Nat.le_add_right _ _)

/-! ### Reports are true -/

/-- A success is true of the passes that were made. -/
structure Confirmed (entries : List Deployment) (loops : List Loop) (result : List Deployment) : Prop where
  length : result.length = entries.length
  ids : result.map Deployment.id = entries.map Deployment.id
  last : result = loops.map Loop.deployment
  ready : ∀ d ∈ result, ∀ r ∈ d.resources, r.status = .ready
  /-- What was being created was seen to be ready. -/
  seen : ∀ l ∈ loops, ∀ (position : Nat) r, l.entry.resources[position]? = some r →
    r.status = .creating → ∃ p ∈ l.passes, p.SeesReady position
  quiet : ∀ l ∈ loops, ∀ p ∈ l.passes, p.Quiet

/-- What a wait reports is true of the passes that were made, of its clock and of its signal. -/
structure Truthful (u : Setting σ) (entries : List Deployment) (w : Wait σ) : Prop where
  loops : w.loops.map Loop.entry = entries
  chained : ∀ l ∈ w.loops, Chained l.entry l.passes l.deployment
  made : ∀ l ∈ w.loops, ∀ p ∈ l.passes, p.Made u.backend u.interval
  ready : ∀ result, w.outcome = some (.ok result) → Confirmed entries w.loops result
  degraded : ∀ deployment resource, w.outcome = some (.error (.degraded deployment resource)) →
    ∃ l ∈ w.loops, ∃ p ∈ l.passes, ∃ r,
      l.entry.id = deployment ∧ p.after.degraded? = some r ∧ r.name = resource
  /-- A degraded resource counts, also when the pass that found it has come to a transient error. -/
  stopped : ∀ l ∈ w.loops, ∀ p ∈ l.passes, ∀ r, p.after.degraded? = some r →
    (∀ e, p.result = .error e → e.isTransient = true) → l.phase = .failed (.degraded l.entry.id r.name)
  timeout : ∀ waited, w.outcome = some (.error (.timeout waited)) →
    u.startedAt.timer + u.options.deadline.ms ≤ w.clock.timer
  cancelled : ∀ what, w.outcome = some (.error (.cancelled what)) → u.signal.hasFired w.clock = true

/-- A wait that has collected every loop confirms what the passes have seen. -/
theorem confirmed_of_sound (sound : w.Sound u entries) (all : ∀ l ∈ w.loops, l.phase = .collected) :
    Confirmed entries w.loops (w.loops.map Loop.deployment) := by
  have ready : ∀ l ∈ w.loops, ∀ r ∈ l.deployment.resources, r.status = .ready := by
    intro l mem
    have shown := (sound.loops l mem).ready (.inr (all l mem))
    simpa [Deployment.isReady] using shown
  refine ⟨?_, ?_, rfl, ?_, ?_, ?_⟩
  · rw [← sound.entries, List.length_map, List.length_map]
  · rw [← sound.entries, List.map_map, List.map_map]
    exact List.map_congr_left fun l mem =>
      ((sound.loops l mem).chained.id_eq (sound.loops l mem).made).1
  · intro d mem
    obtain ⟨l, listed, rfl⟩ := List.mem_map.1 mem
    exact ready l listed
  · intro l mem position r found creating
    have loop := sound.loops l mem
    rcases ready_of_chained loop.chained loop.made (ready l mem) found with before | seen
    · cases creating.symm.trans before
    · exact seen
  · intro l mem p made
    apply Pass.quiet_of_verdict
    intro e failed
    cases ((sound.loops l mem).stopped p made e failed).symm.trans (all l mem)

/-- An error with which a loop has failed was shown by one of its passes, or its task came to grief. -/
theorem told_of_sound (plain : u.backend.Plain) {l : Loop} (sound : l.Sound u) {e : DeployError}
    (failed : l.phase = .failed e) :
    (∃ p ∈ l.passes, ∃ r, p.after.degraded? = some r ∧ e = .degraded l.entry.id r.name) ∨
      e.isTransient = false ∧ e.endsWait = false := by
  rcases sound.told e failed with ⟨p, made, shown⟩ | ⟨detail, rfl⟩
  · rcases Pass.told_of_verdict shown with ⟨result, lasting⟩ | ⟨r, degraded, rfl⟩
    · exact .inr ⟨lasting, (sound.made p made).error plain result⟩
    · rw [(sound.chained.id_eq sound.made).2 p made]
      exact .inl ⟨p, made, r, degraded, rfl⟩
  · exact .inr ⟨rfl, rfl⟩

/-- Over a backend that fails plainly, a sound wait reports nothing but the truth. -/
theorem truthful_of_sound (plain : u.backend.Plain) (sound : w.Sound u entries) :
    Truthful u entries w := by
  refine ⟨sound.entries, fun l mem => (sound.loops l mem).chained, fun l mem => (sound.loops l mem).made,
    ?_, ?_, ?_, ?_, ?_⟩
  · intro result reported
    cases sound.reported _ reported with
    | ready all => exact confirmed_of_sound sound all
  · intro deployment resource reported
    cases sound.reported _ reported with
    | failed mem failed =>
        rcases told_of_sound plain (sound.loops _ mem) failed with ⟨p, made, r, degraded, same⟩ | ⟨-, other⟩
        · obtain ⟨rfl, rfl⟩ := DeployError.degraded.inj same
          exact ⟨_, mem, p, made, r, rfl, degraded, rfl⟩
        · cases other
  · intro l mem p made r degraded transient
    have loop := sound.loops l mem
    rw [← (loop.chained.id_eq loop.made).2 p made]
    exact loop.stopped p made _ (Pass.verdict_of_degraded degraded transient)
  · intro waited reported
    cases sound.reported _ reported with
    | timeout due => exact due
    | failed mem failed =>
        rcases told_of_sound plain (sound.loops _ mem) failed with ⟨_, _, _, _, same⟩ | ⟨lasting, -⟩
        · cases same
        · cases lasting
  · intro what reported
    cases sound.reported _ reported with
    | cancelled fired => exact fired
    | failed mem failed =>
        rcases told_of_sound plain (sound.loops _ mem) failed with ⟨_, _, _, _, same⟩ | ⟨-, other⟩
        · cases same
        · cases other

/-- In every order in which the loops may take their steps, and whatever others do to the backend, a wait
reports the truth; and waiting in rounds is one of these orders. -/
theorem waits_report_the_truth (u : Setting σ) (plain : u.backend.Plain) (entries : List Deployment)
    (s : σ) :
    (∀ moves, Truthful u entries ((Wait.start u entries s).runAll u moves)) ∧
      Ends u (.start u entries s)
        (Readiness.await (service u.backend u.interval) u.options u.signal entries u.startedAt s) :=
  ⟨fun moves => truthful_of_sound plain ((Wait.Sound.start u entries s).runAll moves),
    ends_await u entries s⟩

/-- Of two deployments that are polled at the same time, the second is ready first.  The first cannot be
observed at once; its machine is seen to be ready then, and its network after a pause. -/
theorem second_deployment_ready_first :
    let up : ScriptedAnswer := .succeeds ⟨true, true, none⟩
    let script := Script.new (.ofList [("observe network-bench", [.backendFails, up]),
      ("observe vm-0", [up]), ("observe network-spare", [up])])
    let spare : DeploymentTemplate :=
      ⟨⟨"d2", "spare", .docker⟩, ⟨⟨"d2-net", "spare", .docker⟩, "172.29.0.0/24", []⟩, [], .empty⟩
    let entries := [Deployment.new oneMachine (.still 0), .new spare (.still 0)]
    let u : Setting Script := ⟨Script.backend, 60000, ⟨⟨10⟩, ⟨1000⟩, 2⟩, .never, ⟨0, 0, true⟩⟩
    let moves : List (Move Script) := [.act 0 .takePermit, .act 1 .takePermit,
      .act 1 (.pass (.still 5) []), .act 0 (.pass (.still 6) []), .collect 1, .elapse 10, .act 0 .wake,
      .act 0 .takePermit, .act 0 (.pass (.still 10) []), .collect 0, .finish]
    let w := (Wait.start u entries script).runAll u moves
    (w.outcome.bind Except.toOption).map (List.map Deployment.id) = some ["d1", "d2"] ∧
      w.loops.map (fun l => l.passes.map fun p => p.after.resources.map (·.status)) =
        [[[.creating, .ready], [.ready, .ready]], [[.ready]]] ∧
      Truthful u entries w := by
  intro up script spare entries u moves w
  refine ⟨?_, ?_, (waits_report_the_truth u Script.backend_plain entries script).1 moves⟩
  · decide +kernel
  · decide +kernel

end Polling

end Testbed
