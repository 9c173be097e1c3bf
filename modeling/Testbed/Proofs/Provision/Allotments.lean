import Testbed.Proofs.Provision.Addresses
import Testbed.Proofs.Provision.Site

/-!
What becomes of the subnets in use when placements are destroyed again.

Destroying a placement gives its network back after every success, also when it was given back before.  A
set of subnets knows texts and no owners: if the subnet is in use again, it is somebody else's, and is
taken out.  `Site.Hits` says when that happens.  No other call takes out what its caller does not hold, and
as long as no call hits, the accounts of a site are right.
-/

namespace Testbed

variable {σ : Type}

namespace Stake.Taken

variable {h : Stake} {s t : Store}

/-- Nothing leaves a set when a stake is taken. -/
theorem mem_members (taken : h.Taken s t) {key text : String} (mem : text ∈ s.members key) :
    text ∈ t.members key := (taken.members key text).2 (.inr mem)

end Stake.Taken

namespace Stake

/-- A stake that is given back takes its own subnet out of a set, and no other. -/
theorem mem_members_giveBack (h : Stake) {s : Store} {key text : String} (mem : text ∈ s.members key) :
    text ∈ (h.giveBack s).members key ∨ h.setKey = key ∧ h.cidr = text := by
  by_cases own : h.setKey = key ∧ h.cidr = text
  · exact .inr own
  · left
    rw [giveBack, Ledger.members_free, Network.mem_members_giveBack]
    exact ⟨fun given => own ⟨given.2.1, given.2.2.symm⟩, mem⟩

end Stake

namespace Network

/-- Nothing changes when a subnet is given back that is not in use. -/
theorem sameStock_giveBack (n : Network) {s : Store}
    (free : n.cidr.isEmpty = false → n.cidr ∉ n.pool.reserved s) : s.SameStock (n.giveBack s) := by
  refine ⟨fun key => Store.members_eq_of_mem_iff fun text => ?_, fun key => n.counter?_giveBack s key⟩
  rw [mem_members_giveBack]
  refine and_iff_right_of_imp fun mem => ?_
  rintro ⟨named, rfl, rfl⟩
  exact free named mem

end Network

/-! ### Calls on runs -/

namespace Fleet

variable {f : Fleet σ}

/-- The fleet, with more stakes that somebody has taken. -/
def lend (f : Fleet σ) (stakes : List Stake) : Fleet σ := { f with kept := f.kept ++ stakes }

/-- What is on loan beside a fleet has no part in its calls. -/
theorem call_lend (p : Provisioner σ) (f : Fleet σ) (stakes : List Stake) (c : FleetCall σ) :
    (f.lend stakes).call p c = (f.call p c).lend stakes := by
  cases c with
  | provision run request signal =>
      simp only [call, lend]
      split
      · rfl
      · simp only [List.append_assoc]
  | teardown index signal =>
      simp only [call, lend]
      split <;> rfl
  | abandon index primary =>
      simp only [call, lend]
      split <;> rfl
  | elapse ms => rfl
  | disturb machines => rfl

/-- A subnet in use stays so when a run is released, unless it is that of the run. -/
theorem Release.mem_members {w : World σ} {r : ProvisionedRun}
    {outcome : Except ProvisionError Unit × ProvisionedRun × World σ} (release : Release w r outcome)
    {key text : String} (mem : text ∈ w.store.members key) :
    text ∈ outcome.2.2.store.members key ∨
      r.isReleased = false ∧ r.stake.setKey = key ∧ r.stake.cidr = text := by
  cases held : r.isReleased with
  | true =>
      rw [release.idle held]
      exact .inl mem
  | false =>
      cases done : outcome.2.1.isReleased with
      | false => exact .inl (((release.failed done).2.2.members key).symm ▸ mem)
      | true =>
          obtain ⟨v, passes, returned⟩ := release.returned held done
          have before : text ∈ v.store.members key := (passes.stock.members key).symm ▸ mem
          rw [returned]
          exact (r.stake.mem_members_giveBack before).imp_right fun own => ⟨rfl, own⟩

variable (p : Provisioner σ) (providers : ByTarget (Provider σ))

/-- Every call leaves the runs of a fleet consistent. -/
theorem consistent_call (consistent : ∀ r ∈ f.runs, r.Consistent) (c : FleetCall σ) :
    ∀ r ∈ (f.call (p.withProviders providers) c).runs, r.Consistent := by
  have down : ∀ (index : Nat) (signal : Signal),
      ∀ r ∈ (f.call (p.withProviders providers) (.teardown index signal)).runs, r.Consistent := by
    intro index signal
    rw [call]
    split
    · next r found =>
        intro other mem
        rcases List.mem_or_eq_of_mem_set mem with mem | rfl
        · exact consistent other mem
        · exact (release_teardown (consistent r (List.mem_of_getElem? found)) p providers signal _).2
    · exact consistent
  cases c with
  | provision run request signal =>
      rcases (p.withProviders providers).provision_cases run request signal f.world with
        ⟨error, v, provisioned, -⟩ | ⟨error, v, -, -, provisioned, -⟩ | ⟨placement, v, -, -, provisioned, -⟩
      · rw [call, provisioned]
        exact consistent
      · rw [call, provisioned]
        exact consistent
      · rw [call, provisioned]
        exact List.forall_mem_append.2 ⟨consistent, List.forall_mem_singleton.2 (.new ..)⟩
  | teardown index signal => exact down index signal
  | abandon index primary =>
      rw [call_abandon]
      exact down index .never
  | elapse ms => exact consistent
  | disturb machines => exact consistent

/-- A subnet in use stays so, unless it belongs to a run that is taken down and has it still. -/
theorem members_call (consistent : ∀ r ∈ f.runs, r.Consistent) (c : FleetCall σ) {key text : String}
    (mem : text ∈ f.world.store.members key) :
    text ∈ (f.call (p.withProviders providers) c).world.store.members key ∨
      ∃ index r, c.index? = some index ∧ f.runs[index]? = some r ∧ r.isReleased = false ∧
        r.stake.setKey = key ∧ r.stake.cidr = text := by
  have down : ∀ (index : Nat) (signal : Signal),
      text ∈ (f.call (p.withProviders providers) (.teardown index signal)).world.store.members key ∨
        ∃ r, f.runs[index]? = some r ∧ r.isReleased = false ∧ r.stake.setKey = key ∧ r.stake.cidr = text := by
    intro index signal
    cases found : f.runs[index]? with
    | none =>
        simp only [call, found]
        exact .inl mem
    | some r =>
        obtain ⟨release, -⟩ :=
          release_teardown (consistent r (List.mem_of_getElem? found)) p providers signal f.world
        simp only [call, found]
        refine (release.mem_members mem).imp_right fun given => ?_
        exact ⟨r, rfl, given.1, given.2⟩
  cases c with
  | provision run request signal =>
      rcases (p.withProviders providers).provision_cases run request signal f.world with
        ⟨error, v, provisioned, -, stock⟩ | ⟨error, v, network, u, provisioned, -, -, taken⟩ |
          ⟨placement, v, network, u, provisioned, -, -, taken⟩
      · rw [call, provisioned]
        exact .inl ((stock.members key).symm ▸ mem)
      · rw [call, provisioned]
        exact .inl (taken.mem_members mem)
      · rw [call, provisioned]
        exact .inl (taken.mem_members mem)
  | teardown index signal =>
      refine (down index signal).imp_right ?_
      rintro ⟨r, found, held, own⟩
      exact ⟨index, r, rfl, found, held, own⟩
  | abandon index primary =>
      rw [call_abandon]
      refine (down index .never).imp_right ?_
      rintro ⟨r, found, held, own⟩
      exact ⟨index, r, rfl, found, held, own⟩
  | elapse ms => exact .inl (((f.world.session.passes_pause ms).stock.members key).symm ▸ mem)
  | disturb machines => exact .inl mem

end Fleet

/-! ### Destroying a placement -/

namespace Provisioner

/-- Taking a deployment down takes time only, as far as the session is concerned. -/
theorem passes_of_destroy {p : Provisioner σ} {signal : Signal} {d : Deployment} {w v : World σ}
    {result : Except ProvisionError Deployment} (h : p.destroy signal d w = (result, v)) :
    w.session.Passes v.session := by
  rw [destroy] at h
  split at h
  · obtain ⟨-, rfl⟩ := Prod.mk.inj h
    exact .refl _
  · next service _ =>
      split at h
      · next down =>
          obtain ⟨-, rfl⟩ := Prod.mk.inj h
          exact Destroying.passes_of_destroyAndConfirm down
      · next down =>
          obtain ⟨-, rfl⟩ := Prod.mk.inj h
          exact Destroying.passes_of_destroyAndConfirm down

/-- A destruction takes time only, or gives the network of the placement back as well. -/
theorem destroyPlacement_cases (p : Provisioner σ) (signal : Signal) (x : DeployedPlacement) (w : World σ) :
    (∃ error v, p.destroyPlacement signal x w = (.error error, x, v) ∧ w.session.Passes v.session) ∨
      ∃ d v, p.destroyPlacement signal x w =
        (.ok (), { x with deployment := d }, freeNetwork x.network v) ∧ w.session.Passes v.session := by
  rw [destroyPlacement]
  cases destroyed : p.destroy signal x.deployment w with
  | mk result v =>
      have passes := passes_of_destroy destroyed
      cases result with
      | ok d => exact .inr ⟨d, v, rfl, passes⟩
      | error error => exact .inl ⟨error, v, rfl, passes⟩

end Provisioner

/-! ### Who holds what -/

namespace Site

/-- The stakes of the allotments that are open. -/
def openAllotments (allotments : List Allotment) : List Stake :=
  (allotments.filter fun a => !a.released).map fun a => ⟨a.network, []⟩

/-- All stakes that are taken. -/
def held (t : Site σ) : List Stake := (t.fleet.lend (openAllotments t.allotments)).held

/-- What the caller of a call has a right to give back: the stake of its run or of its allotment, unless that
was given back. -/
def own? (t : Site σ) : SiteCall σ → Option Stake
  | .destroy index _ => do
    let x ← t.installations[index]?
    let a ← t.allotments[← x.allotment]?
    if a.released then none else some ⟨a.network, []⟩
  | .fleet c => do
    let r ← t.fleet.runs[← c.index?]?
    if r.isReleased then none else some r.stake
  | _ => none

/-- A call takes nothing out of a set but the subnet of its caller. -/
def Respects (p : Provisioner σ) (t : Site σ) (c : SiteCall σ) : Prop :=
  ∀ key, ∀ text ∈ t.world.store.members key, text ∈ (t.call p c).world.store.members key ∨
    ∃ h, t.own? c = some h ∧ h.setKey = key ∧ h.cidr = text

/-- The call destroys a placement whose network was given back, or was never reserved, while the subnet is
in use. -/
def Hits (p : Provisioner σ) (t : Site σ) : SiteCall σ → Prop
  | .destroy index signal => ∃ x ∈ t.installations[index]?, t.isOpen x.allotment = false ∧
      (p.destroyPlacement signal x.placement t.world).1.isOk = true ∧
      x.placement.network.cidr.isEmpty = false ∧
      x.placement.network.cidr ∈ x.placement.network.pool.reserved t.world.store
  | _ => False

instance (p : Provisioner σ) (t : Site σ) : (c : SiteCall σ) → Decidable (t.Hits p c)
  | .destroy index _ => inferInstanceAs (Decidable (∃ x ∈ t.installations[index]?, _))
  | .reserve .. => inferInstanceAs (Decidable False)
  | .deploy .. => inferInstanceAs (Decidable False)
  | .fleet _ => inferInstanceAs (Decidable False)

/-- What every history keeps: runs are consistent, and placements are on the network of their allotment. -/
structure Orderly (t : Site σ) : Prop where
  consistent : ∀ r ∈ t.fleet.runs, r.Consistent
  placed : ∀ x ∈ t.installations, ∀ index, x.allotment = some index →
    ∃ a, t.allotments[index]? = some a ∧ a.network = x.placement.network

section Allotments

variable {allotments : List Allotment} {index : Nat} {a : Allotment}

/-- Closing an allotment marks it as released and nothing else. -/
theorem close_of_found (found : allotments[index]? = some a) :
    close allotments (some index) = allotments.set index { a with released := true } := by
  rw [close, List.modify_eq_set_getElem?, found]
  rfl

/-- An allotment that is given back takes its own stake out, and no other. -/
theorem openAllotments_close (found : allotments[index]? = some a) (held : a.released = false) :
    (openAllotments allotments).Perm
      (⟨a.network, []⟩ :: openAllotments (close allotments (some index))) := by
  rw [close_of_found found]
  exact Fleet.filter_set_perm (y := { a with released := true }) (fun a : Allotment => !a.released) _ found
    (by rw [held, Bool.not_false]) rfl

/-- Giving an allotment back again changes nothing. -/
theorem close_released (found : allotments[index]? = some a) (released : a.released = true) :
    close allotments (some index) = allotments := by
  rw [close_of_found found]
  obtain ⟨inside, rfl⟩ := List.getElem?_eq_some_iff.1 found
  have same : { allotments[index] with released := true } = allotments[index] := by rw [← released]
  rw [same, List.set_getElem_self]

/-- Closing changes no network. -/
theorem exists_of_close (other : Option Nat) (found : allotments[index]? = some a) :
    ∃ b, (close allotments other)[index]? = some b ∧ b.network = a.network := by
  cases other with
  | none => exact ⟨a, found, rfl⟩
  | some k =>
      by_cases same : k = index
      · subst same
        exact ⟨{ a with released := true }, by rw [close, List.getElem?_modify_eq, found]; rfl, rfl⟩
      · exact ⟨a, by rw [close, List.getElem?_modify_ne _ _ same, found], rfl⟩

end Allotments

/-! ### What one call does -/

section Call

variable {t : Site σ} {before : Store} (p : Provisioner σ) (providers : ByTarget (Provider σ))

/-- A site is orderly before anything happens. -/
theorem orderly_start (w : World σ) : (start w).Orderly :=
  ⟨List.forall_mem_nil _, List.forall_mem_nil _⟩

/-- What admits a network has an allotment with it. -/
theorem exists_of_admits {network : Network} {index : Nat} (h : t.admits network (some index) = true) :
    ∃ a, t.allotments[index]? = some a ∧ a.network = network := by
  simpa [admits, Option.any_eq_true] using h

/-- A placement whose deployment was taken down; its network was given back, and its allotment closed. -/
def destroyed (t : Site σ) (index : Nat) (x : Installation) (d : Deployment) (w : World σ) : Site σ :=
  { t.setWorld (Provisioner.freeNetwork x.placement.network w) with
    allotments := close t.allotments x.allotment
    installations := t.installations.set index
      { x with placement := { x.placement with deployment := d } } }

/-- All that a destruction can do: nothing, where nothing was deployed; take time, when it fails; and give the
network of the placement back, when it succeeds. -/
theorem destroy_cases (p : Provisioner σ) (t : Site σ) (index : Nat) (signal : Signal) :
    (t.installations[index]? = none ∧ t.call p (.destroy index signal) = t) ∨
      ∃ x v, t.installations[index]? = some x ∧ t.world.session.Passes v.session ∧
        (((p.destroyPlacement signal x.placement t.world).1.isOk = false ∧
            t.call p (.destroy index signal) = t.setWorld v) ∨
          (p.destroyPlacement signal x.placement t.world).1.isOk = true ∧
            ∃ d, t.call p (.destroy index signal) = t.destroyed index x d v) := by
  cases found : t.installations[index]? with
  | none => exact .inl ⟨rfl, by simp only [call, found]⟩
  | some x =>
      rcases p.destroyPlacement_cases signal x.placement t.world with
        ⟨error, v, failed, passes⟩ | ⟨d, v, done, passes⟩
      · refine .inr ⟨x, v, rfl, passes, .inl ⟨by rw [failed]; rfl, ?_⟩⟩
        obtain ⟨inside, same⟩ := List.getElem?_eq_some_iff.1 found
        have kept : t.installations.set index { x with placement := x.placement } = t.installations := by
          rw [← same, List.set_getElem_self]
        simp only [call, found, failed, kept]
        rfl
      · exact .inr ⟨x, v, rfl, passes, .inr ⟨by rw [done]; rfl, d, by simp only [call, found, done]; rfl⟩⟩

/-- Every call leaves a site orderly. -/
theorem orderly_call (h : t.Orderly) (c : SiteCall σ) : (t.call (p.withProviders providers) c).Orderly := by
  cases c with
  | reserve run database signal =>
      rw [call]
      split
      · refine ⟨h.consistent, fun x mem index on => ?_⟩
        obtain ⟨a, found, same⟩ := h.placed x mem index on
        exact ⟨a, (List.getElem?_append_left (List.getElem?_eq_some_iff.1 found).1).trans found, same⟩
      · exact ⟨h.consistent, h.placed⟩
  | deploy allotment placement =>
      rw [call]
      split
      · next admitted =>
          split
          · next deployed world deployment =>
              refine ⟨h.consistent, List.forall_mem_append.2 ⟨h.placed, List.forall_mem_singleton.2 ?_⟩⟩
              rintro index rfl
              obtain ⟨a, found, same⟩ := exists_of_admits admitted
              exact ⟨a, found, same.trans (Provisioner.network_of_deploy deployment).symm⟩
          · exact ⟨h.consistent, h.placed⟩
      · exact h
  | destroy index signal =>
      rcases destroy_cases (p.withProviders providers) t index signal with
        ⟨-, same⟩ | ⟨x, v, found, -, ⟨-, same⟩ | ⟨-, d, same⟩⟩
      · rwa [same]
      · rw [same]
        exact ⟨h.consistent, h.placed⟩
      · rw [same]
        have kept : ∀ y : Installation, (∀ k, y.allotment = some k →
            ∃ a, t.allotments[k]? = some a ∧ a.network = y.placement.network) →
            ∀ k, y.allotment = some k → ∃ a, (close t.allotments x.allotment)[k]? = some a ∧
              a.network = y.placement.network := by
          intro y placed k on
          obtain ⟨a, listed, same⟩ := placed k on
          obtain ⟨b, closed, kept⟩ := exists_of_close x.allotment listed
          exact ⟨b, closed, kept.trans same⟩
        refine ⟨h.consistent, fun y mem => ?_⟩
        rcases List.mem_or_eq_of_mem_set mem with mem | rfl
        · exact kept y (h.placed y mem)
        · exact kept x (h.placed x (List.mem_of_getElem? found))
  | fleet c => exact ⟨Fleet.consistent_call p providers h.consistent c, h.placed⟩

/-- The allotment of a placement is open when its caller has a stake in it. -/
theorem own?_destroy {index : Nat} {signal : Signal} {x : Installation}
    (found : t.installations[index]? = some x) {h : Stake} (own : t.own? (.destroy index signal) = some h) :
    t.isOpen x.allotment = true := by
  simp only [own?, found, Option.bind_eq_bind, Option.bind_some, Option.bind_eq_some_iff] at own
  obtain ⟨k, on, a, listed, stake⟩ := own
  rw [on, isOpen, listed]
  cases released : a.released with
  | true => simp [released] at stake
  | false => simp [released]

/-- The caller of a destruction holds the network of the placement as long as its allotment is open. -/
theorem own?_of_isOpen (h : t.Orderly) {index : Nat} (signal : Signal) {x : Installation}
    (found : t.installations[index]? = some x) (isOpen : t.isOpen x.allotment = true) :
    t.own? (.destroy index signal) = some ⟨x.placement.network, []⟩ := by
  cases on : x.allotment with
  | none =>
      rw [on] at isOpen
      cases isOpen
  | some k =>
      obtain ⟨a, listed, same⟩ := h.placed x (List.mem_of_getElem? found) k on
      have held : a.released = false := by simpa [on, Site.isOpen, listed] using isOpen
      simp [own?, found, on, listed, held, same]

/-- A call about a run that is not released can only give back the stake of that run. -/
theorem own?_fleet {c : FleetCall σ} {index : Nat} {r : ProvisionedRun} (at_ : c.index? = some index)
    (found : t.fleet.runs[index]? = some r) (held : r.isReleased = false) :
    t.own? (.fleet c) = some r.stake := by
  simp [own?, at_, found, held]

/-- A call that hits takes out what is not its caller's. -/
theorem not_hits_of_respects {c : SiteCall σ} (respects : t.Respects (p.withProviders providers) c) :
    ¬ t.Hits (p.withProviders providers) c := by
  intro hits
  cases c with
  | destroy index signal =>
      obtain ⟨x, found, isClosed, succeeded, named, inUse⟩ := hits
      rcases respects _ _ inUse with stays | ⟨stake, own, -⟩
      · rcases destroy_cases (p.withProviders providers) t index signal with
          ⟨nothing, -⟩ | ⟨y, v, listed, -, ⟨failed, -⟩ | ⟨-, d, same⟩⟩
        · cases nothing.symm.trans found
        · obtain rfl := Option.some.inj (listed.symm.trans found)
          cases failed.symm.trans succeeded
        · obtain rfl := Option.some.inj (listed.symm.trans found)
          rw [same] at stays
          exact (Network.mem_members_giveBack.1 stays).1 ⟨named, rfl, rfl⟩
      · exact Bool.eq_false_iff.1 isClosed (own?_destroy found own)
  | _ => exact hits

/-- No other call does. -/
theorem respects_of_not_hits (h : t.Orderly) {c : SiteCall σ}
    (spares : ¬ t.Hits (p.withProviders providers) c) : t.Respects (p.withProviders providers) c := by
  intro key text mem
  cases c with
  | reserve run database signal =>
      left
      rcases (p.withProviders providers).acquireNetwork_cases run database signal t.world with
        ⟨error, session, acquired, stock, -⟩ | ⟨n, base, subnet, session, acquired, -, gains, -⟩
      · rw [call, acquired]
        exact (stock.members key).symm ▸ mem
      · rw [call, acquired]
        exact (gains.members key text).2 (.inr mem)
  | deploy allotment placement =>
      left
      rw [call]
      split
      · cases deployment : (p.withProviders providers).deploy placement t.world with
        | mk result world =>
            have kept := (Provisioner.passes_of_deploy deployment).stock.members key
            cases result with
            | ok deployed => exact kept.symm ▸ mem
            | error error => exact kept.symm ▸ mem
      · exact mem
  | destroy index signal =>
      rcases destroy_cases (p.withProviders providers) t index signal with
        ⟨-, same⟩ | ⟨x, v, found, passes, ⟨-, same⟩ | ⟨succeeded, d, same⟩⟩
      · rw [same]
        exact .inl mem
      · rw [same]
        exact .inl ((passes.stock.members key).symm ▸ mem)
      · have before : text ∈ v.store.members key := (passes.stock.members key).symm ▸ mem
        by_cases own : x.placement.network.cidr.isEmpty = false ∧
            x.placement.network.pool.setKey = key ∧ text = x.placement.network.cidr
        · obtain ⟨named, rfl, rfl⟩ := own
          refine .inr ⟨_, own?_of_isOpen h signal found ?_, rfl, rfl⟩
          by_contra isClosed
          exact spares ⟨x, found, by simpa using isClosed, succeeded, named, mem⟩
        · rw [same]
          exact .inl (Network.mem_members_giveBack.2 ⟨own, before⟩)
  | fleet c =>
      refine (Fleet.members_call p providers h.consistent c mem).imp_right ?_
      rintro ⟨index, r, index?, found, held, set, cidr⟩
      exact ⟨r.stake, own?_fleet index? found held, set, cidr⟩

/-! ### Accounts -/

/-- What holds of a site that began with the store `before` as long as no call has hit. -/
structure Sound (before : Store) (t : Site σ) : Prop where
  orderly : t.Orderly
  accounts : Accounts before t.world.store t.held

/-- A site is sound at its beginning, by the accounts of its own store. -/
theorem sound_start (w : World σ) : (start w).Sound w.store := ⟨orderly_start w, .nil _⟩

/-- A network that is reserved for itself is a stake without quotas. -/
theorem taken_of_gains {n : Network} {s u : Store} (named : n.cidr.isEmpty = false)
    (fresh : n.cidr ∉ n.pool.reserved s) (gains : s.Gains u n.pool.setKey n.cidr) :
    Stake.Taken ⟨n, []⟩ s u := .of_steps (List.forall_mem_nil _) rfl named fresh gains

/-- Closing an allotment takes its network out of what is held, and nothing else. -/
theorem perm_held {index : Nat} {a : Allotment} (found : t.allotments[index]? = some a)
    (held : a.released = false) (u : Site σ) (runs : u.fleet.runs = t.fleet.runs)
    (kept : u.fleet.kept = t.fleet.kept) (closed : u.allotments = close t.allotments (some index)) :
    t.held.Perm (⟨a.network, []⟩ :: u.held) := by
  have fewer := openAllotments_close found held
  rw [← closed] at fewer
  simp only [Site.held, Fleet.held, Fleet.lend, runs, kept, ← List.append_assoc]
  exact (fewer.append_left _).trans List.perm_middle

/-- A destruction that does not hit gives nothing back when the allotment is closed. -/
theorem idle_destroy (h : t.Orderly) {index : Nat} {signal : Signal} {x : Installation}
    (found : t.installations[index]? = some x) (isClosed : t.isOpen x.allotment = false)
    (spares : ¬ t.Hits p (.destroy index signal)) :
    t.world.store.SameStock (t.call p (.destroy index signal)).world.store ∧
      (t.call p (.destroy index signal)).held = t.held := by
  rcases destroy_cases p t index signal with
    ⟨nothing, -⟩ | ⟨y, v, listed, passes, ⟨-, same⟩ | ⟨succeeded, d, same⟩⟩
  · cases nothing.symm.trans found
  · rw [same]
    exact ⟨passes.stock, rfl⟩
  · obtain rfl := Option.some.inj (listed.symm.trans found)
    have closed : close t.allotments y.allotment = t.allotments := by
      cases on : y.allotment with
      | none => rfl
      | some k =>
          obtain ⟨a, listed, -⟩ := h.placed y (List.mem_of_getElem? found) k on
          exact close_released listed (by simpa [on, isOpen, listed] using isClosed)
    rw [same]
    refine ⟨passes.stock.trans (y.placement.network.sameStock_giveBack fun named inUse => ?_), ?_⟩
    · rw [Pool.reserved, passes.stock.members] at inUse
      exact spares ⟨y, found, isClosed, succeeded, named, inUse⟩
    · simp only [Site.held, destroyed, closed]
      rfl

/-- A destruction that does not hit keeps the accounts right. -/
theorem accounts_destroy (h : t.Orderly) (accounts : Accounts before t.world.store t.held) {index : Nat}
    {signal : Signal} (spares : ¬ t.Hits p (.destroy index signal)) :
    Accounts before (t.call p (.destroy index signal)).world.store
      (t.call p (.destroy index signal)).held := by
  rcases destroy_cases p t index signal with
    ⟨-, same⟩ | ⟨x, v, found, passes, ⟨-, same⟩ | ⟨succeeded, d, same⟩⟩
  · rwa [same]
  · rw [same]
    exact accounts.trans_same passes.stock
  · cases isOpen : t.isOpen x.allotment with
    | false =>
        obtain ⟨idle, held⟩ := idle_destroy p h found isOpen spares
        rw [held]
        exact accounts.trans_same idle
    | true =>
        cases on : x.allotment with
        | none =>
            rw [on] at isOpen
            cases isOpen
        | some k =>
            obtain ⟨a, listed, network⟩ := h.placed x (List.mem_of_getElem? found) k on
            have held : a.released = false := by simpa [on, Site.isOpen, listed] using isOpen
            have fewer : t.held.Perm (⟨x.placement.network, []⟩ :: (t.destroyed index x d v).held) := by
              rw [← network]
              exact perm_held listed held _ rfl rfl (by rw [destroyed, on])
            rw [same]
            exact ((accounts.trans_same passes.stock).of_perm fewer).giveBack

/-- A call that does not hit keeps the accounts right. -/
theorem sound_call (h : t.Sound before) {c : SiteCall σ} (spares : ¬ t.Hits (p.withProviders providers) c) :
    (t.call (p.withProviders providers) c).Sound before := by
  refine ⟨orderly_call p providers h.orderly c, ?_⟩
  cases c with
  | reserve run database signal =>
      rcases (p.withProviders providers).acquireNetwork_cases run database signal t.world with
        ⟨error, session, acquired, stock, -⟩ |
          ⟨n, base, subnet, session, acquired, grant, gains, -⟩
      · rw [call, acquired]
        exact h.accounts.trans_same stock
      · rw [call, acquired]
        have named : n.cidr.isEmpty = false := by
          rw [grant.cidr]
          exact subnet.text_ne_empty
        have taken := taken_of_gains named grant.fresh gains
        refine (h.accounts.take taken (List.forall_mem_nil _)).of_perm ?_
        simp only [Site.held, Fleet.held, Fleet.lend, setWorld, openAllotments, List.filter_append,
          List.map_append, ← List.append_assoc]
        exact (List.perm_append_singleton _ _).symm
  | deploy allotment placement =>
      rw [call]
      split
      · split
        · next deployment => exact h.accounts.trans_same (Provisioner.passes_of_deploy deployment).stock
        · next deployment => exact h.accounts.trans_same (Provisioner.passes_of_deploy deployment).stock
      · exact h.accounts
  | destroy index signal => exact accounts_destroy _ h.orderly h.accounts spares
  | fleet c =>
      have lent : (t.fleet.lend (openAllotments t.allotments)).Sound before :=
        ⟨h.accounts, h.orderly.consistent⟩
      have after := (Fleet.call_sound lent p providers c).accounts
      rwa [Fleet.call_lend] at after

end Call

/-! ### Histories -/

section Histories

variable {t : Site σ} {before : Store} (p : Provisioner σ) (providers : ByTarget (Provider σ))

/-- No call of a history hits. -/
def Spares (p : Provisioner σ) : List (SiteCall σ) → Site σ → Prop
  | [], _ => True
  | c :: rest, t => ¬ t.Hits p c ∧ Spares p rest (t.call p c)

/-- A site is orderly after any calls. -/
theorem orderly_after (h : t.Orderly) (calls : List (SiteCall σ)) :
    (after (p.withProviders providers) calls t).Orderly := by
  induction calls generalizing t with
  | nil => exact h
  | cons c rest ih => exact ih (orderly_call p providers h c)

/-- A site is sound after any calls none of which hits what somebody else holds. -/
theorem sound_after (h : t.Sound before) {calls : List (SiteCall σ)}
    (spares : Spares (p.withProviders providers) calls t) :
    (after (p.withProviders providers) calls t).Sound before := by
  induction calls generalizing t with
  | nil => exact h
  | cons c rest ih => exact ih (sound_call p providers h spares.1) spares.2

instance decidableSpares (p : Provisioner σ) :
    (calls : List (SiteCall σ)) → (t : Site σ) → Decidable (Spares p calls t)
  | [], _ => inferInstanceAs (Decidable True)
  | c :: rest, t =>
    have := decidableSpares p rest (t.call p c)
    inferInstanceAs (Decidable (_ ∧ _))

/-- Whatever was called before: a call takes a subnet out that its caller does not hold exactly if it
destroys a placement whose network was given back, or was never reserved, while the subnet is in use.
Destroying a placement again changes nothing otherwise.  As long as no call has hit, the subnets in use are
those of the beginning and those of the stakes that are taken, every one of them once. -/
theorem only_hits_take_from_others (p : Provisioner σ) (providers : ByTarget (Provider σ)) (w : World σ)
    (calls : List (SiteCall σ)) :
    let q := p.withProviders providers
    let t := after q calls (start w)
    (∀ c, t.Respects q c ↔ ¬ t.Hits q c) ∧
      (∀ (index : Nat) signal x, t.installations[index]? = some x → t.isOpen x.allotment = false →
        ¬ t.Hits q (.destroy index signal) →
          t.world.store.SameStock (t.call q (.destroy index signal)).world.store) ∧
      (Spares q calls (start w) → Accounts w.store t.world.store t.held) := by
  intro q t
  have orderly : t.Orderly := orderly_after p providers (orderly_start w) calls
  refine ⟨fun c => ⟨not_hits_of_respects p providers, respects_of_not_hits p providers orderly⟩,
    fun index signal x found isClosed spares => ?_, fun spares => ?_⟩
  · exact (idle_destroy q orderly found isClosed spares).1
  · exact (sound_after p providers (sound_start w) spares).accounts

end Histories

end Site

namespace Provisioner

/-- A placement is destroyed twice, and nobody has reserved its subnet in between. -/
theorem destroyed_twice_in_peace :
    let q := sample.onMemory sampleSetups
    let run : RunContext := ⟨"run1", .docker⟩
    ∃ placement, let calls : List (SiteCall Memory) := [.reserve run sampleRequest.database .never,
        .deploy (some 0) placement, .destroy 0 .never, .destroy 0 .never]
      let t := Site.after q calls (.start idleWorld)
      t.allotments.map Allotment.released = [true] ∧ Site.Spares q calls (.start idleWorld) ∧
        Accounts idleWorld.store t.world.store t.held := by
  intro q run
  let reserved := Site.after q [.reserve run sampleRequest.database .never] (.start idleWorld)
  have spared : (reserved.allotments.head?.bind fun a =>
      q.order? run sampleRequest a.network reserved.world.session.tokens).map (fun order =>
        let calls : List (SiteCall Memory) := [.reserve run sampleRequest.database .never,
          .deploy (some 0) order.1, .destroy 0 .never, .destroy 0 .never]
        ((Site.after q calls (.start idleWorld)).allotments.map Allotment.released,
          decide (Site.Spares q calls (.start idleWorld)))) = some ([true], true) := by
    decide +kernel
  obtain ⟨order, -, outcome⟩ := Option.map_eq_some_iff.1 spared
  obtain ⟨released, spares⟩ := Prod.mk.inj outcome
  refine ⟨order.1, ?_⟩
  intro calls t
  have main := Site.only_hits_take_from_others sample
    ⟨sampleSetups.docker.map Memory.provider, sampleSetups.yandexCloud.map Memory.provider⟩ idleWorld calls
  have spares : Site.Spares q calls (.start idleWorld) := of_decide_eq_true spares
  exact ⟨released, spares, main.2.2 spares⟩

/-- A placement that is destroyed is not asked for again, but its network is given back again. -/
theorem destroyPlacement_of_destroyed {p : Provisioner σ} {x : DeployedPlacement}
    {service : DeploymentService σ}
    (supported : p.service x.deployment.template.identifier.target = .ok service)
    (gone : x.deployment.isDestroyed = true) (signal : Signal) (w : World σ) :
    p.destroyPlacement signal x w = (.ok (), x, freeNetwork x.network w) := by
  simp only [destroyPlacement, destroy, supported, Destroying.destroyAndConfirm, gone, if_true]

/-- A placement is destroyed, another run reserves the subnet, and the placement is destroyed again: the
other run has its network still, but its subnet is free for everybody. -/
theorem subnet_lost_to_repeated_destruction :
    let q := sample.onMemory sampleSetups
    ∃ first w₁ gone w₂ network w₃ again w₄,
      q.install? ⟨"run1", .docker⟩ sampleRequest idleWorld = some (first, w₁) ∧
        q.destroyPlacement .never first w₁ = (.ok (), gone, w₂) ∧
        q.acquireNetwork ⟨"run2", .docker⟩ sampleRequest.database .never w₂ = (.ok network, w₃) ∧
        q.destroyPlacement .never gone w₃ = (.ok (), again, w₄) ∧
        network.identifier ≠ first.network.identifier ∧
        network.pool.reserved w₃.store = [network.cidr] ∧ network.pool.reserved w₄.store = [] := by
  intro q
  let pool : Pool := ⟨.docker, "benchgrid-docker"⟩
  have down : (q.install? ⟨"run1", .docker⟩ sampleRequest idleWorld).map (fun installed =>
      let gone := q.destroyPlacement .never installed.1 installed.2
      (gone.1.isOk, gone.2.1.deployment.isDestroyed, gone.2.1.deployment.template.identifier.target,
        gone.2.1.network.pool, gone.2.1.network.cidr)) =
      some (true, true, .docker, pool, "172.28.0.0/24") := by
    decide +kernel
  have clash : (q.install? ⟨"run1", .docker⟩ sampleRequest idleWorld).map (fun installed =>
      let gone := q.destroyPlacement .never installed.1 installed.2
      let taken := q.acquireNetwork ⟨"run2", .docker⟩ sampleRequest.database .never gone.2.2
      taken.1.toOption.map fun network => (decide (network.identifier ≠ installed.1.network.identifier),
        network.pool, network.cidr, network.pool.reserved taken.2.store)) =
      some (some (true, pool, "172.28.0.0/24", ["172.28.0.0/24"])) := by
    decide +kernel
  obtain ⟨⟨first, w₁⟩, installed, outcome⟩ := Option.map_eq_some_iff.1 down
  rw [installed, Option.map_some, Option.some_inj] at clash
  rcases destroyed : q.destroyPlacement .never first w₁ with ⟨result, gone, w₂⟩
  simp only [destroyed, Prod.mk.injEq] at outcome clash
  obtain ⟨isOk, isDestroyed, target, samePool, sameCidr⟩ := outcome
  obtain ⟨_, rfl⟩ := exists_ok_of_isOk isOk
  rcases reserved : q.acquireNetwork ⟨"run2", .docker⟩ sampleRequest.database .never w₂ with ⟨taken, w₃⟩
  rw [reserved] at clash
  obtain ⟨network, ok, other⟩ := Option.map_eq_some_iff.1 clash
  simp only [Prod.mk.injEq] at other
  obtain ⟨another, otherPool, otherCidr, inUse⟩ := other
  obtain rfl : taken = .ok network := by
    cases taken with
    | error error => cases ok
    | ok n => exact congrArg Except.ok (Option.some.inj ok)
  have supported : q.service gone.deployment.template.identifier.target =
      .ok (Memory.provider (300000, id)).service := by rw [target]; rfl
  refine ⟨first, w₁, gone, w₂, network, w₃, gone, freeNetwork gone.network w₃, installed, destroyed, reserved,
    destroyPlacement_of_destroyed supported isDestroyed .never w₃, of_decide_eq_true another, ?_, ?_⟩
  · rw [inUse, otherCidr]
  · refine List.eq_nil_iff_forall_not_mem.2 fun text mem => ?_
    obtain ⟨free, stays⟩ := Network.mem_members_giveBack.1 mem
    have listed : text ∈ network.pool.reserved w₃.store := stays
    rw [inUse, List.mem_singleton] at listed
    refine free ⟨?_, ?_, listed.trans sameCidr.symm⟩
    · rw [sameCidr]
      decide
    · rw [samePool, otherPool]

end Provisioner

end Testbed
