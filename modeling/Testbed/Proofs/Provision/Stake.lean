import Testbed.Proofs.Network.Pool

/-!
What runs hold of the shared store: a subnet of a pool, and amounts of counters.

`Stake.Taken` compares the store before and after one stake was taken.  `Accounts` does so for any
number of stakes: each counter is down by what they hold of it together, and each set has exactly their
subnets more, every one of them once.  So nothing is lost as long as the accounts are right, and nothing
is given back twice.
-/

namespace Testbed

/-- A subnet of a pool, and quotas. -/
structure Stake where
  network : Network
  quotas : List Quota
deriving Repr, DecidableEq

namespace Stake

/-- How much a stake has of a counter. -/
def amountOf (h : Stake) (key : String) : Int := Ledger.amountOf key h.quotas

/-- The key of the set that the subnet of a stake is in. -/
def setKey (h : Stake) : String := h.network.pool.setKey

/-- The subnet of a stake, as it is written in its set. -/
def cidr (h : Stake) : String := h.network.cidr

/-- Put all that a stake has back into the store. -/
def giveBack (h : Stake) (s : Store) : Store := Ledger.free h.quotas (h.network.giveBack s)

/-- The store `after` is the store `before` without what the stake has: the counters exist and are down
by its quotas, and its subnet, which was free, is in use. -/
structure Taken (h : Stake) (before after : Store) : Prop where
  known : ∀ q ∈ h.quotas, (before.counter? q.key).isSome = true
  counter? : ∀ key, after.counter? key = (before.counter? key).map (· - h.amountOf key)
  named : h.cidr.isEmpty = false
  fresh : h.cidr ∉ before.members h.setKey
  members : ∀ key text,
    text ∈ after.members key ↔ (key = h.setKey ∧ text = h.cidr) ∨ text ∈ before.members key

namespace Taken

variable {h : Stake} {s t u : Store}

/-- A stake that was taken is still taken when the stock stays the same. -/
theorem trans_same (taken : h.Taken s t) (same : t.SameStock u) : h.Taken s u :=
  ⟨taken.known, fun key => by rw [same.counter?, taken.counter?], taken.named, taken.fresh,
    fun key text => by rw [same.members, taken.members]⟩

/-- A stake is taken by taking its quotas first and its subnet then. -/
theorem of_steps {quotas : List Quota} {n : Network} (positive : ∀ q ∈ quotas, 0 < q.amount.toInt)
    (reserved : Ledger.reserve quotas s = (.ok (), t)) (named : n.cidr.isEmpty = false)
    (fresh : n.cidr ∉ n.pool.reserved t) (gains : t.Gains u n.pool.setKey n.cidr) :
    Taken ⟨n, quotas⟩ s u := by
  obtain ⟨known, lowered, kept⟩ := Ledger.counter?_of_reserve reserved positive
  refine ⟨known, fun key => ?_, named, ?_, fun key text => ?_⟩
  · rw [gains.counter?, lowered]
    rfl
  · rw [← kept]
    exact fresh
  · rw [gains.members, kept]
    rfl

/-- What was taken can be given back, and then nothing has changed. -/
theorem giveBack (taken : h.Taken s t) : s.SameStock (h.giveBack t) := by
  constructor
  · intro key
    apply Store.members_eq_of_mem_iff
    intro text
    rw [Stake.giveBack, Ledger.members_free, Network.mem_members_giveBack, taken.members]
    have fresh : text = h.cidr → key = h.setKey → text ∉ s.members key := by
      rintro rfl rfl
      exact taken.fresh
    have named : h.network.cidr.isEmpty = false := taken.named
    simp only [named, setKey, cidr] at fresh ⊢
    grind
  · apply Ledger.counter?_free_of_lowered taken.known
    intro key
    rw [Network.counter?_giveBack, taken.counter?]
    rfl

end Taken

end Stake

/-! ### Several stakes -/

/-- The subnets that some stakes have in one set. -/
def Stake.cidrsIn (key : String) (held : List Stake) : List String :=
  (held.filter (·.setKey = key)).map Stake.cidr

/-- How much some stakes have of a counter together. -/
def Stake.totalOf (key : String) (held : List Stake) : Int :=
  (held.map (·.amountOf key)).sum

/-- The store `after` is the store `before` without what the stakes `held` have: their counters exist
and are down by what they hold together, and every set has their subnets more, each of them once. -/
structure Accounts (before after : Store) (held : List Stake) : Prop where
  known : ∀ h ∈ held, ∀ q ∈ h.quotas, (before.counter? q.key).isSome = true
  named : ∀ h ∈ held, h.cidr.isEmpty = false
  /-- Nobody holds less than nothing. -/
  fair : ∀ h ∈ held, ∀ q ∈ h.quotas, 0 ≤ q.amount.toInt
  counter? : ∀ key, after.counter? key = (before.counter? key).map (· - Stake.totalOf key held)
  members : ∀ key, (after.members key).Perm (before.members key ++ Stake.cidrsIn key held)

namespace Accounts

variable {before s t : Store} {h : Stake} {held others : List Stake}

/-- A store accounts for itself when nothing is held. -/
theorem nil (s : Store) : Accounts s s [] :=
  ⟨by simp, by simp, by simp, fun key => by simp [Stake.totalOf], fun key => by simp [Stake.cidrsIn]⟩

/-- Accounts hold as long as the stock stays the same. -/
theorem trans_same (a : Accounts before s held) (same : s.SameStock t) : Accounts before t held :=
  ⟨a.known, a.named, a.fair, fun key => by rw [same.counter?, a.counter?],
    fun key => by
      rw [same.members]
      exact a.members key⟩

/-- The order of the stakes does not matter. -/
theorem of_perm (a : Accounts before s held) (perm : held.Perm others) : Accounts before s others := by
  refine ⟨fun h mem => a.known h (perm.mem_iff.2 mem), fun h mem => a.named h (perm.mem_iff.2 mem),
    fun h mem => a.fair h (perm.mem_iff.2 mem), fun key => ?_, fun key => ?_⟩
  · have same : Stake.totalOf key held = Stake.totalOf key others := (perm.map _).sum_eq
    rw [a.counter?, same]
  · exact (a.members key).trans (((perm.filter _).map _).append_left _)

/-- The subnets that stakes have in one set are distinct, and none of them was there before. -/
theorem nodup (a : Accounts before s held) (key : String) :
    (before.members key ++ Stake.cidrsIn key held).Nodup :=
  (a.members key).nodup_iff.1 (s.nodup_members key)

/-- One more stake is taken. -/
theorem take (a : Accounts before s held) (taken : h.Taken s t)
    (fair : ∀ q ∈ h.quotas, 0 ≤ q.amount.toInt) : Accounts before t (h :: held) := by
  refine ⟨fun g mem q hq => ?_, fun g mem => ?_, List.forall_mem_cons.2 ⟨fair, a.fair⟩, fun key => ?_,
    fun key => ?_⟩
  · rcases List.mem_cons.1 mem with rfl | mem
    · have known := taken.known q hq
      rwa [a.counter?, Option.isSome_map] at known
    · exact a.known g mem q hq
  · rcases List.mem_cons.1 mem with rfl | mem
    · exact taken.named
    · exact a.named g mem
  · rw [taken.counter?, a.counter?, Option.map_map]
    congr 1
    funext value
    simp only [Function.comp, Stake.totalOf, List.map_cons, List.sum_cons]
    omega
  · -- Both lists are without repetition, so their members decide.
    have grown : (t.members key).Perm (Stake.cidrsIn key [h] ++ s.members key) := by
      have distinct : (Stake.cidrsIn key [h] ++ s.members key).Nodup := by
        by_cases own : h.setKey = key
        · subst own
          simpa [Stake.cidrsIn] using ⟨taken.fresh, s.nodup_members _⟩
        · simpa [Stake.cidrsIn, own] using s.nodup_members key
      apply (List.perm_ext_iff_of_nodup (t.nodup_members key) distinct).2
      intro text
      rw [taken.members]
      by_cases own : h.setKey = key
      · simp [Stake.cidrsIn, own]
      · simp [Stake.cidrsIn, own, Ne.symm own]
    have joined : Stake.cidrsIn key (h :: held) =
        Stake.cidrsIn key [h] ++ Stake.cidrsIn key held := by
      simp only [Stake.cidrsIn, ← List.map_append, ← List.filter_append, List.singleton_append]
    rw [joined]
    refine grown.trans ((List.Perm.append_left _ (a.members key)).trans ?_)
    exact List.perm_append_comm_assoc _ _ _

/-- A counter that some of the stakes have been given back to holds no more than before and no less than now,
so 64 bits hold it. -/
theorem fits_giveBack (a : Accounts before s (h :: held)) {key : String} {value : Int}
    (found : before.counter? key = some value) : Counters.Fits (value - Stake.totalOf key held) := by
  have now : s.counter? key = some (value - Stake.totalOf key (h :: held)) := by
    rw [a.counter?, found, Option.map_some]
  have first : 0 ≤ h.amountOf key := Ledger.amountOf_nonneg (a.fair h List.mem_cons_self) key
  have others : 0 ≤ Stake.totalOf key held := by
    apply List.sum_nonneg
    intro amount mem
    obtain ⟨g, listed, rfl⟩ := List.mem_map.1 mem
    exact Ledger.amountOf_nonneg (a.fair g (List.mem_cons_of_mem _ listed)) key
  have split_off : Stake.totalOf key (h :: held) = h.amountOf key + Stake.totalOf key held := rfl
  obtain ⟨-, below⟩ := Counters.fits_of_value? found
  obtain ⟨above, -⟩ := Counters.fits_of_value? now
  constructor <;> omega

/-- A stake is given back.  Only its own subnet leaves a set, since no other stake has that one. -/
theorem giveBack (a : Accounts before s (h :: held)) : Accounts before (h.giveBack s) held := by
  have known : ∀ q ∈ h.quotas, ((h.network.giveBack s).counter? q.key).isSome = true := by
    intro q mem
    rw [Network.counter?_giveBack, a.counter?, Option.isSome_map]
    exact a.known h (by simp) q mem
  refine ⟨fun g mem => a.known g (by simp [mem]), fun g mem => a.named g (by simp [mem]),
    fun g mem => a.fair g (by simp [mem]), fun key => ?_, fun key => ?_⟩
  · rw [Stake.giveBack, Ledger.counter?_free known, Network.counter?_giveBack, a.counter?]
    cases found : before.counter? key with
    | none => rfl
    | some value =>
        have back : value - Stake.totalOf key (h :: held) + Ledger.amountOf key h.quotas =
            value - Stake.totalOf key held := by
          simp only [Stake.totalOf, Stake.amountOf, List.map_cons, List.sum_cons]
          omega
        simp only [Option.map_some, back, Counters.kept_of_fits (a.fits_giveBack found)]
  · have distinct := a.nodup key
    have fewer : (before.members key ++ Stake.cidrsIn key held).Nodup := by
      refine distinct.sublist (List.Sublist.append_left ?_ _)
      exact ((List.sublist_cons_self h held).filter _).map _
    apply (List.perm_ext_iff_of_nodup (Store.nodup_members _ key) fewer).2
    intro text
    rw [Stake.giveBack, Ledger.members_free, Network.mem_members_giveBack,
      (a.members key).mem_iff]
    have named : h.network.cidr.isEmpty = false := a.named h (by simp)
    by_cases own : h.setKey = key
    · have split : Stake.cidrsIn key (h :: held) = h.cidr :: Stake.cidrsIn key held := by
        simp [Stake.cidrsIn, own]
      rw [split] at distinct ⊢
      have alone : h.cidr ∉ before.members key ++ Stake.cidrsIn key held :=
        (List.nodup_middle.1 distinct |> List.nodup_cons.1).1
      have same : h.network.pool.setKey = key := own
      simp only [named, same, true_and, List.mem_append, List.mem_cons] at alone ⊢
      constructor
      · rintro ⟨other, old | rfl | rest⟩
        · exact .inl old
        · exact absurd rfl other
        · exact .inr rest
      · intro mem
        refine ⟨?_, mem.imp_right .inr⟩
        rintro rfl
        exact alone mem
    · have split : Stake.cidrsIn key (h :: held) = Stake.cidrsIn key held := by
        simp [Stake.cidrsIn, own]
      have other : h.network.pool.setKey ≠ key := own
      rw [split]
      exact and_iff_right fun ⟨_, same, _⟩ => other same

end Accounts

end Testbed
