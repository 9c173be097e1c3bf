import Mathlib.Data.List.Range
import Testbed.Network.Allocation
import Testbed.Proofs.Block

/-!
What a choice of a subnet promises: the subnet is a part of the base block that shares no address with a
taken block, and its addresses are as many as were asked for, in ascending order, between the padding and
the broadcast address.
-/

namespace Testbed.Allocation

/-- The search returns a part of the parent block that shares no address with a taken block. -/
theorem lowestFree?_eq_some {parent : Block} {length : Nat} {hlo : parent.length ≤ length}
    {hhi : length ≤ 32} {taken : List Block} {index : Nat} {found : Block}
    (h : lowestFree? parent length hlo hhi taken index = some found) :
    found.length = length ∧ found.Within parent ∧ ∀ other ∈ taken, found.Disjoint other := by
  -- The search moves on over taken candidates; only its last candidate matters.
  fun_induction lowestFree? parent length hlo hhi taken index with
  | case1 index inside candidate free =>
      obtain rfl : candidate = found := by simpa using h
      refine ⟨rfl, parent.within_cut hlo hhi inside, fun other mem => ?_⟩
      have := List.find?_eq_none.1 free other mem
      rw [Block.disjoint_iff_overlaps]
      simpa using this
  | case2 index inside candidate other hit ih => exact ih h
  | case3 index outside => cases h

/-- What a choice of a subnet of `length` in the block `base` promises when `existing` texts are in use and
`count` addresses are wanted. -/
structure Choice.Sound (padding length : Nat) (base : Block) (existing : List String) (count : Nat)
    (choice : Choice) : Prop where
  length : choice.subnet.length = length
  within : choice.subnet.Within base
  apart : ∀ text ∈ existing, ∀ other, Block.parse? text = some other →
    choice.subnet.Disjoint other
  count : choice.addresses.length = count
  ascending : choice.addresses.Pairwise fun a b => a.toNat < b.toNat
  usable : ∀ a ∈ choice.addresses,
    choice.subnet.first + padding < a.toNat ∧ a.toNat < choice.subnet.last

/-- The addresses that are handed out are the first usable ones, each of which 32 bits hold. -/
theorem addresses_eq_first {padding : Nat} {subnet : Block} {count : Nat} {found : List Address}
    (h : addresses padding subnet count = .ok found) :
    count ≤ usableCount padding subnet ∧
      found = (List.range count).map (fun i => Address.ofNat (firstUsable padding subnet + i)) ∧
      ∀ i < count,
        (Address.ofNat (firstUsable padding subnet + i)).toNat = firstUsable padding subnet + i := by
  simp only [addresses] at h
  split at h
  · cases h
  · next enough =>
      have bound := subnet.last_lt
      refine ⟨Nat.not_lt.1 enough, (Except.ok.inj h).symm, ?_⟩
      intro i hi
      apply Address.toNat_ofNat
      simp only [usableCount] at enough
      omega

/-- The addresses of a subnet are distinct, ascending and usable. -/
theorem addresses_eq_ok {padding : Nat} {subnet : Block} {count : Nat} {found : List Address}
    (h : addresses padding subnet count = .ok found) :
    found.length = count ∧ (found.Pairwise fun a b => a.toNat < b.toNat) ∧
      ∀ a ∈ found, subnet.first + padding < a.toNat ∧ a.toNat < subnet.last := by
  obtain ⟨enough, rfl, number⟩ := addresses_eq_first h
  refine ⟨by simp, ?_, ?_⟩
  · refine List.pairwise_map.2 ((List.pairwise_lt_range).imp_of_mem ?_)
    intro i j hi hj lt
    rw [number i (List.mem_range.1 hi), number j (List.mem_range.1 hj)]
    omega
  · intro a mem
    obtain ⟨i, hi, rfl⟩ := List.mem_map.1 mem
    have hi := List.mem_range.1 hi
    rw [number i hi]
    simp only [usableCount, firstUsable] at enough ⊢
    omega

/-- A block that a caller named is one that its text reads as. -/
theorem block_eq_ok {text : String} {b : Block} (h : block text = .ok b) :
    Block.parse text = .ok b := by
  rw [block] at h
  split at h
  · next parsed => rw [parsed, Except.ok.inj h]
  · cases h
  · cases h

/-- Choosing never fails because somebody has reserved the subnet. -/
theorem nextSubnet_ne_alreadyReserved {padding length count : Nat} {parent : String}
    {existing : List String} {error : NetworkError}
    (h : nextSubnet padding parent length existing count = .error error) (cidr : String) :
    error ≠ .alreadyReserved cidr := by
  rintro rfl
  rw [nextSubnet] at h
  cases parsed : block parent with
  | error error =>
      obtain rfl : error = .alreadyReserved cidr := by simpa [parsed, bind, Except.bind] using h
      rw [block] at parsed
      split at parsed <;> cases parsed
  | ok base =>
      simp only [parsed, bind, Except.bind] at h
      split at h
      · next lengths =>
          cases found : lowestFree? base length lengths.1 lengths.2 (takenBlocks existing) 0 with
          | none => simp [found, throw, throwThe, MonadExceptOf.throw] at h
          | some subnet =>
              cases listed : addresses padding subnet count with
              | error error =>
                  obtain rfl : error = .alreadyReserved cidr := by simpa [found, listed] using h
                  simp only [addresses] at listed
                  split at listed <;> cases listed
              | ok ips => simp [found, listed, pure, Except.pure] at h
      · simp [throw, throwThe, MonadExceptOf.throw] at h

/-- A choice is the lowest free part of the parent block, with the first addresses of that part. -/
theorem nextSubnet_inv {padding length count : Nat} {parent : String} {existing : List String}
    {choice : Choice} (h : nextSubnet padding parent length existing count = .ok choice) :
    ∃ base, ∃ lengths : base.length ≤ length ∧ length ≤ 32, Block.parse parent = .ok base ∧
      lowestFree? base length lengths.1 lengths.2 (takenBlocks existing) 0 = some choice.subnet ∧
      addresses padding choice.subnet count = .ok choice.addresses := by
  rw [nextSubnet] at h
  cases parsed : block parent with
  | error error => simp [parsed, bind, Except.bind] at h
  | ok base =>
      simp only [parsed, bind, Except.bind] at h
      split at h
      · next lengths =>
          cases found : lowestFree? base length lengths.1 lengths.2 (takenBlocks existing) 0 with
          | none => simp [found, throw, throwThe, MonadExceptOf.throw] at h
          | some subnet =>
              cases listed : addresses padding subnet count with
              | error error => simp [found, listed] at h
              | ok ips =>
                  obtain rfl : Choice.mk subnet ips = choice := by
                    simpa [found, listed, pure, Except.pure] using h
                  exact ⟨base, lengths, block_eq_ok parsed, found, listed⟩
      · simp [throw, throwThe, MonadExceptOf.throw] at h

/-- A choice that is made is sound. -/
theorem nextSubnet_eq_ok {padding length count : Nat} {parent : String} {existing : List String}
    {choice : Choice} (h : nextSubnet padding parent length existing count = .ok choice) :
    ∃ base, Block.parse parent = .ok base ∧ choice.Sound padding length base existing count := by
  obtain ⟨base, lengths, parsed, found, listed⟩ := nextSubnet_inv h
  obtain ⟨hlength, within, apart⟩ := lowestFree?_eq_some found
  obtain ⟨hcount, ascending, usable⟩ := addresses_eq_ok listed
  refine ⟨base, parsed, hlength, within, ?_, hcount, ascending, usable⟩
  intro text mem other read
  exact apart other (List.mem_filterMap.2 ⟨text, mem, read⟩)

/-! ### The first address that is not in use -/

/-- A block is read back from its text. -/
theorem block_text (b : Block) : block b.text = .ok b := by rw [block, Block.parse_text]

/-- The search passes over numbers that are in use, up to the first that is not. -/
theorem leastUnused?_eq_some {used : List Nat} {bound n m : Nat} (upTo : n ≤ m) (below : m < bound)
    (taken : ∀ k, n ≤ k → k < m → k ∈ used) (free : m ∉ used) :
    leastUnused? used bound n = some m := by
  fun_induction leastUnused? used bound n with
  | case1 n inside busy ih =>
      have busy : n ∈ used := by simpa using busy
      have later : n ≠ m := by
        rintro rfl
        exact free busy
      exact ih (by omega) fun k from_next => taken k (by omega)
  | case2 n inside idle =>
      have idle : n ∉ used := by simpa using idle
      obtain rfl | later := Nat.eq_or_lt_of_le upTo
      · rfl
      · exact absurd (taken n (Nat.le_refl n) later) idle
  | case3 n outside => omega

/-- When the first `n` of the addresses that were handed out of a subnet are in use, the next of them is
the first that is free. -/
theorem firstFree_take {padding : Nat} {subnet : Block} {count : Nat} {found : List Address}
    (h : addresses padding subnet count = .ok found) {n : Nat} {address : Address}
    (next : found[n]? = some address) :
    firstFree padding subnet.text ((found.take n).map Address.text) = .ok address := by
  obtain ⟨enough, rfl, number⟩ := addresses_eq_first h
  have inside : n < count := by simpa using (List.getElem?_eq_some_iff.1 next).1
  obtain rfl : Address.ofNat (firstUsable padding subnet + n) = address := by
    simpa [List.getElem?_range, inside] using next
  -- Exactly the numbers of the first `n` addresses are in use.
  have numbers : (((List.range count).map fun i =>
        Address.ofNat (firstUsable padding subnet + i)).take n).map Address.toNat =
      (List.range n).map (firstUsable padding subnet + ·) := by
    rw [← List.map_take, List.take_range, Nat.min_eq_left (Nat.le_of_lt inside), List.map_map]
    apply List.map_congr_left
    intro i mem
    exact number i (Nat.lt_trans (List.mem_range.1 mem) inside)
  have room : ¬ subnet.last ≤ firstUsable padding subnet := by
    rw [usableCount] at enough
    omega
  have stop : leastUnused? ((List.range n).map (firstUsable padding subnet + ·)) subnet.last
      (firstUsable padding subnet) = some (firstUsable padding subnet + n) := by
    apply leastUnused?_eq_some (Nat.le_add_right _ n)
    · rw [usableCount] at enough
      omega
    · intro k since before
      refine List.mem_map.2 ⟨k - firstUsable padding subnet, List.mem_range.2 (by omega), ?_⟩
      exact Nat.add_sub_cancel' since
    · simp
  simp only [firstFree, block_text, bind, Except.bind, if_neg room,
    Address.filterMap_parseAny?_text, numbers, stop]
  rfl

end Testbed.Allocation
