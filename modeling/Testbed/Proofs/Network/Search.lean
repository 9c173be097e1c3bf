import Testbed.Proofs.Network.Allocation

/-!
The search for a free subnet.

A block has parts of each greater length, numbered from its first address on, and the obvious search tests
them one by one.  The search that is used tests far fewer: when a part overlaps a taken block it goes on
after the end of that block.  `lowestFree?_eq_find?` says that nothing is lost by this.

The search is also carried out on words of 64 bits, where every difference, shift, product and address is
checked and every part that is tested is noted.  No check fails, and no taken block is met twice, so at most
one more part is tested than there are taken blocks.
-/

namespace Testbed

/-! ### The parts of a block -/

namespace Block

/-- The parts of one length that a block is cut into, in order. -/
def parts (b : Block) {length : Nat} (hlo : b.length ≤ length) (hhi : length ≤ 32) : List Block :=
  List.ofFn fun i : Fin (b.cuts length) => b.cut length i hlo hhi i.isLt

variable {b : Block} {length : Nat} {hlo : b.length ≤ length} {hhi : length ≤ 32}

/-- A block has as many parts as it can be cut into. -/
theorem length_parts : (b.parts hlo hhi).length = b.cuts length := by simp [parts]

/-- The parts of a block are its cuts, in order. -/
theorem getElem_parts {i : Nat} (h : i < (b.parts hlo hhi).length) :
    (b.parts hlo hhi)[i] = b.cut length i hlo hhi (by simpa [length_parts] using h) := by
  simp [parts]

/-- The parts of a block are the blocks of their length that lie in it. -/
theorem mem_parts {part : Block} :
    part ∈ b.parts hlo hhi ↔ part.length = length ∧ part.Within b := by
  constructor
  · intro mem
    obtain ⟨i, rfl⟩ := List.mem_ofFn.1 mem
    exact ⟨rfl, b.within_cut hlo hhi i.isLt⟩
  · rintro ⟨rfl, within⟩
    have positive := sizeOf_pos part.length
    have cuts := b.cuts_mul_sizeOf hlo hhi
    have low := contains_iff.1 (within part.first (contains_iff.2 ⟨Nat.le_refl _, part.first_le_last⟩))
    have high := contains_iff.1 (within part.last (contains_iff.2 ⟨part.first_le_last, Nat.le_refl _⟩))
    -- Both blocks begin at multiples of the size of the part.
    have base : sizeOf part.length ∣ b.first := by
      have whole := Nat.dvd_of_mod_eq_zero b.aligned
      refine Nat.dvd_trans ⟨b.cuts part.length, ?_⟩ whole
      rw [Nat.mul_comm]
      exact cuts.symm
    obtain ⟨i, distance⟩ := Nat.dvd_sub (Nat.dvd_of_mod_eq_zero part.aligned) base
    have inside : i < b.cuts part.length := by
      refine Nat.lt_of_mul_lt_mul_right (a := sizeOf part.length) ?_
      rw [cuts, Nat.mul_comm, ← distance]
      have bases := b.size_pos
      simp only [last] at high low
      rw [size] at high
      omega
    refine List.mem_ofFn.2 ⟨⟨i, inside⟩, Block.ext ?_ rfl⟩
    change b.first + i * sizeOf part.length = part.first
    rw [Nat.mul_comm, ← distance]
    omega

/-- The parts of a block stand in the order of their addresses. -/
theorem ascending_parts : (b.parts hlo hhi).Pairwise fun p q => p.first < q.first := by
  refine List.pairwise_ofFn.2 ?_
  intro i j before
  have positive := sizeOf_pos length
  exact Nat.add_lt_add_left (Nat.mul_lt_mul_of_pos_right before positive) _

/-- Two blocks overlap if neither ends before the other begins. -/
theorem overlaps_iff {b c : Block} : b.overlaps c = true ↔ b.first ≤ c.last ∧ c.first ≤ b.last := by
  simp [overlaps]

end Block

namespace Allocation

/-! ### Testing the parts one by one -/

/-- Whether a block shares no address with a taken one. -/
def isFree (taken : List Block) (part : Block) : Bool := taken.all fun other => !part.overlaps other

/-- No text in use names a block that shares an address with this one. -/
def Free (existing : List String) (part : Block) : Prop :=
  ∀ text ∈ existing, ∀ other, Block.parse? text = some other → part.Disjoint other

/-- A part is free of the blocks that were read exactly if it is free of the texts. -/
theorem isFree_takenBlocks {existing : List String} {part : Block} :
    isFree (takenBlocks existing) part = true ↔ Free existing part := by
  simp only [isFree, takenBlocks, Free, List.all_eq_true, List.mem_filterMap,
    Block.disjoint_iff_overlaps, Bool.not_eq_true']
  constructor
  · intro free text mem other read
    exact free other ⟨text, mem, read⟩
  · rintro free other ⟨text, mem, read⟩
    exact free text mem other read

/-- Entries that do not pass a test may be left out in front of a search. -/
theorem find?_drop_eq {α : Type} {test : α → Bool} {entries : List α} {m n : Nat} (upTo : m ≤ n)
    (fails : ∀ k (h : k < entries.length), m ≤ k → k < n → test entries[k] = false) :
    (entries.drop m).find? test = (entries.drop n).find? test := by
  induction h : n - m generalizing m with
  | zero =>
      obtain rfl : m = n := by omega
      rfl
  | succ d ih =>
      have rest : (entries.drop (m + 1)).find? test = (entries.drop n).find? test :=
        ih (by omega) (fun k inside from_next => fails k inside (by omega)) (by omega)
      by_cases inside : m < entries.length
      · have fail := fails m inside (Nat.le_refl m) (by omega)
        rw [List.drop_eq_getElem_cons inside, List.find?_cons_of_neg (by simp [fail]), rest]
      · rw [List.drop_eq_nil_of_le (by omega), List.drop_eq_nil_of_le (by omega)]

section Search

variable {parent : Block} {length : Nat} {hlo : parent.length ≤ length} {hhi : length ≤ 32}
  {taken : List Block} {other : Block} {i j : Nat}

/-- The parts that begin before a taken block has ended. -/
theorem lt_indexAfter :
    j < indexAfter parent length other ↔
      j * Block.sizeOf length < other.last + 1 - parent.first := by
  have positive := Block.sizeOf_pos length
  rw [indexAfter, Nat.lt_div_iff_mul_lt positive]
  omega

/-- Each cut begins where the ones before it end. -/
theorem first_cut {hi : i < parent.cuts length} :
    (parent.cut length i hlo hhi hi).first = parent.first + i * Block.sizeOf length := rfl

/-- Each cut ends just before the next one begins. -/
theorem last_cut {hi : i < parent.cuts length} :
    (parent.cut length i hlo hhi hi).last =
      parent.first + i * Block.sizeOf length + (Block.sizeOf length - 1) := by
  have positive := Block.sizeOf_pos length
  change parent.first + i * Block.sizeOf length + Block.sizeOf length - 1 = _
  omega

/-- Once a part overlaps a taken block, so do all later ones that begin before it has ended. -/
theorem overlaps_of_lt_indexAfter {hi : i < parent.cuts length} {hj : j < parent.cuts length}
    (hit : (parent.cut length i hlo hhi hi).overlaps other = true) (upTo : i ≤ j)
    (before : j < indexAfter parent length other) :
    (parent.cut length j hlo hhi hj).overlaps other = true := by
  have order := Nat.mul_le_mul_right (Block.sizeOf length) upTo
  rw [lt_indexAfter] at before
  rw [Block.overlaps_iff, first_cut, last_cut] at hit ⊢
  omega

/-- The parts that begin after a taken block has ended. -/
theorem indexAfter_le_iff (begun : parent.first ≤ other.last) :
    indexAfter parent length other ≤ j ↔
      other.last < parent.first + j * Block.sizeOf length := by
  rw [← Nat.not_lt, lt_indexAfter]
  omega

/-- The search is the test of all parts, one by one. -/
theorem lowestFree?_eq_find? (index : Nat) :
    lowestFree? parent length hlo hhi taken index =
      ((parent.parts hlo hhi).drop index).find? (isFree taken) := by
  fun_induction lowestFree? parent length hlo hhi taken index with
  | case1 index inside candidate free =>
      have here : isFree taken candidate = true := by
        simpa [isFree] using free
      rw [List.drop_eq_getElem_cons (by simpa [Block.length_parts] using inside),
        Block.getElem_parts, List.find?_cons_of_pos here]
  | case2 index inside candidate other hit ih =>
      have met : candidate.overlaps other = true := by simpa using List.find?_some hit
      have mem : other ∈ taken := List.mem_of_find?_eq_some hit
      rw [ih]
      -- None of the parts that are left out is free: each of them overlaps `other`.
      refine (find?_drop_eq (by omega) ?_).symm
      intro k listed upTo before
      rw [Block.getElem_parts]
      have busy : (parent.cut length k hlo hhi (by simpa [Block.length_parts] using listed)).overlaps
          other = true := by
        rcases Nat.eq_or_lt_of_le upTo with rfl | later
        · exact met
        · exact overlaps_of_lt_indexAfter met upTo (by omega)
      rw [isFree, List.all_eq_false]
      exact ⟨other, mem, by simp [busy]⟩
  | case3 index outside =>
      rw [List.drop_eq_nil_of_le (by simpa [Block.length_parts] using outside)]
      rfl

end Search

/-- What a choice of a subnet makes of the part that the search has found. -/
theorem nextSubnet_of_block {padding length count : Nat} {parent : String} {existing : List String}
    {base : Block} (read : block parent = .ok base) (hlo : base.length ≤ length) (hhi : length ≤ 32) :
    nextSubnet padding parent length existing count =
      match lowestFree? base length hlo hhi (takenBlocks existing) 0 with
      | some part => (addresses padding part count).map (Choice.mk part)
      | none => .error (.exhausted (.subnets length parent)) := by
  simp only [nextSubnet, read, bind, Except.bind, dif_pos (And.intro hlo hhi)]
  cases lowestFree? base length hlo hhi (takenBlocks existing) 0 with
  | none => rfl
  | some part => cases addresses padding part count <;> rfl

/-- A length outside of the parent's range is refused as such. -/
theorem nextSubnet_of_outside {padding length count : Nat} {parent : String} {existing : List String}
    {base : Block} (read : block parent = .ok base)
    (outside : ¬ (base.length ≤ length ∧ length ≤ 32)) :
    nextSubnet padding parent length existing count = .error (.lengthOutside length parent) := by
  simp only [nextSubnet, read, bind, Except.bind, dif_neg outside]
  rfl

/-- A parent that cannot be read is reported as such. -/
theorem nextSubnet_of_unread {padding length count : Nat} {parent : String} {existing : List String}
    {error : NetworkError} (unread : block parent = .error error) :
    nextSubnet padding parent length existing count = .error error := by
  simp only [nextSubnet, unread, bind, Except.bind]

/-! ### The search on machine words -/

/-- A number, if a word of 64 bits holds it. -/
def word? (n : Nat) : Option Nat := if n < UInt64.size then some n else none

/-- A difference, if it is not negative. -/
def difference? (m n : Nat) : Option Nat := if n ≤ m then some (m - n) else none

/-- A one that is shifted, if the distance is less than the width of a word. -/
def shiftedOne? (distance : Nat) : Option Nat := if distance < 64 then some (1 <<< distance) else none

/-- A quotient that is rounded up, if the divisor is not zero. -/
def ceilDiv? (m n : Nat) : Option Nat := if n = 0 then none else some ((m + n - 1) / n)

/-- The address of a number, if 32 bits hold it. -/
def address? (n : Nat) : Option Address := if n < UInt32.size then some (.ofNat n) else none

/-- What a search has done: the parts that were tested, by their indices, and the first address of the one
that was found. -/
structure Trace where
  tested : List Nat
  found : Option Address
deriving Repr, DecidableEq

/-- The search from an index on, carried out on words. -/
def searchWords? (base size cuts : Nat) (taken : List Block) (index : Nat) : Option Trace :=
  if index < cuts then do
    let first ← word? (base + (← word? (index * size)))
    let stop ← word? (base + (← word? ((← word? (index + 1)) * size)))
    let last ← difference? stop 1
    match taken.find? fun other => first ≤ other.last && other.first ≤ last with
    | none => pure ⟨[index], some (← address? first)⟩
    | some other =>
      let gap ← difference? (← word? (other.last + 1)) base
      let past ← ceilDiv? gap size
      let later ← searchWords? base size cuts taken (max (index + 1) past)
      pure { later with tested := index :: later.tested }
  else pure ⟨[], none⟩
termination_by cuts - index
decreasing_by omega

/-- The first usable addresses of a subnet, computed on words. -/
def addressesWords? (padding : Nat) (subnet : Block) (count : Nat) :
    Option (Except NetworkError (List Address)) := do
  let start ← word? ((← word? (subnet.first + padding)) + 1)
  let usable := subnet.last - start
  if usable < count then pure (.error (.exhausted (.addresses subnet usable count)))
  else
    let stop ← word? (start + count)
    let found ← (List.range' start (stop - start)).mapM address?
    pure (.ok found)

/-- The choice that a search comes to, computed on words. -/
def choiceWords? (padding : Nat) (parent : String) (length : Nat) (hhi : length ≤ 32) (count : Nat)
    (trace : Trace) : Option (Except NetworkError Choice) :=
  match trace.found with
  | none => pure (.error (.exhausted (.subnets length parent)))
  | some first => do
    let subnet := Block.around first length hhi
    let found ← addressesWords? padding subnet count
    pure (found.map (Choice.mk subnet))

/-- The choice of a subnet and of addresses in it, computed on words, with the indices of the parts that
were tested. -/
def nextSubnetWords? (padding : Nat) (parent : String) (length : Nat) (existing : List String)
    (count : Nat) : Option (List Nat × Except NetworkError Choice) :=
  match block parent with
  | .error error => some ([], .error error)
  | .ok base =>
    if h : length ≤ 32 ∧ base.length ≤ length then do
      let size ← shiftedOne? (← difference? 32 length)
      let cuts ← shiftedOne? (← difference? length base.length)
      let trace ← searchWords? base.first size cuts (takenBlocks existing) 0
      let choice ← choiceWords? padding parent length h.1 count trace
      pure (trace.tested, choice)
    else some ([], .error (.lengthOutside length parent))

/-- A number below 2 ^ 64 is one word. -/
theorem word?_of_lt {n : Nat} (h : n < UInt64.size) : word? n = some n := if_pos h

/-- A difference that is not below zero is one word. -/
theorem difference?_of_le {m n : Nat} (h : n ≤ m) : difference? m n = some (m - n) := if_pos h

/-- One shifted by less than 64 places is one word. -/
theorem shiftedOne?_of_lt {distance : Nat} (h : distance < 64) :
    shiftedOne? distance = some (1 <<< distance) := if_pos h

/-- Rounding up a quotient is as in whole numbers, for a divisor that is not zero. -/
theorem ceilDiv?_of_pos {m n : Nat} (h : 0 < n) : ceilDiv? m n = some ((m + n - 1) / n) :=
  if_neg (Nat.ne_of_gt h)

/-- A number of 32 bits is an address. -/
theorem address?_of_lt {n : Nat} (h : n < UInt32.size) : address? n = some (.ofNat n) := if_pos h

/-- Fewer entries pass the stricter of two tests, if there is one that passes the other test only. -/
theorem countP_lt {α : Type} (lax strict : α → Bool) {entries : List α} {entry : α}
    (mem : entry ∈ entries) (weaker : ∀ x, strict x = true → lax x = true)
    (passes : lax entry = true) (fails : strict entry = false) :
    entries.countP strict < entries.countP lax := by
  have twice : entries.filter strict = (entries.filter lax).filter strict := by
    rw [List.filter_filter]
    refine List.filter_congr fun x _ => ?_
    cases h : strict x with
    | false => rfl
    | true => simp [weaker x h]
  rw [List.countP_eq_length_filter, List.countP_eq_length_filter, twice,
    List.length_filter_lt_length_iff_exists]
  exact ⟨entry, List.mem_filter.2 ⟨mem, passes⟩, by simp [fails]⟩

section Words

variable {parent : Block} {length : Nat}

/-- All parts of a block end before the last address there is. -/
theorem part_end_le (hlo : parent.length ≤ length) (hhi : length ≤ 32) {index : Nat}
    (inside : index < parent.cuts length) :
    parent.first + (index + 1) * Block.sizeOf length ≤ UInt32.size := by
  have cuts := parent.cuts_mul_sizeOf hlo hhi
  have fits := parent.fits
  have upTo := Nat.mul_le_mul_right (Block.sizeOf length) (show index + 1 ≤ _ from inside)
  rw [Block.size] at cuts
  omega

/-- One step of the search on words is one step of the search. -/
theorem searchWords?_of_lt (hlo : parent.length ≤ length) (hhi : length ≤ 32) (taken : List Block)
    {index : Nat} (inside : index < parent.cuts length) :
    searchWords? parent.first (Block.sizeOf length) (parent.cuts length) taken index =
      match taken.find? (parent.cut length index hlo hhi inside).overlaps with
      | none => some ⟨[index], some (.ofNat (parent.cut length index hlo hhi inside).first)⟩
      | some other =>
        (searchWords? parent.first (Block.sizeOf length) (parent.cuts length) taken
          (max (index + 1) (indexAfter parent length other))).map
            fun later => { later with tested := index :: later.tested } := by
  have positive := Block.sizeOf_pos length
  have stop := part_end_le hlo hhi inside
  have next : (index + 1) * Block.sizeOf length =
      index * Block.sizeOf length + Block.sizeOf length := Nat.succ_mul _ _
  have few : index + 1 ≤ (index + 1) * Block.sizeOf length := Nat.le_mul_of_pos_right _ positive
  have wide : UInt32.size < UInt64.size := by decide
  -- The ends of the part, as they are computed, are those of the block.
  have ends : (fun other : Block => decide (parent.first + index * Block.sizeOf length ≤ other.last) &&
      decide (other.first ≤ parent.first + (index + 1) * Block.sizeOf length - 1)) =
      (parent.cut length index hlo hhi inside).overlaps := by
    funext other
    rw [Bool.eq_iff_iff, Block.overlaps_iff, first_cut, last_cut, Bool.and_eq_true,
      decide_eq_true_eq, decide_eq_true_eq]
    omega
  rw [searchWords?, if_pos inside]
  simp only [Option.bind_eq_bind, Option.pure_def,
    word?_of_lt (show index * Block.sizeOf length < UInt64.size by omega),
    word?_of_lt (show parent.first + index * Block.sizeOf length < UInt64.size by omega),
    word?_of_lt (show index + 1 < UInt64.size by omega),
    word?_of_lt (show (index + 1) * Block.sizeOf length < UInt64.size by omega),
    word?_of_lt (show parent.first + (index + 1) * Block.sizeOf length < UInt64.size by omega),
    difference?_of_le (show 1 ≤ parent.first + (index + 1) * Block.sizeOf length by omega),
    address?_of_lt (show parent.first + index * Block.sizeOf length < UInt32.size by omega),
    Option.bind_some, ends]
  cases hit : taken.find? (parent.cut length index hlo hhi inside).overlaps with
  | none => rfl
  | some other =>
      have met : (parent.cut length index hlo hhi inside).overlaps other = true := by
        simpa using List.find?_some hit
      rw [Block.overlaps_iff, first_cut] at met
      have top := other.last_lt
      simp only [word?_of_lt (show other.last + 1 < UInt64.size by omega),
        difference?_of_le (show parent.first ≤ other.last + 1 by omega),
        ceilDiv?_of_pos positive, Option.bind_some]
      exact Option.map_eq_bind.symm

/-- The search on words never leaves their range, finds what the search finds, and tests at most one part
more than there are taken blocks that end after the part it begins with. -/
theorem exists_searchWords? (hlo : parent.length ≤ length) (hhi : length ≤ 32) (taken : List Block)
    (index : Nat) :
    ∃ trace, searchWords? parent.first (Block.sizeOf length) (parent.cuts length) taken index =
        some trace ∧
      trace.found = (lowestFree? parent length hlo hhi taken index).map
        (fun part => Address.ofNat part.first) ∧
      trace.tested.length ≤ taken.countP
        (fun other => parent.first + index * Block.sizeOf length ≤ other.last) + 1 := by
  fun_induction lowestFree? parent length hlo hhi taken index with
  | case1 index inside candidate free =>
      refine ⟨_, by rw [searchWords?_of_lt hlo hhi taken inside, free], rfl, ?_⟩
      exact Nat.le_add_left 1 _
  | case2 index inside candidate other hit ih =>
      have met : candidate.overlaps other = true := by simpa using List.find?_some hit
      rw [Block.overlaps_iff, first_cut] at met
      obtain ⟨later, searched, found, few⟩ := ih
      refine ⟨{ later with tested := index :: later.tested }, ?_, found, ?_⟩
      · rw [searchWords?_of_lt hlo hhi taken inside, hit]
        simp only [searched, Option.map_some]
      · -- The block that was met ends before the next part that is tested.
        have order := Nat.mul_le_mul_right (Block.sizeOf length)
          (show index ≤ max (index + 1) (indexAfter parent length other) by omega)
        have past : other.last < parent.first +
            max (index + 1) (indexAfter parent length other) * Block.sizeOf length :=
          (indexAfter_le_iff (by omega)).1 (by omega)
        have fewer := countP_lt (fun b => decide (parent.first + index * Block.sizeOf length ≤ b.last))
          (fun b => decide (parent.first + max (index + 1) (indexAfter parent length other) *
            Block.sizeOf length ≤ b.last)) (List.mem_of_find?_eq_some hit)
          (fun b later => by simp only [decide_eq_true_eq] at later ⊢; omega)
          (by simpa using met.1) (by simpa using past)
        simp only [List.length_cons]
        omega
  | case3 index outside =>
      refine ⟨⟨[], none⟩, ?_, rfl, Nat.zero_le _⟩
      rw [searchWords?, if_neg outside]
      rfl

/-- Numbers that 32 bits hold are those of addresses. -/
theorem mapM_address? {start count : Nat} (fits : start + count ≤ UInt32.size) :
    (List.range' start count).mapM address? =
      some ((List.range count).map fun i => Address.ofNat (start + i)) := by
  induction count generalizing start with
  | zero => rfl
  | succ count ih =>
      have rest : start + 1 + count ≤ UInt32.size := by omega
      rw [List.range'_succ, List.mapM_cons, address?_of_lt (by omega), ih rest, List.range_succ_eq_map,
        List.map_cons, List.map_map]
      simp only [Option.bind_eq_bind, Option.bind_some, Option.pure_def, Nat.add_zero,
        Option.some.injEq, List.cons.injEq, true_and]
      refine List.map_congr_left fun i _ => ?_
      simp only [Function.comp_apply, Nat.succ_eq_add_one]
      rw [Nat.add_assoc, Nat.add_comm 1 i]

/-- The addresses that are handed out come from computations that stay within words. -/
theorem addressesWords?_eq {padding : Nat} (small : padding < UInt32.size) (subnet : Block) (count : Nat) :
    addressesWords? padding subnet count = some (addresses padding subnet count) := by
  have bound := subnet.last_lt
  have order := subnet.first_le_last
  have double : 2 * UInt32.size < UInt64.size := by decide
  simp only [addressesWords?, Option.bind_eq_bind, Option.pure_def,
    word?_of_lt (show subnet.first + padding < UInt64.size by omega),
    word?_of_lt (show subnet.first + padding + 1 < UInt64.size by omega), Option.bind_some]
  rw [addresses, usableCount, firstUsable]
  split
  · rfl
  · next enough =>
      have stop : word? (subnet.first + padding + 1 + count) = some (subnet.first + padding + 1 + count) :=
        word?_of_lt (by omega)
      rw [stop, Option.bind_some, Nat.add_sub_cancel_left]
      rcases Nat.eq_zero_or_pos count with rfl | some_count
      · rfl
      · rw [mapM_address? (by omega)]
        rfl

/-- Choosing a subnet stays within words, has the outcome of the plain computation, and tests at most one
part more than there are taken blocks. -/
theorem exists_nextSubnetWords? {padding : Nat} (small : padding < UInt32.size) (parent : String)
    (length : Nat) (existing : List String) (count : Nat) :
    ∃ tested, nextSubnetWords? padding parent length existing count =
        some (tested, nextSubnet padding parent length existing count) ∧
      tested.length ≤ (takenBlocks existing).length + 1 := by
  rw [nextSubnetWords?]
  cases read : block parent with
  | error error => exact ⟨[], by rw [nextSubnet_of_unread read], Nat.zero_le _⟩
  | ok base =>
      by_cases lengths : base.length ≤ length ∧ length ≤ 32
      · obtain ⟨trace, searched, found, few⟩ :=
          exists_searchWords? lengths.1 lengths.2 (takenBlocks existing) 0
        have size : shiftedOne? (32 - length) = some (Block.sizeOf length) := shiftedOne?_of_lt (by omega)
        have cuts : shiftedOne? (length - base.length) = some (base.cuts length) :=
          shiftedOne?_of_lt (by omega)
        refine ⟨trace.tested, ?_, Nat.le_trans few (Nat.succ_le_succ List.countP_le_length)⟩
        rw [nextSubnet_of_block read lengths.1 lengths.2]
        simp only [dif_pos lengths.symm, difference?_of_le lengths.2, difference?_of_le lengths.1, size, cuts,
          searched, choiceWords?, found, Option.bind_eq_bind, Option.bind_some, Option.pure_def]
        cases chosen : lowestFree? base length lengths.1 lengths.2 (takenBlocks existing) 0 with
        | none => rfl
        | some part =>
            obtain ⟨rfl, -⟩ := lowestFree?_eq_some chosen
            simp only [Option.map_some, Block.around_first, addressesWords?_eq small, Option.bind_some]
      · refine ⟨[], ?_, Nat.zero_le _⟩
        rw [nextSubnet_of_outside read lengths]
        simp only [dif_neg fun h => lengths (And.symm h)]

end Words

/-! ### What is chosen -/

/-- The lowest part of a length that a block has among those that share no address with what is in use. -/
structure Lowest (base : Block) (length : Nat) (existing : List String) (part : Block) : Prop where
  sized : part.length = length
  within : part.Within base
  free : Free existing part
  lowest : ∀ earlier : Block, earlier.length = length → earlier.Within base →
    earlier.first < part.first → ¬ Free existing earlier

section Choice

variable {base : Block} {length : Nat} {hlo : base.length ≤ length} {hhi : length ≤ 32}
  {existing : List String} {part : Block}

/-- There is at most one lowest part. -/
theorem Lowest.unique {other : Block} (h : Lowest base length existing part)
    (k : Lowest base length existing other) : part = other := by
  refine Block.ext ?_ (h.sized.trans k.sized.symm)
  rcases Nat.lt_trichotomy part.first other.first with before | same | after
  · exact absurd h.free (k.lowest part h.sized h.within before)
  · exact same
  · exact absurd k.free (h.lowest other k.sized k.within after)

/-- No part passes the test exactly if all of them share addresses with what is in use. -/
theorem find?_parts_eq_none :
    (base.parts hlo hhi).find? (isFree (takenBlocks existing)) = none ↔
      ∀ part : Block, part.length = length → part.Within base → ¬ Free existing part := by
  rw [List.find?_eq_none]
  constructor
  · intro busy part same within free
    exact busy part (Block.mem_parts.2 ⟨same, within⟩) (isFree_takenBlocks.2 free)
  · intro busy part mem free
    obtain ⟨same, within⟩ := Block.mem_parts.1 mem
    exact busy part same within (isFree_takenBlocks.1 free)

/-- The first part that passes the test is lowest. -/
theorem lowest_of_find?
    (found : (base.parts hlo hhi).find? (isFree (takenBlocks existing)) = some part) :
    Lowest base length existing part := by
  obtain ⟨passes, before, after, split, fail⟩ := List.find?_eq_some_iff_append.1 found
  have mem : part ∈ base.parts hlo hhi := List.mem_of_find?_eq_some found
  obtain ⟨same, within⟩ := Block.mem_parts.1 mem
  refine ⟨same, within, isFree_takenBlocks.1 passes, ?_⟩
  intro earlier sameLength inside lower free
  have listed : earlier ∈ base.parts hlo hhi := Block.mem_parts.2 ⟨sameLength, inside⟩
  have order : (base.parts hlo hhi).Pairwise fun a b => a.first < b.first := base.ascending_parts
  rw [split] at listed order
  have later := (List.pairwise_cons.1 (List.pairwise_append.1 order).2.1).1
  rcases List.mem_append.1 listed with mem | mem
  · have := fail earlier mem
    rw [isFree_takenBlocks.2 free] at this
    cases this
  · rcases List.mem_cons.1 mem with rfl | mem
    · exact Nat.lt_irrefl _ lower
    · exact Nat.lt_asymm lower (later earlier mem)

/-- The first free part in order is the lowest subnet that is free. -/
theorem find?_parts_eq_some :
    (base.parts hlo hhi).find? (isFree (takenBlocks existing)) = some part ↔
      Lowest base length existing part := by
  constructor
  · exact lowest_of_find?
  · intro low
    cases found : (base.parts hlo hhi).find? (isFree (takenBlocks existing)) with
    | none => exact absurd low.free (find?_parts_eq_none.1 found part low.sized low.within)
    | some other => rw [(lowest_of_find? found).unique low]

/-- Only what is in use matters for the test, not how often or in which order it is listed. -/
theorem isFree_congr {rearranged : List String}
    (same : ∀ text, text ∈ rearranged ↔ text ∈ existing) :
    isFree (takenBlocks rearranged) = isFree (takenBlocks existing) := by
  funext part
  rw [Bool.eq_iff_iff, isFree_takenBlocks, isFree_takenBlocks]
  simp only [Free, same]

end Choice

/-- A block that can be read is the one that was meant. -/
theorem block_of_parse {text : String} {b : Block} (h : Block.parse text = .ok b) :
    block text = .ok b := by rw [block, h]

/-- A shortage of addresses is not a shortage of subnets. -/
theorem addresses_ne_subnets {padding count length : Nat} {part : Block} {parent : String} :
    (addresses padding part count).map (Choice.mk part) ≠
      .error (.exhausted (.subnets length parent)) := by
  rw [addresses]
  split <;> simp [Except.map]

/-- The search for a subnet is the test of all parts of the parent block, one by one from the first.  It
chooses the lowest part that shares no address with what is in use, and reports that there is none left
exactly if every part does.  The order of what is in use does not matter, nor do repetitions; on words of 64
bits no computation leaves its range, and at most one more part is tested than there are blocks in use. -/
theorem search_is_plain_scan (padding : UInt32) {parent : String} {base : Block} {length : Nat}
    (existing : List String) (count : Nat) (read : Block.parse parent = .ok base)
    (hlo : base.length ≤ length) (hhi : length ≤ 32) :
    (nextSubnet padding.toNat parent length existing count =
      match (base.parts hlo hhi).find? (isFree (takenBlocks existing)) with
      | some part => (addresses padding.toNat part count).map (Choice.mk part)
      | none => .error (.exhausted (.subnets length parent))) ∧
    (∀ part, (base.parts hlo hhi).find? (isFree (takenBlocks existing)) = some part ↔
      Lowest base length existing part) ∧
    (nextSubnet padding.toNat parent length existing count =
        .error (.exhausted (.subnets length parent)) ↔
      ∀ part : Block, part.length = length → part.Within base → ¬ Free existing part) ∧
    (∀ rearranged, (∀ text, text ∈ rearranged ↔ text ∈ existing) →
      nextSubnet padding.toNat parent length rearranged count =
        nextSubnet padding.toNat parent length existing count) ∧
    ∃ tested, nextSubnetWords? padding.toNat parent length existing count =
        some (tested, nextSubnet padding.toNat parent length existing count) ∧
      tested.length ≤ (takenBlocks existing).length + 1 := by
  have scanned : ∀ existing : List String,
      nextSubnet padding.toNat parent length existing count =
        match (base.parts hlo hhi).find? (isFree (takenBlocks existing)) with
        | some part => (addresses padding.toNat part count).map (Choice.mk part)
        | none => .error (.exhausted (.subnets length parent)) := by
    intro existing
    rw [nextSubnet_of_block (block_of_parse read) hlo hhi, lowestFree?_eq_find?, List.drop_zero]
  refine ⟨scanned existing, fun part => find?_parts_eq_some, ?_, ?_, ?_⟩
  · refine Iff.trans ?_ (find?_parts_eq_none : (base.parts hlo hhi).find? _ = none ↔ _)
    rw [scanned existing]
    cases (base.parts hlo hhi).find? (isFree (takenBlocks existing)) with
    | none => simp
    | some part => simpa using addresses_ne_subnets
  · intro rearranged same
    rw [scanned rearranged, scanned existing, isFree_congr same]
  · exact exists_nextSubnetWords? padding.toNat_lt parent length existing count

/-- The last 512 addresses there are. -/
def topmost : Block := .around (.ofOctets 255 255 254 0) 23 (by decide)

/-- Texts for the lower half of the last 512 addresses, in two spellings, and a text that is no block. -/
def lowerHalf : List String := ["255.255.254.128/25", "nothing", "::ffff:255.255.254.0/121"]

/-- The last subnet there is can be chosen, although what is in use covers all of the one before it. -/
theorem last_subnet_is_chosen :
    Block.parse "255.255.254.0/23" = .ok topmost ∧ topmost.length ≤ 24 ∧ 24 ≤ 32 ∧
      nextSubnet 3 "255.255.254.0/23" 24 lowerHalf 2 =
        .ok ⟨.around (.ofOctets 255 255 255 0) 24 (by decide),
          [.ofOctets 255 255 255 4, .ofOctets 255 255 255 5]⟩ ∧
      ∃ tested, nextSubnetWords? 3 "255.255.254.0/23" 24 lowerHalf 2 =
          some (tested, nextSubnet 3 "255.255.254.0/23" 24 lowerHalf 2) ∧
        tested.length ≤ (takenBlocks lowerHalf).length + 1 := by
  have read : Block.parse "255.255.254.0/23" = .ok topmost := by decide +kernel
  have all := search_is_plain_scan 3 lowerHalf 2 read (by decide) (show 24 ≤ 32 by decide)
  refine ⟨read, by decide, by decide, ?_, all.2.2.2.2⟩
  decide +kernel

end Allocation

end Testbed
