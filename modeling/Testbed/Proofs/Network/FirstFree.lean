import Testbed.Proofs.Network.Allocation

/-!
The first free address of a block.

An address is available if it lies past the network address and the padding, below the broadcast address, and
no text in use names it.  `firstFree_cases` says that the first free address is the least available one, and
that asking for it fails only where nothing is available.  The addresses that a choice of a subnet hands out
are those that would be found free one after the other.
-/

namespace Testbed

namespace Address

/-- Two addresses with the same number are one address. -/
theorem toNat_injective {a b : Address} (h : a.toNat = b.toNat) : a = b := by
  obtain ⟨m⟩ := a
  obtain ⟨n⟩ := b
  exact congrArg mk (UInt32.toNat_inj.1 h)

/-! ### Addresses in their longer spelling -/

/-- The four letters in front of an embedded address are read as the number 0xFFFF. -/
theorem number?_high (rest : List Char) :
    AddressText.number? 16 4 65536 ('f' :: 'f' :: 'f' :: 'f' :: ':' :: rest) =
      some (0xFFFF, ':' :: rest) := by
  have digit : AddressText.digit? 16 'f' = some 15 := by decide
  have colon : AddressText.digit? 16 ':' = none := by decide
  simp [AddressText.number?, digit, colon]

/-- A dotted address begins with a digit. -/
theorem dotted?_eq_none {c : Char} (h : AddressText.digit? 10 c = none) (rest : List Char) :
    AddressText.dotted? false (c :: rest) = none := by
  have octet : AddressText.octet? false (c :: rest) = none := by
    have number : AddressText.number? 10 3 256 (c :: rest) = none := by
      simp [AddressText.number?, h]
    rw [AddressText.octet?.eq_def]
    split
    · next d tail eq =>
        obtain ⟨rfl, rfl⟩ := List.cons.inj eq
        exact absurd h (by decide)
    · exact number
  rw [AddressText.dotted?, octet]
  rfl

/-- The six zero groups are left out, then a group of ones is read, then the dotted form. -/
theorem long?_mapped (a : Address) :
    AddressText.long? false (':' :: ':' :: 'f' :: 'f' :: 'f' :: 'f' :: ':' :: a.text.toList) =
      some ([0, 0, 0, 0, 0, 0xFFFF, a.toNat / 65536, a.toNat % 65536], []) := by
  have address : AddressText.dotted? false (a.text.toList ++ []) = some (a, []) :=
    a.dotted?_text false (by simp)
  rw [List.append_nil] at address
  have last : AddressText.groups false 6 false (':' :: a.text.toList) =
      ([a.toNat / 65536, a.toNat % 65536], true, []) := by
    rw [AddressText.groups]
    simp [AddressText.expect?, address]
  have tail : AddressText.groups false 7 true ('f' :: 'f' :: 'f' :: 'f' :: ':' :: a.text.toList) =
      ([0xFFFF, a.toNat / 65536, a.toNat % 65536], true, []) := by
    rw [AddressText.groups]
    simp [dotted?_eq_none (show AddressText.digit? 10 'f' = none by decide), number?_high, last]
  have head : ∀ rest, AddressText.groups false 8 true (':' :: rest) = ([], false, ':' :: rest) := by
    intro rest
    have number : AddressText.number? 16 4 65536 (':' :: rest) = none := by
      simp [AddressText.number?, show AddressText.digit? 16 ':' = none by decide]
    rw [AddressText.groups]
    simp [dotted?_eq_none (show AddressText.digit? 10 ':' = none by decide), number]
  simp [AddressText.long?, head, tail]

/-- An address reads back from its longer spelling. -/
theorem parseAny?_mapped (a : Address) : parseAny? ("::ffff:" ++ a.text) = some a := by
  have written : ("::ffff:" ++ a.text).toList =
      ':' :: ':' :: 'f' :: 'f' :: 'f' :: 'f' :: ':' :: a.text.toList := by
    rw [String.toList_append]
    rfl
  have trimmed : Text.trim ("::ffff:" ++ a.text).toList = ("::ffff:" ++ a.text).toList := by
    refine Text.trim_eq_self fun c mem => ?_
    simp only [written, List.mem_cons] at mem
    rcases mem with rfl | rfl | rfl | rfl | rfl | rfl | rfl | mem
    case inr.inr.inr.inr.inr.inr.inr => exact isBlank_of_mem_text mem
    all_goals rfl
  rw [written] at trimmed
  have halves : a.toNat / 65536 * 65536 + a.toNat % 65536 = a.toNat := Nat.div_add_mod' _ _
  simp only [parseAny?, trimmed, written, dotted?_eq_none (show AddressText.digit? 10 ':' = none by decide),
    long?_mapped, AddressText.mapped?, halves]
  rw [ofNat, toNat, UInt32.ofNat_toNat]

end Address

namespace Allocation

/-- An address that may be handed out of a subnet and that no text in use names. -/
structure Available (padding : Nat) (subnet : Block) (used : List String) (a : Address) : Prop where
  pastPadding : subnet.first + padding < a.toNat
  belowBroadcast : a.toNat < subnet.last
  unused : ∀ text ∈ used, Address.parseAny? text ≠ some a

/-- The search for an unused number finds the least one, or there is none. -/
theorem leastUnused?_cases (used : List Nat) (bound n : Nat) :
    (leastUnused? used bound n = none ∧ ∀ k, n ≤ k → k < bound → k ∈ used) ∨
    ∃ m, leastUnused? used bound n = some m ∧ n ≤ m ∧ m < bound ∧ m ∉ used ∧
      ∀ k, n ≤ k → k < m → k ∈ used := by
  fun_induction leastUnused? used bound n with
  | case1 n inside busy ih =>
      have busy : n ∈ used := by simpa using busy
      have passed : ∀ k, n ≤ k → (n + 1 ≤ k → k ∈ used) → k ∈ used := by
        intro k from_n later
        rcases Nat.eq_or_lt_of_le from_n with rfl | past
        · exact busy
        · exact later past
      rcases ih with ⟨none, all⟩ | ⟨m, found, from_next, below, free, before⟩
      · exact .inl ⟨none, fun k from_n below => passed k from_n fun later => all k later below⟩
      · exact .inr ⟨m, found, by omega, below, free,
          fun k from_n earlier => passed k from_n fun later => before k later earlier⟩
  | case2 n inside idle =>
      exact .inr ⟨n, rfl, Nat.le_refl n, inside, by simpa using idle, fun k _ _ => by omega⟩
  | case3 n outside =>
      exact .inl ⟨rfl, fun k _ _ => by omega⟩

/-- What is missing where a subnet has no address available. -/
def lacking (padding : Nat) (subnet : Block) : Shortage :=
  if subnet.last ≤ firstUsable padding subnet then .usable subnet padding else .freeAddresses subnet

section FirstFree

variable {padding : Nat} {cidr : String} {subnet : Block} {used : List String} {a : Address}

/-- The numbers in use are those of the texts that can be read as addresses. -/
theorem mem_numbers {n : Nat} :
    n ∈ (used.filterMap Address.parseAny?).map Address.toNat ↔
      ∃ text ∈ used, ∃ a, Address.parseAny? text = some a ∧ a.toNat = n := by
  simp only [List.mem_map, List.mem_filterMap]
  constructor
  · rintro ⟨a, ⟨text, mem, read⟩, rfl⟩
    exact ⟨text, mem, a, read, rfl⟩
  · rintro ⟨text, mem, a, read, rfl⟩
    exact ⟨a, ⟨text, mem, read⟩, rfl⟩

/-- An address is available if its number is usable and not among those in use. -/
theorem available_iff :
    Available padding subnet used a ↔
      firstUsable padding subnet ≤ a.toNat ∧ a.toNat < subnet.last ∧
        a.toNat ∉ (used.filterMap Address.parseAny?).map Address.toNat := by
  rw [mem_numbers]
  constructor
  · rintro ⟨past, below, unused⟩
    refine ⟨past, below, ?_⟩
    rintro ⟨text, mem, b, read, same⟩
    exact unused text mem (by rw [read, Address.toNat_injective same])
  · rintro ⟨past, below, free⟩
    exact ⟨past, below, fun text mem read => free ⟨text, mem, a, read, rfl⟩⟩

/-- The first free address is the least available one; the search for it fails only if there is none. -/
theorem firstFree_cases (padding : Nat) (used : List String) (read : Block.parse cidr = .ok subnet) :
    (firstFree padding cidr used = .error (.exhausted (lacking padding subnet)) ∧
      ∀ a, ¬ Available padding subnet used a) ∨
    ∃ a, firstFree padding cidr used = .ok a ∧ Available padding subnet used a ∧
      ∀ b, Available padding subnet used b → a.toNat ≤ b.toNat := by
  have named : block cidr = .ok subnet := by rw [block, read]
  simp only [available_iff]
  by_cases tiny : subnet.last ≤ firstUsable padding subnet
  · refine .inl ⟨?_, ?_⟩
    · rw [lacking, if_pos tiny]
      simp only [firstFree, named, bind, Except.bind, if_pos tiny]
      rfl
    · rintro a ⟨past, below, -⟩
      omega
  · rcases leastUnused?_cases ((used.filterMap Address.parseAny?).map Address.toNat) subnet.last
      (firstUsable padding subnet) with ⟨none, all⟩ | ⟨m, found, past, below, free, before⟩
    · refine .inl ⟨?_, ?_⟩
      · rw [lacking, if_neg tiny]
        simp only [firstFree, named, bind, Except.bind, if_neg tiny, none]
        rfl
      · rintro a ⟨past, below, free⟩
        exact free (all _ past below)
    · have number : (Address.ofNat m).toNat = m := Address.toNat_ofNat (by
        have := subnet.last_lt
        omega)
      refine .inr ⟨Address.ofNat m, ?_, ?_, ?_⟩
      · simp only [firstFree, named, bind, Except.bind, if_neg tiny, found]
        rfl
      · rw [number]
        exact ⟨past, below, free⟩
      · rintro b ⟨pastB, -, freeB⟩
        rw [number]
        by_contra earlier
        exact freeB (before _ pastB (by omega))

/-- The first free address depends on nothing but the addresses of the block that are in use. -/
theorem firstFree_congr {others : List String} (padding : Nat) (read : Block.parse cidr = .ok subnet)
    (same : ∀ a : Address, subnet.contains a.toNat = true →
      ((∃ text ∈ others, Address.parseAny? text = some a) ↔
        ∃ text ∈ used, Address.parseAny? text = some a)) :
    firstFree padding cidr others = firstFree padding cidr used := by
  have alike : ∀ a, Available padding subnet others a ↔ Available padding subnet used a := by
    intro a
    have transfer : ∀ {left right : List String},
        (subnet.contains a.toNat = true → (∃ text ∈ right, Address.parseAny? text = some a) →
          ∃ text ∈ left, Address.parseAny? text = some a) →
        Available padding subnet left a → Available padding subnet right a := by
      rintro left right move ⟨past, below, unused⟩
      have inside : subnet.contains a.toNat = true := Block.contains_iff.2 ⟨by omega, by omega⟩
      refine ⟨past, below, fun text mem read => ?_⟩
      obtain ⟨other, listed, named⟩ := move inside ⟨text, mem, read⟩
      exact unused other listed named
    exact ⟨transfer fun inside => (same a inside).2, transfer fun inside => (same a inside).1⟩
  rcases firstFree_cases padding others read with ⟨failed, none⟩ | ⟨a, found, available, least⟩
  · rcases firstFree_cases padding used read with ⟨failed', -⟩ | ⟨b, -, available, -⟩
    · rw [failed, failed']
    · exact absurd ((alike b).2 available) (none b)
  · rcases firstFree_cases padding used read with ⟨-, none⟩ | ⟨b, found', available', least'⟩
    · exact absurd ((alike a).1 available) (none a)
    · have upper := least b ((alike b).2 available')
      have lower := least' a ((alike a).1 available)
      rw [found, found', Address.toNat_injective (Nat.le_antisymm upper lower)]

end FirstFree

/-- The first free address of a block is the least one that lies past the padding, below the broadcast
address and is not in use, in whichever spelling; asking for it fails exactly if there is none, and texts
that name no address of the block change nothing.  When some of the addresses that were handed out with a
subnet are in use, from the first on, the first free one is the next that was handed out. -/
theorem first_free_is_least_available (padding : Nat) :
    (∀ cidr subnet used, Block.parse cidr = .ok subnet →
      (∀ a, firstFree padding cidr used = .ok a ↔
        Available padding subnet used a ∧
          ∀ b, Available padding subnet used b → a.toNat ≤ b.toNat) ∧
      ((∃ shortage, firstFree padding cidr used = .error (.exhausted shortage)) ↔
        ∀ a, ¬ Available padding subnet used a) ∧
      ∀ others, (∀ a : Address, subnet.contains a.toNat = true →
          ((∃ text ∈ others, Address.parseAny? text = some a) ↔
            ∃ text ∈ used, Address.parseAny? text = some a)) →
        firstFree padding cidr others = firstFree padding cidr used) ∧
    (∀ a : Address, Address.parseAny? a.text = some a ∧
      Address.parseAny? ("::ffff:" ++ a.text) = some a) ∧
    ∀ parent length existing count choice,
      nextSubnet padding parent length existing count = .ok choice → ∀ n < count,
        ∃ a, choice.addresses[n]? = some a ∧
          firstFree padding choice.subnet.text ((choice.addresses.take n).map Address.text) =
            .ok a := by
  refine ⟨?_, fun a => ⟨a.parseAny?_text, a.parseAny?_mapped⟩, ?_⟩
  · intro cidr subnet used read
    refine ⟨?_, ?_, fun others same => firstFree_congr padding read same⟩
    · intro a
      rcases firstFree_cases padding used read with ⟨failed, none⟩ | ⟨b, found, available, least⟩
      · simp [failed, none]
      · rw [found]
        constructor
        · intro same
          obtain rfl := Except.ok.inj same
          exact ⟨available, least⟩
        · rintro ⟨other, lowest⟩
          have same := Nat.le_antisymm (least a other) (lowest b available)
          rw [Address.toNat_injective same]
    · rcases firstFree_cases padding used read with ⟨failed, none⟩ | ⟨b, found, available, -⟩
      · exact ⟨fun _ => none, fun _ => ⟨_, failed⟩⟩
      · refine ⟨?_, fun none => absurd available (none b)⟩
        rintro ⟨shortage, failed⟩
        rw [found] at failed
        cases failed
  · intro parent length existing count choice chosen n inside
    obtain ⟨base, -, -, -, listed⟩ := nextSubnet_inv chosen
    obtain ⟨-, handedOut, -⟩ := addresses_eq_first listed
    have listedNext : n < choice.addresses.length := by
      rw [handedOut]
      simpa using inside
    have next := List.getElem?_eq_getElem listedNext
    exact ⟨choice.addresses[n], next, firstFree_take listed next⟩

/-- In the smallest block with room after a padding of three, two addresses are in use, in two spellings; the
last usable address is found. -/
theorem last_usable_is_found :
    firstFree 3 "10.2.0.0/29" ["10.2.0.4", "::ffff:10.2.0.5", "10.3.0.6", "nothing"] =
      .ok (.ofOctets 10 2 0 6) ∧
    Available 3 (.around (.ofOctets 10 2 0 0) 29 (by decide))
      ["10.2.0.4", "::ffff:10.2.0.5", "10.3.0.6", "nothing"] (.ofOctets 10 2 0 6) := by
  have found : firstFree 3 "10.2.0.0/29" ["10.2.0.4", "::ffff:10.2.0.5", "10.3.0.6", "nothing"] =
      .ok (.ofOctets 10 2 0 6) := by decide +kernel
  have read : Block.parse "10.2.0.0/29" = .ok (.around (.ofOctets 10 2 0 0) 29 (by decide)) := by
    decide +kernel
  exact ⟨found, (((first_free_is_least_available 3).1 _ _ _ read).1 _).1 found |>.1⟩

end Allocation

end Testbed
