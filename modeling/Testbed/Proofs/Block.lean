import Testbed.Block
import Testbed.Proofs.Text

/-!
Blocks as sets of addresses, and their written form.

`Disjoint` and `Within` speak about the addresses of two blocks.  The allocator compares the ends of blocks
only, and `disjoint_iff_overlaps` says that this is enough.  `parse_text` says that the written form of a
block reads back as the block, so a set of such texts loses nothing of the blocks it stands for.
-/

namespace Testbed

/-! ### Digits -/

namespace AddressText

/-- A decimal digit is read as its value. -/
theorem digit?_of_isDigit {c : Char} (h : c.isDigit = true) :
    digit? 10 c = some (c.toNat - 48) := by
  have bounds : 48 ≤ c.toNat ∧ c.toNat ≤ 57 := by
    simpa [Char.isDigit, UInt32.le_iff_toNat_le] using h
  simp only [digit?, h, if_true, Option.filter_some, decide_eq_true_eq]
  rw [if_pos (by omega)]

/-- The value of a run of decimal digits. -/
theorem foldl_digits {cs : List Char} (h : ∀ c ∈ cs, c.isDigit = true) (start : Nat) :
    cs.foldl (fun n c => n * 10 + (digit? 10 c).getD 0) start = Nat.ofDigitChars 10 cs start := by
  induction cs generalizing start with
  | nil => simp
  | cons c rest ih =>
      rw [List.foldl_cons, ih (fun d mem => h d (by simp [mem])), Nat.ofDigitChars_cons,
        digit?_of_isDigit (h c (by simp)), Nat.mul_comm]
      rfl

/-- A number reads back from its decimal digits, up to the first character that is no digit. -/
theorem number?_toDigits {maxDigits bound n : Nat} {rest : List Char} (positive : 0 < maxDigits)
    (short : n < 10 ^ maxDigits) (below : n < bound)
    (stop : ∀ c ∈ rest.head?, (digit? 10 c).isSome = false) :
    number? 10 maxDigits bound (Nat.toDigits 10 n ++ rest) = some (n, rest) := by
  have digits : ∀ c ∈ Nat.toDigits 10 n, c.isDigit = true :=
    fun c mem => Nat.isDigit_of_mem_toDigits (by decide) (by decide) mem
  have run : (Nat.toDigits 10 n ++ rest).takeWhile (fun c => (digit? 10 c).isSome) =
      Nat.toDigits 10 n := by
    rw [List.takeWhile_append_of_pos fun c mem => by simp [digit?_of_isDigit (digits c mem)]]
    cases rest with
    | nil => simp
    | cons c rest => simp [stop c (by simp)]
  have length := (Nat.length_toDigits_le_iff (b := 10) (by decide) positive).2 short
  simp only [number?, run, foldl_digits digits, Nat.ofDigitChars_ten_toDigits]
  simp [Nat.not_lt.2 length, below]

/-- Octets are written without a leading zero. -/
theorem head?_toDigits_ne : ∀ n < 256, 0 < n → (Nat.toDigits 10 n).head? ≠ some '0' := by
  decide +kernel

/-- An octet reads back from its decimal digits: a zero in front of them is the whole octet. -/
theorem octet?_toDigits (lenient : Bool) {n : Nat} {rest : List Char} (below : n < 256)
    (stop : ∀ c ∈ rest.head?, (digit? 10 c).isSome = false) :
    octet? lenient (Nat.toDigits 10 n ++ rest) = some (n, rest) := by
  have read : number? 10 3 256 (Nat.toDigits 10 n ++ rest) = some (n, rest) :=
    number?_toDigits (by decide) (by omega) below stop
  rw [octet?.eq_def]
  split
  · next c tail leading =>
      have past : c.isDigit = false := by
        rcases Nat.eq_zero_or_pos n with rfl | positive
        · obtain rfl : rest = c :: tail := (List.cons.inj leading).2
          by_contra digit
          have none := stop c rfl
          rw [digit?_of_isDigit (Bool.not_eq_false _ ▸ digit)] at none
          cases none
        · have head := congrArg List.head? leading
          rw [List.head?_append_of_ne_nil _ Nat.toDigits_ne_nil] at head
          exact absurd head (head?_toDigits_ne n below positive)
      rw [past, Bool.and_false, if_neg Bool.false_ne_true]
      exact read
  · exact read

end AddressText

/-! ### The written form of a block -/

namespace Address

theorem octet_lt (a : Address) (i : Nat) : a.octet i < 256 := Nat.mod_lt _ (by decide)

/-- An address is put together from its octets. -/
theorem ofOctets_octet (a : Address) :
    ofOctets (a.octet 0) (a.octet 1) (a.octet 2) (a.octet 3) = a := by
  have whole : ((a.octet 0 * 256 + a.octet 1) * 256 + a.octet 2) * 256 + a.octet 3 = a.toNat := by
    have := a.toNat_lt
    simp only [octet, Nat.shiftRight_eq_div_pow, UInt32.size] at this ⊢
    omega
  rw [ofOctets, whole, ofNat, toNat, UInt32.ofNat_toNat]

/-- The text of an address is its four octets in decimals with dots between them. -/
theorem toList_text (a : Address) :
    a.text.toList = Nat.toDigits 10 (a.octet 0) ++ '.' :: (Nat.toDigits 10 (a.octet 1) ++
      '.' :: (Nat.toDigits 10 (a.octet 2) ++ '.' :: Nat.toDigits 10 (a.octet 3))) := by
  simp [text, ToString.toString]

/-- An address reads back from its dotted form, up to the first character that is no digit. -/
theorem dotted?_text (lenient : Bool) (a : Address) {rest : List Char}
    (stop : ∀ c ∈ rest.head?, (AddressText.digit? 10 c).isSome = false) :
    AddressText.dotted? lenient (a.text.toList ++ rest) = some (a, rest) := by
  have read : ∀ (i : Nat) (rest : List Char),
      (∀ c ∈ rest.head?, (AddressText.digit? 10 c).isSome = false) →
      AddressText.octet? lenient (Nat.toDigits 10 (a.octet i) ++ rest) = some (a.octet i, rest) :=
    fun i _ stop => AddressText.octet?_toDigits lenient (a.octet_lt i) stop
  have point : ∀ rest : List Char,
      ∀ c ∈ ('.' :: rest).head?, (AddressText.digit? 10 c).isSome = false := by
    intro rest c mem
    obtain rfl : '.' = c := by simpa using mem
    rfl
  rw [toList_text]
  simp only [AddressText.dotted?, List.append_assoc, List.cons_append, read _ _ (point _),
    read _ _ stop, AddressText.expect?, if_true, Option.bind_eq_bind, Option.bind_some,
    ofOctets_octet]
  rfl

/-- There is no blank in the text of an address. -/
theorem isBlank_of_mem_text {a : Address} {c : Char} (mem : c ∈ a.text.toList) :
    Text.isBlank c = false := by
  simp only [toList_text, List.mem_append, List.mem_cons] at mem
  rcases mem with h | rfl | h | rfl | h | rfl | h
  all_goals first | exact Text.isBlank_of_mem_toDigits h | rfl

/-- An address reads back from its written form, whichever families are accepted. -/
theorem parseAny?_text (a : Address) : parseAny? a.text = some a := by
  have trimmed : Text.trim a.text.toList = a.text.toList :=
    Text.trim_eq_self fun c mem => isBlank_of_mem_text mem
  have read : AddressText.dotted? false (a.text.toList ++ []) = some (a, []) :=
    a.dotted?_text false (by simp)
  rw [List.append_nil] at read
  simp only [parseAny?, trimmed, read]

/-- Addresses that were written are read back, none of them is left out. -/
theorem filterMap_parseAny?_text (as : List Address) :
    (as.map text).filterMap parseAny? = as := by
  induction as with
  | nil => rfl
  | cons a as ih => rw [List.map_cons, List.filterMap_cons_some a.parseAny?_text, ih]

end Address

namespace Block

/-- A block is its first address and its length. -/
@[ext] theorem ext {b c : Block} (first : b.first = c.first) (length : b.length = c.length) :
    b = c := by
  cases b
  cases c
  simp_all

/-- The block around its own first address is the block. -/
theorem around_first (b : Block) : around (Address.ofNat b.first) b.length b.length_le = b := by
  have fits := b.fits
  have positive := sizeOf_pos b.length
  have number : (Address.ofNat b.first).toNat = b.first := Address.toNat_ofNat (by omega)
  refine Block.ext ?_ rfl
  change (Address.ofNat b.first).toNat / sizeOf b.length * sizeOf b.length = b.first
  rw [number]
  exact Nat.div_mul_cancel (Nat.dvd_of_mod_eq_zero b.aligned)

/-- The text of a block is its first address, a slash and its length. -/
theorem toList_text (b : Block) :
    b.text.toList = (Address.ofNat b.first).text.toList ++ '/' :: Nat.toDigits 10 b.length := by
  simp [text, ToString.toString]

/-- There is no blank in the text of a block. -/
theorem isBlank_of_mem_text {b : Block} {c : Char} (mem : c ∈ b.text.toList) :
    Text.isBlank c = false := by
  rw [toList_text] at mem
  rcases List.mem_append.1 mem with address | length
  · exact Address.isBlank_of_mem_text address
  · rcases List.mem_cons.1 length with rfl | digit
    · rfl
    · exact Text.isBlank_of_mem_toDigits digit

/-- The length reads back from the end of the written form. -/
theorem length?_text (b : Block) : length? 2 33 ('/' :: Nat.toDigits 10 b.length) = some b.length := by
  have bound := b.length_le
  have read : AddressText.number? 10 2 33 (Nat.toDigits 10 b.length ++ []) = some (b.length, []) :=
    AddressText.number?_toDigits (by decide) (by omega) (by omega) (by simp)
  rw [List.append_nil] at read
  simp [length?, AddressText.expect?, read]

/-- The written form of a block reads back as the block. -/
theorem parse_text (b : Block) : parse b.text = .ok b := by
  have trimmed : Text.trim b.text.toList = b.text.toList :=
    Text.trim_eq_self fun c mem => isBlank_of_mem_text mem
  have slash : ∀ c ∈ ('/' :: Nat.toDigits 10 b.length).head?,
      (AddressText.digit? 10 c).isSome = false := by
    intro c mem
    obtain rfl : '/' = c := by simpa using mem
    rfl
  have address : AddressText.dotted? true b.text.toList =
      some (Address.ofNat b.first, '/' :: Nat.toDigits 10 b.length) := by
    rw [toList_text, Address.dotted?_text _ _ slash]
  simp only [parse, trimmed, address, Option.bind_eq_bind, Option.bind_some, length?_text,
    Option.pure_def]
  rw [dif_pos b.length_le, around_first]

/-- A block is read back from its text. -/
theorem parse?_text (b : Block) : parse? b.text = some b := by rw [parse?, parse_text]; rfl

/-- Blocks with one written form are one block. -/
theorem text_injective {b c : Block} (h : b.text = c.text) : b = c := by
  have := parse?_text b
  rw [h, parse?_text c] at this
  exact (Option.some.inj this).symm

theorem text_ne_empty (b : Block) : b.text.isEmpty = false := by
  cases h : b.text.isEmpty with
  | false => rfl
  | true =>
      have none : b.text.toList = [] := by simp [String.isEmpty_iff.1 h]
      simp [toList_text] at none

/-! ### Blocks as sets of addresses -/

/-- No address belongs to both blocks. -/
def Disjoint (b c : Block) : Prop := ∀ n, ¬ (b.contains n = true ∧ c.contains n = true)

/-- Every address of the one block belongs to the other. -/
def Within (b c : Block) : Prop := ∀ n, b.contains n = true → c.contains n = true

/-- A block contains the numbers from its first to its last address. -/
theorem contains_iff {b : Block} {n : Nat} :
    b.contains n = true ↔ b.first ≤ n ∧ n ≤ b.last := by simp [contains]

theorem first_le_last (b : Block) : b.first ≤ b.last := by
  have := b.size_pos
  rw [last]
  omega

/-- Also the last address of a block fits in 32 bits. -/
theorem last_lt (b : Block) : b.last < UInt32.size := by
  have fits := b.fits
  have positive := b.size_pos
  rw [last, size] at *
  omega

/-- It does not matter which of two disjoint blocks is named first. -/
theorem Disjoint.symm {b c : Block} (h : Disjoint b c) : Disjoint c b :=
  fun n ⟨hc, hb⟩ => h n ⟨hb, hc⟩

/-- A block has an address, which it shares with itself. -/
theorem not_disjoint_self (b : Block) : ¬ Disjoint b b := by
  intro apart
  have inside : b.contains b.first = true := contains_iff.2 ⟨Nat.le_refl _, b.first_le_last⟩
  exact apart b.first ⟨inside, inside⟩

/-- Comparing the ends of two blocks decides whether they share an address. -/
theorem disjoint_iff_overlaps {b c : Block} : Disjoint b c ↔ b.overlaps c = false := by
  have hb := b.first_le_last
  have hc := c.first_le_last
  simp only [Disjoint, contains_iff, overlaps, Bool.and_eq_false_iff, decide_eq_false_iff_not]
  constructor
  · intro h
    have := h (max b.first c.first)
    omega
  · intro h n
    omega

/-- Of two blocks of one length, the later begins where the earlier has ended: both begin at a multiple of
their size. -/
theorem first_add_size_le {b c : Block} (same : b.length = c.length) (before : b.first < c.first) :
    b.first + b.size ≤ c.first := by
  obtain ⟨m, hm⟩ := Nat.dvd_of_mod_eq_zero b.aligned
  obtain ⟨k, hk⟩ := Nat.dvd_of_mod_eq_zero c.aligned
  rw [hm, hk, ← same] at before
  rw [size, hm, hk, ← same, ← Nat.mul_succ]
  apply Nat.mul_le_mul_left
  exact Nat.succ_le_of_lt (Nat.lt_of_mul_lt_mul_left before)

/-- Different blocks of one length share no address. -/
theorem disjoint_of_length_eq {b c : Block} (same : b.length = c.length) (different : b ≠ c) :
    Disjoint b c := by
  intro n
  rw [contains_iff, contains_iff, last, last]
  rcases Nat.lt_trichotomy b.first c.first with before | equal | after
  · have := first_add_size_le same before
    omega
  · exact absurd (Block.ext equal same) different
  · have := first_add_size_le same.symm after
    omega

/-- A part of a block lies in the block. -/
theorem within_cut (b : Block) {length index : Nat} (hlo : b.length ≤ length) (hhi : length ≤ 32)
    (h : index < b.cuts length) : Within (b.cut length index hlo hhi h) b := by
  have cuts := b.cuts_mul_sizeOf hlo hhi
  have positive := sizeOf_pos length
  have upTo : (index + 1) * sizeOf length ≤ b.cuts length * sizeOf length :=
    Nat.mul_le_mul_right _ h
  rw [Nat.succ_mul] at upTo
  intro n hn
  rw [contains_iff, last] at hn ⊢
  simp only [cut, size] at hn
  omega

end Block

end Testbed
