import Testbed.Address

/-!
Blocks of addresses: the addresses that share their leading bits.  A `Block` holds its own bounds as
facts, so it is always aligned and never reaches past the last address.  Two blocks are disjoint or one
holds the other; `overlaps` compares their ends.
-/

namespace Testbed

/-- How many addresses share this many leading bits. -/
def Block.sizeOf (length : Nat) : Nat := 1 <<< (32 - length)

/-- The addresses whose leading `length` bits are those of `first`. -/
structure Block where
  /-- The lowest address. -/
  first : Nat
  /-- How many leading bits the addresses share. -/
  length : Nat
  length_le : length ≤ 32
  aligned : first % Block.sizeOf length = 0
  fits : first + Block.sizeOf length ≤ UInt32.size
deriving Repr, DecidableEq

namespace Block

/-- How many addresses a block has. -/
def size (b : Block) : Nat := sizeOf b.length

/-- The highest address. -/
def last (b : Block) : Nat := b.first + b.size - 1

/-- A block has at least one address. -/
theorem sizeOf_pos (length : Nat) : 0 < sizeOf length := by
  rw [sizeOf, Nat.one_shiftLeft]
  exact Nat.two_pow_pos _

theorem size_pos (b : Block) : 0 < b.size := sizeOf_pos _

/-- Cutting a block further loses no address. -/
theorem shiftLeft_mul_sizeOf {short long : Nat} (hlo : short ≤ long) (hhi : long ≤ 32) :
    (1 <<< (long - short)) * sizeOf long = sizeOf short := by
  simp only [sizeOf, Nat.one_shiftLeft]
  rw [← Nat.pow_add]
  congr 1
  omega

/-- The block of a given length around an address. -/
def around (a : Address) (length : Nat) (h : length ≤ 32) : Block where
  first := a.toNat / sizeOf length * sizeOf length
  length := length
  length_le := h
  aligned := Nat.mul_mod_left _ _
  fits := by
    have hall : (1 <<< length) * sizeOf length = UInt32.size := shiftLeft_mul_sizeOf (Nat.zero_le _) h
    have hlt : a.toNat / sizeOf length < 1 <<< length := by
      rw [Nat.div_lt_iff_lt_mul (sizeOf_pos _), hall]
      exact a.toNat_lt
    calc a.toNat / sizeOf length * sizeOf length + sizeOf length
        = (a.toNat / sizeOf length + 1) * sizeOf length := by rw [Nat.succ_mul]
      _ ≤ (1 <<< length) * sizeOf length := Nat.mul_le_mul_right _ hlt
      _ = UInt32.size := hall

instance : Inhabited Block := ⟨around (Address.ofNat 0) 0 (Nat.zero_le _)⟩

/-- Whether a number is an address of the block. -/
def contains (b : Block) (n : Nat) : Bool := b.first ≤ n && n ≤ b.last

/-- Whether two blocks have an address in common. -/
def overlaps (b c : Block) : Bool := b.first ≤ c.last && c.first ≤ b.last

/-- How many blocks of a given length a block is cut into. -/
def cuts (b : Block) (length : Nat) : Nat := 1 <<< (length - b.length)

/-- A block is cut into as many blocks of a greater length as fill it exactly. -/
theorem cuts_mul_sizeOf (b : Block) {length : Nat} (hlo : b.length ≤ length) (hhi : length ≤ 32) :
    b.cuts length * sizeOf length = b.size :=
  shiftLeft_mul_sizeOf hlo hhi

/-- The part of a block at an index, when it is cut into blocks of a given length. -/
def cut (b : Block) (length index : Nat) (hlo : b.length ≤ length) (hhi : length ≤ 32)
    (h : index < b.cuts length) : Block where
  first := b.first + index * sizeOf length
  length := length
  length_le := hhi
  aligned := by
    have hdvd : sizeOf length ∣ b.first :=
      Nat.dvd_trans ⟨_, (Nat.mul_comm _ _).trans (shiftLeft_mul_sizeOf hlo hhi) |>.symm⟩
        (Nat.dvd_of_mod_eq_zero b.aligned)
    exact Nat.mod_eq_zero_of_dvd (Nat.dvd_add hdvd (Nat.dvd_mul_left _ _))
  fits := by
    have hfits := b.fits
    have hcuts := b.cuts_mul_sizeOf hlo hhi
    have hle : (index + 1) * sizeOf length ≤ b.cuts length * sizeOf length :=
      Nat.mul_le_mul_right _ h
    rw [Nat.succ_mul] at hle
    rw [size] at hcuts
    omega

/-- The written form: the lowest address, a slash and the length. -/
def text (b : Block) : String := s!"{(Address.ofNat b.first).text}/{b.length}"

/-- Why a text does not name a block. -/
inductive ParseError where
  /-- The text is no block at all. -/
  | malformed
  /-- The text is a block of the longer address family. -/
  | otherFamily
deriving Repr, Inhabited, DecidableEq

/-- Read a slash and a length below `bound`, at the end of the text. -/
def length? (maxDigits bound : Nat) (cs : List Char) : Option Nat := do
  let (n, rest) ← AddressText.number? 10 maxDigits bound (← AddressText.expect? '/' cs)
  if rest.isEmpty then some n else none

/-- Read a block in blanks.  The address may be any address of the block.  A block of the longer
address family is accepted when it stands for a 32-bit one. -/
def parse (s : String) : Except ParseError Block :=
  let cs := Text.trim s.toList
  let short := do
    let (a, rest) ← AddressText.dotted? true cs
    let length ← length? 2 33 rest
    pure (a, length)
  match short with
  | some (a, length) =>
    if h : length ≤ 32 then .ok (around a length h) else .error .malformed
  | none =>
    let long := do
      let (groups, rest) ← AddressText.long? true cs
      let length ← length? 3 129 rest
      pure (groups, length)
    match long with
    | none => .error .malformed
    | some (groups, length) =>
      match AddressText.mapped? groups with
      | none => .error .otherFamily
      | some a =>
        if length < 96 then .error .otherFamily
        else if h : length - 96 ≤ 32 then .ok (around a (length - 96) h)
        else .error .malformed

/-- Read a block, without the reason when there is none. -/
def parse? (s : String) : Option Block := (parse s).toOption

end Block

end Testbed
