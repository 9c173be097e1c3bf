import Mathlib

/-!
Texts in the order of their bytes.

Texts are compared character by character, by code point.  A character takes one to four bytes: a first byte,
which tells how many others follow, and six more bits of the code point in each of the others.  First bytes
grow with the code point (`first_lt_or`), and so do the bytes behind equal first bytes (`others_lt`), so texts
in the order of their characters are in the order of their bytes.
-/

namespace Testbed.Text

/-- The bytes of a text. -/
def bytes (s : String) : List UInt8 := s.toUTF8.data.toList

/-- How many bytes follow the first byte of a code point. -/
def followers (v : Nat) : Nat :=
  if v ≤ 0x7F then 0 else if v ≤ 0x7FF then 1 else if v ≤ 0xFFFF then 2 else 3

/-- The first byte of a code point. -/
def first (v : Nat) : Nat :=
  if v ≤ 0x7F then v
  else if v ≤ 0x7FF then v / 64 + 0xC0
  else if v ≤ 0xFFFF then v / 64 ^ 2 + 0xE0
  else v / 64 ^ 3 + 0xF0

/-- The lower bits of a code point, six in each byte. -/
def others : Nat → Nat → List UInt8
  | 0, _ => []
  | count + 1, v => UInt8.ofNat (v / 64 ^ count % 64 + 0x80) :: others count v

/-- How many bytes follow, and what the first one is, in the four ranges of code points. -/
theorem first_cases (v : Nat) :
    (v ≤ 0x7F ∧ followers v = 0 ∧ first v = v) ∨
    (0x7F < v ∧ v ≤ 0x7FF ∧ followers v = 1 ∧ first v = v / 64 + 0xC0) ∨
    (0x7FF < v ∧ v ≤ 0xFFFF ∧ followers v = 2 ∧ first v = v / 64 ^ 2 + 0xE0) ∨
    (0xFFFF < v ∧ followers v = 3 ∧ first v = v / 64 ^ 3 + 0xF0) := by
  rw [followers, first]
  split
  · simp_all
  · split
    · simp_all
    · split <;> simp_all

/-- A character is below the end of the code space. -/
theorem toNat_lt (c : Char) : c.toNat < 0x110000 := by
  have valid := c.valid
  simp only [UInt32.isValidChar, Nat.isValidChar] at valid
  have value : c.val.toNat = c.toNat := rfl
  omega

/-- A character is written as its first byte and the others. -/
theorem utf8EncodeChar_eq (c : Char) : String.utf8EncodeChar c =
    UInt8.ofNat (first c.toNat) :: others (followers c.toNat) c.toNat := by
  have bound := toNat_lt c
  have value : c.val.toNat = c.toNat := rfl
  simp only [String.utf8EncodeChar, value]
  generalize c.toNat = v at bound
  by_cases one : v ≤ 0x7F
  · simp [followers, first, others, one]
  · by_cases two : v ≤ 0x7FF
    · have top : v / 64 % 32 = v / 64 := by omega
      simp [followers, first, others, one, two, top]
    · by_cases three : v ≤ 0xFFFF
      · have top : v / 4096 % 16 = v / 4096 := by omega
        simp [followers, first, others, one, two, three, top]
      · have top : v / 262144 % 8 = v / 262144 := by omega
        simp [followers, first, others, one, two, three, top]

/-- The lead byte of a character is a byte. -/
theorem first_lt {v : Nat} (bound : v < 0x110000) : first v < 256 := by
  rcases first_cases v with ⟨_, -, h⟩ | ⟨_, _, -, h⟩ | ⟨_, _, -, h⟩ | ⟨_, -, h⟩
  all_goals omega

/-- A higher code point has a higher first byte, or the same first byte and as many others. -/
theorem first_lt_or {v w : Nat} (less : v < w) (bound : w < 0x110000) : first v < first w ∨
    first v = first w ∧ followers v = followers w ∧ v / 64 ^ followers v = w / 64 ^ followers v := by
  rcases first_cases v with ⟨_, n, h⟩ | ⟨_, _, n, h⟩ | ⟨_, _, n, h⟩ | ⟨_, n, h⟩
  all_goals
    rcases first_cases w with ⟨_, m, k⟩ | ⟨_, _, m, k⟩ | ⟨_, _, m, k⟩ | ⟨_, m, k⟩
    all_goals
      rw [n, m, h, k]
      omega

/-- Behind equal first bytes, the bytes of a higher code point come later. -/
theorem others_lt {v w : Nat} (less : v < w) {count : Nat} (same : v / 64 ^ count = w / 64 ^ count)
    (s t : List UInt8) : others count v ++ s < others count w ++ t := by
  induction count with
  | zero =>
      rw [pow_zero, Nat.div_one, Nat.div_one] at same
      omega
  | succ count ih =>
      rw [pow_succ, ← Nat.div_div_eq_div_mul, ← Nat.div_div_eq_div_mul] at same
      rw [others, others, List.cons_append, List.cons_append, List.cons_lt_cons_iff]
      cases Nat.lt_or_eq_of_le (Nat.div_le_div_right (c := 64 ^ count) less.le) with
      | inl higher =>
          left
          rw [UInt8.lt_iff_toNat_lt, UInt8.toNat_ofNat', UInt8.toNat_ofNat']
          omega
      | inr equal => exact .inr ⟨by rw [equal], ih equal⟩

/-- A text that goes on with a higher character goes on with later bytes. -/
theorem utf8EncodeChar_lt {a b : Char} (less : a < b) (s t : List UInt8) :
    String.utf8EncodeChar a ++ s < String.utf8EncodeChar b ++ t := by
  have less : a.toNat < b.toNat := less
  rw [utf8EncodeChar_eq, utf8EncodeChar_eq, List.cons_append, List.cons_append, List.cons_lt_cons_iff]
  cases first_lt_or less (toNat_lt b) with
  | inl lower =>
      left
      have byte := first_lt (toNat_lt b)
      rw [UInt8.lt_iff_toNat_lt, UInt8.toNat_ofNat', UInt8.toNat_ofNat']
      omega
  | inr equal =>
      obtain ⟨lead, count, top⟩ := equal
      right
      rw [lead, ← count]
      exact ⟨rfl, others_lt less top s t⟩

/-- The bytes of a text are those of its characters, one after the other. -/
theorem bytes_ofList (cs : List Char) : bytes (String.ofList cs) = cs.flatMap String.utf8EncodeChar := by
  rw [bytes, String.toUTF8_eq_toByteArray, String.toByteArray_ofList, List.utf8Encode,
    List.toList_data_toByteArray]

/-- Texts in the order of their characters are in the order of their bytes. -/
theorem bytes_lt {s t : String} (less : s < t) : bytes s < bytes t := by
  rw [String.lt_iff_toList_lt] at less
  rw [← String.ofList_toList (s := s), ← String.ofList_toList (s := t), bytes_ofList, bytes_ofList]
  generalize s.toList = left at less
  generalize t.toList = right at less
  induction left generalizing right with
  | nil =>
      cases right with
      | nil => exact absurd less (List.lt_irrefl [])
      | cons b rest =>
          rw [List.flatMap_nil, List.flatMap_cons, utf8EncodeChar_eq]
          exact List.nil_lt_cons _ _
  | cons a left ih =>
      cases right with
      | nil => exact absurd less (List.not_lt_nil _)
      | cons b right =>
          rw [List.flatMap_cons, List.flatMap_cons]
          cases List.cons_lt_cons_iff.1 less with
          | inl lower => exact utf8EncodeChar_lt lower _ _
          | inr equal =>
              obtain ⟨rfl, later⟩ := equal
              exact List.append_left_lt (ih right later)

end Testbed.Text
