import Mathlib
import Testbed.Text.Blank
import Testbed.Text.Decimal

/-!
Numbers and blanks in a text.

A `Numeral` is a whole number as it is written.  Reading a number takes exactly the numerals whose value is
below the bound (`readUnsigned?_eq_some`), and dropping the blanks around a text leaves what stands between
them (`trim_padded`).
-/

namespace Testbed.Text

/-! ### Blanks -/

/-- No digit is blank. -/
theorem isBlank_of_isDigit {c : Char} (h : c.isDigit = true) : isBlank c = false := by
  have bounds : 48 ≤ c.toNat ∧ c.toNat ≤ 57 := by
    simpa [Char.isDigit, UInt32.le_iff_toNat_le] using h
  simp only [isBlank, Bool.or_eq_false_iff, Bool.and_eq_false_iff, decide_eq_false_iff_not,
    beq_eq_false_iff_ne]
  omega

/-- There is no blank in decimals. -/
theorem isBlank_of_mem_toDigits {n : Nat} {c : Char} (mem : c ∈ Nat.toDigits 10 n) :
    isBlank c = false :=
  isBlank_of_isDigit (Nat.isDigit_of_mem_toDigits (by decide) (by decide) mem)

/-- Leading blanks are dropped up to a text that has none. -/
theorem dropWhile_padded {before core : List Char} (leading : ∀ c ∈ before, isBlank c = true)
    (plain : ∀ c ∈ core, isBlank c = false) : (before ++ core).dropWhile isBlank = core := by
  rw [List.dropWhile_append_of_pos leading]
  cases core with
  | nil => rfl
  | cons c rest => simp [plain c List.mem_cons_self]

/-- The blanks around a text without blanks are dropped, and nothing else. -/
theorem trim_padded {before core after : List Char} (leading : ∀ c ∈ before, isBlank c = true)
    (plain : ∀ c ∈ core, isBlank c = false) (trailing : ∀ c ∈ after, isBlank c = true) :
    trim (before ++ core ++ after) = core := by
  cases core with
  | nil =>
      have blank : ∀ c ∈ before ++ after, isBlank c = true := by
        intro c mem
        cases List.mem_append.1 mem with
        | inl first => exact leading c first
        | inr last => exact trailing c last
      have nothing : (before ++ after ++ []).dropWhile isBlank = [] := dropWhile_padded blank (by simp)
      simp only [List.append_nil] at nothing
      simp [trim, nothing]
  | cons c rest =>
      have first : (before ++ (c :: rest) ++ after).dropWhile isBlank = (c :: rest) ++ after := by
        rw [List.append_assoc, List.dropWhile_append_of_pos leading]
        simp [plain c List.mem_cons_self]
      have last : (after.reverse ++ (c :: rest).reverse).dropWhile isBlank = (c :: rest).reverse := by
        apply dropWhile_padded
        · intro d mem
          exact trailing d (List.mem_reverse.1 mem)
        · intro d mem
          exact plain d (List.mem_reverse.1 mem)
      rw [trim, first, List.reverse_append, last, List.reverse_reverse]

/-- A text without blanks has none at its ends. -/
theorem trim_eq_self {cs : List Char} (h : ∀ c ∈ cs, isBlank c = false) : trim cs = cs := by
  have padded : trim ([] ++ cs ++ []) = cs := trim_padded (by simp) h (by simp)
  simpa using padded

/-- Only blanks are dropped. -/
theorem exists_trim (cs : List Char) : ∃ before after, cs = before ++ trim cs ++ after ∧
    (∀ c ∈ before, isBlank c = true) ∧ ∀ c ∈ after, isBlank c = true := by
  let rest := cs.dropWhile isBlank
  have first : cs = cs.takeWhile isBlank ++ rest := (List.takeWhile_append_dropWhile).symm
  have last : rest = trim cs ++ (rest.reverse.takeWhile isBlank).reverse := by
    rw [trim, ← List.reverse_append, List.takeWhile_append_dropWhile, List.reverse_reverse]
  refine ⟨cs.takeWhile isBlank, (rest.reverse.takeWhile isBlank).reverse, ?_, ?_, ?_⟩
  · rw [List.append_assoc, ← last, ← first]
  · intro c mem
    exact List.mem_takeWhile_imp mem
  · intro c mem
    exact List.mem_takeWhile_imp (List.mem_reverse.1 mem)

/-! ### Numbers -/

/-- The value of decimals is what they stand for. -/
theorem digitsValue_eq (cs : List Char) : digitsValue cs = Nat.ofDigitChars 10 cs 0 := by
  rw [digitsValue, Nat.ofDigitChars]
  simp only [digitValue, Nat.mul_comm]

/-- A whole number as it is written: some digits, with or without a plus sign before them. -/
structure Numeral where
  plus : Bool
  digits : List Char
  digits_ne_nil : digits ≠ []
  isDigit : ∀ c ∈ digits, c.isDigit = true

namespace Numeral

/-- The characters of a numeral. -/
def text (n : Numeral) : List Char := (if n.plus then ['+'] else []) ++ n.digits

/-- The number that a numeral stands for. -/
def value (n : Numeral) : Nat := Nat.ofDigitChars 10 n.digits 0

/-- The decimal digits of a number. -/
def ofNat (n : Nat) : Numeral where
  plus := false
  digits := Nat.toDigits 10 n
  digits_ne_nil := Nat.toDigits_ne_nil
  isDigit _ mem := Nat.isDigit_of_mem_toDigits (by decide) (by decide) mem

@[simp] theorem text_ofNat (n : Nat) : (ofNat n).text = Nat.toDigits 10 n := rfl

@[simp] theorem value_ofNat (n : Nat) : (ofNat n).value = n := Nat.ofDigitChars_ten_toDigits

/-- A plus sign is no digit. -/
theorem digits_ne_plus (n : Numeral) (rest : List Char) : n.digits ≠ '+' :: rest := by
  intro same
  have plus := n.isDigit '+' (same ▸ List.mem_cons_self)
  cases plus

/-- A numeral is known by its characters. -/
theorem text_injective {n m : Numeral} (same : n.text = m.text) : n = m := by
  obtain ⟨plus, digits, some_digit, digit⟩ := n
  obtain ⟨plus', digits', some_digit', digit'⟩ := m
  have unsigned := digits_ne_plus ⟨plus, digits, some_digit, digit⟩
  have unsigned' := digits_ne_plus ⟨plus', digits', some_digit', digit'⟩
  cases plus with
  | false =>
      cases plus' with
      | false =>
          obtain rfl : digits = digits' := by simpa [text] using same
          rfl
      | true => exact absurd (by simpa [text] using same) (unsigned digits')
  | true =>
      cases plus' with
      | false => exact absurd (by simpa [text] using same.symm) (unsigned' digits)
      | true =>
          obtain rfl : digits = digits' := by simpa [text] using same
          rfl

/-- The last character of a numeral is a digit. -/
theorem exists_last (n : Numeral) : ∃ front last, n.text = front ++ [last] ∧ last.isDigit = true := by
  refine ⟨(if n.plus then ['+'] else []) ++ n.digits.dropLast, n.digits.getLast n.digits_ne_nil, ?_, ?_⟩
  · rw [text, List.append_assoc, List.dropLast_concat_getLast]
  · exact n.isDigit _ (List.getLast_mem n.digits_ne_nil)

/-- There is no blank in a numeral. -/
theorem isBlank_of_mem_text {n : Numeral} {c : Char} (mem : c ∈ n.text) : isBlank c = false := by
  rw [text] at mem
  cases List.mem_append.1 mem with
  | inl sign =>
      split at sign
      · obtain rfl := List.mem_singleton.1 sign
        rfl
      · cases sign
  | inr digit => exact isBlank_of_isDigit (n.isDigit c digit)

end Numeral

/-- Digits are read as the number that they stand for. -/
theorem readDigits?_digits (n : Numeral) : readDigits? n.digits = some n.value := by
  have digits : n.digits.all Char.isDigit = true := List.all_eq_true.2 n.isDigit
  rw [readDigits?, if_pos ⟨n.digits_ne_nil, digits⟩, digitsValue_eq]
  rfl

/-- What is read as digits are digits. -/
theorem exists_of_readDigits? {cs : List Char} {k : Nat} (read : readDigits? cs = some k) (plus : Bool) :
    ∃ n : Numeral, n.plus = plus ∧ n.digits = cs := by
  rw [readDigits?] at read
  split at read
  · next digits =>
      obtain ⟨filled, all⟩ := digits
      exact ⟨⟨plus, cs, filled, List.all_eq_true.1 all⟩, rfl, rfl⟩
  · cases read

/-- A leading plus sign is passed over. -/
theorem readUnsigned?_plus (bound : Nat) (digits : List Char) :
    readUnsigned? bound ('+' :: digits) = (readDigits? digits).filter (· < bound) := by
  rw [readUnsigned?]
  cases readDigits? digits with
  | none => rfl
  | some k => simp [Option.filter]

/-- Digits without a sign are read as their value, if that is below the bound. -/
theorem readUnsigned?_of_ne {bound : Nat} {cs : List Char} (unsigned : ∀ rest, cs ≠ '+' :: rest) :
    readUnsigned? bound cs = (readDigits? cs).filter (· < bound) := by
  rw [readUnsigned?]
  · cases readDigits? cs with
    | none => rfl
    | some k => simp [Option.filter]
  · exact unsigned

/-- A numeral is read as its value, if that is below the bound. -/
theorem readUnsigned?_text (bound : Nat) (n : Numeral) :
    readUnsigned? bound n.text = (some n.value).filter (· < bound) := by
  rw [Numeral.text, ← readDigits?_digits]
  cases n.plus with
  | true => exact readUnsigned?_plus bound n.digits
  | false => exact readUnsigned?_of_ne n.digits_ne_plus

/-- What is read as an unsigned number is a numeral. -/
theorem exists_of_readUnsigned? {bound k : Nat} {cs : List Char} (read : readUnsigned? bound cs = some k) :
    ∃ n : Numeral, cs = n.text := by
  by_cases signed : ∃ rest, cs = '+' :: rest
  · obtain ⟨rest, rfl⟩ := signed
    rw [readUnsigned?_plus] at read
    obtain ⟨digits, -⟩ := Option.filter_eq_some_iff.1 read
    obtain ⟨n, plus, same⟩ := exists_of_readDigits? digits true
    exact ⟨n, by simp [Numeral.text, plus, same]⟩
  · rw [readUnsigned?_of_ne (not_exists.1 signed)] at read
    obtain ⟨digits, -⟩ := Option.filter_eq_some_iff.1 read
    obtain ⟨n, unsigned, same⟩ := exists_of_readDigits? digits false
    exact ⟨n, by simp [Numeral.text, unsigned, same]⟩

/-- An unsigned number is read from the numerals whose value is below the bound, and from nothing else. -/
theorem readUnsigned?_eq_some {bound k : Nat} {cs : List Char} :
    readUnsigned? bound cs = some k ↔ ∃ n : Numeral, cs = n.text ∧ n.value = k ∧ k < bound := by
  constructor
  · intro read
    obtain ⟨n, rfl⟩ := exists_of_readUnsigned? read
    rw [readUnsigned?_text, Option.filter_eq_some_iff] at read
    obtain ⟨worth, below⟩ := read
    exact ⟨n, rfl, Option.some.inj worth, of_decide_eq_true below⟩
  · intro written
    obtain ⟨n, rfl, rfl, below⟩ := written
    rw [readUnsigned?_text, Option.filter_eq_some_iff]
    exact ⟨rfl, decide_eq_true below⟩

/-- A number reads back from its decimal digits. -/
theorem readUnsigned?_toDigits {bound n : Nat} (below : n < bound) :
    readUnsigned? bound (Nat.toDigits 10 n) = some n :=
  readUnsigned?_eq_some.2 ⟨.ofNat n, rfl, Numeral.value_ofNat n, below⟩

end Testbed.Text
