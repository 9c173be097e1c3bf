import Testbed.Identity

/-!
Different counts have different tokens.  The digits of a token, with the zeros in front of them, say which
count it was drawn at.
-/

namespace Testbed

namespace Token

/-- The value of a hexadecimal digit. -/
def digitValue (c : Char) : Nat := if c.isDigit then c.toNat - '0'.toNat else c.toNat - 'a'.toNat + 10

/-- The number that some hexadecimal digits stand for. -/
def value (digits : List Char) : Nat := digits.foldl (fun n c => n * 16 + digitValue c) 0

/-- Each of the sixteen digits has its value. -/
theorem digitValue_digitChar : ∀ d < 16, digitValue (Nat.digitChar d) = d := by decide

/-- One more digit makes the value sixteen times as great and adds its own. -/
theorem value_concat (digits : List Char) (c : Char) :
    value (digits ++ [c]) = value digits * 16 + digitValue c := by simp [value]

theorem value_toDigits (n : Nat) : value (Nat.toDigits 16 n) = n := by
  induction n using Nat.base_induction 16 (by decide) with
  | single n small =>
      rw [Nat.toDigits_of_lt_base small, ← List.nil_append [n.digitChar], value_concat,
        digitValue_digitChar n small]
      exact Nat.zero_add n
  | digit n d small positive ih =>
      rw [← Nat.toDigits_append_toDigits (by decide) positive small, Nat.toDigits_of_lt_base small,
        value_concat, ih, digitValue_digitChar d small, Nat.mul_comm]

/-- Every character of a number in base sixteen is one of the sixteen digits. -/
theorem mem_toDigits {n : Nat} {c : Char} (mem : c ∈ Nat.toDigits 16 n) : ∃ d < 16, c = Nat.digitChar d := by
  induction n using Nat.base_induction 16 (by decide) with
  | single n small =>
      rw [Nat.toDigits_of_lt_base small, List.mem_singleton] at mem
      exact ⟨n, small, mem⟩
  | digit n d small positive ih =>
      rw [← Nat.toDigits_append_toDigits (by decide) positive small, List.mem_append,
        Nat.toDigits_of_lt_base small, List.mem_singleton] at mem
      rcases mem with mem | rfl
      · exact ih mem
      · exact ⟨d, small, rfl⟩

/-- Leading zeros do not change the value. -/
theorem value_zeros (count : Nat) (digits : List Char) :
    value (List.replicate count '0' ++ digits) = value digits := by
  induction count with
  | zero => rfl
  | succ count ih => simpa [List.replicate_succ, value, digitValue] using ih

end Token

/-- A token says at which count it was drawn. -/
theorem token_injective {m n : Nat} (h : token m = token n) : m = n := by
  have value : ∀ k, Token.value (token k).toList = k := by
    intro k
    rw [token, String.toList_ofList, Token.value_zeros, Token.value_toDigits]
  rw [← value m, h, value]

/-- A token consists of hexadecimal digits. -/
theorem mem_token {count : Nat} {c : Char} (mem : c ∈ (token count).toList) :
    ∃ d < 16, c = Nat.digitChar d := by
  rw [token, String.toList_ofList, List.mem_append] at mem
  rcases mem with zero | digit
  · exact ⟨0, by decide, (List.mem_replicate.1 zero).2⟩
  · exact Token.mem_toDigits digit

/-- No token is empty. -/
theorem token_ne_empty (count : Nat) : token count ≠ "" := by
  intro empty
  have chars : (token count).toList = [] := by rw [empty]; rfl
  simp [token, Nat.toDigits_ne_nil] at chars

end Testbed
