import Testbed.Duration
import Testbed.Proofs.Text

/-!
How lengths of time are written.

A `Literal` is a number with a unit behind it, and seconds may go without saying.  The written units overlap:
`ms` ends like `s` and begins like `m`.  They are told apart because the number in front of them ends with a
digit (`splitUnit_text`), so every literal is read as itself and no text holds two of them.

The grains that a number makes are counted in 64 bits.  As long as these hold them all, a literal is worth as
many of its unit as it says (`Literal.length_of_fits`).
-/

namespace Testbed.Duration

/-- The ways to write a unit. -/
inductive Suffix where
  | ms
  | s
  | m
  | h
  /-- Nothing is written, and seconds are meant. -/
  | bare
deriving Repr, Inhabited, DecidableEq

namespace Suffix

/-- What is written. -/
def text : Suffix → String
  | .ms => "ms"
  | .s => "s"
  | .m => "m"
  | .h => "h"
  | .bare => ""

/-- How many milliseconds one of the unit is. -/
def worth : Suffix → Nat
  | .ms => 1
  | .s | .bare => 1000
  | .m => 60 * 1000
  | .h => 3600 * 1000

/-- The unit that is meant. -/
def unit : Suffix → Unit
  | .ms => .millisecond
  | .s | .bare => .second
  | .m => .minute
  | .h => .hour

/-- One of a unit is worth its grains. -/
theorem count_mul_grain (suffix : Suffix) : suffix.unit.count * suffix.unit.grain = suffix.worth := by
  cases suffix <;> rfl

/-- A unit is at least one of its grains. -/
theorem count_pos (suffix : Suffix) : 0 < suffix.unit.count := by cases suffix <;> decide

/-- A grain is at least a millisecond. -/
theorem grain_pos (suffix : Suffix) : 0 < suffix.unit.grain := by cases suffix <;> decide

/-- Units are known by what is written for them. -/
theorem text_injective {suffix other : Suffix} (same : suffix.text.toList = other.text.toList) :
    suffix = other := by
  have texts := String.toList_injective same
  cases suffix <;> cases other <;> first | rfl | exact absurd texts (by decide)

/-- No unit is written with blanks. -/
theorem isBlank_of_mem_text {suffix : Suffix} {c : Char} (mem : c ∈ suffix.text.toList) :
    Text.isBlank c = false := by
  have letter : c = 'm' ∨ c = 's' ∨ c = 'h' := by
    cases suffix <;> simp [text] at mem <;> tauto
  rcases letter with rfl | rfl | rfl <;> rfl

end Suffix

/-- A length of time as it is written: a number and a unit. -/
structure Literal where
  number : Text.Numeral
  suffix : Suffix

namespace Literal

/-- The characters of a literal. -/
def text (l : Literal) : List Char := l.number.text ++ l.suffix.text.toList

/-- How many grains of its unit a literal comes to. -/
def grains (l : Literal) : Nat := l.number.value * l.suffix.unit.count

/-- The length of time that a literal stands for: as many grains as 64 bits hold of it. -/
def length (l : Literal) : Duration := ⟨l.grains % UInt64.size * l.suffix.unit.grain⟩

/-- A literal whose grains 64 bits hold is worth as many of its unit as it says. -/
theorem length_of_fits {l : Literal} (fits : l.grains < UInt64.size) :
    l.length = ⟨l.number.value * l.suffix.worth⟩ := by
  rw [length, Nat.mod_eq_of_lt fits, grains, Nat.mul_assoc, l.suffix.count_mul_grain]

/-- A literal is no time at all exactly if 64 bits hold nothing of its grains. -/
theorem length_eq_zero {l : Literal} : l.length.ms = 0 ↔ UInt64.size ∣ l.grains := by
  rw [Nat.dvd_iff_mod_eq_zero]
  exact Nat.mul_eq_zero.trans (or_iff_left l.suffix.grain_pos.ne')

/-- A text is a literal with blanks around it. -/
def Fills (l : Literal) (s : String) : Prop :=
  ∃ before after, s.toList = before ++ l.text ++ after ∧
    (∀ c ∈ before, Text.isBlank c = true) ∧ ∀ c ∈ after, Text.isBlank c = true

/-- There are no blanks in a literal. -/
theorem isBlank_of_mem_text {l : Literal} {c : Char} (mem : c ∈ l.text) : Text.isBlank c = false := by
  cases List.mem_append.1 mem with
  | inl number => exact Text.Numeral.isBlank_of_mem_text number
  | inr unit => exact Suffix.isBlank_of_mem_text unit

/-- A literal is what is left of a text without the blanks around it. -/
theorem fills_iff {l : Literal} {s : String} : l.Fills s ↔ Text.trim s.toList = l.text := by
  constructor
  · intro fills
    obtain ⟨before, after, padded, leading, trailing⟩ := fills
    rw [padded]
    exact Text.trim_padded leading (fun c mem => isBlank_of_mem_text mem) trailing
  · intro trimmed
    obtain ⟨before, after, padded, leading, trailing⟩ := Text.exists_trim s.toList
    rw [trimmed] at padded
    exact ⟨before, after, padded, leading, trailing⟩

end Literal

/-! ### Number and unit -/

/-- Whatever a text is split into, its unit is written behind its number. -/
theorem exists_suffix (cs : List Char) : ∃ suffix : Suffix,
    cs = (splitUnit cs).1 ++ suffix.text.toList ∧ (splitUnit cs).2 = suffix.unit := by
  have written : ∀ (letters : List Char) {rest : List Char}, cs.reverse = letters ++ rest →
      cs = rest.reverse ++ letters.reverse := by
    intro letters rest split
    rw [← List.reverse_append, ← split, List.reverse_reverse]
  rw [splitUnit]
  split
  · next rest same => exact ⟨.ms, written ['s', 'm'] same, rfl⟩
  · next rest _ same => exact ⟨.s, written ['s'] same, rfl⟩
  · next rest same => exact ⟨.m, written ['m'] same, rfl⟩
  · next rest same => exact ⟨.h, written ['h'] same, rfl⟩
  · exact ⟨.bare, (List.append_nil cs).symm, rfl⟩

/-- A literal is split into its number and its unit: the digit at the end of the number belongs to no unit. -/
theorem splitUnit_text (l : Literal) : splitUnit l.text = (l.number.text, l.suffix.unit) := by
  obtain ⟨front, last, number, digit⟩ := l.number.exists_last
  have minute : last ≠ 'm' := by rintro rfl; cases digit
  have second : last ≠ 's' := by rintro rfl; cases digit
  have hour : last ≠ 'h' := by rintro rfl; cases digit
  rw [splitUnit, Literal.text, number]
  cases l.suffix <;> simp [Suffix.text, Suffix.unit, minute, second, hour]

/-- A literal is known by its characters. -/
theorem Literal.text_injective {l m : Literal} (same : l.text = m.text) : l = m := by
  have split : (l.number.text, l.suffix.unit) = (m.number.text, m.suffix.unit) := by
    rw [← splitUnit_text, ← splitUnit_text, same]
  have number : l.number.text = m.number.text := congrArg Prod.fst split
  rw [text, text, number] at same
  have suffix := List.append_cancel_left same
  obtain ⟨n, unit⟩ := l
  obtain ⟨n', unit'⟩ := m
  obtain rfl := Text.Numeral.text_injective number
  obtain rfl := Suffix.text_injective suffix
  rfl

/-! ### Reading -/

/-- Reading is reading the number in front of the unit. -/
theorem parse?_eq_map (s : String) :
    parse? s = (Text.readUnsigned? UInt64.size (splitUnit (Text.trim s.toList)).1).map
      fun n => ⟨n * (splitUnit (Text.trim s.toList)).2.count % UInt64.size *
        (splitUnit (Text.trim s.toList)).2.grain⟩ := rfl

/-- A text is read as the length of the literal in it, if the number is below its bound. -/
theorem parse?_eq_some {s : String} {d : Duration} :
    parse? s = some d ↔ ∃ l : Literal, l.Fills s ∧ l.number.value < UInt64.size ∧ l.length = d := by
  rw [parse?_eq_map]
  constructor
  · intro read
    obtain ⟨k, number, rfl⟩ := Option.map_eq_some_iff.1 read
    obtain ⟨n, digits, rfl, below⟩ := Text.readUnsigned?_eq_some.1 number
    obtain ⟨suffix, whole, unit⟩ := exists_suffix (Text.trim s.toList)
    rw [digits] at whole
    refine ⟨⟨n, suffix⟩, Literal.fills_iff.2 whole, below, ?_⟩
    rw [Literal.length, Literal.grains, unit]
  · intro written
    obtain ⟨l, fills, below, rfl⟩ := written
    have number : Text.readUnsigned? UInt64.size l.number.text = some l.number.value :=
      Text.readUnsigned?_eq_some.2 ⟨l.number, rfl, rfl, below⟩
    simp only [Literal.fills_iff.1 fills, splitUnit_text, number, Option.map_some, Literal.length,
      Literal.grains]

/-- No text holds two literals. -/
theorem Literal.Fills.unique {s : String} {l m : Literal} (one : l.Fills s) (two : m.Fills s) : l = m := by
  rw [fills_iff] at one two
  exact text_injective (one.symm.trans two)

/-- The literal of a number and a unit. -/
theorem fills_toString (n : Nat) (suffix : Suffix) :
    Literal.Fills ⟨.ofNat n, suffix⟩ (toString n ++ suffix.text) := by
  refine ⟨[], [], ?_, by simp, by simp⟩
  simp [Literal.text, ToString.toString]

/-- Lengths of time are read exactly as they are written.

A text is read exactly if, apart from blanks around it, it is a number below 2 ^ 64 with a unit or none
behind it; the number is some decimal digits, with or without a plus sign.  It is read as so many of the
unit: milliseconds, seconds, minutes, hours, or seconds where none is given.  Minutes and hours are so as long
as 64 bits hold their seconds, and else what these hold of them.  No text can be taken for two numbers with a
unit, and every number written with any of the units reads back as so many of it. -/
theorem durations_are_read_exactly :
    (∀ s d, parse? s = some d ↔ ∃ l : Literal, l.Fills s ∧ l.number.value < 2 ^ 64 ∧ l.length = d) ∧
    (∀ l : Literal, l.grains < 2 ^ 64 → l.length = ⟨l.number.value * l.suffix.worth⟩) ∧
    (∀ s (l m : Literal), l.Fills s → m.Fills s → l = m) ∧
    ∀ (n : Nat) (suffix : Suffix), n * suffix.unit.count < 2 ^ 64 →
      parse? (toString n ++ suffix.text) = some ⟨n * suffix.worth⟩ := by
  refine ⟨fun s d => parse?_eq_some, fun l => Literal.length_of_fits, fun s l m one two => one.unique two,
    fun n suffix fits => ?_⟩
  let l : Literal := ⟨.ofNat n, suffix⟩
  have value : l.number.value = n := Text.Numeral.value_ofNat n
  have grains : l.grains = n * suffix.unit.count := by rw [Literal.grains, value]
  have below : n < UInt64.size := (Nat.le_mul_of_pos_right n suffix.count_pos).trans_lt fits
  refine parse?_eq_some.2 ⟨l, fills_toString n suffix, value.trans_lt below, ?_⟩
  rw [Literal.length_of_fits (grains.trans_lt fits), value]

/-- The longer unit is looked for first, a failed reading is not tried again with another unit, and blanks
inside are not passed over. -/
example : parse? " +5ms\t" = some ⟨5⟩ ∧ parse? "5mss" = none ∧ parse? "5 s" = none := by decide +kernel

/-- So many minutes come to 2 ^ 64 seconds and 44 more, and the 44 are what 64 bits hold of them. -/
example : parse? "307445734561825861m" = some ⟨44000⟩ := by decide +kernel

end Testbed.Duration
