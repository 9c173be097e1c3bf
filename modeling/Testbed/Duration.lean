import Testbed.Text.Blank
import Testbed.Text.Decimal

/-!
Lengths of time, in whole milliseconds.  `Duration.parse?` reads the notation used in settings: a
whole number and a unit, where no unit means seconds.  Both the number's range and the blanks around
the whole text are part of the notation.

Minutes and hours are counted in seconds, and the seconds in 64 bits.  So a number of hours that is too
large for them is read as what is left of it.
-/

namespace Testbed

/-- A length of time in whole milliseconds. -/
structure Duration where
  ms : Nat
deriving Repr, Inhabited, DecidableEq

namespace Duration

instance : LT Duration := ⟨fun a b => a.ms < b.ms⟩
instance : LE Duration := ⟨fun a b => a.ms ≤ b.ms⟩

instance (a b : Duration) : Decidable (a < b) := inferInstanceAs (Decidable (a.ms < b.ms))
instance (a b : Duration) : Decidable (a ≤ b) := inferInstanceAs (Decidable (a.ms ≤ b.ms))

/-- The units of the notation. -/
inductive Unit where
  | millisecond
  | second
  | minute
  | hour
deriving Repr, Inhabited, DecidableEq

/-- What a unit is counted in, in milliseconds: milliseconds are counted as they are, and all else in
seconds. -/
def Unit.grain : Unit → Nat
  | .millisecond => 1
  | _ => 1000

/-- How many grains one unit is. -/
def Unit.count : Unit → Nat
  | .millisecond | .second => 1
  | .minute => 60
  | .hour => 3600

/-- Split a text into its number part and its unit.  The two-letter unit is looked for first, so that
`5ms` is five milliseconds and not `5m` seconds. -/
def splitUnit (cs : List Char) : List Char × Unit :=
  match cs.reverse with
  | 's' :: 'm' :: rest => (rest.reverse, .millisecond)
  | 's' :: rest => (rest.reverse, .second)
  | 'm' :: rest => (rest.reverse, .minute)
  | 'h' :: rest => (rest.reverse, .hour)
  | _ => (cs, .second)

/-- Read a duration such as `500ms`, `2m` or `10`.  Its number fits a 64-bit word, and of the grains that it
makes such a word keeps the lowest bits. -/
def parse? (s : String) : Option Duration :=
  let (number, unit) := splitUnit (Text.trim s.toList)
  (Text.readUnsigned? UInt64.size number).map fun n => ⟨n * unit.count % UInt64.size * unit.grain⟩

/-- Whole seconds of a duration. -/
def seconds (d : Duration) : Nat := d.ms / 1000

/-- The part of a duration below one second, in nanoseconds. -/
def nanoseconds (d : Duration) : Nat := d.ms % 1000 * 1000000

/-- A duration as messages show it: milliseconds below one second, else seconds with the fraction
that is needed. -/
def text (d : Duration) : String :=
  if d.ms < 1000 then s!"{d.ms}ms"
  else
    let fraction := (toString (d.ms % 1000 + 1000)).toList.drop 1
    let digits := (fraction.reverse.dropWhile (· = '0')).reverse
    if digits.isEmpty then s!"{d.seconds}s" else s!"{d.seconds}.{String.ofList digits}s"

end Duration

end Testbed
