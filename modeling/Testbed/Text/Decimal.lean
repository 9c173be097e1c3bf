/-!
Whole numbers in decimal digits.  `readDigits?` accepts a non-empty run of ASCII digits and nothing
else; `readUnsigned?` also accepts one leading plus sign and refuses values that reach the bound of
the word they are meant for.  `readInt64?` also accepts a minus sign.
-/

namespace Testbed.Text

/-- The value of an ASCII digit. -/
def digitValue (c : Char) : Nat := c.toNat - '0'.toNat

/-- The value of a run of digits, most significant first. -/
def digitsValue (cs : List Char) : Nat :=
  cs.foldl (fun n c => n * 10 + digitValue c) 0

/-- Read a non-empty run of ASCII digits. -/
def readDigits? (cs : List Char) : Option Nat :=
  if cs ≠ [] ∧ cs.all Char.isDigit then some (digitsValue cs) else none

/-- Read an unsigned number below `bound`: an optional plus sign, then digits. -/
def readUnsigned? (bound : Nat) (cs : List Char) : Option Nat :=
  let digits := match cs with
    | '+' :: rest => rest
    | _ => cs
  match readDigits? digits with
  | some n => if n < bound then some n else none
  | none => none

/-- Whether a signed 64-bit word holds a number. -/
def fitsInt64 (n : Int) : Bool := Int64.minValue.toInt ≤ n && n ≤ Int64.maxValue.toInt

/-- Read a signed 64-bit number: an optional sign, then digits. -/
def readInt64? (cs : List Char) : Option Int64 :=
  let value? : Option Int := match cs with
    | '-' :: rest => (readDigits? rest).map fun n => -(n : Int)
    | '+' :: rest => (readDigits? rest).map Int.ofNat
    | _ => (readDigits? cs).map Int.ofNat
  (value?.filter fitsInt64).map Int64.ofInt

end Testbed.Text
