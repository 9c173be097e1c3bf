import Testbed.Document.Record
import Testbed.Text.Blank

/-!
Internet addresses.  An `Address` is a 32-bit number written as four decimal octets.  Reading is
strict: an octet has at most three digits and no leading zero.  The longer address family is read only
to recognise the addresses that stand for a 32-bit one.
-/

namespace Testbed

/-- A 32-bit internet address. -/
structure Address where
  number : UInt32
deriving Repr, Inhabited, DecidableEq

namespace Address

/-- The address as a natural number. -/
def toNat (a : Address) : Nat := a.number.toNat

/-- The address of a number that 32 bits hold. -/
def ofNat (n : Nat) : Address := ⟨UInt32.ofNat n⟩

/-- An address is a 32-bit number. -/
theorem toNat_lt (a : Address) : a.toNat < UInt32.size := a.number.toNat_lt

@[simp] theorem toNat_ofNat {n : Nat} (h : n < UInt32.size) : (ofNat n).toNat = n :=
  UInt32.toNat_ofNat_of_lt' h

/-- One of the four octets, counted from the most significant one. -/
def octet (a : Address) (i : Nat) : Nat := (a.toNat >>> (8 * (3 - i))) % 256

/-- The dotted form. -/
def text (a : Address) : String :=
  s!"{a.octet 0}.{a.octet 1}.{a.octet 2}.{a.octet 3}"

/-- The address of four octets. -/
def ofOctets (a b c d : Nat) : Address := ofNat (((a * 256 + b) * 256 + c) * 256 + d)

end Address

namespace AddressText

/-- The value of a digit in a radix up to sixteen. -/
def digit? (radix : Nat) (c : Char) : Option Nat :=
  let value? : Option Nat :=
    if c.isDigit then some (c.toNat - 48)
    else if 'a' ≤ c && c ≤ 'f' then some (c.toNat - 87)
    else if 'A' ≤ c && c ≤ 'F' then some (c.toNat - 55)
    else none
  value?.filter (· < radix)

/-- Read the run of digits in front: at most `maxDigits` of them, with a value below `bound`. -/
def number? (radix maxDigits bound : Nat) (cs : List Char) : Option (Nat × List Char) :=
  let run := cs.takeWhile fun c => (digit? radix c).isSome
  let value := run.foldl (fun n c => n * radix + (digit? radix c).getD 0) 0
  if run.isEmpty || run.length > maxDigits || value ≥ bound then none
  else some (value, cs.drop run.length)

/-- Read an octet.  Leading zeros are refused unless `lenient`. -/
def octet? (lenient : Bool) (cs : List Char) : Option (Nat × List Char) :=
  match cs with
  | '0' :: c :: _ => if !lenient && c.isDigit then none else number? 10 3 256 cs
  | _ => number? 10 3 256 cs

/-- Read a given character. -/
def expect? (c : Char) : List Char → Option (List Char)
  | d :: rest => if d = c then some rest else none
  | [] => none

/-- Read four octets with points between them. -/
def dotted? (lenient : Bool) (cs : List Char) : Option (Address × List Char) := do
  let (a, cs) ← octet? lenient cs
  let (b, cs) ← octet? lenient (← expect? '.' cs)
  let (c, cs) ← octet? lenient (← expect? '.' cs)
  let (d, cs) ← octet? lenient (← expect? '.' cs)
  pure (Address.ofOctets a b c d, cs)

/-- Read up to `room` groups of sixteen bits, separated by colons; where two groups fit, a dotted
address may stand for the last two.  The second component says whether one did. -/
def groups (lenient : Bool) : Nat → Bool → List Char → List Nat × Bool × List Char
  | 0, _, cs => ([], false, cs)
  | room + 1, first, cs =>
    match (if first then some cs else expect? ':' cs) with
    | none => ([], false, cs)
    | some body =>
      match (if room = 0 then none else dotted? lenient body) with
      | some (a, rest) => ([a.toNat / 65536, a.toNat % 65536], true, rest)
      | none =>
        match number? 16 4 65536 body with
        | none => ([], false, cs)
        | some (group, rest) =>
          let (more, dotted, rest) := groups lenient room false rest
          (group :: more, dotted, rest)

/-- Read the eight groups of an address of the longer family; a double colon stands for one or more
zero groups, or for none if `lenient`, and a dotted part is allowed only at the very end. -/
def long? (lenient : Bool) (cs : List Char) : Option (List Nat × List Char) :=
  let (head, dotted, rest) := groups lenient 8 true cs
  if head.length = 8 then some (head, rest)
  else if dotted then none
  else
    match rest with
    | ':' :: ':' :: rest =>
      let room := if lenient then 8 - head.length else 7 - head.length
      let (tail, _, rest) := groups lenient room true rest
      some (head ++ List.replicate (8 - head.length - tail.length) 0 ++ tail, rest)
    | _ => none

/-- The 32-bit address that eight groups stand for, if they stand for one. -/
def mapped? : List Nat → Option Address
  | [0, 0, 0, 0, 0, 0xFFFF, high, low] => some (.ofNat (high * 65536 + low))
  | _ => none

end AddressText

namespace Address

/-- Read the dotted form, and nothing else. -/
def parse? (s : String) : Option Address :=
  match AddressText.dotted? false s.toList with
  | some (a, []) => some a
  | _ => none

/-- Read an address of either family, in blanks, as a 32-bit address. -/
def parseAny? (s : String) : Option Address :=
  let cs := Text.trim s.toList
  match AddressText.dotted? false cs with
  | some (a, []) => some a
  | _ =>
    match AddressText.long? false cs with
    | some (groups, []) => AddressText.mapped? groups
    | _ => none

/-- The document of an address is its dotted form. -/
def toDocument (a : Address) : Document := .text a.text

/-- Read an address. -/
def ofDocument? (d : Document) : Option Address := d.text?.bind parse?

end Address

end Testbed
