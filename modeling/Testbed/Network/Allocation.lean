import Testbed.Network

/-!
Choosing a subnet and its addresses.

A parent block is cut into subnets of one length, and the lowest one that overlaps no taken block is
chosen.  `lowestFree?` does not test the subnets one by one: when a candidate overlaps a taken block, all
candidates up to the end of that block overlap it too and are skipped.

Inside a subnet the network address, the `padding` addresses after it and the broadcast address are
never handed out.
-/

namespace Testbed.Allocation

/-- A chosen subnet and the addresses handed out of it, in ascending order. -/
structure Choice where
  subnet : Block
  addresses : List Address
deriving Repr, DecidableEq

/-- Read a block that a caller named. -/
def block (text : String) : Except NetworkError Block :=
  match Block.parse text with
  | .ok b => .ok b
  | .error .malformed => .error (.invalidCidr text)
  | .error .otherFamily => .error (.unsupported s!"{text} is not IPv4")

/-- The blocks among some texts; a text that is no block takes no space. -/
def takenBlocks (existing : List String) : List Block := existing.filterMap Block.parse?

/-- The index of the first candidate that begins after a taken block. -/
def indexAfter (parent : Block) (length : Nat) (taken : Block) : Nat :=
  (taken.last + 1 - parent.first + Block.sizeOf length - 1) / Block.sizeOf length

/-- The candidate of lowest index, from `index` on, that overlaps no taken block. -/
def lowestFree? (parent : Block) (length : Nat) (hlo : parent.length ≤ length) (hhi : length ≤ 32)
    (taken : List Block) (index : Nat) : Option Block :=
  if h : index < parent.cuts length then
    let candidate := parent.cut length index hlo hhi h
    match taken.find? candidate.overlaps with
    | none => some candidate
    | some other =>
      lowestFree? parent length hlo hhi taken (max (index + 1) (indexAfter parent length other))
  else none
termination_by parent.cuts length - index
decreasing_by omega

/-- The first address of a subnet that may be handed out. -/
def firstUsable (padding : Nat) (subnet : Block) : Nat := subnet.first + padding + 1

/-- How many addresses of a subnet may be handed out. -/
def usableCount (padding : Nat) (subnet : Block) : Nat := subnet.last - firstUsable padding subnet

/-- The first `count` usable addresses of a subnet. -/
def addresses (padding : Nat) (subnet : Block) (count : Nat) : Except NetworkError (List Address) :=
  let usable := usableCount padding subnet
  if usable < count then .error (.exhausted (.addresses subnet usable count))
  else .ok ((List.range count).map fun i => Address.ofNat (firstUsable padding subnet + i))

/-- Choose the lowest free subnet of a given length in a parent block, and `count` addresses in it. -/
def nextSubnet (padding : Nat) (parent : String) (length : Nat) (existing : List String)
    (count : Nat) : Except NetworkError Choice := do
  let parentBlock ← block parent
  if h : parentBlock.length ≤ length ∧ length ≤ 32 then
    match lowestFree? parentBlock length h.1 h.2 (takenBlocks existing) 0 with
    | some subnet => pure ⟨subnet, ← addresses padding subnet count⟩
    | none => throw (.exhausted (.subnets length parent))
  else throw (.lengthOutside length parent)

/-- The least number from `n` on, below `bound`, that is not among `used`. -/
def leastUnused? (used : List Nat) (bound n : Nat) : Option Nat :=
  if n < bound then
    if used.contains n then leastUnused? used bound (n + 1) else some n
  else none
termination_by bound - n

/-- The first usable address of a block that is not in use.  Texts that are no addresses are in nobody's
use. -/
def firstFree (padding : Nat) (cidr : String) (used : List String) :
    Except NetworkError Address := do
  let subnet ← block cidr
  let start := firstUsable padding subnet
  if subnet.last ≤ start then throw (.exhausted (.usable subnet padding))
  match leastUnused? ((used.filterMap Address.parseAny?).map Address.toNat) subnet.last start with
  | some n => pure (Address.ofNat n)
  | none => throw (.exhausted (.freeAddresses subnet))

end Testbed.Allocation
