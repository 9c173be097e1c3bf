import Testbed.Block
import Testbed.Identity
import Testbed.Store.Error

/-!
A network is a subnet that a run has been given, together with the addresses it may use, in the order
in which it will use them.  `NetworkError` is what can go wrong while a network is chosen, reserved or
given back.
-/

namespace Testbed

/-- A reserved subnet and the addresses handed out of it. -/
structure Network where
  identifier : Identifier
  cidr : String
  ips : List Address
deriving Repr, Inhabited, DecidableEq

namespace Network

/-- The document of a network. -/
def toDocument (n : Network) : Document :=
  .table [("identifier", n.identifier.toDocument), ("cidr", .text n.cidr),
    ("ips", .list (n.ips.map Address.toDocument))]

/-- Read a network. -/
def ofDocument? : Document → Option Network := Document.record? do
  let identifier ← Record.field "identifier" Identifier.ofDocument?
  let cidr ← Record.field "cidr" Document.text?
  let ips ← Record.field "ips" (Document.list? Address.ofDocument?)
  pure { identifier, cidr, ips }

end Network

/-- What there is not enough of. -/
inductive Shortage where
  /-- Every subnet of this length overlaps one that is taken. -/
  | subnets (length : Nat) (parent : String)
  /-- The subnet has fewer usable addresses than were asked for. -/
  | addresses (subnet : Block) (usable requested : Nat)
  /-- Nothing is left between the padding and the broadcast address. -/
  | usable (subnet : Block) (padding : Nat)
  /-- Every usable address is in use. -/
  | freeAddresses (subnet : Block)
  /-- A shortage somebody else described. -/
  | described (what : String)
deriving Repr, Inhabited, DecidableEq

/-- The wording of a shortage. -/
def Shortage.message : Shortage → String
  | .subnets length parent => s!"no free /{length} subnet left in {parent}"
  | .addresses subnet count requested =>
    s!"{subnet.text} has {count} usable addresses, {requested} requested"
  | .usable subnet padding => s!"{subnet.text} has no usable addresses after padding {padding}"
  | .freeAddresses subnet => s!"no free address left in {subnet.text}"
  | .described what => what

/-- An error of choosing, reserving or giving back a network. -/
inductive NetworkError where
  | invalidCidr (text : String)
  | unsupported (what : String)
  /-- A subnet of this length does not lie within the parent block. -/
  | lengthOutside (length : Nat) (parent : String)
  | exhausted (shortage : Shortage)
  | alreadyReserved (cidr : String)
  | store (error : StoreError)
deriving Repr, Inhabited, DecidableEq

/-- The short name of an error. -/
def NetworkError.code : NetworkError → String
  | .invalidCidr _ => "InvalidCidr"
  | .unsupported _ => "Unsupported"
  | .lengthOutside .. => "InvalidPrefix"
  | .exhausted _ => "Exhausted"
  | .alreadyReserved _ => "AlreadyReserved"
  | .store _ => "State"

/-- The wording of an error. -/
def NetworkError.message : NetworkError → String
  | .invalidCidr text => s!"invalid cidr: {text}"
  | .unsupported what => s!"unsupported address family: {what}"
  | .lengthOutside length parent => s!"prefix /{length} is not within parent {parent}"
  | .exhausted shortage => s!"allocation exhausted: {shortage.message}"
  | .alreadyReserved cidr => s!"subnet {cidr} already reserved"
  | .store error => s!"state store error: {error.message}"

end Testbed
