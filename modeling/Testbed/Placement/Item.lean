import Testbed.Container
import Testbed.Network
import Testbed.Placement.Error

/-!
Items: the logical nodes of a placement, each a machine with its containers.  Items are planned without
addresses, kept in the order in which they were first named, and bound to the addresses of a network in
that order.
-/

namespace Testbed

/-- One logical node. -/
structure Item where
  name : String
  hardware : Hardware
  address : Option Address
  containers : List Container
  metadata : Table String
deriving Repr, Inhabited, DecidableEq

namespace Item

/-- An item without an address and without containers. -/
def new (name : String) (hardware : Hardware) : Item := ⟨name, hardware, none, [], .empty⟩

/-- Run one more container. -/
def addContainer (i : Item) (c : Container) : Item := { i with containers := i.containers ++ [c] }

/-- Whether a container of this name runs on the item. -/
def hasContainer (i : Item) (name : String) : Bool := i.containers.any (·.name = name)

/-- The address of an item that has been bound. -/
def boundAddress (i : Item) : Except PlacementError Address :=
  match i.address with
  | some a => .ok a
  | none => defect (.itemUnbound i.name)

/-- The labels that tell a container where it runs. -/
def labels (i : Item) (a : Address) (c : Container) : List (String × String) :=
  [(Label.address, a.text), (Label.item, i.name), (Label.logicalName, c.logicalName)]

/-- Give an item its address, and tell its containers about it. -/
def bindTo (i : Item) (a : Address) : Item :=
  { i with
    address := some a
    containers := i.containers.map fun c =>
      { c with metadata := c.metadata.insertAll (i.labels a c) } }

def toDocument (i : Item) : Document :=
  .table [("name", .text i.name), ("hardware", i.hardware.toDocument),
    ("internal_ip", .optional Address.toDocument i.address),
    ("containers", .list (i.containers.map Container.toDocument)),
    ("metadata", i.metadata.toDocument)]

def ofDocument? : Document → Option Item := Document.record? do
  let name ← Record.field "name" Document.text?
  let hardware ← Record.field "hardware" Hardware.ofDocument?
  let address ← Record.nullableField "internal_ip" Address.ofDocument?
  let containers ← Record.field "containers" (Document.list? Container.ofDocument?)
  let metadata ← Record.field "metadata" (Document.entries? Document.text?)
  pure { name, hardware, address, containers, metadata }

end Item

/-- Items under construction, in the order in which they were first named. -/
structure ItemSet where
  items : List Item
deriving Repr, Inhabited, DecidableEq

namespace ItemSet

/-- No items. -/
def empty : ItemSet := ⟨[]⟩

/-- The item of a name. -/
def get? (s : ItemSet) (name : String) : Option Item := s.items.find? (·.name = name)

/-- Make sure that an item exists.  A new item needs hardware and goes to the end; an item that exists
keeps the hardware that it has. -/
def ensure (s : ItemSet) (name : String) (hardware : Option Hardware) :
    Except PlacementError ItemSet :=
  match s.get? name with
  | some _ => .ok s
  | none =>
    match hardware with
    | some hardware => .ok ⟨s.items ++ [Item.new name hardware]⟩
    | none => defect (.hardwareMissing name)

/-- Change the item of a name. -/
def modify (s : ItemSet) (name : String) (change : Item → Item) : ItemSet :=
  let rec go : List Item → List Item
    | [] => []
    | item :: rest => if item.name = name then change item :: rest else item :: go rest
  ⟨go s.items⟩

/-- Add the things of `count` indices, counted up from `index`; the first that cannot be added ends it. -/
def addEach (add : ItemSet → Nat → Except PlacementError ItemSet) :
    (count index : Nat) → ItemSet → Except PlacementError ItemSet
  | 0, _, s => .ok s
  | count + 1, index, s =>
    match add s index with
    | .ok s => addEach add count (index + 1) s
    | .error e => .error e

/-- The names of the items. -/
def names (s : ItemSet) : List String := s.items.map Item.name

/-- Number of items. -/
def size (s : ItemSet) : Nat := s.items.length

/-- Give the items the addresses of a network, in order. -/
def bind (s : ItemSet) (network : Network) : Except PlacementError (List Item) :=
  if network.ips.length < s.items.length then
    .error (.allocationExhausted s.items.length network.ips.length)
  else .ok (List.zipWith Item.bindTo s.items network.ips)

end ItemSet

/-- Overrides must be about members that exist, and at most one about each. -/
def validateOverrides (family : Family) (count : Nat) : List Nat → List Nat → Except PlacementError Unit
  | _, [] => .ok ()
  | seen, index :: rest =>
    if count ≤ index then defect (.overrideOutOfRange family index count)
    else if seen.contains index then defect (.overrideRepeated family index)
    else validateOverrides family count (index :: seen) rest

end Testbed
