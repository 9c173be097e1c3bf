import Testbed.Placement.Picodata
import Testbed.Placement.Postgres

/-!
From a template and a network to bound and wired items: `plan` expands the template, the items are bound
to the network's addresses in order, and `wire` sets what depends on the addresses.
-/

namespace Testbed

/-- The items of a database, bound and wired. -/
structure PlacementIntent where
  items : List Item
  network : Network
  connectionString : String
deriving Repr, Inhabited, DecidableEq

namespace PlacementIntent

def toDocument (i : PlacementIntent) : Document :=
  .table [("items", .list (i.items.map Item.toDocument)), ("network", i.network.toDocument),
    ("connection_string", .text i.connectionString)]

def ofDocument? : Document → Option PlacementIntent := Document.record? do
  let items ← Record.field "items" (Document.list? Item.ofDocument?)
  let network ← Record.field "network" Network.ofDocument?
  let connectionString ← Record.field "connection_string" Document.text?
  pure { items, network, connectionString }

end PlacementIntent

namespace DatabaseTemplate

/-- The family of a template. -/
def family : DatabaseTemplate → Family
  | .postgresInstance _ => .postgres
  | .postgresCluster _ => .postgres
  | .picodataInstance _ => .picodata
  | .picodataCluster _ => .picodata

/-- The items of a template, without addresses. -/
def plan : DatabaseTemplate → Except PlacementError ItemSet
  | .postgresInstance t => Postgres.planInstance t
  | .postgresCluster t => Postgres.planCluster t
  | .picodataInstance t => Picodata.planInstance t
  | .picodataCluster t => Picodata.planCluster t

end DatabaseTemplate

/-- Set up bound items of a family. -/
def Family.wire : Family → List Item → Except PlacementError (List Item × String)
  | .postgres => Postgres.wire
  | .picodata => Picodata.wire

/-- Plan, bind and wire a template on a network. -/
def DatabaseTemplate.place (t : DatabaseTemplate) (network : Network) :
    Except PlacementError PlacementIntent := do
  let planned ← t.plan
  if planned.items.isEmpty then defect .noItems
  else
    let bound ← planned.bind network
    let (items, connectionString) ← t.family.wire bound
    pure { items, network, connectionString }

end Testbed
