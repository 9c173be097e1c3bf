import Testbed.Template.Picodata
import Testbed.Template.Postgres

/-!
Database templates.  A template is one of four kinds; `requiredAddresses` is how many addresses the
database of a template needs, which is known before any network is reserved.
-/

namespace Testbed

/-- A description of a database. -/
inductive DatabaseTemplate where
  | postgresInstance (template : PostgresInstance)
  | postgresCluster (template : PostgresCluster)
  | picodataInstance (template : PicodataInstance)
  | picodataCluster (template : PicodataCluster)
deriving Repr, Inhabited, DecidableEq

/-- How many nodes of its own an addon gets. -/
def AddonPlacement.dedicatedCount : Option AddonPlacement → Nat
  | some (.dedicated instancesCount _) => instancesCount.toNat
  | _ => 0

/-- How many addresses a Postgres cluster needs: its nodes and the nodes of its addons. -/
def PostgresCluster.requiredAddresses (t : PostgresCluster) : Nat :=
  match t.topology with
  | none => 0
  | some topology =>
    let etcd := match t.addons.etcd with
      | some a => AddonPlacement.dedicatedCount a.placement
      | none => 0
    let pgbouncer := match t.addons.pgbouncer with
      | some a => if a.enabled then AddonPlacement.dedicatedCount a.placement else 0
      | none => 0
    1 + topology.replicasCount.toNat + etcd + pgbouncer

namespace DatabaseTemplate

/-- How many addresses the database of a template needs.  The load generator is not counted. -/
def requiredAddresses : DatabaseTemplate → Nat
  | .postgresInstance _ => 1
  | .picodataInstance _ => 1
  | .postgresCluster t => t.requiredAddresses
  | .picodataCluster t => match t.topology with
    | some topology => topology.nodesCount.toNat
    | none => 0

def toDocument : DatabaseTemplate → Document
  | .postgresInstance t => .table (("kind", .text "postgres_instance") :: t.fields)
  | .postgresCluster t => .table (("kind", .text "postgres_cluster") :: t.fields)
  | .picodataInstance t => .table (("kind", .text "picodata_instance") :: t.fields)
  | .picodataCluster t => .table (("kind", .text "picodata_cluster") :: t.fields)

def ofDocument? : Document → Option DatabaseTemplate := Document.variant? "kind" fun
  | "postgres_instance" => fun d => (PostgresInstance.ofDocument? d).map .postgresInstance
  | "postgres_cluster" => fun d => (PostgresCluster.ofDocument? d).map .postgresCluster
  | "picodata_instance" => fun d => (PicodataInstance.ofDocument? d).map .picodataInstance
  | "picodata_cluster" => fun d => (PicodataCluster.ofDocument? d).map .picodataCluster
  | _ => fun _ => none

end DatabaseTemplate

end Testbed
