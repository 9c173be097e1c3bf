import Testbed.Clock
import Testbed.Document.Record

/-!
Resources: the things that a backend keeps for a deployment, each with a status.  A resource is created,
becomes ready, and is destroyed in the end; one that stays too long on its way is degraded.
-/

namespace Testbed

/-- Where a resource stands. -/
inductive ResourceStatus where
  | creating
  | ready
  | degraded
  | destroying
  | destroyed
deriving Repr, Inhabited, DecidableEq

namespace ResourceStatus

/-- The name of a status. -/
def name : ResourceStatus → String
  | .creating => "CREATING"
  | .ready => "READY"
  | .degraded => "DEGRADED"
  | .destroying => "DESTROYING"
  | .destroyed => "DESTROYED"

/-- The status of a name. -/
def ofName? : String → Option ResourceStatus
  | "CREATING" => some .creating
  | "READY" => some .ready
  | "DEGRADED" => some .degraded
  | "DESTROYING" => some .destroying
  | "DESTROYED" => some .destroyed
  | _ => none

def toDocument (s : ResourceStatus) : Document := .text s.name

def ofDocument? : Document → Option ResourceStatus := Document.name? ofName?

/-- A status is read back from its name. -/
@[simp] theorem ofName?_name (s : ResourceStatus) : ofName? s.name = some s := by cases s <;> rfl

end ResourceStatus

/-- The wall clock as it is stamped on records. -/
def Clock.stamp (c : Clock) : UInt64 := UInt64.ofNat c.wall

/-- What the wall clock shows in the course of a call, reading after reading. -/
structure Stamps where
  nth : Nat → UInt64

namespace Stamps

/-- A call that takes no time reads the same whenever it looks. -/
def still (now : UInt64) : Stamps := ⟨fun _ => now⟩

instance : Coe UInt64 Stamps := ⟨still⟩

@[simp] theorem nth_still (now : UInt64) (i : Nat) : (still now).nth i = now := rfl

end Stamps

/-- Something that a backend keeps, as it was last seen. -/
structure Resource where
  /-- Names the resource to the backend. -/
  id : String
  name : String
  status : ResourceStatus
  ready : Bool
  synced : Bool
  externalId : Option String
  createdAt : UInt64
  /-- When the status was entered. -/
  updatedAt : UInt64
deriving Repr, Inhabited, DecidableEq

namespace Resource

/-- A resource whose creation begins. -/
def new (id name : String) (now : UInt64) : Resource :=
  ⟨id, name, .creating, false, false, none, now, now⟩

/-- Enter a status. -/
def enter (r : Resource) (status : ResourceStatus) (now : UInt64) : Resource :=
  { r with status, updatedAt := now }

/-- Whether the status has lasted for an interval, in milliseconds, of which 64 bits count.  An interval that
would end after the last instant that can be stamped ends then. -/
def isOverdue (r : Resource) (interval : Nat) (now : UInt64) : Bool :=
  min (r.updatedAt.toNat + interval % UInt64.size) (UInt64.size - 1) ≤ now.toNat

def toDocument (r : Resource) : Document :=
  .table [("id", .text r.id), ("name", .text r.name), ("status", r.status.toDocument),
    ("ready", .bool r.ready), ("synced", .bool r.synced),
    ("external_id", .optional .text r.externalId),
    ("created_at_ms", .nat r.createdAt.toNat), ("updated_at_ms", .nat r.updatedAt.toNat)]

def ofDocument? : Document → Option Resource := Document.record? do
  let id ← Record.field "id" Document.text?
  let name ← Record.field "name" Document.text?
  let status ← Record.field "status" ResourceStatus.ofDocument?
  let ready ← Record.field "ready" Document.bool?
  let synced ← Record.field "synced" Document.bool?
  let externalId ← Record.nullableField "external_id" Document.text?
  let createdAt ← Record.field "created_at_ms" Document.uint64?
  let updatedAt ← Record.field "updated_at_ms" Document.uint64?
  pure { id, name, status, ready, synced, externalId, createdAt, updatedAt }

/-- Overwrite the fields that a table names. -/
def patch? (r : Resource) (fields : List (String × Document)) : Option Resource :=
  match r.toDocument with
  | .table old => ofDocument? (Document.table (old ++ fields)).sorted
  | _ => none

end Resource

end Testbed
