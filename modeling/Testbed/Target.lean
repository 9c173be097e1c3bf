import Testbed.Document.Record

/-!
Where a run is provisioned: on the local container runtime, or on virtual machines in the cloud.
Quotas and network pools are kept apart by target.
-/

namespace Testbed

/-- Where a run is provisioned. -/
inductive Target where
  | docker
  | yandexCloud
deriving Repr, Inhabited, DecidableEq

namespace Target

/-- All targets, in their order. -/
def all : List Target := [.docker, .yandexCloud]

/-- The name of a target. -/
def name : Target → String
  | .docker => "docker"
  | .yandexCloud => "yandex_cloud"

/-- Whether runs on this target stay on the local host. -/
def isLocal : Target → Bool
  | .docker => true
  | .yandexCloud => false

/-- The target of a name. -/
def ofName? : String → Option Target
  | "docker" => some .docker
  | "yandex_cloud" => some .yandexCloud
  | _ => none

/-- The document of a target is its name. -/
def toDocument (t : Target) : Document := .text t.name

/-- Read a target. -/
def ofDocument? : Document → Option Target := Document.name? ofName?

@[simp] theorem ofName?_name (t : Target) : ofName? t.name = some t := by cases t <;> rfl

end Target

end Testbed
