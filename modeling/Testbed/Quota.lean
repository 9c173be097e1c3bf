import Testbed.Target

/-!
Quotas: how many machines, subnets and public addresses the runs of one target may hold together.
A quota names a counter, by target and kind, and an amount of it.
-/

namespace Testbed

/-- What a quota counts. -/
inductive QuotaKind where
  | vm
  | subnet
  | publicAddress
deriving Repr, Inhabited, DecidableEq

namespace QuotaKind

/-- All kinds, in their order. -/
def all : List QuotaKind := [.vm, .subnet, .publicAddress]

/-- The name of a kind. -/
def name : QuotaKind → String
  | .vm => "VM"
  | .subnet => "SUBNET"
  | .publicAddress => "PUBLIC_IP_ADDRESS"

/-- The kind of a name. -/
def ofName? : String → Option QuotaKind
  | "VM" => some .vm
  | "SUBNET" => some .subnet
  | "PUBLIC_IP_ADDRESS" => some .publicAddress
  | _ => none

/-- The document of a kind is its name. -/
def toDocument (k : QuotaKind) : Document := .text k.name

/-- Read a kind. -/
def ofDocument? : Document → Option QuotaKind := Document.name? ofName?

@[simp] theorem ofName?_name (k : QuotaKind) : ofName? k.name = some k := by cases k <;> rfl

/-- Kinds of quotas are told apart by their names. -/
theorem name_injective {k l : QuotaKind} (h : k.name = l.name) : k = l := by
  have := congrArg ofName? h
  simpa using this

end QuotaKind

/-- The name of the counter of a kind on a target. -/
def quotaKey (scope : Target) (kind : QuotaKind) : String := scope.name ++ ":" ++ kind.name

/-- An amount of one counter, to be taken or given back. -/
structure Quota where
  scope : Target
  kind : QuotaKind
  amount : Int64
deriving Repr, Inhabited, DecidableEq

namespace Quota

/-- The counter that a quota is about. -/
def key (q : Quota) : String := quotaKey q.scope q.kind

/-- The counter and the amount. -/
def request (q : Quota) : String × Int := (q.key, q.amount.toInt)

/-- The document of a quota. -/
def toDocument (q : Quota) : Document :=
  .table [("scope", q.scope.toDocument), ("kind", q.kind.toDocument), ("amount", .int q.amount.toInt)]

/-- Read a quota. -/
def ofDocument? : Document → Option Quota := Document.record? do
  let scope ← Record.field "scope" Target.ofDocument?
  let kind ← Record.field "kind" QuotaKind.ofDocument?
  let amount ← Record.field "amount" Document.int64?
  pure { scope, kind, amount }

end Quota

/-- The most that all runs together may hold of one counter. -/
structure QuotaLimit where
  scope : Target
  kind : QuotaKind
  maximum : Int64
deriving Repr, Inhabited, DecidableEq

namespace QuotaLimit

/-- The counter that a limit is about. -/
def key (l : QuotaLimit) : String := quotaKey l.scope l.kind

/-- The document of a limit. -/
def toDocument (l : QuotaLimit) : Document :=
  .table [("scope", l.scope.toDocument), ("kind", l.kind.toDocument),
    ("maximum", .int l.maximum.toInt)]

/-- Read a limit. -/
def ofDocument? : Document → Option QuotaLimit := Document.record? do
  let scope ← Record.field "scope" Target.ofDocument?
  let kind ← Record.field "kind" QuotaKind.ofDocument?
  let maximum ← Record.field "maximum" Document.int64?
  pure { scope, kind, maximum }

end QuotaLimit

end Testbed
