import Testbed.Duration
import Testbed.Quota

/-!
What can go wrong with the shared store and with the quotas and locks kept in it.
-/

namespace Testbed

/-- The part of the storage engine that failed. -/
inductive StorageFault where
  | opening
  | transaction
  | table
  | reading
  | writing
  | encoding
  | decoding
deriving Repr, Inhabited, DecidableEq

/-- What a storage failure is introduced with. -/
def StorageFault.label : StorageFault → String
  | .opening => "failed to open database"
  | .transaction => "transaction error"
  | .table => "table error"
  | .reading => "read error"
  | .writing => "write error"
  | .encoding => "serialization error"
  | .decoding => "deserialization error"

/-- The short name of a storage failure. -/
def StorageFault.code : StorageFault → String
  | .opening => "Open"
  | .transaction => "Transaction"
  | .table => "Table"
  | .reading => "Read"
  | .writing => "Write"
  | .encoding => "Serialize"
  | .decoding => "Deserialize"

/-- The storage failure of a short name. -/
def StorageFault.ofCode? : String → Option StorageFault
  | "Open" => some .opening
  | "Transaction" => some .transaction
  | "Table" => some .table
  | "Read" => some .reading
  | "Write" => some .writing
  | "Serialize" => some .encoding
  | "Deserialize" => some .decoding
  | _ => none

/-- An error of the shared store. -/
inductive StoreError where
  | storage (fault : StorageFault) (detail : String)
  /-- A counter holds less than was asked of it. -/
  | quotaUnavailable (scope : Target) (kind : QuotaKind)
  /-- Somebody else kept the lock for longer than the caller would wait. -/
  | lockTimeout (key : String) (waited : Duration)
  /-- The lease behind a held lock ran out or was taken over. -/
  | lockLost (key : String)
  /-- The caller gave up waiting for the lock. -/
  | cancelled (key : String)
deriving Repr, Inhabited, DecidableEq

/-- The short name of an error. -/
def StoreError.code : StoreError → String
  | .storage fault _ => fault.code
  | .quotaUnavailable .. => "QuotaUnavailable"
  | .lockTimeout .. => "LockTimeout"
  | .lockLost _ => "LockLost"
  | .cancelled _ => "Cancelled"

/-- The wording of an error. -/
def StoreError.message : StoreError → String
  | .storage fault detail => s!"{fault.label}: {detail}"
  | .quotaUnavailable scope kind => s!"quota {scope.name}:{kind.name} is not available"
  | .lockTimeout key waited => s!"timed out after {waited.text} waiting for lock {key}"
  | .lockLost key => s!"lock {key} was lost while held"
  | .cancelled key => s!"cancelled while waiting for lock {key}"

end Testbed
