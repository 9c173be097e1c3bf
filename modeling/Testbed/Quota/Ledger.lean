import Testbed.Quota
import Testbed.Store
import Testbed.Store.Error

/-!
The quota ledger: what is left of every quota, kept in the counters of the store.  A counter begins at the
limit and is never begun again; a reservation takes all of its quotas or none.
-/

namespace Testbed.Ledger

/-- What the quotas ask of the counters. -/
def requests (quotas : List Quota) : List (String × Int) := quotas.map Quota.request

/-- Begin the counters that do not exist yet. -/
def init (limits : List QuotaLimit) (s : Store) : Store :=
  limits.foldl (fun s limit => (s.initCounter limit.key limit.maximum.toInt).2) s

/-- What is left of a quota, if it has a counter. -/
def available (scope : Target) (kind : QuotaKind) (s : Store) : Option Int :=
  s.counter? (quotaKey scope kind)

/-- Take all quotas or none; the error names the first that is not available. -/
def reserve (quotas : List Quota) (s : Store) : Except StoreError Unit × Store :=
  let (short, s) := s.reserveCounters (requests quotas)
  match short with
  | none => (.ok (), s)
  | some index =>
    match quotas[index]? with
    | some quota => (.error (.quotaUnavailable quota.scope quota.kind), s)
    | none => (.ok (), s)

/-- Give quotas back. -/
def free (quotas : List Quota) (s : Store) : Store := s.incrementCounters (requests quotas)

end Testbed.Ledger
