import Testbed.Document.Record
import Testbed.Store

/-!
The contents of a store as a document, which is how a store is kept between two commands.
-/

namespace Testbed

namespace Lease

def toDocument (l : Lease) : Document :=
  .table [("holder", .text l.holder), ("acquired_at_ms", .nat l.acquiredAt),
    ("expires_at_ms", .nat l.expiresAt)]

def ofDocument? : Document → Option Lease := Document.record? do
  let holder ← Record.field "holder" Document.text?
  let acquiredAt ← Record.field "acquired_at_ms" Document.nat?
  let expiresAt ← Record.field "expires_at_ms" Document.nat?
  pure { holder, acquiredAt, expiresAt }

end Lease

namespace Members

def toDocument (s : Members) : Document := .texts s.toList

def ofDocument? (d : Document) : Option Members :=
  (d.list? Document.text?).map fun members => (addAll .empty members).2

end Members

namespace Store

/-- A table with its values written as documents. -/
def tableDocument {α : Type} (write : α → Document) (t : Table α) : Document :=
  .table (t.entries.map fun e => (e.1, write e.2))

def toDocument (s : Store) : Document :=
  .table [("texts", tableDocument .text s.texts), ("sets", tableDocument Members.toDocument s.sets),
    ("counters", tableDocument (fun n => .int n.toInt) s.counters),
    ("leases", tableDocument Lease.toDocument s.leases)]

def ofDocument? : Document → Option Store := Document.record? do
  let texts ← Record.field "texts" (Document.entries? Document.text?)
  let sets ← Record.field "sets" (Document.entries? Members.ofDocument?)
  let counters ← Record.field "counters" (Document.entries? Document.int64?)
  let leases ← Record.field "leases" (Document.entries? Lease.ofDocument?)
  pure { texts, sets, counters, leases }

end Store

end Testbed
