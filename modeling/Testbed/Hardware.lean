import Testbed.Document.Record

/-!
The size of a machine.
-/

namespace Testbed

/-- The size of one machine. -/
structure Hardware where
  cores : UInt32
  memoryGb : UInt32
  diskGb : UInt32
deriving Repr, Inhabited, DecidableEq

namespace Hardware

/-- The document of a machine size. -/
def toDocument (h : Hardware) : Document :=
  .table [("cores", .nat h.cores.toNat), ("memory_gb", .nat h.memoryGb.toNat),
    ("disk_gb", .nat h.diskGb.toNat)]

/-- Read a machine size. -/
def ofDocument? : Document → Option Hardware := Document.record? do
  let cores ← Record.field "cores" Document.uint32?
  let memoryGb ← Record.field "memory_gb" Document.uint32?
  let diskGb ← Record.field "disk_gb" Document.uint32?
  pure { cores, memoryGb, diskGb }

end Hardware

end Testbed
