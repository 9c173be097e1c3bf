import Testbed.Document
import Testbed.Table
import Testbed.Text.Decimal

/-!
Reading typed values out of documents.

A record is written as a table of named fields or as the list of its fields in their order.  `Record`
is the reader of such a value, field by field: a field may be required, may have a default, or may be
left out altogether.  Names that the record does not know are ignored; a name that it knows must not
occur twice.  Variants are tables with one field that names the case.

Reading fails without a reason: the only thing a caller can tell is that the document does not fit.
-/

namespace Testbed

/-- What is left to read of a record. -/
inductive Fields where
  /-- The named fields of a table. -/
  | named (fields : List (String × Document))
  /-- The fields that remain, in order. -/
  | ordered (rest : List Document)

/-- Reads a value of type `α` from the fields of a record. -/
abbrev Record (α : Type) := StateT Fields Option α

namespace Document

/-- A text. -/
def text? : Document → Option String
  | .text s => some s
  | _ => none

/-- A truth value. -/
def bool? : Document → Option Bool
  | .bool b => some b
  | _ => none

/-- A whole number. -/
def int? : Document → Option Int
  | .int n => some n
  | _ => none

/-- A natural number. -/
def nat? : Document → Option Nat
  | .int n => if 0 ≤ n then some n.toNat else none
  | _ => none

/-- A natural number below `bound`. -/
def natBelow? (bound : Nat) : Document → Option Nat
  | .int n => if 0 ≤ n ∧ n < bound then some n.toNat else none
  | _ => none

/-- An unsigned 8-bit number. -/
def uint8? (d : Document) : Option UInt8 := (d.natBelow? UInt8.size).map UInt8.ofNat

/-- An unsigned 16-bit number. -/
def uint16? (d : Document) : Option UInt16 := (d.natBelow? UInt16.size).map UInt16.ofNat

/-- An unsigned 32-bit number. -/
def uint32? (d : Document) : Option UInt32 := (d.natBelow? UInt32.size).map UInt32.ofNat

/-- An unsigned 64-bit number. -/
def uint64? (d : Document) : Option UInt64 := (d.natBelow? UInt64.size).map UInt64.ofNat

/-- A signed 64-bit number. -/
def int64? (d : Document) : Option Int64 := (d.int?.filter Text.fitsInt64).map Int64.ofInt

/-- A value that may be null. -/
def nullable? {α : Type} (read : Document → Option α) : Document → Option (Option α)
  | .null => some none
  | d => (read d).map some

/-- A list of values. -/
def list? {α : Type} (read : Document → Option α) : Document → Option (List α)
  | .list items => items.mapM read
  | _ => none

/-- A table from arbitrary names to values; the last field of a name counts. -/
def entries? {α : Type} (read : Document → Option α) : Document → Option (Table α)
  | .table fields =>
    (fields.mapM fun field => (read field.2).map fun value => (field.1, value)).map Table.ofList
  | _ => none

/-- A case without fields, written as its name, or as a table from its name to null. -/
def name? {α : Type} (ofName : String → Option α) : Document → Option α
  | .text s => ofName s
  | .table [(s, .null)] => ofName s
  | _ => none

/-- A case without fields that stands inside a variant.  There an empty table does for null. -/
def innerName? {α : Type} (ofName : String → Option α) : Document → Option α
  | .table [(s, .table [])] => ofName s
  | d => d.name? ofName

/-- A record.  A record written as a list must have no items left over. -/
def record? {α : Type} (read : Record α) : Document → Option α
  | .table fields => (read.run (.named fields)).map Prod.fst
  | .list items =>
    match read.run (.ordered items) with
    | some (value, .ordered []) => some value
    | _ => none
  | _ => none

/-- A variant: `tag` names the field that says which case it is, `name` reads that field, and `case` reads
the other fields of the case of that name.  In a list the name of the case comes first. -/
def taggedBy? {α : Type} (tag : String) (name : Document → Option String)
    (case : String → Document → Option α) : Document → Option α
  | .table fields =>
    match fields.filter (·.1 = tag) with
    | [(_, d)] => do case (← name d) (.table (fields.filter (·.1 ≠ tag)))
    | _ => none
  | .list (d :: rest) => do case (← name d) (.list rest)
  | _ => none

/-- A variant whose cases go by their names. -/
def variant? {α : Type} (tag : String) (case : String → Document → Option α) : Document → Option α :=
  taggedBy? tag text? case

/-- The name of one of these cases, or the name of the case at a position among them. -/
def caseName? (names : List String) : Document → Option String
  | .text s => some s
  | d => d.nat?.bind (names[·]?)

/-- A variant that stands inside another.  There a case also goes by its position among the `names`. -/
def innerVariant? {α : Type} (tag : String) (names : List String)
    (case : String → Document → Option α) : Document → Option α :=
  taggedBy? tag (caseName? names) case

end Document

/-- The document of a table of texts. -/
def Table.toDocument (t : Table String) : Document :=
  .table (t.entries.map fun e => (e.1, .text e.2))

namespace Record

variable {α : Type}

/-- Read one field; `absent` is the value of a field that is not there, if that is allowed. -/
def fieldOr (absent : Option α) (name : String) (read : Document → Option α) : Record α := fun
  | .named fields =>
    match fields.filter (·.1 = name) with
    | [] => absent.map (·, .named fields)
    | [(_, value)] => (read value).map (·, .named fields)
    | _ => none
  | .ordered (value :: rest) => (read value).map (·, .ordered rest)
  | .ordered [] => absent.map (·, .ordered [])

/-- A field that must be there. -/
def field (name : String) (read : Document → Option α) : Record α := fieldOr none name read

/-- A field with a default. -/
def fieldWith (default : α) (name : String) (read : Document → Option α) : Record α :=
  fieldOr (some default) name read

/-- A field that may be null or left out. -/
def maybe (name : String) (read : Document → Option α) : Record (Option α) :=
  fieldOr (some none) name (Document.nullable? read)

/-- A field that may be null; it may be left out among named fields, but not in a list. -/
def nullableField (name : String) (read : Document → Option α) : Record (Option α) := fun
  | .named fields => maybe name read (.named fields)
  | .ordered rest => field name (Document.nullable? read) (.ordered rest)

end Record

end Testbed
