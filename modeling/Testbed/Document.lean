/-!
Structured documents: the tree that configuration files, templates and answers are made of, whatever
notation they are written in.  A document keeps the fields of a table in the order they were given;
`Document.sorted` puts every table into key order and keeps the last of several fields of one name.

Numbers with a fraction or an exponent are kept as they were written, because no value of this library
has one: a reader only needs to tell them from whole numbers.
-/

namespace Testbed

/-- A structured document. -/
inductive Document where
  | null
  | bool (value : Bool)
  | int (value : Int)
  /-- A number that is not a whole number, as it was written. -/
  | real (written : String)
  | text (value : String)
  | list (items : List Document)
  | table (fields : List (String × Document))
deriving Inhabited

namespace Document

/-- Insert a field in name order, replacing a field of the same name. -/
def putField (name : String) (value : Document) :
    List (String × Document) → List (String × Document)
  | [] => [(name, value)]
  | (n, old) :: rest =>
    if name < n then (name, value) :: (n, old) :: rest
    else if name = n then (name, value) :: rest
    else (n, old) :: putField name value rest

mutual

/-- The same document with every table in name order; the last field of a name counts. -/
def sorted : Document → Document
  | .list items => .list (sortedItems items)
  | .table fields => .table (sortedFields [] fields)
  | other => other

/-- `sorted` on each item of a list. -/
def sortedItems : List Document → List Document
  | [] => []
  | item :: rest => item.sorted :: sortedItems rest

/-- Insert sorted fields into fields that are already in order. -/
def sortedFields (done : List (String × Document)) :
    List (String × Document) → List (String × Document)
  | [] => done
  | (name, value) :: rest => sortedFields (putField name value.sorted done) rest

end

mutual

/-- How deep lists and tables lie in each other. -/
def depth : Document → Nat
  | .list items => depthOfItems items + 1
  | .table fields => depthOfFields fields + 1
  | _ => 0

/-- The greatest depth of some items. -/
def depthOfItems : List Document → Nat
  | [] => 0
  | item :: rest => max item.depth (depthOfItems rest)

/-- The greatest depth of the values of some fields. -/
def depthOfFields : List (String × Document) → Nat
  | [] => 0
  | (_, value) :: rest => max value.depth (depthOfFields rest)

end

/-- A list of texts. -/
def texts (values : List String) : Document := .list (values.map .text)

/-- A value that may be absent; absence is written as the null document. -/
def optional {α : Type} (write : α → Document) : Option α → Document
  | some value => write value
  | none => .null

/-- A natural number. -/
def nat (n : Nat) : Document := .int n

end Document

end Testbed
