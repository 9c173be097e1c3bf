import Testbed.Document

/-!
The tables of a TOML text while it is being read.  A name may be given a value once; a table may be
opened by a header once.  Which additions are allowed depends on how a table came to be, so every table
remembers whether only its sub-tables have been named so far and whether a dotted name made it.
-/

namespace Testbed.Toml

/-- How a table came to be. -/
structure Origin where
  /-- Only sub-tables of it have been named; a header may still open it. -/
  implicit : Bool
  /-- A dotted name on the left of a value made it. -/
  dotted : Bool
deriving Repr, Inhabited, DecidableEq

/-- What stands under a name. -/
inductive Node where
  | leaf (value : Document)
  | branch (origin : Origin) (entries : List (String × Node))
  /-- A list of tables, each opened by its own header, newest first. -/
  | series (newest : List (String × Node)) (older : List (List (String × Node)))
deriving Inhabited

/-- A table and how it came to be. -/
structure Branch where
  origin : Origin
  entries : List (String × Node)
deriving Inhabited

namespace Node

/-- What stands under a name. -/
def find? (name : String) (entries : List (String × Node)) : Option Node :=
  (entries.find? (·.1 = name)).map Prod.snd

/-- Replace what stands under a name. -/
def replace (name : String) (node : Node) (entries : List (String × Node)) : List (String × Node) :=
  entries.map fun entry => if entry.1 = name then (name, node) else entry

mutual

/-- The document of a node. -/
def toDocument : Node → Document
  | .leaf value => value
  | .branch _ entries => .table (entryDocuments entries)
  | .series newest older => .list ((.table (entryDocuments newest) :: seriesDocuments older).reverse)

/-- The fields of a table. -/
def entryDocuments : List (String × Node) → List (String × Document)
  | [] => []
  | (name, node) :: rest => (name, node.toDocument) :: entryDocuments rest

/-- The tables of a list, newest first. -/
def seriesDocuments : List (List (String × Node)) → List Document
  | [] => []
  | entries :: rest => .table (entryDocuments entries) :: seriesDocuments rest

end

end Node

namespace Branch

/-- The table that a text starts with. -/
def root : Branch := ⟨⟨false, false⟩, []⟩

/-- The node of a table. -/
def toNode (b : Branch) : Node := .branch b.origin b.entries

/-- Change the table at a path.  Tables that are missing on the way are made; the newest table of a
list stands for the list.  A dotted name must not pass through a table that was opened by a header. -/
def modifyAt (dotted : Bool) (edit : Branch → Option Branch) : List String → Branch → Option Branch
  | [], b => edit b
  | name :: path, b =>
    match Node.find? name b.entries with
    | none => do
      let made ← modifyAt dotted edit path ⟨⟨true, dotted⟩, []⟩
      pure { b with entries := b.entries ++ [(name, made.toNode)] }
    | some (.leaf _) => none
    | some (.series newest older) => do
      let changed ← modifyAt dotted edit path ⟨⟨false, false⟩, newest⟩
      pure { b with entries := Node.replace name (.series changed.entries older) b.entries }
    | some (.branch origin entries) => do
      if dotted && !origin.implicit then none
      else
        let changed ← modifyAt dotted edit path ⟨origin, entries⟩
        pure { b with entries := Node.replace name changed.toNode b.entries }

/-- Give a name a value.  `viaDots` says whether the table was reached by a dotted name; such a table
must have been made that way, and any other must not. -/
def define (viaDots : Bool) (name : String) (value : Document) (b : Branch) : Option Branch :=
  if b.origin.dotted ≠ viaDots then none
  else
    match Node.find? name b.entries with
    | some _ => none
    | none => some { b with entries := b.entries ++ [(name, .leaf value)] }

/-- Open a table by a header. -/
def openTable (name : String) (b : Branch) : Option Branch :=
  match Node.find? name b.entries with
  | none => some { b with entries := b.entries ++ [(name, .branch ⟨false, false⟩ [])] }
  | some (.branch origin entries) =>
    if origin.implicit && !origin.dotted then
      some { b with entries := Node.replace name (.branch ⟨false, false⟩ entries) b.entries }
    else none
  | some _ => none

/-- Open a further table of a list by a header. -/
def openSeries (name : String) (b : Branch) : Option Branch :=
  match Node.find? name b.entries with
  | none => some { b with entries := b.entries ++ [(name, .series [] [])] }
  | some (.series newest older) =>
    some { b with entries := Node.replace name (.series [] (newest :: older)) b.entries }
  | some _ => none

end Branch

end Testbed.Toml
