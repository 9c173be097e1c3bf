import Testbed.Document.Toml.Scalar
import Testbed.Document.Toml.Tree

/-!
Reading the TOML notation.  `Toml.read?` reads a whole text into a document and fails when the text
breaks the grammar or names something twice.
-/

namespace Testbed.Toml

/-- How many lists and inline tables may enclose a value. -/
def maxDepth : Nat := 79

/-- Whether a character may stand in a name without quotation marks. -/
def isBare (c : Char) : Bool := c.isAlphanum || c = '_' || c = '-'

/-- Read one part of a name. -/
def namePart? (cs : List Char) : Parsed String :=
  match cs with
  | '"' :: rest => basic? (rest.length + 1) [] rest
  | '\'' :: rest => literal? rest
  | _ =>
    let bare := cs.takeWhile isBare
    if bare.isEmpty then none else some (String.ofList bare, cs.drop bare.length)

/-- Read a name: parts separated by points.  Returns the parts before the last one, and the last. -/
def name? : Nat → List Char → Parsed (List String × String)
  | 0, _ => none
  | fuel + 1, cs =>
    match namePart? (skipInline cs) with
    | none => none
    | some (part, rest) =>
      match skipInline rest with
      | '.' :: rest =>
        match name? fuel rest with
        | some ((path, last), rest) => some ((part :: path, last), rest)
        | none => none
      | rest => some (([], part), rest)

/-- Read a name, an equals sign and a value. -/
def pair? (value : List Char → Parsed Document) (cs : List Char) :
    Parsed (List String × String × Document) :=
  match name? maxDepth cs with
  | some ((path, last), '=' :: rest) =>
    match value (skipInline rest) with
    | some (d, rest) => some ((path, last, d), rest)
    | none => none
  | _ => none

/-- Read the items of a list up to the closing bracket. -/
def items? (value : List Char → Parsed Document) :
    Nat → List Document → List Char → Parsed Document
  | 0, _, _ => none
  | fuel + 1, done, cs =>
    match skipLines (cs.length + 1) cs with
    | ']' :: rest => some (.list done.reverse, rest)
    | cs =>
      match value cs with
      | none => none
      | some (d, rest) =>
        match skipLines (rest.length + 1) rest with
        | ',' :: rest => items? value fuel (d :: done) rest
        | ']' :: rest => some (.list (d :: done).reverse, rest)
        | _ => none

/-- Read the pairs of an inline table up to the closing brace. -/
def pairs? (value : List Char → Parsed Document) :
    Nat → Branch → List Char → Parsed Document
  | 0, _, _ => none
  | fuel + 1, b, cs =>
    match pair? value cs with
    | none => none
    | some ((path, last, d), rest) =>
      match b.modifyAt true (Branch.define (!path.isEmpty) last d) path with
      | none => none
      | some b =>
        match skipInline rest with
        | ',' :: rest => pairs? value fuel b rest
        | '\x7d' :: rest => some (b.toNode.toDocument, rest)
        | _ => none

/-- Read a value inside at most `depth` further lists and inline tables. -/
def value? : Nat → List Char → Parsed Document
  | depth, cs =>
    match cs with
    | '[' :: rest =>
      match depth with
      | 0 => none
      | depth + 1 => items? (value? depth) (rest.length + 1) [] rest
    | '\x7b' :: rest =>
      match depth with
      | 0 => none
      | depth + 1 =>
        match skipInline rest with
        | '\x7d' :: rest => some (.table [], rest)
        | rest => pairs? (value? depth) (rest.length + 1) Branch.root rest
    | c :: _ =>
      if c = '"' || c = '\'' then (string? cs).map fun (s, rest) => (.text s, rest) else plain? cs
    | [] => none

/-- Where values go: the tables read so far, and the path of the table opened last. -/
structure State where
  tree : Branch
  path : List String
deriving Inhabited

/-- Read a header: a name in single or double brackets. -/
def header? (s : State) (cs : List Char) : Parsed State :=
  match cs with
  | '[' :: '[' :: rest =>
    match name? maxDepth rest with
    | some ((path, last), ']' :: ']' :: rest) =>
      (s.tree.modifyAt false (Branch.openSeries last) path).map (⟨·, path ++ [last]⟩, rest)
    | _ => none
  | '[' :: rest =>
    match name? maxDepth rest with
    | some ((path, last), ']' :: rest) =>
      (s.tree.modifyAt false (Branch.openTable last) path).map (⟨·, path ++ [last]⟩, rest)
    | _ => none
  | _ => none

/-- Read a pair into the table that was opened last. -/
def assignment? (s : State) (cs : List Char) : Parsed State :=
  match pair? (value? maxDepth) cs with
  | none => none
  | some ((path, last, d), rest) =>
    let inTable := Branch.modifyAt true (Branch.define (!path.isEmpty) last d) path
    (s.tree.modifyAt false inTable s.path).map ({ s with tree := · }, rest)

/-- Read line by line. -/
def lines? : Nat → State → List Char → Option State
  | 0, _, _ => none
  | fuel + 1, s, cs =>
    let cs := skipInline cs
    let read : Parsed State := match cs with
      | [] => some (s, [])
      | '#' :: _ => some (s, cs)
      | '\n' :: _ => some (s, cs)
      | '\r' :: _ => some (s, cs)
      | '[' :: _ => header? s cs
      | _ => assignment? s cs
    match read with
    | none => none
    | some (s, rest) =>
      match skipComment (skipInline rest) with
      | [] => some s
      | rest =>
        match newline? rest with
        | some rest => lines? fuel s rest
        | none => none

/-- Read a text.  A byte order mark in front is dropped. -/
def read? (text : String) : Option Document :=
  let cs := match text.toList with
    | '\ufeff' :: rest => rest
    | cs => cs
  (lines? (cs.length + 1) ⟨Branch.root, []⟩ cs).map fun s => s.tree.toNode.toDocument

end Testbed.Toml
