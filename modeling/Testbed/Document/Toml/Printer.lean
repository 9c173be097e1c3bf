import Testbed.Document

/-!
Writing the TOML notation.  A table is written as its values, one to a line, followed by its sub-tables
under headers; a blank line separates tables.  A header is left out where sub-tables make it
redundant, and never where the table is empty.  Lists with more than one item have a line for each.

Strings take the simplest kind of quotation marks that shows them as they are.
-/

namespace Testbed.Toml

/-- The longest run of a character in a text. -/
def longestRun (mark : Char) (cs : List Char) : Nat :=
  (cs.foldl (fun (longest, run) c =>
    let run := if c = mark then run + 1 else 0
    (max longest run, run)) (0, 0)).1

/-- The kinds of string. -/
inductive StringStyle where
  | basic
  | literal
  | basicLines
  | literalLines
deriving Repr, Inhabited, DecidableEq

/-- Whether a character must be written as an escape in every kind of string that has escapes. -/
def isControl (c : Char) : Bool :=
  c ≠ '\t' && c ≠ '\n' && (c.toNat ≤ 0x1F || c.toNat = 0x7F)

/-- The kind of string that a text is written as. -/
def styleOf (cs : List Char) : StringStyle :=
  let control := cs.any isControl
  let backslash := cs.contains '\\'
  let lines := cs.contains '\n'
  let singles := longestRun '\'' cs
  let doubles := longestRun '"' cs
  if !control && !backslash && doubles = 0 && !lines then .basic
  else if !control && singles = 0 && !lines then .literal
  else if !control && !backslash && doubles ≤ 2 then .basicLines
  else if !control && singles ≤ 2 then .literalLines
  else if lines then .basicLines
  else .basic

/-- A hexadecimal digit in upper case. -/
def hexDigit (n : Nat) : Char := Char.ofNat (if n < 10 then 48 + n else 55 + n)

/-- Write text with escapes.  `marks` is how many quotation marks may stand in a row unescaped, and
`run` how many stand directly before. -/
def escaped (marks : Nat) (lines : Bool) : Nat → List Char → List Char
  | _, [] => []
  | run, c :: rest =>
    if c = '"' then
      if run < marks then '"' :: escaped marks lines (run + 1) rest
      else '\\' :: '"' :: escaped marks lines 0 rest
    else if c = '\x08' then '\\' :: 'b' :: escaped marks lines 0 rest
    else if c = '\t' then '\\' :: 't' :: escaped marks lines 0 rest
    else if c = '\n' then
      if lines then '\n' :: escaped marks lines 0 rest
      else '\\' :: 'n' :: escaped marks lines 0 rest
    else if c = '\x0c' then '\\' :: 'f' :: escaped marks lines 0 rest
    else if c = '\r' then '\\' :: 'r' :: escaped marks lines 0 rest
    else if c = '\\' then '\\' :: '\\' :: escaped marks lines 0 rest
    else if isControl c then
      '\\' :: 'u' :: '0' :: '0' :: hexDigit (c.toNat / 16) :: hexDigit (c.toNat % 16) ::
        escaped marks lines 0 rest
    else c :: escaped marks lines 0 rest

/-- Write a string. -/
def writeString (s : String) : List Char :=
  let cs := s.toList
  let lead : List Char := if cs.contains '\n' then ['\n'] else []
  match styleOf cs with
  | .basic => '"' :: escaped 0 false 0 cs ++ ['"']
  | .literal => '\'' :: cs ++ ['\'']
  | .basicLines => "\"\"\"".toList ++ lead ++ escaped 2 true 0 cs ++ "\"\"\"".toList
  | .literalLines => "'''".toList ++ lead ++ cs ++ "'''".toList

/-- Write a name: as it is where that is allowed, else between quotation marks. -/
def writeName (s : String) : List Char :=
  let cs := s.toList
  if !cs.isEmpty && cs.all fun c => c.isAlphanum || c = '_' || c = '-' then cs else writeString s

mutual

/-- Write a value on the right of an equals sign. -/
def writeValue : Document → List Char
  | .null => []
  | .bool true => "true".toList
  | .bool false => "false".toList
  | .int n => (toString n).toList
  | .real written => written.toList
  | .text s => writeString s
  | .list [] => "[]".toList
  | .list [item] => '[' :: writeValue item ++ [']']
  | .list items => '[' :: writeItems items ++ "\n]".toList
  | .table fields => '\x7b' :: ' ' :: writePairs fields

/-- Write the items of a list, each on a line of its own. -/
def writeItems : List Document → List Char
  | [] => []
  | item :: rest => "\n    ".toList ++ writeValue item ++ ',' :: writeItems rest

/-- Write the pairs of an inline table and its closing brace. -/
def writePairs : List (String × Document) → List Char
  | [] => ['\x7d']
  | [(name, value)] => writeName name ++ " = ".toList ++ writeValue value ++ " \x7d".toList
  | (name, value) :: rest =>
    writeName name ++ " = ".toList ++ writeValue value ++ ", ".toList ++ writePairs rest

end

/-- Whether a field is written under a header of its own. -/
def isSubTable : Document → Bool
  | .table _ => true
  | _ => false

/-- Write the fields of a table that are no tables, one to a line. -/
def writeFields (fields : List (String × Document)) : List Char :=
  (fields.filter fun field => !isSubTable field.2).flatMap fun (name, value) =>
    writeName name ++ " = ".toList ++ writeValue value ++ ['\n']

mutual

/-- The sections of a table: its own, if it shows anything, and those of its sub-tables. -/
def sections (path : List Char) : Document → List (List Char)
  | .table fields =>
    let own :=
      if fields.isEmpty || fields.any (fun field => !isSubTable field.2) then
        [(if path.isEmpty then [] else '[' :: path ++ "]\n".toList) ++ writeFields fields]
      else []
    own ++ subSections path fields
  | _ => []

/-- The sections of the sub-tables among some fields. -/
def subSections (path : List Char) : List (String × Document) → List (List Char)
  | [] => []
  | (name, value) :: rest =>
    let here := if path.isEmpty then writeName name else path ++ '.' :: writeName name
    sections here value ++ subSections path rest

end

/-- Write a document that is a table. -/
def write (d : Document) : String :=
  String.ofList (List.intercalate ['\n'] (sections [] d))

end Testbed.Toml
