import Testbed.Document
import Testbed.Text.Decimal

/-!
The JSON notation of documents.  `Json.read?` accepts one document surrounded by white space and
refuses everything else, including containers nested more than `maxDepth` deep.  `Json.write` produces
the compact form: no white space, and only the escapes that the notation requires.  `Json.writeIndented`
gives every item and every field a line.
-/

namespace Testbed.Json

/-- White space between tokens. -/
def isSpace (c : Char) : Bool := c = ' ' || c = '\n' || c = '\t' || c = '\r'

/-- Drop leading white space. -/
def skipSpace (cs : List Char) : List Char := cs.dropWhile isSpace

/-- How many containers may enclose a value. -/
def maxDepth : Nat := 127

/-- The value of a hexadecimal digit. -/
def hexValue? (c : Char) : Option Nat :=
  if c.isDigit then some (c.toNat - 48)
  else if 'a' ≤ c && c ≤ 'f' then some (c.toNat - 87)
  else if 'A' ≤ c && c ≤ 'F' then some (c.toNat - 55)
  else none

/-- Read four hexadecimal digits. -/
def unit? : List Char → Option (Nat × List Char)
  | a :: b :: c :: d :: rest =>
    match hexValue? a, hexValue? b, hexValue? c, hexValue? d with
    | some a, some b, some c, some d => some (((a * 16 + b) * 16 + c) * 16 + d, rest)
    | _, _, _, _ => none
  | _ => none

/-- Read what follows the letter of a numeric escape: one code unit, or the two halves of a character
beyond the basic plane.  Half a character alone is refused. -/
def escapedChar? (cs : List Char) : Option (Char × List Char) :=
  match unit? cs with
  | none => none
  | some (high, rest) =>
    if 0xDC00 ≤ high && high ≤ 0xDFFF then none
    else if 0xD800 ≤ high && high ≤ 0xDBFF then
      match rest with
      | '\\' :: 'u' :: rest =>
        match unit? rest with
        | some (low, rest) =>
          if 0xDC00 ≤ low && low ≤ 0xDFFF then
            some (Char.ofNat (0x10000 + (high - 0xD800) * 0x400 + (low - 0xDC00)), rest)
          else none
        | none => none
      | _ => none
    else some (Char.ofNat high, rest)

/-- The character that a one-letter escape stands for. -/
def shortEscape? : Char → Option Char
  | '"' => some '"'
  | '\\' => some '\\'
  | '/' => some '/'
  | 'b' => some '\x08'
  | 'f' => some '\x0c'
  | 'n' => some '\n'
  | 'r' => some '\r'
  | 't' => some '\t'
  | _ => none

/-- Read the rest of a string after its opening quotation mark.  Control characters must be
escaped. -/
def string? : Nat → List Char → List Char → Option (String × List Char)
  | 0, _, _ => none
  | _ + 1, _, [] => none
  | _ + 1, done, '"' :: rest => some (String.ofList done.reverse, rest)
  | fuel + 1, done, '\\' :: 'u' :: rest =>
    match escapedChar? rest with
    | some (c, rest) => string? fuel (c :: done) rest
    | none => none
  | fuel + 1, done, '\\' :: c :: rest =>
    match shortEscape? c with
    | some c => string? fuel (c :: done) rest
    | none => none
  | fuel + 1, done, c :: rest =>
    if c = '\\' || c.toNat < 0x20 then none else string? fuel (c :: done) rest

/-- The run of digits at the front. -/
def digits (cs : List Char) : List Char × List Char := (cs.takeWhile Char.isDigit, cs.dropWhile Char.isDigit)

/-- Read a number.  A whole number that fits a 64-bit word, signed or unsigned, is an integer; any
other number, and minus zero, is kept as written. -/
def number? (cs : List Char) : Option (Document × List Char) :=
  let (sign, body) := match cs with
    | '-' :: rest => (['-'], rest)
    | _ => ([], cs)
  let (whole, rest) := digits body
  if whole.isEmpty || (whole.length > 1 && whole.head? == some '0') then none
  else
    let fraction? : Option (List Char × List Char) := match rest with
      | '.' :: rest =>
        let (ds, rest) := digits rest
        if ds.isEmpty then none else some ('.' :: ds, rest)
      | _ => some ([], rest)
    match fraction? with
    | none => none
    | some (fraction, rest) =>
      let exponent? : Option (List Char × List Char) := match rest with
        | e :: rest =>
          if e = 'e' || e = 'E' then
            let (mark, rest) := match rest with
              | '+' :: rest => (['+'], rest)
              | '-' :: rest => (['-'], rest)
              | _ => ([], rest)
            let (ds, rest) := digits rest
            if ds.isEmpty then none else some (e :: mark ++ ds, rest)
          else some ([], e :: rest)
        | [] => some ([], [])
      match exponent? with
      | none => none
      | some (exponent, rest) =>
        let magnitude : Nat := whole.foldl (fun n c => n * 10 + (c.toNat - 48)) 0
        let value : Int := if sign.isEmpty then magnitude else -(magnitude : Int)
        let isWhole := fraction.isEmpty && exponent.isEmpty &&
          (if sign.isEmpty then magnitude < UInt64.size else magnitude ≠ 0 && Text.fitsInt64 value)
        if isWhole then some (.int value, rest)
        else some (.real (String.ofList (sign ++ whole ++ fraction ++ exponent)), rest)

/-- Read a fixed word. -/
def word? (word : List Char) (value : Document) (cs : List Char) : Option (Document × List Char) :=
  if word.isPrefixOf cs then some (value, cs.drop word.length) else none

/-- Read the items of a list after the first one has been announced, up to the closing bracket. -/
def items? (item : List Char → Option (Document × List Char)) :
    Nat → List Document → List Char → Option (Document × List Char)
  | 0, _, _ => none
  | fuel + 1, done, cs =>
    match item cs with
    | none => none
    | some (value, rest) =>
      match skipSpace rest with
      | ',' :: rest => items? item fuel (value :: done) rest
      | ']' :: rest => some (.list (value :: done).reverse, rest)
      | _ => none

/-- Read the fields of a table after the first one has been announced, up to the closing brace. -/
def fields? (item : List Char → Option (Document × List Char)) :
    Nat → List (String × Document) → List Char → Option (Document × List Char)
  | 0, _, _ => none
  | fuel + 1, done, cs =>
    match skipSpace cs with
    | '"' :: rest =>
      match string? (rest.length + 1) [] rest with
      | none => none
      | some (name, rest) =>
        match skipSpace rest with
        | ':' :: rest =>
          match item rest with
          | none => none
          | some (value, rest) =>
            match skipSpace rest with
            | ',' :: rest => fields? item fuel ((name, value) :: done) rest
            | '\x7d' :: rest => some (.table ((name, value) :: done).reverse, rest)
            | _ => none
        | _ => none
    | _ => none

/-- Read one value inside at most `depth` further containers. -/
def value? : Nat → List Char → Option (Document × List Char)
  | depth, cs =>
    match skipSpace cs with
    | '"' :: rest => (string? (rest.length + 1) [] rest).map fun (s, rest) => (.text s, rest)
    | 'n' :: rest => word? "ull".toList .null rest
    | 't' :: rest => word? "rue".toList (.bool true) rest
    | 'f' :: rest => word? "alse".toList (.bool false) rest
    | '[' :: rest =>
      match depth with
      | 0 => none
      | depth + 1 =>
        match skipSpace rest with
        | ']' :: rest => some (.list [], rest)
        | _ => items? (value? depth) (rest.length + 1) [] rest
    | '\x7b' :: rest =>
      match depth with
      | 0 => none
      | depth + 1 =>
        match skipSpace rest with
        | '\x7d' :: rest => some (.table [], rest)
        | _ => fields? (value? depth) (rest.length + 1) [] rest
    | cs => number? cs

/-- Read one document; nothing but white space may follow it. -/
def read? (s : String) : Option Document :=
  match value? maxDepth s.toList with
  | some (d, rest) => if (skipSpace rest).isEmpty then some d else none
  | none => none

/-- A hexadecimal digit, in lower case. -/
def hexDigit (n : Nat) : Char := Char.ofNat (if n < 10 then 48 + n else 87 + n)

/-- The written form of a character inside a string. -/
def escapeChar (c : Char) : List Char :=
  if c = '"' then ['\\', '"']
  else if c = '\\' then ['\\', '\\']
  else if c = '\n' then ['\\', 'n']
  else if c = '\t' then ['\\', 't']
  else if c = '\r' then ['\\', 'r']
  else if c = '\x08' then ['\\', 'b']
  else if c = '\x0c' then ['\\', 'f']
  else if c.toNat < 0x20 then ['\\', 'u', '0', '0', hexDigit (c.toNat / 16), hexDigit (c.toNat % 16)]
  else [c]

/-- The written form of a string. -/
def writeString (s : String) : List Char := '"' :: s.toList.flatMap escapeChar ++ ['"']

mutual

/-- The characters of the compact form. -/
def chars : Document → List Char
  | .null => "null".toList
  | .bool true => "true".toList
  | .bool false => "false".toList
  | .int n => (toString n).toList
  | .real written => written.toList
  | .text s => writeString s
  | .list items => '[' :: itemChars items
  | .table fields => '\x7b' :: fieldChars fields

/-- The items of a list and its closing bracket. -/
def itemChars : List Document → List Char
  | [] => [']']
  | [item] => chars item ++ [']']
  | item :: rest => chars item ++ ',' :: itemChars rest

/-- The fields of a table and its closing brace. -/
def fieldChars : List (String × Document) → List Char
  | [] => ['\x7d']
  | [(name, value)] => writeString name ++ ':' :: chars value ++ ['\x7d']
  | (name, value) :: rest => writeString name ++ ':' :: chars value ++ ',' :: fieldChars rest

end

/-- The compact form of a document. -/
def write (d : Document) : String := String.ofList (chars d)

/-- The beginning of a line at a depth. -/
def newLine (depth : Nat) : List Char := '\n' :: List.replicate (2 * depth) ' '

mutual

/-- The characters of the indented form of a value that lies at a depth. -/
def indented (depth : Nat) : Document → List Char
  | .list items => '[' :: indentedItems depth items
  | .table fields => '\x7b' :: indentedFields depth fields
  | other => chars other

/-- The items of a list, each on a line of its own, and its closing bracket. -/
def indentedItems (depth : Nat) : List Document → List Char
  | [] => [']']
  | [item] => newLine (depth + 1) ++ indented (depth + 1) item ++ newLine depth ++ [']']
  | item :: rest =>
    newLine (depth + 1) ++ indented (depth + 1) item ++ ',' :: indentedItems depth rest

/-- The fields of a table, each on a line of its own, and its closing brace. -/
def indentedFields (depth : Nat) : List (String × Document) → List Char
  | [] => ['\x7d']
  | [(name, value)] =>
    newLine (depth + 1) ++ writeString name ++ ':' :: ' ' :: indented (depth + 1) value ++
      newLine depth ++ ['\x7d']
  | (name, value) :: rest =>
    newLine (depth + 1) ++ writeString name ++ ':' :: ' ' :: indented (depth + 1) value ++
      ',' :: indentedFields depth rest

end

/-- The form of a document that people read: a line for every item and every field. -/
def writeIndented (d : Document) : String := String.ofList (indented 0 d)

end Testbed.Json
