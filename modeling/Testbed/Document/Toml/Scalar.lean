import Testbed.Document
import Testbed.Text.Decimal

/-!
The scalar values of the TOML notation: the four kinds of string, whole numbers in four radices,
numbers with a fraction, truth values, and dates and times.  Every reader takes the text in front of it
and returns the value and what follows.

A date is read as a table with one private field, which is how it is told from a string.
-/

namespace Testbed.Toml

/-- What a reader of a value of type `α` returns: the value and the text after it. -/
abbrev Parsed (α : Type) := Option (α × List Char)

/-- Blanks inside a line. -/
def isInlineSpace (c : Char) : Bool := c = ' ' || c = '\t'

/-- Drop blanks inside a line. -/
def skipInline (cs : List Char) : List Char := cs.dropWhile isInlineSpace

/-- Drop one line end. -/
def newline? : List Char → Option (List Char)
  | '\n' :: rest => some rest
  | '\r' :: '\n' :: rest => some rest
  | _ => none

/-- Whether a character may stand in a comment or a string as itself: a tab or anything but a control
character. -/
def isPlain (c : Char) : Bool := c = '\t' || (0x20 ≤ c.toNat && c.toNat ≠ 0x7F)

/-- Drop a comment, up to the line end. -/
def skipComment : List Char → List Char
  | '#' :: rest => rest.dropWhile isPlain
  | cs => cs

/-- Drop blanks, line ends and comments.  `fuel` bounds the number of lines. -/
def skipLines : Nat → List Char → List Char
  | 0, cs => cs
  | fuel + 1, cs =>
    let rest := skipComment (skipInline cs)
    match newline? rest with
    | some rest => skipLines fuel rest
    | none => rest

/-- The value of a hexadecimal digit. -/
def hexValue? (c : Char) : Option Nat :=
  if c.isDigit then some (c.toNat - 48)
  else if 'a' ≤ c && c ≤ 'f' then some (c.toNat - 87)
  else if 'A' ≤ c && c ≤ 'F' then some (c.toNat - 55)
  else none

/-- Read a character given by `count` hexadecimal digits of its code point. -/
def codePoint? (count : Nat) (cs : List Char) : Parsed Char :=
  match (cs.take count).mapM hexValue? with
  | none => none
  | some ds =>
    if ds.length ≠ count then none
    else
      let n := ds.foldl (fun n d => n * 16 + d) 0
      if n.isValidChar then some (Char.ofNat n, cs.drop count) else none

/-- Read what follows a backslash. -/
def escape? : List Char → Parsed Char
  | 'b' :: rest => some ('\x08', rest)
  | 't' :: rest => some ('\t', rest)
  | 'n' :: rest => some ('\n', rest)
  | 'f' :: rest => some ('\x0c', rest)
  | 'r' :: rest => some ('\r', rest)
  | '"' :: rest => some ('"', rest)
  | '\\' :: rest => some ('\\', rest)
  | 'u' :: rest => codePoint? 4 rest
  | 'U' :: rest => codePoint? 8 rest
  | _ => none

/-- Read the rest of a one-line string with escapes. -/
def basic? : Nat → List Char → List Char → Parsed String
  | 0, _, _ => none
  | _ + 1, done, '"' :: rest => some (String.ofList done.reverse, rest)
  | fuel + 1, done, '\\' :: rest =>
    match escape? rest with
    | some (c, rest) => basic? fuel (c :: done) rest
    | none => none
  | fuel + 1, done, c :: rest => if isPlain c then basic? fuel (c :: done) rest else none
  | _ + 1, _, [] => none

/-- Read the rest of a one-line string without escapes. -/
def literal? (cs : List Char) : Parsed String :=
  let body := cs.takeWhile fun c => isPlain c && c ≠ '\''
  match cs.drop body.length with
  | '\'' :: rest => some (String.ofList body, rest)
  | _ => none

/-- Three quotation marks of a kind. -/
def triple (mark : Char) : List Char := [mark, mark, mark]

/-- At the end of a string over several lines up to two more quotation marks belong to the string.
Given the text from the first of a run of at least three marks, returns the marks of the string and
what follows the closing three. -/
def closing (mark : Char) (cs : List Char) : List Char × List Char :=
  let run := (cs.takeWhile (· = mark)).take 5
  (run.drop 3, cs.drop run.length)

/-- After a backslash at the end of a line, drop the line end and all blanks and line ends after it. -/
def continuation? (cs : List Char) : Option (List Char) :=
  match newline? (skipInline cs) with
  | some rest => some (rest.dropWhile fun c => isInlineSpace c || c = '\n' || c = '\r')
  | none => none

/-- Read the rest of a string with escapes over several lines. -/
def basicLines? : Nat → List Char → List Char → Parsed String
  | 0, _, _ => none
  | fuel + 1, done, cs =>
    if (triple '"').isPrefixOf cs then
      let (marks, rest) := closing '"' cs
      some (String.ofList (done.reverse ++ marks), rest)
    else
      match newline? cs with
      | some rest => basicLines? fuel ('\n' :: done) rest
      | none =>
        match cs with
        | '\\' :: rest =>
          match continuation? rest with
          | some rest => basicLines? fuel done rest
          | none =>
            match escape? rest with
            | some (c, rest) => basicLines? fuel (c :: done) rest
            | none => none
        | c :: rest => if isPlain c then basicLines? fuel (c :: done) rest else none
        | [] => none

/-- Read the rest of a string without escapes over several lines. -/
def literalLines? : Nat → List Char → List Char → Parsed String
  | 0, _, _ => none
  | fuel + 1, done, cs =>
    if (triple '\'').isPrefixOf cs then
      let (marks, rest) := closing '\'' cs
      some (String.ofList (done.reverse ++ marks), rest)
    else
      match newline? cs with
      | some rest => literalLines? fuel ('\n' :: done) rest
      | none =>
        match cs with
        | c :: rest => if isPlain c then literalLines? fuel (c :: done) rest else none
        | [] => none

/-- Drop one line end, if there is one: a line end right after the opening marks is not part of a
string. -/
def dropNewline (cs : List Char) : List Char := (newline? cs).getD cs

/-- Read a string of any kind, from its opening mark. -/
def string? (cs : List Char) : Parsed String :=
  let fuel := cs.length + 1
  match cs with
  | '"' :: '"' :: '"' :: rest => basicLines? fuel [] (dropNewline rest)
  | '"' :: rest => basic? fuel [] rest
  | '\'' :: '\'' :: '\'' :: rest => literalLines? fuel [] (dropNewline rest)
  | '\'' :: rest => literal? rest
  | _ => none

/-- Read digits with single underscores between them. -/
def digitRun? (isDigit : Char → Bool) (cs : List Char) : Option (List Char) :=
  let rec go : Bool → List Char → Option (List Char)
    | afterDigit, [] => if afterDigit then some [] else none
    | afterDigit, c :: rest =>
      if isDigit c then (go true rest).map (c :: ·)
      else if c = '_' && afterDigit then go false rest
      else none
  go false cs

/-- The value of digits in a radix. -/
def digitsValue (radix : Nat) (ds : List Char) : Nat :=
  ds.foldl (fun n c => n * radix + (hexValue? c).getD 0) 0

/-- The number of a sign and a magnitude, when a signed 64-bit word holds it. -/
def bounded? (negative : Bool) (magnitude : Nat) : Option Document :=
  let n : Int := if negative then -(magnitude : Int) else magnitude
  if Text.fitsInt64 n then some (.int n) else none

/-- Split off a sign. -/
def sign : List Char → Bool × List Char
  | '+' :: rest => (false, rest)
  | '-' :: rest => (true, rest)
  | cs => (false, cs)

/-- A whole number in decimal digits: no leading zero, except for zero itself. -/
def decimal? (cs : List Char) : Option (List Char) :=
  match digitRun? Char.isDigit cs with
  | some ds => if ds.length > 1 && cs.head? == some '0' then none else some ds
  | none => none

/-- A whole number, as a complete token. -/
def integer? (token : List Char) : Option Document :=
  let radix (isDigit : Char → Bool) (base : Nat) (digits : List Char) : Option Document :=
    match digitRun? isDigit digits with
    | some ds => bounded? false (digitsValue base ds)
    | none => none
  match token with
  | '0' :: 'x' :: digits => radix (fun c => (hexValue? c).isSome) 16 digits
  | '0' :: 'o' :: digits => radix (fun c => '0' ≤ c && c ≤ '7') 8 digits
  | '0' :: 'b' :: digits => radix (fun c => c = '0' || c = '1') 2 digits
  | _ =>
    let (negative, digits) := sign token
    match decimal? digits with
    | some ds => bounded? negative (digitsValue 10 ds)
    | none => none

/-- A number with a fraction or an exponent, or one of the names for no finite number. -/
def real? (token : List Char) : Option Document :=
  let body := (sign token).2
  let value := Document.real (String.ofList token)
  if body = "inf".toList || body = "nan".toList then some value
  else
    let isExponent (c : Char) := c = 'e' || c = 'E'
    let mantissa := body.takeWhile fun c => !isExponent c
    let exponent := body.drop mantissa.length
    let whole := mantissa.takeWhile (· ≠ '.')
    let fraction := mantissa.drop whole.length
    let hasFraction := !fraction.isEmpty
    let hasExponent := !exponent.isEmpty
    let wholeOk := (decimal? whole).isSome
    let fractionOk := !hasFraction || (digitRun? Char.isDigit (fraction.drop 1)).isSome
    let exponentOk := !hasExponent || (digitRun? Char.isDigit (sign (exponent.drop 1)).2).isSome
    if (hasFraction || hasExponent) && wholeOk && fractionOk && exponentOk then some value else none

/-- Read a number of exactly `count` digits in a range. -/
def fixed? (count low high : Nat) (cs : List Char) : Parsed Nat :=
  let ds := cs.take count
  if ds.length = count && ds.all Char.isDigit then
    let n := digitsValue 10 ds
    if low ≤ n && n ≤ high then some (n, cs.drop count) else none
  else none

/-- Read a given character. -/
def expect? (c : Char) : List Char → Option (List Char)
  | d :: rest => if d = c then some rest else none
  | [] => none

/-- Days in a month. -/
def daysIn (year month : Nat) : Nat :=
  if month = 2 then
    if year % 4 = 0 && (year % 100 ≠ 0 || year % 400 = 0) then 29 else 28
  else if month = 4 || month = 6 || month = 9 || month = 11 then 30
  else 31

/-- Read a date. -/
def date? (cs : List Char) : Option (List Char) := do
  let (year, cs) ← fixed? 4 0 9999 cs
  let (month, cs) ← fixed? 2 1 12 (← expect? '-' cs)
  let (_, cs) ← fixed? 2 1 (daysIn year month) (← expect? '-' cs)
  pure cs

/-- Read a time of day.  A minute may have a sixty-first second. -/
def time? (cs : List Char) : Option (List Char) := do
  let (_, cs) ← fixed? 2 0 23 cs
  let (_, cs) ← fixed? 2 0 59 (← expect? ':' cs)
  let (_, cs) ← fixed? 2 0 60 (← expect? ':' cs)
  match cs with
  | '.' :: rest =>
    let ds := rest.takeWhile Char.isDigit
    if ds.isEmpty then none else pure (rest.drop ds.length)
  | _ => pure cs

/-- Read the offset of a time, if there is one. -/
def offset (cs : List Char) : List Char :=
  match cs with
  | 'Z' :: rest => rest
  | 'z' :: rest => rest
  | c :: rest =>
    if c = '+' || c = '-' then
      let read : Option (List Char) := do
        let (_, cs) ← fixed? 2 0 23 rest
        let (_, cs) ← fixed? 2 0 59 (← expect? ':' cs)
        pure cs
      read.getD cs
    else cs
  | [] => []

/-- Read a date, a time, or both. -/
def moment? (cs : List Char) : Option (List Char) :=
  match date? cs with
  | some rest =>
    let timed := match rest with
      | c :: body => if c = 'T' || c = 't' || c = ' ' then (time? body).map offset else none
      | [] => none
    some (timed.getD rest)
  | none => time? cs

/-- The field that marks a date. -/
def momentField : String := "$__toml_private_datetime"

/-- Whether a character may be part of a number. -/
def isNumberChar (c : Char) : Bool :=
  c.isAlphanum || c = '_' || c = '+' || c = '-' || c = '.'

/-- Read a truth value, a number or a date. -/
def plain? (cs : List Char) : Parsed Document :=
  match moment? cs with
  | some rest =>
    let written := String.ofList (cs.take (cs.length - rest.length))
    some (.table [(momentField, .text written)], rest)
  | none =>
    let token := cs.takeWhile isNumberChar
    let rest := cs.drop token.length
    if token = "true".toList then some (.bool true, rest)
    else if token = "false".toList then some (.bool false, rest)
    else
      match integer? token with
      | some d => some (d, rest)
      | none => (real? token).map (·, rest)

end Testbed.Toml
