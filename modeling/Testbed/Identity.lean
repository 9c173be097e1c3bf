import Testbed.Target

/-!
Names of things that a run owns.  An identifier pairs a generated token, which is unique, with a name,
which need not be.  Tokens are drawn from a counter and written with 32 hexadecimal digits, so two
tokens drawn at different counts below 16^32 differ.
-/

namespace Testbed

/-- The token of a count: 32 hexadecimal digits. -/
def token (count : Nat) : String :=
  let digits := Nat.toDigits 16 count
  String.ofList (List.replicate (32 - digits.length) '0' ++ digits)

/-- Names a thing that a run owns on a target. -/
structure Identifier where
  id : String
  name : String
  target : Target
deriving Repr, Inhabited, DecidableEq

namespace Identifier

/-- The document of an identifier. -/
def toDocument (i : Identifier) : Document :=
  .table [("id", .text i.id), ("name", .text i.name), ("target", i.target.toDocument)]

/-- Read an identifier. -/
def ofDocument? : Document → Option Identifier := Document.record? do
  let id ← Record.field "id" Document.text?
  let name ← Record.field "name" Document.text?
  let target ← Record.field "target" Target.ofDocument?
  pure { id, name, target }

end Identifier

end Testbed
