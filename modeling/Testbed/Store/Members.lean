import Testbed.Table

/-!
Sets of texts, as the store keeps them.  A set is a table without values, so its members are listed in
ascending order and none of them twice.  Adding and removing several members counts how many of them made
a difference; a member that is named twice counts once.
-/

namespace Testbed

/-- A finite set of texts. -/
abbrev Members := Table Unit

namespace Members

/-- The members in ascending order. -/
def toList (s : Members) : List String := s.keys

/-- Add members one after the other; also how many of them were new. -/
def addAll (s : Members) : List String → Nat × Members
  | [] => (0, s)
  | m :: rest =>
    let (added, after) := addAll (s.insert m ()) rest
    (if s.contains m then added else added + 1, after)

/-- Remove members one after the other; also how many of them were there. -/
def removeAll (s : Members) : List String → Nat × Members
  | [] => (0, s)
  | m :: rest =>
    let (removed, after) := removeAll (s.erase m) rest
    (if s.contains m then removed + 1 else removed, after)

end Members

end Testbed
