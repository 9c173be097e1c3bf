import Testbed.Table

/-!
Counters by name.  Taking from several counters is all or nothing: the amounts are taken one after the
other, each from what the earlier ones left, and the first counter that holds too little undoes the whole.

A counter is 64 bits wide.  Of a sum or a difference that does not fit, the lowest bits are kept, and they are
read with a sign.
-/

namespace Testbed

/-- Counters by name. -/
abbrev Counters := Table Int64

namespace Counters

/-- What a counter holds, if it exists. -/
def value? (c : Counters) (key : String) : Option Int := (c.get? key).map Int64.toInt

/-- What a counter holds; one that does not exist holds nothing. -/
def holding (c : Counters) (key : String) : Int := (c.value? key).getD 0

/-- Have a counter hold a number, or what 64 bits keep of it. -/
def put (c : Counters) (key : String) (value : Int) : Counters := c.insert key (Int64.ofInt value)

/-- Take amounts one after the other.  If a counter holds less than is asked of it, the position of that
request, counted from `index`. -/
def takeFrom (c : Counters) (index : Nat) : List (String × Int) → Except Nat Counters
  | [] => .ok c
  | (key, amount) :: rest =>
    if c.holding key < amount then .error index
    else takeFrom (c.put key (c.holding key - amount)) (index + 1) rest

/-- Take every amount, or none and say which request is the first that cannot be met. -/
def take (c : Counters) (requests : List (String × Int)) : Except Nat Counters :=
  c.takeFrom 0 requests

/-- Add every amount; a counter that does not exist begins at zero. -/
def giveBack (c : Counters) : List (String × Int) → Counters
  | [] => c
  | (key, amount) :: rest => giveBack (c.put key (c.holding key + amount)) rest

end Counters

end Testbed
