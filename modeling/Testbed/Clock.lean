import Testbed.Duration

/-!
Time.  Pauses are measured on a timer, and stamps are read off the wall clock; both count milliseconds.
On a machine the two run together.  Where a run is simulated, the wall clock may stand still while the
timer jumps from pause to pause.

A `Signal` tells a wait to give up.  It fires once, at an instant of the timer, or never.
-/

namespace Testbed

/-- The time. -/
structure Clock where
  timer : Nat
  wall : Nat
  /-- Whether the wall clock runs along with the timer. -/
  together : Bool
deriving Repr, Inhabited, DecidableEq

namespace Clock

/-- The time after a pause. -/
def pause (c : Clock) (ms : Nat) : Clock :=
  { c with timer := c.timer + ms, wall := if c.together then c.wall + ms else c.wall }

/-- The time at an instant of the timer, or now if that instant is over. -/
def advanceTo (c : Clock) (instant : Nat) : Clock := c.pause (instant - c.timer)

/-- So many rounds of a wait count as a millisecond of it, however little time they took.  This ends every
wait, even where the wall clock stands still. -/
def roundsPerMs : Nat := 16

/-- How long a wait has lasted that began at an instant of the wall clock and has gone so many rounds. -/
def waited (c : Clock) (startedAt rounds : Nat) : Duration :=
  ⟨max (c.wall - startedAt) (rounds / roundsPerMs)⟩

end Clock

/-- Tells a wait to give up. -/
structure Signal where
  /-- The instant of the timer at which it fires, if ever. -/
  firesAt : Option Nat
deriving Repr, Inhabited, DecidableEq

namespace Signal

/-- A signal that never fires. -/
def never : Signal := ⟨none⟩

/-- A signal that has fired. -/
def fired : Signal := ⟨some 0⟩

/-- A signal that fires in a while. -/
def after (c : Clock) (ms : Nat) : Signal := ⟨some (c.timer + ms)⟩

/-- The instant at which a wait that would last until `instant` is given up, if it is. -/
def interrupts (s : Signal) (instant : Nat) : Option Nat := s.firesAt.filter (· ≤ instant)

/-- Whether the signal has fired. -/
def hasFired (s : Signal) (c : Clock) : Bool := (s.interrupts c.timer).isSome

end Signal

end Testbed
