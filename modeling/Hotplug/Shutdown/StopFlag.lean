/-!
# The stop flag

One flag tells every part of the program to come to an end.  It is raised once and stays
raised.  Whoever waits for it is woken when it is raised, and also when the coordinator
who could raise it is gone.

This file models the stop flag that the shutdown coordinator of the lifecycle component shows
to everybody with a handle.
-/

namespace Hotplug

/-- The stop flag, and whether somebody who could raise it is still there. -/
structure StopFlag where
  isRaised : Bool := false
  isHeld : Bool := true
  deriving DecidableEq, Repr, Inhabited

namespace StopFlag

/-- Raises the flag; says whether it was down before. -/
def raise (f : StopFlag) : Bool × StopFlag :=
  (!f.isRaised, { f with isRaised := true })

/-- The coordinator gives the flag up. -/
def abandon (f : StopFlag) : StopFlag :=
  { f with isHeld := false }

/-- Whether one who waits for the flag goes on. -/
def isOver (f : StopFlag) : Bool :=
  f.isRaised || !f.isHeld

end StopFlag

end Hotplug
