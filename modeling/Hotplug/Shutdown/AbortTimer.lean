import Hotplug.Chronicle.Basic

/-!
# Abort timers

A timer stands beside something that may hang.  If its deadline comes before it is
cancelled, it asks for a termination, and that cannot be taken back.

This file models the abort timers of the lifecycle component, which stand beside every blocking
call to the library and beside the whole shutdown.

* `Timers.arm` — a new timer.
* `Timers.cancel`, `Timers.drop` — disarm a timer, with or without a word about it.
* `Timers.due?` — the timer that fires next.
-/

namespace Hotplug

/-- The number of a timer. -/
abbrev TimerId := Nat

/-- A timer that may still fire. -/
structure AbortTimer where
  id : TimerId
  deadline : Nat
  /-- How long after it was armed the timer fires. -/
  delay : Nat
  termination : Termination
  deriving DecidableEq, Repr, Inhabited

/-- The timers of a run: those that are armed, and those that have fired. -/
structure Timers where
  made : Nat := 0
  armed : List AbortTimer := []
  fired : List TimerId := []
  deriving DecidableEq, Repr, Inhabited

namespace Timers

/-- Arms a timer; gives its number. -/
def arm (ts : Timers) (c : Chronicle) (delay : Nat) (t : Termination) :
    TimerId × Timers × Chronicle :=
  (ts.made,
    { ts with made := ts.made + 1, armed := ts.armed ++ [⟨ts.made, c.now + delay, delay, t⟩] },
    c.record (.timerArmed ts.made t))

/-- Disarms a timer if it has not fired. -/
def drop (ts : Timers) (id : TimerId) : Timers :=
  { ts with armed := ts.armed.filter (·.id ≠ id) }

/-- Disarms a timer and says so. -/
def cancel (ts : Timers) (c : Chronicle) (id : TimerId) (t : Termination)
    (session : Option SessionId := none) : Timers × Chronicle :=
  (ts.drop id, c.log (.timerCancelled t) session)

/-- Whether a timer has fired. -/
def hasFired (ts : Timers) (id : TimerId) : Bool :=
  ts.fired.contains id

/-- The first armed timer whose deadline has come. -/
def due? (ts : Timers) (now : Nat) : Option AbortTimer :=
  ts.armed.find? (·.deadline ≤ now)

/-- The earliest deadline of an armed timer. -/
def nextDeadline? (ts : Timers) : Option Nat :=
  (ts.armed.map (·.deadline)).min?

/-- A timer fires: it says so, is counted, and is armed no more. -/
def fire (ts : Timers) (c : Chronicle) (t : AbortTimer) : Timers × Chronicle :=
  ({ ts.drop t.id with fired := t.id :: ts.fired },
    ((c.log (.timerFired t.termination t.delay)).record
      (.timerFired t.id t.termination)).measure fun m =>
        { m with aborts := Tally.bump t.termination m.aborts })

end Timers

end Hotplug
