import Hotplug.World.Moves

/-!
# The course of a world

A world goes on by itself: as long as any task has something to do, it does so, and no time
passes.  When nobody has, the clock moves to the next moment at which somebody will.

This file models one runtime for the supervisor, with a virtual clock and a fixed order of its
tasks.

* `World.next?` — the next move.  At one moment timers come first, then the tasks, and
  last the library calls that end.
* `World.nextDue?` — the next moment at which anything happens by itself.
* `World.advance` — lets time pass.
* `World.advanceUntil` — lets time pass until something is the case.
-/

namespace Hotplug.World

variable {L : EventLoop}

/-- The order in which moves are tried. -/
def order : List Move :=
  [.fireTimer, .decide, .takeSignal, .cycle, .eventLoop, .session, .skip, .forwardStop,
    .watchRemoval, .endCall]

/-- The world after the next move, if any task has something to do now. -/
def next? (w : World L) : Option (World L) :=
  order.findSome? w.attempt

/-! ## Moments -/

/-- When the supervisor's own loop goes on by itself. -/
def cycleDue? (w : World L) : Option Nat :=
  match w.cycle with
  | .waiting wait => some wait.due
  | _ => none

/-- When the session or its event loop goes on by itself. -/
def sessionDue? (w : World L) : Option Nat :=
  w.session.bind fun s =>
    match s.stage with
    | .skipping wait => some wait.due
    | .running _ (.asleep wake) => some wake
    | _ => none

/-- When a task beside a session goes on by itself. -/
def childDue? (child : Child) : Option Nat :=
  match child.task with
  | .watchRemoval wait => some wait.due
  | .forwardStop => none

/-- All moments at which something happens by itself. -/
def dues (w : World L) : List Nat :=
  w.coordinator.timers.armed.map (·.deadline) ++ w.cycleDue?.toList ++ w.sessionDue?.toList ++
    w.children.filterMap childDue? ++ w.calls.filterMap (·.ends)

/-- The next moment at which something happens by itself. -/
def nextDue? (w : World L) : Option Nat :=
  (w.dues.filter (w.now < ·)).min?

/-- The world with its clock moved. -/
def atTime (w : World L) (time : Nat) : World L :=
  w.write fun c => { c with now := time }

/-! ## The passing of time -/

/-- One step on the way to a time: a move if there is one, the next moment if there is none,
or nothing if all is done up to then. -/
def advanceStep? (w : World L) (target : Nat) : Option (World L) :=
  match w.next? with
  | some w => some w
  | none => (w.nextDue?.filter (· ≤ target)).map w.atTime

/-- Lets time pass until `target`, in at most so many steps. -/
def advance : Nat → World L → Nat → World L
  | 0, w, _ => w
  | fuel + 1, w, target =>
    match w.advanceStep? target with
    | some w => advance fuel w target
    | none => w.atTime target

/-- Lets time pass until `p` holds at a moment at which nothing is left to do, in at most so
many steps, or until nothing happens by itself any more. -/
def advanceUntil (p : World L → Bool) : Nat → World L → World L
  | 0, w => w
  | fuel + 1, w =>
    match w.next? with
    | some w => advanceUntil p fuel w
    | none =>
      if p w then w
      else
        match w.nextDue? with
        | some time => advanceUntil p fuel (w.atTime time)
        | none => w

end Hotplug.World
