import Hotplug.World.Requests
import Hotplug.World.Schedule

/-!
# What can happen in a world

A supervised run from its start on, one thing after the other, in whatever order the tasks
get their turns and whatever the surroundings do meanwhile.

This file models the supervisor on a runtime that may run its tasks in any order.

* `Occurrence` — one thing that can happen: a task makes a move, time passes, or somebody
  outside does something.
* `World.occur` — what becomes of the world.  What cannot happen leaves it as it is.
* `Supervision` — everything that a supervised run is given at its start.
* `Supervision.after` — the world after a list of occurrences.

Moves are made in any order, also at one moment.  Time passes only when nobody has anything left
to do, and never beyond the next moment at which somebody will.
-/

namespace Hotplug

/-- One thing that can happen in a world. -/
inductive Occurrence where
  /-- One of the tasks goes a step, or a call of the library ends. -/
  | move (m : Move)
  /-- Time passes until then. -/
  | pass (time : Nat)
  | signal (s : Signal)
  /-- Nobody sends signals any more. -/
  | closeSignals
  /-- The library reports events outside of its calls. -/
  | notify (ns : List Notification)
  /-- The library reports no more events outside of its calls. -/
  | detach
  /-- The files change, and the device may come or go with them. -/
  | files (t : FileTree)
  deriving DecidableEq, Inhabited

namespace World

variable {L : EventLoop}

/-- Whether time can pass until `time` with nothing happening on the way. -/
def mayPass (w : World L) (time : Nat) : Bool :=
  w.next?.isNone && decide (w.now ≤ time) && w.nextDue?.all (time ≤ ·)

/-- The world after something has happened in it. -/
def occur (w : World L) : Occurrence → World L
  | .move m => (w.attempt m).getD w
  | .pass time => if w.mayPass time then w.atTime time else w
  | .signal s => (w.signal [s]).2
  | .closeSignals => w.closeSignals.2
  | .notify ns => (w.notify ns).2
  | .detach => w.detach.2
  | .files t => { w with files := t }

/-- The world after several things have happened in it. -/
def follow (w : World L) (os : List Occurrence) : World L :=
  os.foldl occur w

@[simp] theorem follow_nil (w : World L) : w.follow [] = w := rfl

theorem follow_append (w : World L) (os ps : List Occurrence) :
    w.follow (os ++ ps) = (w.follow os).follow ps :=
  List.foldl_append

theorem follow_concat (w : World L) (os : List Occurrence) (o : Occurrence) :
    w.follow (os ++ [o]) = (w.follow os).occur o := by
  rw [follow_append]
  rfl

end World

/-! ## Supervised runs -/

/-- Everything that a supervised run is given at its start. -/
structure Supervision (L : EventLoop) where
  settings : Settings := {}
  library : Library := {}
  loop : L.State
  files : FileTree := .scratch
  signalCapacity : Nat := 2

namespace Supervision

variable {L : EventLoop}

/-- What is fixed about the run. -/
def setup (s : Supervision L) : Setup :=
  { settings := s.settings, library := s.library }

/-- Why the library gives out no manager, if it does not. -/
def refusal? (s : Supervision L) : Option Refusal :=
  let options := s.settings.managerOptions
  (s.library.start (Chronicle.record {} (.managerStarting options)) options).1

/-- The world at the start of the run. -/
def start (s : Supervision L) : World L :=
  World.launch s.setup s.loop s.files s.signalCapacity

/-- The world after several things have happened in the run. -/
def after (s : Supervision L) (os : List Occurrence) : World L :=
  s.start.follow os

@[simp] theorem after_nil (s : Supervision L) : s.after [] = s.start := rfl

theorem after_concat (s : Supervision L) (os : List Occurrence) (o : Occurrence) :
    s.after (os ++ [o]) = (s.after os).occur o :=
  World.follow_concat _ _ _

end Supervision

end Hotplug
