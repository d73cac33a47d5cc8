import Hotplug.Chronicle.Message
import Hotplug.Chronicle.Metrics
import Hotplug.Library.Call
import Hotplug.Session.EventLoop

/-!
# The chronicle of a run

What all parts of the program share: the clock, the record of everything that happened,
and the metrics.

This file models what can be told of the supervisor from outside: its clock, its log, its
metrics, and every call that it makes to the device library and to the event loop.

* `Happening` — one thing that happened.
* `Chronicle` — the clock with the happenings so far and the metrics.
* `Chronicle.release` — releases what stands behind a notification, and says so.

Time is counted in milliseconds.  Happenings are kept newest first.
-/

namespace Hotplug

/-- Something that happened. -/
inductive Happening where
  /-- A message went to the log, perhaps on behalf of a session. -/
  | logged (m : Message) (session : Option SessionId)
  | stateChanged (session : SessionId) (before after : SessionState)
  | managerStarting (options : ManagerOptions)
  | callBegan (k : CallKind)
  | callEnded (k : CallKind) (r : CallResult)
  /-- The loopback library said how many of its notifications were not released. -/
  | outstanding (n : Int)
  | loopStarted (session : SessionId) (device : DeviceId)
  | loopReplied (session : SessionId) (r : Reply)
  | loopEnded (session : SessionId)
  /-- A notification was put into the queue. -/
  | accepted (n : Notification)
  /-- A notification found nobody to take it. -/
  | refused (n : Notification)
  | released (n : Notification)
  /-- Somebody looked whether the device is there. -/
  | checked (isPresent : Bool)
  | signalTaken (s : Signal)
  | stopRaised
  | timerArmed (id : Nat) (t : Termination)
  | timerFired (id : Nat) (t : Termination)
  | terminationPosted (t : Termination)
  | terminated (t : Termination)
  deriving DecidableEq, Repr, Inhabited

/-- The clock, what has happened so far, and the metrics. -/
structure Chronicle where
  now : Nat := 0
  /-- What happened and when, newest first. -/
  happenings : List (Nat × Happening) := []
  metrics : Metrics := {}
  /-- The loopback notifications not yet released.  It is an integer so that releasing
  too many would show. -/
  outstanding : Int := 0
  deriving Repr, Inhabited

namespace Chronicle

/-- Records that something happened now. -/
def record (c : Chronicle) (h : Happening) : Chronicle :=
  { c with happenings := (c.now, h) :: c.happenings }

/-- Records several things in order. -/
def recordAll (c : Chronicle) (hs : List Happening) : Chronicle :=
  hs.foldl record c

/-- Logs a message. -/
def log (c : Chronicle) (m : Message) (session : Option SessionId := none) : Chronicle :=
  c.record (.logged m session)

/-- Changes the metrics. -/
def measure (c : Chronicle) (f : Metrics → Metrics) : Chronicle :=
  { c with metrics := f c.metrics }

/-- Releases what stands behind a notification. -/
def release (c : Chronicle) (n : Notification) : Chronicle :=
  match n.backing with
  | .nothing => c
  | .resource => c.record (.released n)
  | .loopback => { c.record (.released n) with outstanding := c.outstanding - 1 }

/-- Releases notifications in order. -/
def releaseAll (c : Chronicle) (ns : List Notification) : Chronicle :=
  ns.foldl release c

/-- Sets the gauge for the presence of the device. -/
def gauge (c : Chronicle) (isPresent : Bool) : Chronicle :=
  c.measure fun m => { m with devicePresent := some isPresent }

end Chronicle

end Hotplug
