import Hotplug.Device.Presence
import Hotplug.Library.Loopback
import Hotplug.Session.Quit
import Hotplug.Settings.Basic
import Hotplug.Shutdown.Coordinator

/-!
# The world of a supervisor

Everything that takes part in a run: the supervisor with its session, the coordinator,
the device library, the event loop, the notification queue and the files.

This file models the supervisor with its cycle loop, the session controller, and the tasks that
they start: the removal watcher, the stop forwarder, the blocking calls and the abort timers.

* `World` — the state of all of them together.
* `Session` — one attachment of the driver to a present device.
* `CyclePhase` — where the supervisor's own loop stands.
* `Child` — a task that belongs to a session and runs beside it.

A world is either supervised, going from session to session by itself until it is asked to
stop, or attended, where each session is started by hand.
-/

namespace Hotplug

/-! ## Sessions -/

/-- How far the removal of a session's driver has come. -/
inductive Executor where
  /-- Nobody has asked the session to quit. -/
  | listening
  /-- The library removes the driver, under the eyes of a timer. -/
  | removing (timer : TimerId)
  /-- The driver is removed; the event loop has to return before the timer fires. -/
  | removed (timer : TimerId)
  /-- The removal failed; nothing but the timer goes on. -/
  | failed (timer : TimerId)
  deriving DecidableEq, Repr, Inhabited

/-- How far the event loop of a session has come. -/
inductive LoopPhase where
  | active
  | asleep (wake : Nat)
  | returned
  deriving DecidableEq, Repr, Inhabited

/-- What a session is doing. -/
inductive Stage where
  /-- The library adds the driver, under the eyes of a timer. -/
  | activating (timer : TimerId)
  /-- Adding the driver panicked; nothing but the timer goes on. -/
  | stranded (timer : TimerId)
  /-- The driver was refused; the session waits for the device to go away. -/
  | skipping (wait : PresenceWait)
  | running (executor : Executor) (loop : LoopPhase)
  deriving DecidableEq, Repr, Inhabited

namespace Stage

/-- The timer that watches over a stage. -/
def timer? : Stage → Option TimerId
  | activating t | stranded t => some t
  | running (.removing t) _ | running (.removed t) _ | running (.failed t) _ => some t
  | _ => none

end Stage

/-- A session that has begun and not ended. -/
structure Session where
  id : SessionId
  state : SessionState := .inactive
  activatedAt : Option Nat := none
  stage : Stage
  quit : QuitRequest := .fresh
  /-- Whether the event loop has been told that the driver is removed. -/
  isQuitting : Bool := false
  deriving DecidableEq, Repr, Inhabited

/-- The work of a task beside a session. -/
inductive ChildTask where
  /-- Waits for the device to go away and asks the session to quit. -/
  | watchRemoval (wait : PresenceWait)
  /-- Waits for the stop flag and asks the session to quit. -/
  | forwardStop
  deriving DecidableEq, Repr, Inhabited

/-- A task beside a session, with the number of its quit trigger. -/
structure Child where
  session : SessionId
  trigger : Nat
  task : ChildTask
  deriving DecidableEq, Repr, Inhabited

namespace Child

/-- The wait of a removal watcher that is due to look. -/
def dueLook? (now : Nat) (child : Child) : Option (Child × PresenceWait) :=
  match child.task with
  | .watchRemoval wait => if wait.due ≤ now then some (child, wait) else none
  | .forwardStop => none

end Child

/-! ## The library -/

/-- A call that the library is busy with. -/
structure Call where
  kind : CallKind
  /-- When it ends, if ever. -/
  ends : Option Nat
  result : CallResult
  deriving DecidableEq, Repr, Inhabited

namespace Call

/-- Whether a call is over by now. -/
def isOver (now : Nat) (call : Call) : Bool :=
  call.ends.any (· ≤ now)

end Call

/-- Who has the manager. -/
inductive ManagerPlace where
  | held
  /-- It was lent to a call. -/
  | lent
  | gone
  deriving DecidableEq, Repr, Inhabited

/-! ## The supervisor -/

/-- Where the supervisor's own loop stands. -/
inductive CyclePhase where
  /-- The library did not start. -/
  | refused (r : Refusal)
  /-- The next session is started by hand. -/
  | attended
  /-- About to look for the device, or to stop. -/
  | deciding
  | waiting (wait : PresenceWait)
  | inSession
  /-- The library stops its manager. -/
  | stopping
  /-- The loop has come to its end. -/
  | finished
  /-- The run was ended while the loop was under way. -/
  | cancelled
  /-- The event loop panicked. -/
  | panicked
  deriving DecidableEq, Repr, Inhabited

/-- What is fixed about a run. -/
structure Setup where
  settings : Settings := {}
  library : Library := {}
  /-- Whether sessions are started by hand. -/
  isAttended : Bool := false

namespace Setup

/-- The device of the run. -/
def device (s : Setup) : DeviceId :=
  s.settings.deviceId

/-- The interval between two looks for the device. -/
def pollInterval (s : Setup) : Nat :=
  s.settings.device.pollInterval

end Setup

/-- The state of everything that takes part in a run. -/
structure World (L : EventLoop) where
  setup : Setup
  chronicle : Chronicle := {}
  files : FileTree := .scratch
  coordinator : Coordinator
  /-- The queue; its sender 0 is the manager's, its sender 1 reports outside of calls. -/
  queue : Queue := { senders := [true, true] }
  loop : L.State
  /-- The notifications that the event loop holds, the latest first. -/
  held : List Notification := []
  cycle : CyclePhase
  session : Option Session := none
  /-- How many sessions have begun. -/
  sessionCount : Nat := 0
  children : List Child := []
  manager : ManagerPlace := .held
  calls : List Call := []
  /-- How many calls of each kind have begun. -/
  callCount : Tally CallKind := []

namespace World

variable {L : EventLoop}

/-- The time. -/
def now (w : World L) : Nat :=
  w.chronicle.now

/-- The number of the session under way. -/
def sessionId? (w : World L) : Option SessionId :=
  w.session.map (·.id)

/-- How the run ended, if it has. -/
def outcome? (w : World L) : Option (Except Refusal Termination) :=
  match w.cycle with
  | .refused r => some (.error r)
  | _ => w.coordinator.decision?.map .ok

end World

end Hotplug
