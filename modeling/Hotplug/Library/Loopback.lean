import Hotplug.Notification.Queue

/-!
# The loopback library

A device library without a device.  Adding a driver reports that the driver is ready and
that its controller node is there; removing it reports the removal.  It counts the
notifications that it has given out and that were not yet released.

This file models the loopback library of the manager component, which stands in for a native
one.

* `Loopback.start` — starts its manager, unless an option has no name.
* `Library.start` — starts the manager of any library.
* `Loopback.add`, `Loopback.remove`, `Loopback.stop` — the calls of the manager.
* `LoopbackRun` — a manager together with a consumer of its notifications.
-/

namespace Hotplug

namespace Loopback

/-- The node of the controller. -/
def controllerNode : UInt8 := 1

/-- Applies options in order and stops at the first that has no name. -/
def applyOptions (c : Chronicle) : List (String × OptionValue) → Option Refusal × Chronicle
  | [] => (none, c)
  | (name, value) :: rest =>
    if name.isEmpty then (some (.invalidOption name "empty name"), c)
    else applyOptions (c.log (.optionApplied name value)) rest

/-- Starts the manager. -/
def start (c : Chronicle) (o : ManagerOptions) : Option Refusal × Chronicle :=
  match applyOptions c o.values.entries with
  | (some r, c) => (some r, c)
  | (none, c) => (none, c.log (.loopbackStarted o))

/-- Reports an event; it counts as outstanding until it is released. -/
def report (homeId : UInt32) (q : Queue) (c : Chronicle) (k : EventKind) : Queue × Chronicle :=
  let n : Notification := ⟨⟨k, 0, homeId, controllerNode, 0, 0⟩, .loopback⟩
  (q.deliver { c with outstanding := c.outstanding + 1 } n).2

/-- Adds the driver. -/
def add (homeId : UInt32) (d : DeviceId) (q : Queue) (c : Chronicle) : Queue × Chronicle :=
  let (q, c) := report homeId q (c.log (.loopbackAdded d)) .driverReady
  report homeId q c .nodeAdded

/-- Removes the driver. -/
def remove (homeId : UInt32) (d : DeviceId) (q : Queue) (c : Chronicle) : Queue × Chronicle :=
  report homeId q (c.log (.loopbackRemoved d)) .driverRemoved

/-- Stops the manager. -/
def stop (c : Chronicle) : Chronicle :=
  c.log (.loopbackStopped c.outstanding)

end Loopback

/-- Starts the manager of a library, or learns why there is none. -/
def Library.start (l : Library) (c : Chronicle) (o : ManagerOptions) :
    Option Refusal × Chronicle :=
  match l.refuses, l.loopback with
  | some r, _ => (some r, c)
  | none, some _ => Loopback.start c o
  | none, none => (none, c)

/-! ## A manager with a consumer -/

/-- A loopback manager, the queue it reports to, and what was taken from that. -/
structure LoopbackRun where
  homeId : UInt32
  device : DeviceId
  chronicle : Chronicle := {}
  queue : Queue := {}
  /-- Notifications that were taken and not yet released, the oldest first. -/
  taken : List Notification := []
  deriving Repr, Inhabited

namespace LoopbackRun

/-- A run whose manager was started with these options. -/
def start (homeId : UInt32) (device : DeviceId) (o : ManagerOptions) :
    Except Refusal LoopbackRun × Chronicle :=
  match Loopback.start {} o with
  | (some r, c) => (.error r, c)
  | (none, c) => (.ok { homeId := homeId, device := device, chronicle := c }, c)

/-- Whether the manager is still running. -/
def isRunning (s : LoopbackRun) : Bool :=
  s.queue.hasSender

/-- The count of outstanding notifications, as long as the manager runs. -/
def outstanding? (s : LoopbackRun) : Option Int :=
  if s.isRunning then some s.chronicle.outstanding else none

/-- Adds the driver, if the manager runs. -/
def add (s : LoopbackRun) : Option LoopbackRun :=
  if s.isRunning then
    let (q, c) := Loopback.add s.homeId s.device s.queue s.chronicle
    some { s with queue := q, chronicle := c }
  else none

/-- Removes the driver, if the manager runs. -/
def remove (s : LoopbackRun) : Option LoopbackRun :=
  if s.isRunning then
    let (q, c) := Loopback.remove s.homeId s.device s.queue s.chronicle
    some { s with queue := q, chronicle := c }
  else none

/-- Stops the manager, if it runs. -/
def stop (s : LoopbackRun) : Option LoopbackRun :=
  if s.isRunning then
    some { s with queue := (s.queue.dropSender 0).2, chronicle := Loopback.stop s.chronicle }
  else none

/-- Takes a notification, if the receiver is still there. -/
def take (s : LoopbackRun) : Option (Received × LoopbackRun) :=
  if s.queue.receiver = .dropped then none
  else
    match s.queue.receive with
    | (.item n, q) => some (.item n, { s with queue := q, taken := s.taken ++ [n] })
    | (r, q) => some (r, { s with queue := q })

/-- Releases the oldest notification taken; says whether there was one. -/
def release (s : LoopbackRun) : Bool × LoopbackRun :=
  match s.taken with
  | [] => (false, s)
  | n :: rest => (true, { s with taken := rest, chronicle := s.chronicle.release n })

/-- Gives the receiver up. -/
def dropReceiver (s : LoopbackRun) : LoopbackRun :=
  let (q, c) := s.queue.dropReceiver s.chronicle
  { s with queue := q, chronicle := c }

end LoopbackRun

end Hotplug
