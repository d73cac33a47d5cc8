import Hotplug.World.Session

/-!
# Requests from outside

What the surroundings of a supervisor do to it: they send signals, plug the device, report
events on behalf of the library, and, where sessions are started by hand, start them.
Nothing that a request brings about happens before the world goes on.

This file models the surroundings of the supervisor: the operating system, the device, the
threads of the library, and the tests that run a session controller on its own.
-/

namespace Hotplug.World

variable {L : EventLoop}

/-- The world with another coordinator. -/
def setCoordinator (w : World L) (k : Coordinator) : World L :=
  { w with coordinator := k }

/-! ## Signals -/

/-- Sends signals, one straight after the other. -/
def signal (w : World L) (signals : List Signal) : List Offered × World L :=
  let (results, b) := w.coordinator.signals.offerAll signals
  (results, w.setCoordinator { w.coordinator with signals := b })

/-- Gives up the sending side of the signals. -/
def closeSignals (w : World L) : Bool × World L :=
  let (was, b) := w.coordinator.signals.stopSending
  (was, w.setCoordinator { w.coordinator with signals := b })

/-! ## Notifications -/

/-- The sender that reports events outside of calls. -/
def outsideSender : Nat := 1

/-- Reports events outside of calls. -/
def notify (w : World L) (ns : List Notification) : Option (List Bool) × World L :=
  if w.queue.holds outsideSender then
    let (oks, q, c) := w.queue.deliverAll w.chronicle ns
    (some oks, { w with queue := q, chronicle := c })
  else (none, w)

/-- Gives up the sender that reports events outside of calls. -/
def detach (w : World L) : Bool × World L :=
  let (was, q) := w.queue.dropSender outsideSender
  (was, { w with queue := q })

/-! ## By hand -/

/-- Starts a session, if the manager is there for one. -/
def start (w : World L) : Option (SessionId × World L) :=
  match w.cycle with
  | .attended => some (w.sessionCount + 1, w.startSession)
  | _ => none

/-- Raises the stop flag, as long as the coordinator is idle. -/
def trigger (w : World L) : Option (Bool × World L) :=
  if w.coordinator.isIdle then
    let (wasDown, k, c) := w.coordinator.trigger w.chronicle
    some (wasDown, { w with coordinator := k, chronicle := c })
  else none

/-- Posts a termination. -/
def terminate (w : World L) (t : Termination) : World L :=
  let (k, c) := w.coordinator.post w.chronicle t
  { w with coordinator := k, chronicle := c }

/-- Runs the coordinator, if it is idle; says whether it was. -/
def coordinate (w : World L) : Bool × World L :=
  if w.coordinator.isIdle then (true, w.setCoordinator w.coordinator.run) else (false, w)

/-- Drops the coordinator, if it is idle; says whether it was. -/
def dropCoordinator (w : World L) : Bool × World L :=
  if w.coordinator.isIdle then (true, w.setCoordinator w.coordinator.drop) else (false, w)

/-! ## Files -/

/-- Changes the files, unless the change fails. -/
def changeFiles (w : World L) (f : FileTree → Except FileFault FileTree) :
    Option FileFault × World L :=
  match f w.files with
  | .ok t => (none, { w with files := t })
  | .error fault => (some fault, w)

end Hotplug.World
