import Hotplug.World.Basic

/-!
# The library in its world

How a call to the device library begins and how it ends, and what becomes of the manager.

This file models how the supervisor and the session controller hand the manager to a blocking
call and get it back, or lose it in a panic.

* `World.beginCall` — lends the manager to a call.
* `World.dropManager` — gives the manager up, with its sender.
* `World.launch` — starts the manager, with which every run begins.
-/

namespace Hotplug.World

variable {L : EventLoop}

/-- Changes the chronicle. -/
def write (w : World L) (f : Chronicle → Chronicle) : World L :=
  { w with chronicle := f w.chronicle }

/-- Drives the loopback library within a call, if there is one. -/
def driveLoopback (w : World L) (k : CallKind) : World L :=
  match w.setup.library.loopback with
  | none => w
  | some home =>
    match k with
    | .add =>
      let (q, c) := Loopback.add home w.setup.device w.queue w.chronicle
      { w with queue := q, chronicle := c }
    | .remove =>
      let (q, c) := Loopback.remove home w.setup.device w.queue w.chronicle
      { w with queue := q, chronicle := c }
    | .stop => w.write fun c => Loopback.stop (c.record (.outstanding c.outstanding))

/-- Begins a call: it reports what it has to report, and is busy from now on. -/
def beginCall (w : World L) (k : CallKind) : World L :=
  let b := w.setup.library.behaviour k (Tally.count k w.callCount)
  let w := (w.write (·.record (.callBegan k))).driveLoopback k
  let (_, q, c) := w.queue.deliverAll w.chronicle b.reports
  { w with
    queue := q
    chronicle := c
    manager := .lent
    calls := w.calls ++ [⟨k, b.hold.map (c.now + ·), b.result⟩]
    callCount := Tally.bump k w.callCount }

/-- Gives the manager up. -/
def dropManager (w : World L) : World L :=
  { w with manager := .gone, queue := (w.queue.dropSender 0).2 }

/-- Gives the manager up unless a call still has it. -/
def dropHeldManager (w : World L) : World L :=
  if w.manager = .held then w.dropManager else w

/-- Drops the event loop and the queue, and releases all that is in them. -/
def dropConsumers (w : World L) : World L :=
  let c := w.chronicle.releaseAll w.held
  let (q, c) := w.queue.dropReceiver c
  { w with held := [], queue := q, chronicle := c }

/-- A world in which the library was asked for a manager.  If it refuses, the run is over. -/
def launch (setup : Setup) (loop : L.State) (files : FileTree) (signalCapacity : Nat) :
    World L :=
  let options := if setup.isAttended then {} else setup.settings.managerOptions
  let (refusal, c) := setup.library.start (Chronicle.record {} (.managerStarting options)) options
  let signals : SignalBuffer := { capacity := signalCapacity }
  let k : Coordinator := { gracePeriod := setup.settings.shutdown.gracePeriod, signals := signals }
  match refusal with
  | some r =>
    { setup := setup
      chronicle := c
      files := files
      coordinator := { k with phase := .dropped, signals := signals.stopReading }
      queue := { senders := [false, false], receiver := .dropped }
      loop := loop
      cycle := .refused r
      manager := .gone }
  | none =>
    { setup := setup
      chronicle :=
        if setup.isAttended then c else c.log (.managerStarted setup.device options.size)
      files := files
      coordinator := if setup.isAttended then k else k.run
      loop := loop
      cycle := if setup.isAttended then .attended else .deciding }

end Hotplug.World
