import Hotplug.World.Library

/-!
# The course of a session

What a session does from its beginning to its end.

This file models the session controller: activation and removal under their deadlines, the two
policies for a refused activation, and what is discarded at the end.

* `World.startSession` — a session begins and adds the driver.
* `World.activated` — the library has added the driver, or refused to.
* `World.requestRemoval` — the session was asked to quit and removes the driver.
* `World.endSession` — the driver is removed and the event loop has returned.
* `World.abandonSession` — the session is cut off.
-/

namespace Hotplug.World

variable {L : EventLoop}

/-- Puts another session in the place of the one under way. -/
def setSession (w : World L) (s : Session) : World L :=
  { w with session := some s }

/-- Takes a session to its next state. -/
def transition (w : World L) (s : Session) (next : SessionState) : World L :=
  (w.write (·.record (.stateChanged s.id s.state next))).setSession { s with state := next }

/-- Arms a timer for the session under way. -/
def armTimer (w : World L) (delay : Nat) (t : Termination) : TimerId × World L :=
  let (id, timers, c) := w.coordinator.timers.arm w.chronicle delay t
  (id, { w with coordinator := { w.coordinator with timers := timers }, chronicle := c })

/-- Cancels a timer of the session under way. -/
def cancelTimer (w : World L) (id : TimerId) (t : Termination) : World L :=
  let (timers, c) := w.coordinator.timers.cancel w.chronicle id t w.sessionId?
  { w with coordinator := { w.coordinator with timers := timers }, chronicle := c }

/-! ## Beginning -/

/-- Begins a session: it arms the activation timer and adds the driver. -/
def startSession (w : World L) : World L :=
  let id := w.sessionCount + 1
  let w := w.write (·.record (.stateChanged id .inactive .activating))
  let (timer, w) :=
    w.armTimer w.setup.settings.driver.activationTimeout .driverActivationTimeout
  { w with
    sessionCount := id
    cycle := .inSession
    session := some { id := id, state := .activating, stage := .activating timer } }.beginCall .add

/-- Lets the event loop run, with a removal watcher and a stop forwarder beside it. -/
def runLoop (w : World L) (s : Session) : World L :=
  let w := w.transition s .running
  let quit : QuitRequest := { held := [true, true, true], listener := .listening }
  { w with
    session :=
      some { s with state := .running, stage := .running .listening .active, quit := quit }
    children := w.children ++
      [⟨s.id, 1, .watchRemoval (.start false w.now)⟩, ⟨s.id, 2, .forwardStop⟩]
    loop := L.enter w.loop s.id w.setup.device
    chronicle := w.chronicle.record (.loopStarted s.id w.setup.device) }

/-- The library has added the driver, or refused to. -/
def activated (w : World L) (s : Session) (timer : TimerId) (ok : Bool) : World L :=
  let w := w.cancelTimer timer .driverActivationTimeout
  let w := w.write (·.measure fun m => { m with sessionsStarted := m.sessionsStarted + 1 })
  let s := { s with activatedAt := some w.now }
  if ok then w.runLoop s
  else
    match w.setup.settings.driver.onActivationFailure with
    | .proceed => (w.write (·.log .activationFailedProceeding s.id)).runLoop s
    | .skipCycle =>
      (w.write (·.log .activationFailedSkipping s.id)).setSession
        { s with stage := .skipping (.start false w.now) }

/-! ## Removal -/

/-- The session was asked to quit: it arms the removal timer and removes the driver. -/
def requestRemoval (w : World L) (s : Session) (loop : LoopPhase) (r : QuitReason) : World L :=
  let w := w.write (·.log (.quitRequested r) s.id)
  let w := w.transition s .removalRequested
  let (timer, w) :=
    w.armTimer w.setup.settings.driver.removalTimeout .driverRemovalTimeout
  let w := w.transition { s with state := .removalRequested } .removing
  (w.setSession { s with state := .removing, stage := .running (.removing timer) loop }).beginCall
    .remove

/-- The driver could not be removed: the session only waits for its timer now. -/
def removalFailed (w : World L) (s : Session) (timer : TimerId) (loop : LoopPhase)
    (m : Message) : World L :=
  (w.write (·.log m s.id)).transition { s with stage := .running (.failed timer) loop } .aborted

/-! ## The end -/

/-- Releases what the event loop left in the queue, so that no later session gets it. -/
def discardStale (w : World L) (id : SessionId) : World L :=
  let c := w.queue.items.foldl
    (fun c n => (c.log (.staleDiscarded n.event) id).release n) w.chronicle
  let c :=
    if w.queue.items.isEmpty then c
    else c.log (.leftoversReleased w.queue.items.length) id
  { w with queue := { w.queue with items := [] }, chronicle := c }

/-- The tasks beside a session end with it. -/
def dropChildren (w : World L) (id : SessionId) : World L :=
  { w with children := w.children.filter (·.session ≠ id) }

/-- The session ends as removed, and the manager goes back to whoever started it. -/
def endSession (w : World L) (s : Session) : World L :=
  let w := (w.discardStale s.id).transition s .removed
  let elapsed := w.now - s.activatedAt.getD w.now
  let w := w.write fun c =>
    (c.measure fun m =>
      { m with
        sessionsRemoved := m.sessionsRemoved + 1
        durations := m.durations ++ [elapsed] }).log (.sessionEnded elapsed) s.id
  let w := w.dropChildren s.id
  { w with
    session := none
    cycle := if w.setup.isAttended then .attended else .deciding }

/-- The session is cut off: its timer and the tasks beside it are gone. -/
def abandonSession (w : World L) : World L :=
  match w.session with
  | none => w
  | some s =>
    let w := w.dropChildren s.id
    let timers :=
      match s.stage.timer? with
      | none => w.coordinator.timers
      | some id => w.coordinator.timers.drop id
    { w with session := none, coordinator := { w.coordinator with timers := timers } }

end Hotplug.World
