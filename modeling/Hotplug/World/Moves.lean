import Hotplug.World.Session

/-!
# The moves of a world

Each move is one step of one of the tasks in a world, or the end of a library call.  A
move answers `none` if its task has nothing to do at this moment.

This file models the steps of the cycle loop, the session controller, the event loop, the
watcher, the forwarder, the coordinator and the timers, from one point at which each of them
waits to the next.

* `Move` — the moves.
* `World.attempt` — what a move does.
-/

namespace Hotplug

/-- One step of one task. -/
inductive Move where
  /-- A timer whose deadline has come fires. -/
  | fireTimer
  /-- The coordinator decides as it was asked to. -/
  | decide
  /-- The coordinator takes a signal, or finds that none can come any more. -/
  | takeSignal
  /-- The supervisor's own loop goes on. -/
  | cycle
  /-- The event loop gets its next reply. -/
  | eventLoop
  /-- The session goes on: it ends, or removes its driver. -/
  | session
  /-- A session that skips a refused driver looks for the device. -/
  | skip
  /-- A stop forwarder passes the stop flag on. -/
  | forwardStop
  /-- A removal watcher looks for the device. -/
  | watchRemoval
  /-- A library call ends. -/
  | endCall
  deriving DecidableEq, Repr, Inhabited

namespace World

variable {L : EventLoop}

/-! ## The coordinator -/

/-- A timer whose deadline has come fires. -/
def fireTimer? (w : World L) : Option (World L) :=
  (w.coordinator.fireTimer? w.chronicle).map fun (k, c) =>
    { w with coordinator := k, chronicle := c }

/-- The supervisor's own loop is cut off, with the session under way. -/
def cancelCycle (w : World L) : World L :=
  match w.cycle with
  | .deciding | .waiting _ | .inSession | .stopping =>
    { w.abandonSession.dropConsumers.dropHeldManager with cycle := .cancelled }
  | _ => w

/-- What a step of the coordinator leads to.  Its decision ends a supervised run. -/
def coordinated (w : World L) (k : Coordinator) (c : Chronicle) : World L :=
  let w := { w with coordinator := k, chronicle := c }
  match k.decision?, w.setup.isAttended with
  | some t, false =>
    w.cancelCycle.write (·.log (if t.status = .graceful then .finished t else .aborted t))
  | _, _ => w

/-- The coordinator decides as it was asked to. -/
def decide? (w : World L) : Option (World L) :=
  (w.coordinator.decidePosted? w.chronicle).map fun (k, c) => w.coordinated k c

/-- The coordinator polls the signals. -/
def takeSignal? (w : World L) : Option (World L) :=
  (w.coordinator.takeSignal? w.chronicle).map fun (k, c) => w.coordinated k c

/-! ## The supervisor's own loop -/

/-- Stops the library's manager. -/
def beginStop (w : World L) : World L :=
  { (w.write (·.log .stoppingManager)) with cycle := .stopping }.beginCall .stop

/-- The supervisor's own loop goes on: it stops once the stop flag is up, and otherwise
waits for the device and begins a session when it is there. -/
def cycle? (w : World L) : Option (World L) :=
  match w.cycle with
  | .deciding =>
    if w.coordinator.stop.isRaised then some w.beginStop
    else
      some
        { (w.write (·.log (.waitingForDevice w.setup.device))) with
          cycle := .waiting (.start true w.now) }
  | .waiting wait =>
    if w.coordinator.stop.isOver then some w.beginStop
    else if wait.due ≤ w.now then
      match wait.look w.setup.pollInterval w.files w.setup.device none w.chronicle with
      | (some wait, c) => some { w with chronicle := c, cycle := .waiting wait }
      | (none, c) =>
        some (({ w with chronicle := c }.write
          (·.log (.deviceAvailable (w.sessionCount + 1)))).startSession)
    else none
  | _ => none

/-! ## The event loop -/

/-- Tells the event loop a reply. -/
def reply (w : World L) (s : Session) (executor : Executor) (r : Reply) : World L :=
  let w := w.write (·.record (.loopReplied s.id r))
  { w with
    loop := L.resume w.loop r
    session := some { s with stage := .running executor .active } }

/-- Hands the event loop what it received, or the reply for a queue that has ended.  An
empty queue makes it wait. -/
def handOver? (w : World L) (s : Session) (executor : Executor) (ended : Reply) :
    Option (World L) :=
  match w.queue.receive with
  | (.item n, q) =>
    some ({ w with queue := q, held := n :: w.held }.reply s executor (.event n.event))
  | (.empty, _) => none
  | (.disconnected, _) => some (w.reply s executor ended)

/-- The event loop panics.  Under a supervisor this ends everything but a call that is
under way; of a session that was started by hand, the queue and the loop are left. -/
def panicLoop (w : World L) (reason : String) : World L :=
  let w := w.abandonSession.dropHeldManager
  if w.setup.isAttended then { w with cycle := .panicked }
  else
    let w := { w.dropConsumers with cycle := .panicked }
    let (k, c) :=
      w.coordinator.post (w.chronicle.log (.loopPanicked reason)) .supervisorPanicked
    { w with coordinator := k, chronicle := c }

/-- What the event loop asks for is done, as soon as it can be. -/
def serve? (w : World L) (s : Session) (executor : Executor) (phase : LoopPhase) :
    Option (World L) :=
  match L.request w.loop with
  | .nextEvent =>
    if s.isQuitting then some (w.reply s executor .noMore)
    else w.handOver? s executor .noMore
  | .receive => w.handOver? s executor .closed
  | .tryReceive =>
    if w.queue.receive.1 = .empty then some (w.reply s executor .empty)
    else w.handOver? s executor .disconnected
  | .awaitQuit => if s.isQuitting then some (w.reply s executor .quitSignalled) else none
  | .isQuitting => some (w.reply s executor (.quitting s.isQuitting))
  | .sleep duration =>
    match phase with
    | .asleep wake => if wake ≤ w.now then some (w.reply s executor .slept) else none
    | _ => some (w.setSession { s with stage := .running executor (.asleep (w.now + duration)) })
  | .drop i =>
    some ({ w with
        held := w.held.eraseIdx i
        chronicle := w.chronicle.releaseAll w.held[i]?.toList }.reply s executor .done)
  | .dropAll =>
    some ({ w with held := [], chronicle := w.chronicle.releaseAll w.held }.reply s executor .done)
  | .closeQueue => some ({ w with queue := w.queue.close }.reply s executor .done)
  | .hang => none
  | .panic reason => some (w.panicLoop reason)
  | .finish =>
    some ((w.write (·.record (.loopEnded s.id))).setSession
      { s with stage := .running executor .returned })

/-- The event loop goes on. -/
def eventLoop? (w : World L) : Option (World L) :=
  match w.session with
  | none => none
  | some s =>
    match s.stage with
    | .running executor .active => w.serve? s executor .active
    | .running executor (.asleep wake) => w.serve? s executor (.asleep wake)
    | _ => none

/-! ## The session -/

/-- The session goes on: one that skips a refused driver ends with the stop flag, one that
runs waits to be asked to quit, and one whose driver is removed waits for its event loop. -/
def session? (w : World L) : Option (World L) :=
  match w.session with
  | none => none
  | some s =>
    match s.stage with
    | .skipping _ => if w.coordinator.stop.isOver then some (w.endSession s) else none
    | .running .listening loop =>
      s.quit.answer?.map fun r => w.requestRemoval s loop (r.getD .shutdown)
    | .running (.removed timer) .returned =>
      some ((w.cancelTimer timer .driverRemovalTimeout).endSession s)
    | _ => none

/-- A session that skips a refused driver looks for the device, and ends when it is gone. -/
def skip? (w : World L) : Option (World L) :=
  match w.session with
  | none => none
  | some s =>
    match s.stage with
    | .skipping wait =>
      if wait.due ≤ w.now then
        match wait.look w.setup.pollInterval w.files w.setup.device (some s.id) w.chronicle with
        | (some wait, c) =>
          some ({ w with chronicle := c }.setSession { s with stage := .skipping wait })
        | (none, c) => some ({ w with chronicle := c }.endSession s)
      else none
    | _ => none

/-! ## The tasks beside a session -/

/-- A task beside a session asks the session to quit and ends. -/
def raiseQuit (w : World L) (child : Child) (r : QuitReason) : World L :=
  let w := { w with children := w.children.filter (· ≠ child) }
  match w.session with
  | none => w
  | some s =>
    if s.id = child.session then
      let quit := (s.quit.raise child.trigger r).elim s.quit (·.2)
      w.setSession { s with quit := (quit.drop child.trigger).getD quit }
    else w

/-- A stop forwarder passes the stop flag on. -/
def forwardStop? (w : World L) : Option (World L) :=
  if w.coordinator.stop.isOver then
    (w.children.find? (·.task = .forwardStop)).map fun child => w.raiseQuit child .shutdown
  else none

/-- A removal watcher looks for the device. -/
def watchRemoval? (w : World L) : Option (World L) :=
  (w.children.findSome? (Child.dueLook? w.now)).map fun (child, wait) =>
    match wait.look w.setup.pollInterval w.files w.setup.device (some child.session)
      w.chronicle with
    | (some wait, c) =>
      { w with
        chronicle := c
        children := w.children.map fun other =>
          if other = child then { child with task := .watchRemoval wait } else other }
    | (none, c) =>
      { w with chronicle := c.log (.deviceRemoved w.setup.device) (some child.session) }.raiseQuit
        child .deviceRemoved

/-! ## Library calls -/

/-- A call to add the driver has ended. -/
def addEnded (w : World L) (r : CallResult) : World L :=
  match w.session with
  | some s =>
    match s.stage, r with
    | .activating timer, .returned ok => { w with manager := .held }.activated s timer ok
    | .activating timer, .panicked reason =>
      (w.dropManager.write (·.log (.addPanicked reason) s.id)).setSession
        { s with stage := .stranded timer }
    | _, _ => w.dropManager
  | none => w.dropManager

/-- A call to remove the driver has ended. -/
def removeEnded (w : World L) (r : CallResult) : World L :=
  match w.session with
  | some s =>
    match s.stage, r with
    | .running (.removing timer) loop, .returned true =>
      { w with manager := .held }.setSession
        { s with stage := .running (.removed timer) loop, isQuitting := true }
    | .running (.removing timer) loop, .returned false =>
      { w with manager := .held }.removalFailed s timer loop .removalFailed
    | .running (.removing timer) loop, .panicked reason =>
      w.dropManager.removalFailed s timer loop (.removalPanicked reason)
    | _, _ => w.dropManager
  | none => w.dropManager

/-- The call to stop the manager has ended, and with it the supervisor's own loop. -/
def stopEnded (w : World L) (r : CallResult) : World L :=
  let w := w.dropManager
  match w.cycle with
  | .stopping =>
    let c :=
      match r with
      | .panicked reason => w.chronicle.log (.stopPanicked reason)
      | .returned _ => w.chronicle
    let (k, c) := w.coordinator.post c .completed
    { { w with coordinator := k, chronicle := c }.dropConsumers with cycle := .finished }
  | _ => w

/-- A library call ends.  If nobody waits for it any more, the manager ends with it. -/
def endCall? (w : World L) : Option (World L) :=
  (w.calls.find? (Call.isOver w.now)).map fun call =>
    let w :=
      { w with calls := w.calls.erase call }.write (·.record (.callEnded call.kind call.result))
    match call.kind with
    | .add => w.addEnded call.result
    | .remove => w.removeEnded call.result
    | .stop => w.stopEnded call.result

/-! ## All moves -/

/-- What a move does, if its task has anything to do now. -/
def attempt (w : World L) : Move → Option (World L)
  | .fireTimer => w.fireTimer?
  | .decide => w.decide?
  | .takeSignal => w.takeSignal?
  | .cycle => w.cycle?
  | .eventLoop => w.eventLoop?
  | .session => w.session?
  | .skip => w.skip?
  | .forwardStop => w.forwardStop?
  | .watchRemoval => w.watchRemoval?
  | .endCall => w.endCall?

end World

end Hotplug
