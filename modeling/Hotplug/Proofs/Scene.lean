import Hotplug.Proofs.Orderly

/-!
# The scene of a run

The conduct of a run says what the supervisor is at.  Its scene says with whom: it is the frame
of a world, with the tasks beside the session, the files, and the number of calls so far.

To what the conduct has of the supervisor it adds the removal watcher, the stop forwarder and the
presence checks.

* `Scene` — the frame, the tasks, the files and the calls.
* `Scene.transition`, `Scene.beginCall`, `Scene.raiseQuit`, … — what the operations of a world
  do to its scene.
* `Scene.Rests` — nobody but the event loop has anything to do for some time.
* `Scene.raises?` — the reason to quit that something that happens raises.
* `Scene.Act`, `Scene.Step` — everything that a move, and anything else that happens, can make of
  a scene.
-/

namespace Hotplug

/-- The parts of a world that the tasks beside a session have to do with. -/
structure Scene extends Frame where
  files : FileTree
  children : List Child
  callCount : Tally CallKind

/-- The scene of a world. -/
def World.scene {L : EventLoop} (w : World L) : Scene where
  toFrame := w.frame
  files := w.files
  children := w.children
  callCount := w.callCount

namespace Scene

variable (f : Scene)

/-- Whether a look shows the device. -/
def sees : Bool :=
  (Sighting.of f.files f.setup.device).isPresent

/-- A wait after a look that did not show what it waits for. -/
def later (wait : PresenceWait) : PresenceWait :=
  { wait with due := f.now + f.setup.pollInterval }

/-! ## What the operations of a world do to its scene -/

/-- Something happens now. -/
def tell (h : Happening) : Scene :=
  { f with outline := (f.now, h) :: f.outline }

/-- The scene with the time, the coordinator and the outline of a conduct. -/
def put (c : Conduct) : Scene :=
  { f with now := c.now, coordinator := c.coordinator, outline := c.outline }

/-- Puts another session in the place of the one under way. -/
def setSession (s : Session) : Scene :=
  { f with session := some s }

/-- Takes a session to its next state. -/
def transition (s : Session) (next : SessionState) : Scene :=
  (f.tell (.stateChanged s.id s.state next)).setSession { s with state := next }

/-- Arms a timer for the session under way. -/
def armTimer (delay : Nat) (t : Termination) : Scene :=
  { f.tell (.timerArmed f.coordinator.timers.made t) with coordinator := f.withTimer delay t }

/-- Disarms a timer. -/
def dropTimer (id : TimerId) : Scene :=
  { f with coordinator := { f.coordinator with timers := f.coordinator.timers.drop id } }

/-- The call that begins next. -/
def nextCall (k : CallKind) : Call :=
  let b := f.setup.library.behaviour k (Tally.count k f.callCount)
  ⟨k, b.hold.map (f.now + ·), b.result⟩

/-- Begins a call. -/
def beginCall (k : CallKind) : Scene :=
  { f.tell (.callBegan k) with
    calls := f.calls ++ [f.nextCall k]
    callCount := Tally.bump k f.callCount }

/-- A call ends. -/
def endCall (call : Call) : Scene :=
  { f.tell (.callEnded call.kind call.result) with calls := f.calls.erase call }

/-- Begins a session: it arms the activation timer and adds the driver. -/
def startSession : Scene :=
  { (f.tell (.stateChanged (f.count + 1) .inactive .activating)).armTimer
      f.setup.settings.driver.activationTimeout .driverActivationTimeout with
    cycle := .inSession
    session := some f.nextSession
    count := f.count + 1 : Scene }.beginCall .add

/-- Lets the event loop run, with a removal watcher and a stop forwarder beside it. -/
def runLoop (s : Session) : Scene :=
  { (f.transition s .running).tell (.loopStarted s.id f.setup.device) with
    session := some s.looped
    children := f.children ++
      [⟨s.id, 1, .watchRemoval (.start false f.now)⟩, ⟨s.id, 2, .forwardStop⟩] }

/-- The session was asked to quit: it arms the removal timer and removes the driver. -/
def requestRemoval (s : Session) (loop : LoopPhase) : Scene :=
  let g := (f.transition s .removalRequested).armTimer f.setup.settings.driver.removalTimeout
    .driverRemovalTimeout
  ((g.transition { s with state := .removalRequested } .removing).setSession
    { s with
      state := .removing
      stage := .running (.removing f.coordinator.timers.made) loop }).beginCall .remove

/-- The tasks beside the session that is cut off are gone. -/
def childrenAfterCut : List Child :=
  f.session.elim f.children fun s => f.children.filter (·.session ≠ s.id)

/-- The session is cut off: its timer and the tasks beside it are gone. -/
def abandonSession (cycle : CyclePhase) : Scene :=
  { f with toFrame := f.toFrame.cut cycle, children := f.childrenAfterCut }

/-- The session ends as removed. -/
def endSession (s : Session) : Scene :=
  { f.tell (.stateChanged s.id s.state .removed) with
    session := none
    cycle := .deciding
    children := f.children.filter (·.session ≠ s.id) }

/-- The supervisor's own loop is cut off, with the session under way. -/
def cancelCycle : Scene :=
  if f.duty.isActive then f.abandonSession .cancelled else f

/-- The coordinator decides. -/
def decide (t : Termination) : Scene :=
  ({ f with coordinator := f.coordinator.conclude t : Scene }.tell (.terminated t)).cancelCycle

/-- The event loop panics. -/
def panicLoop (reason : String) : Scene :=
  let g := (f.abandonSession .panicked).tell (.logged (.loopPanicked reason) none)
  g.put (g.conduct.post .supervisorPanicked)

end Scene

/-- A quit request after a task has raised a reason and given up its trigger. -/
def QuitRequest.spend (q : QuitRequest) (trigger : Nat) (r : QuitReason) : QuitRequest :=
  let q := (q.raise trigger r).elim q (·.2)
  (q.drop trigger).getD q

namespace Scene

variable (f : Scene)

/-- A task beside a session asks the session to quit and ends. -/
def raiseQuit (child : Child) (r : QuitReason) : Scene :=
  { f with
    children := f.children.filter (· ≠ child)
    session := f.session.map fun s =>
      if s.id = child.session then { s with quit := s.quit.spend child.trigger r } else s }

/-! ## What the operations add to the outline -/

section Outline

@[simp] theorem outline_tell (h : Happening) : (f.tell h).outline = (f.now, h) :: f.outline := rfl

@[simp] theorem outline_put (c : Conduct) : (f.put c).outline = c.outline := rfl

@[simp] theorem outline_setSession (s : Session) : (f.setSession s).outline = f.outline := rfl

@[simp] theorem outline_transition (s : Session) (next : SessionState) :
    (f.transition s next).outline = (f.now, .stateChanged s.id s.state next) :: f.outline := rfl

@[simp] theorem outline_dropTimer (id : TimerId) : (f.dropTimer id).outline = f.outline := rfl

@[simp] theorem outline_beginCall (k : CallKind) :
    (f.beginCall k).outline = (f.now, .callBegan k) :: f.outline := rfl

@[simp] theorem outline_endCall (call : Call) :
    (f.endCall call).outline = (f.now, .callEnded call.kind call.result) :: f.outline := rfl

@[simp] theorem outline_startSession :
    f.startSession.outline =
      (f.now, .callBegan .add) ::
        (f.now, .timerArmed f.coordinator.timers.made .driverActivationTimeout) ::
          (f.now, .stateChanged (f.count + 1) .inactive .activating) :: f.outline := rfl

@[simp] theorem outline_runLoop (s : Session) :
    (f.runLoop s).outline =
      (f.now, .loopStarted s.id f.setup.device) ::
        (f.now, .stateChanged s.id s.state .running) :: f.outline := rfl

@[simp] theorem outline_abandonSession (cycle : CyclePhase) :
    (f.abandonSession cycle).outline = f.outline := rfl

@[simp] theorem outline_endSession (s : Session) :
    (f.endSession s).outline = (f.now, .stateChanged s.id s.state .removed) :: f.outline := rfl

@[simp] theorem outline_cancelCycle : f.cancelCycle.outline = f.outline := by
  unfold cancelCycle
  split <;> rfl

@[simp] theorem outline_decide (t : Termination) :
    (f.decide t).outline = (f.now, .terminated t) :: f.outline :=
  outline_cancelCycle _

@[simp] theorem outline_raiseQuit (child : Child) (r : QuitReason) :
    (f.raiseQuit child r).outline = f.outline := rfl

end Outline

/-! ## What becomes of a scene as a session begins to remove its driver -/

section Removal

variable (s : Session) (loop : LoopPhase)

theorem requestRemoval_eq :
    f.requestRemoval s loop =
      { f with
        outline := (f.now, .callBegan .remove) ::
          (f.now, .stateChanged s.id .removalRequested .removing) ::
            (f.now, .timerArmed f.coordinator.timers.made .driverRemovalTimeout) ::
              (f.now, .stateChanged s.id s.state .removalRequested) :: f.outline
        session := some
          { s with
            state := .removing
            stage := .running (.removing f.coordinator.timers.made) loop }
        calls := f.calls ++ [f.nextCall .remove]
        coordinator :=
          f.withTimer f.setup.settings.driver.removalTimeout .driverRemovalTimeout
        callCount := Tally.bump .remove f.callCount } := by
  simp only [requestRemoval, transition, setSession, armTimer, tell, beginCall, nextCall,
    Frame.withTimer]

@[simp] theorem outline_requestRemoval :
    (f.requestRemoval s loop).outline =
      (f.now, .callBegan .remove) :: (f.now, .stateChanged s.id .removalRequested .removing) ::
        (f.now, .timerArmed f.coordinator.timers.made .driverRemovalTimeout) ::
          (f.now, .stateChanged s.id s.state .removalRequested) :: f.outline := by
  rw [requestRemoval_eq]

theorem now_requestRemoval : (f.requestRemoval s loop).now = f.now := by
  rw [requestRemoval_eq]

theorem setup_requestRemoval : (f.requestRemoval s loop).setup = f.setup := by
  rw [requestRemoval_eq]

theorem cycle_requestRemoval : (f.requestRemoval s loop).cycle = f.cycle := by
  rw [requestRemoval_eq]

theorem count_requestRemoval : (f.requestRemoval s loop).count = f.count := by
  rw [requestRemoval_eq]

theorem children_requestRemoval : (f.requestRemoval s loop).children = f.children := by
  rw [requestRemoval_eq]

theorem calls_requestRemoval :
    (f.requestRemoval s loop).calls = f.calls ++ [f.nextCall .remove] := by
  rw [requestRemoval_eq]

theorem callCount_requestRemoval :
    (f.requestRemoval s loop).callCount = Tally.bump .remove f.callCount := by
  rw [requestRemoval_eq]

theorem coordinator_requestRemoval :
    (f.requestRemoval s loop).coordinator =
      f.withTimer f.setup.settings.driver.removalTimeout .driverRemovalTimeout := by
  rw [requestRemoval_eq]

theorem session_requestRemoval :
    (f.requestRemoval s loop).session =
      some
        { s with
          state := .removing
          stage := .running (.removing f.coordinator.timers.made) loop } := by
  rw [requestRemoval_eq]

end Removal

/-! ## Moves -/

/-- A call is busy, and it is its turn to end. -/
structure CanEnd (call : Call) : Prop where
  calls : f.calls = [call]
  isOver : call.isOver f.now = true

/-- Everything that a move can make of a scene. -/
inductive Act : Move → Scene → Prop where
  | fire (a : AbortTimer) (ha : a ∈ f.coordinator.timers.armed)
      (hdue : a.deadline ≤ f.now) : Act .fireTimer (f.put (f.conduct.fire a))
  | decide (t : Termination) (rest : List Termination)
      (hrun : f.coordinator.isRunning = true) (hposted : f.coordinator.posted = t :: rest) :
      Act .decide (f.decide t)
  | firstSignal (s : Signal) (b : SignalBuffer)
      (hphase : f.coordinator.phase = .awaitingSignal)
      (htake : f.coordinator.signals.receive = (.signal s, b)) :
      Act .takeSignal
        (f.put ((((f.conduct.setSignals b).tell (.signalTaken s)).raiseStop.arm
          f.setup.settings.shutdown.gracePeriod .shutdownTimeout).awaitEnd f.conduct.nextTimer))
  | secondSignal (s : Signal) (b : SignalBuffer) (grace : TimerId)
      (hphase : f.coordinator.phase = .stopping grace)
      (htake : f.coordinator.signals.receive = (.signal s, b)) :
      Act .takeSignal
        (((f.put (f.conduct.setSignals b)).tell (.signalTaken s)).decide .repeatedSignal)
  /-- The coordinator finds that no signal can come any more. -/
  | ignoreSignals (hrun : f.coordinator.isRunning = true)
      (hopen : f.coordinator.signalsOpen = true)
      (hclosed : f.coordinator.signals.receive.1 = .closed) :
      Act .takeSignal (f.put f.conduct.ignoreSignals)
  | beginStop
      (hc : f.cycle = .deciding ∧ f.coordinator.stop.isRaised = true ∨
        (∃ wait, f.cycle = .waiting wait) ∧ f.coordinator.stop.isOver = true) :
      Act .cycle ({ f with cycle := .stopping : Scene }.beginCall .stop)
  | beginWaiting (hc : f.cycle = .deciding)
      (hstop : f.coordinator.stop.isRaised = false) :
      Act .cycle { f with cycle := .waiting (.start true f.now) }
  | keepWaiting (wait : PresenceWait) (hc : f.cycle = .waiting wait)
      (hstop : f.coordinator.stop.isOver = false) (hdue : wait.due ≤ f.now)
      (hseen : f.sees ≠ wait.desired) :
      Act .cycle { f.tell (.checked f.sees) with cycle := .waiting (f.later wait) }
  | beginSession (wait : PresenceWait) (hc : f.cycle = .waiting wait)
      (hstop : f.coordinator.stop.isOver = false) (hdue : wait.due ≤ f.now)
      (hseen : f.sees = wait.desired) :
      Act .cycle (f.tell (.checked f.sees)).startSession
  /-- The event loop gets a reply, or falls asleep. -/
  | loopWent (s : Session) (executor : Executor) (p p' : LoopPhase)
      (hs : f.session = some s) (hst : s.stage = .running executor p)
      (hp : p.isReturned = false) (hp' : p'.isReturned = false) :
      Act .eventLoop (f.setSession { s with stage := .running executor p' })
  | loopEnded (s : Session) (executor : Executor) (p : LoopPhase)
      (hs : f.session = some s) (hst : s.stage = .running executor p)
      (hp : p.isReturned = false) :
      Act .eventLoop
        ((f.tell (.loopEnded s.id)).setSession { s with stage := .running executor .returned })
  | loopPanicked (s : Session) (executor : Executor) (p : LoopPhase)
      (reason : String) (hs : f.session = some s) (hst : s.stage = .running executor p)
      (hp : p.isReturned = false) : Act .eventLoop (f.panicLoop reason)
  /-- A session that skips a refused driver ends with the stop flag. -/
  | skipStopped (s : Session) (wait : PresenceWait) (hs : f.session = some s)
      (hst : s.stage = .skipping wait) (hstop : f.coordinator.stop.isOver = true) :
      Act .session (f.endSession s)
  | beginRemoval (s : Session) (loop : LoopPhase) (r : Option QuitReason)
      (hs : f.session = some s) (hst : s.stage = .running .listening loop)
      (hr : s.quit.answer? = some r) : Act .session (f.requestRemoval s loop)
  | sessionEnded (s : Session) (timer : TimerId) (hs : f.session = some s)
      (hst : s.stage = .running (.removed timer) .returned) :
      Act .session ((f.dropTimer timer).endSession s)
  | keepSkipping (s : Session) (wait : PresenceWait) (hs : f.session = some s)
      (hst : s.stage = .skipping wait) (hdue : wait.due ≤ f.now)
      (hseen : f.sees ≠ wait.desired) :
      Act .skip ((f.tell (.checked f.sees)).setSession { s with stage := .skipping (f.later wait) })
  /-- A session that skips a refused driver ends as the device is gone. -/
  | skipEnded (s : Session) (wait : PresenceWait) (hs : f.session = some s)
      (hst : s.stage = .skipping wait) (hdue : wait.due ≤ f.now)
      (hseen : f.sees = wait.desired) :
      Act .skip ((f.tell (.checked f.sees)).endSession s)
  | stopForwarded (child : Child) (hchild : child ∈ f.children)
      (htask : child.task = .forwardStop) (hstop : f.coordinator.stop.isOver = true) :
      Act .forwardStop (f.raiseQuit child .shutdown)
  | keepWatching (child : Child) (wait : PresenceWait) (hchild : child ∈ f.children)
      (htask : child.task = .watchRemoval wait) (hdue : wait.due ≤ f.now)
      (hseen : f.sees ≠ wait.desired) :
      Act .watchRemoval
        { f.tell (.checked f.sees) with
          children := f.children.map fun other =>
            if other = child then { child with task := .watchRemoval (f.later wait) } else other }
  | removalSeen (child : Child) (wait : PresenceWait) (hchild : child ∈ f.children)
      (htask : child.task = .watchRemoval wait) (hdue : wait.due ≤ f.now)
      (hseen : f.sees = wait.desired) :
      Act .watchRemoval ((f.tell (.checked f.sees)).raiseQuit child .deviceRemoved)
  /-- The driver is added, or it does not matter that it is not. -/
  | added (s : Session) (timer : TimerId) (call : Call) (ok : Bool)
      (hs : f.session = some s) (hst : s.stage = .activating timer) (hend : f.CanEnd call)
      (hkind : call.kind = .add) (hresult : call.result = .returned ok)
      (hok : ok = true ∨ f.setup.settings.driver.onActivationFailure = .proceed) :
      Act .endCall
        (((f.endCall call).dropTimer timer).runLoop { s with activatedAt := some f.now })
  | skipped (s : Session) (timer : TimerId) (call : Call)
      (hs : f.session = some s) (hst : s.stage = .activating timer) (hend : f.CanEnd call)
      (hkind : call.kind = .add) (hresult : call.result = .returned false)
      (hskip : f.setup.settings.driver.onActivationFailure = .skipCycle) :
      Act .endCall
        (((f.endCall call).dropTimer timer).setSession
          { s with activatedAt := some f.now, stage := .skipping (.start false f.now) })
  | addPanicked (s : Session) (timer : TimerId) (call : Call) (reason : String)
      (hs : f.session = some s) (hst : s.stage = .activating timer) (hend : f.CanEnd call)
      (hkind : call.kind = .add) (hresult : call.result = .panicked reason) :
      Act .endCall ((f.endCall call).setSession { s with stage := .stranded timer })
  | driverRemoved (s : Session) (timer : TimerId) (loop : LoopPhase) (call : Call)
      (hs : f.session = some s) (hst : s.stage = .running (.removing timer) loop)
      (hend : f.CanEnd call) (hkind : call.kind = .remove)
      (hresult : call.result = .returned true) :
      Act .endCall
        ((f.endCall call).setSession
          { s with stage := .running (.removed timer) loop, isQuitting := true })
  | removalFailed (s : Session) (timer : TimerId) (loop : LoopPhase) (call : Call)
      (hs : f.session = some s) (hst : s.stage = .running (.removing timer) loop)
      (hend : f.CanEnd call) (hkind : call.kind = .remove)
      (hresult : call.result ≠ .returned true) :
      Act .endCall
        ((f.endCall call).transition { s with stage := .running (.failed timer) loop } .aborted)
  | stopped (call : Call) (hc : f.cycle = .stopping) (hend : f.CanEnd call)
      (hkind : call.kind = .stop) :
      Act .endCall
        { (f.endCall call).put ((f.endCall call).conduct.post .completed) with cycle := .finished }
  /-- A call ends that nobody waits for any more. -/
  | lateEnd (call : Call) (hc : f.cycle = .cancelled ∨ f.cycle = .panicked)
      (hend : f.CanEnd call) : Act .endCall (f.endCall call)

variable {f} in
theorem Act.cast {m : Move} {f' f'' : Scene} (h : f.Act m f') (heq : f'' = f') : f.Act m f'' :=
  heq ▸ h

/-! ## Everything that can happen -/

/-- Up to `time` nobody but the event loop has anything to do. -/
structure Rests (time : Nat) : Prop where
  le : f.now ≤ time
  timers : ∀ a ∈ f.coordinator.timers.armed, f.now < a.deadline ∧ time ≤ a.deadline
  posted : f.coordinator.isRunning = true → f.coordinator.posted = []
  signals : f.coordinator.isRunning = true → f.coordinator.signalsOpen = true →
    f.coordinator.signals.receive.1 = .pending
  deciding : f.cycle ≠ .deciding
  waiting : ∀ wait, f.cycle = .waiting wait →
    f.coordinator.stop.isOver = false ∧ f.now < wait.due ∧ time ≤ wait.due
  skipping : ∀ s wait, f.session = some s → s.stage = .skipping wait →
    f.coordinator.stop.isOver = false ∧ f.now < wait.due ∧ time ≤ wait.due
  listening : ∀ s loop, f.session = some s → s.stage = .running .listening loop →
    s.quit.answer? = none
  removed : ∀ s timer, f.session = some s → s.stage ≠ .running (.removed timer) .returned
  forwarding : f.coordinator.stop.isOver = true →
    ∀ child ∈ f.children, child.task ≠ .forwardStop
  watching : ∀ child ∈ f.children, ∀ wait, child.task = .watchRemoval wait →
    f.now < wait.due ∧ time ≤ wait.due
  calls : ∀ call ∈ f.calls, ∀ e, call.ends = some e → f.now < e ∧ time ≤ e

/-- The reason to quit that something that happens raises in session `n`, if any: the watcher of
that session looks and the device is gone, or its forwarder finds the stop flag up. -/
def raises? (n : SessionId) : Occurrence → Option QuitReason
  | .move .watchRemoval =>
    if (∃ child ∈ f.children, child.session = n ∧ (child.dueLook? f.now).isSome = true) ∧
        f.sees = false then some .deviceRemoved
    else none
  | .move .forwardStop =>
    if (∃ child ∈ f.children, child.session = n ∧ child.task = .forwardStop) ∧
        f.coordinator.stop.isRaised = true then some .shutdown
    else none
  | _ => none

/-- Everything that anything that happens can make of a scene. -/
inductive Step : Occurrence → Scene → Prop where
  /-- Nothing happens that concerns the scene. -/
  | stay (o : Occurrence) (h : ∀ n, f.raises? n o = none) : Step o f
  | files (t : FileTree) : Step (.files t) { f with files := t }
  | signal (s : Signal) (b : SignalBuffer) : Step (.signal s) (f.put (f.conduct.setSignals b))
  | closeSignals (b : SignalBuffer) : Step .closeSignals (f.put (f.conduct.setSignals b))
  | pass (time : Nat) (h : f.Rests time) : Step (.pass time) { f with now := time }
  | act {m : Move} {f' : Scene} (h : f.Act m f') : Step (.move m) f'

end Scene

end Hotplug
