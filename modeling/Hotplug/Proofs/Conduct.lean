import Hotplug.Proofs.Outline
import Hotplug.Settings.Basic
import Hotplug.World.Basic

/-!
# The conduct of a run

What a supervised run does, apart from what its event loop and its notifications are about:
the time, what the supervisor is at, the coordinator, and the outline of what has happened.

The subject is the supervisor with its session controllers, its abort timers and the coordinator,
as far as the order and the time of what it does go.

* `Duty` — what the supervisor is at.
* `Guard` — the two operations of a session that a timer watches over.
* `Conduct` — the conduct of a run at a moment.
* `Conduct.Step` — everything that can become of it in one step.
-/

namespace Hotplug

/-! ## Duties -/

/-- What the supervisor of a run is at.  A duty within a session has the number of the
session, the timer that watches over it, and whether the event loop has returned. -/
inductive Duty where
  /-- The library gave out no manager. -/
  | refused (r : Refusal)
  /-- There is no supervisor. -/
  | absent
  /-- No session is under way, and none has to be. -/
  | idle
  | adding (n : SessionId) (timer : TimerId)
  /-- Adding the driver panicked. -/
  | stranded (n : SessionId) (timer : TimerId)
  /-- The driver was refused, and the device has to go away before the next session. -/
  | skipping (n : SessionId)
  | serving (n : SessionId) (isOver : Bool)
  | removing (n : SessionId) (timer : TimerId) (isOver : Bool)
  /-- The driver is removed, and the event loop has to return. -/
  | removed (n : SessionId) (timer : TimerId) (isOver : Bool)
  | failed (n : SessionId) (timer : TimerId) (isOver : Bool)
  | stopping
  | finished
  /-- The run was ended, or the event loop panicked.  A call may still be busy. -/
  | cut (call : Option CallKind)
  deriving DecidableEq, Repr

/-- An operation of a session that a timer watches over. -/
inductive Guard where
  | activation
  | removal
  deriving DecidableEq, Repr

namespace Guard

/-- What the timer asks for when the operation takes too long. -/
def termination : Guard → Termination
  | activation => .driverActivationTimeout
  | removal => .driverRemovalTimeout

theorem termination_ne_shutdownTimeout (p : Guard) : p.termination ≠ .shutdownTimeout := by
  cases p <;> rintro ⟨⟩

/-- How long the operation may take. -/
def timeout (g : Settings) : Guard → Nat
  | activation => g.driver.activationTimeout
  | removal => g.driver.removalTimeout

/-- The state that a session enters with the operation. -/
def entry (n : SessionId) : Guard → Happening
  | activation => .stateChanged n .inactive .activating
  | removal => .stateChanged n .removalRequested .removing

/-- The library call of the operation. -/
def call : Guard → CallKind
  | activation => .add
  | removal => .remove

/-- What happens as session `n` begins the operation under the timer `id`. -/
def beginnings (n : SessionId) (id : TimerId) (p : Guard) : List Happening :=
  [p.entry n, .timerArmed id p.termination, .callBegan p.call]

/-- What it takes for the operation of session `n` to be done: the call to add the driver has
returned, or the session is removed. -/
def IsDone (n : SessionId) : Guard → Happening → Prop
  | activation, h => ∃ ok, h = .callEnded .add (.returned ok)
  | removal, h => ∃ s, h = .stateChanged n s .removed

end Guard

namespace Duty

/-- Whether the supervisor's own loop is still under way. -/
def isActive : Duty → Bool
  | refused _ | absent | finished | cut _ => false
  | _ => true

/-- Whether no session is under way, and none has to be. -/
def isIdle : Duty → Bool
  | idle => true
  | _ => false

/-- Whether the supervisor stops the manager, or has done so. -/
def isEnding : Duty → Bool
  | stopping | finished => true
  | _ => false

/-- The session under way. -/
def session? : Duty → Option SessionId
  | adding n _ | stranded n _ | skipping n => some n
  | serving n _ | removing n _ _ | removed n _ _ | failed n _ _ => some n
  | _ => none

/-- The library call under way. -/
def call? : Duty → Option CallKind
  | adding .. => some .add
  | removing .. => some .remove
  | stopping => some .stop
  | cut call => call
  | _ => none

/-- The operation that a timer watches over, with the session and the timer. -/
def guard? : Duty → Option (Guard × SessionId × TimerId)
  | adding n t | stranded n t => some (.activation, n, t)
  | removing n t _ | removed n t _ | failed n t _ => some (.removal, n, t)
  | _ => none

/-- The timer of the session. -/
def timer? (d : Duty) : Option TimerId :=
  d.guard?.map (·.2.2)

theorem timer?_of_guard? {d : Duty} {p : Guard} {n : SessionId} {id : TimerId}
    (h : d.guard? = some (p, n, id)) : d.timer? = some id := by
  simp [timer?, h]

/-- The session whose event loop is under way. -/
def looping? : Duty → Option SessionId
  | serving n false | removing n _ false | removed n _ false | failed n _ false => some n
  | _ => none

/-- The duty once the event loop has returned. -/
def afterLoop : Duty → Duty
  | serving n _ => serving n true
  | removing n t _ => removing n t true
  | removed n t _ => removed n t true
  | failed n t _ => failed n t true
  | d => d

/-- The duty once the supervisor's own loop was cut off, if that was under way. -/
def afterCut (d : Duty) : Duty :=
  if d.isActive then cut d.call? else d

theorem afterCut_of_isActive {d : Duty} (h : d.isActive = true) : d.afterCut = cut d.call? :=
  if_pos h

theorem afterCut_of_not_isActive {d : Duty} (h : ¬ d.isActive = true) : d.afterCut = d :=
  if_neg h

@[simp] theorem isActive_afterCut (d : Duty) : d.afterCut.isActive = false := by
  cases d <;> rfl

theorem isEnding_afterCut {d : Duty} (h : d.isActive = true) : d.afterCut.isEnding = false := by
  rw [afterCut_of_isActive h]
  rfl

theorem isEnding_of_afterCut {d : Duty} (h : d.afterCut.isEnding = true) : d.isEnding = true := by
  by_cases hd : d.isActive = true
  · rw [isEnding_afterCut hd] at h
    cases h
  · rwa [afterCut_of_not_isActive hd] at h

@[simp] theorem guard?_afterCut (d : Duty) : d.afterCut.guard? = none := by
  cases d <;> rfl

@[simp] theorem call?_afterCut (d : Duty) : d.afterCut.call? = d.call? := by
  cases d <;> rfl

@[simp] theorem timer?_afterCut (d : Duty) : d.afterCut.timer? = none := by
  cases d <;> rfl

@[simp] theorem guard?_afterLoop (d : Duty) : d.afterLoop.guard? = d.guard? := by
  cases d <;> rfl

@[simp] theorem timer?_afterLoop (d : Duty) : d.afterLoop.timer? = d.timer? := by
  cases d <;> rfl

/-- An event loop is under way only as long as the supervisor's own loop is. -/
theorem isActive_of_looping? {d : Duty} {n : SessionId} (h : d.looping? = some n) :
    d.isActive = true := by
  cases d <;> first | rfl | cases h

theorem session?_of_looping? {d : Duty} {n : SessionId} (h : d.looping? = some n) :
    d.session? = some n := by
  cases d with
  | serving _ isOver | removing _ _ isOver | removed _ _ isOver | failed _ _ isOver =>
    cases isOver <;> simp_all [looping?, session?]
  | _ => cases h

/-- The session goes on when its event loop returns. -/
theorem session?_afterLoop {d : Duty} {n : SessionId} (h : d.looping? = some n) :
    d.afterLoop.session? = some n := by
  cases d with
  | serving _ isOver | removing _ _ isOver | removed _ _ isOver | failed _ _ isOver =>
    cases isOver <;> simp_all [looping?, afterLoop, session?]
  | _ => cases h

theorem isIdle_of_session? {d : Duty} {n : SessionId} (h : d.session? = some n) :
    d.isIdle = false := by
  cases d <;> first | rfl | cases h

theorem isEnding_of_session? {d : Duty} {n : SessionId} (h : d.session? = some n) :
    d.isEnding = false := by
  cases d <;> first | rfl | cases h

theorem ne_finished_of_isActive {d : Duty} (h : d.isActive = true) : d ≠ .finished := by
  rintro rfl
  cases h

/-- A timer watches only as long as the supervisor's own loop is under way. -/
theorem timer?_of_not_isActive {d : Duty} (h : ¬ d.isActive = true) : d.timer? = none := by
  cases d <;> first | rfl | exact absurd rfl h

end Duty

/-! ## The conduct of a run -/

/-- The conduct of a run: the time, what the supervisor is at, how many sessions have begun,
the coordinator, and the outline of what has happened, newest first. -/
structure Conduct where
  now : Nat
  duty : Duty
  count : Nat
  coordinator : Coordinator
  outline : List (Nat × Happening)

namespace Conduct

/-- The timers that may still fire. -/
def armed (c : Conduct) : List AbortTimer :=
  c.coordinator.timers.armed

/-- Something happens now. -/
def tell (c : Conduct) (h : Happening) : Conduct :=
  { c with outline := (c.now, h) :: c.outline }

/-- The supervisor turns to another duty. -/
def turn (c : Conduct) (d : Duty) : Conduct :=
  { c with duty := d }

/-- The conduct with other timers. -/
def setTimers (c : Conduct) (ts : Timers) : Conduct :=
  { c with coordinator := { c.coordinator with timers := ts } }

/-- The conduct with other signals waiting. -/
def setSignals (c : Conduct) (b : SignalBuffer) : Conduct :=
  { c with coordinator := { c.coordinator with signals := b } }

/-- The coordinator polls the signals no more. -/
def ignoreSignals (c : Conduct) : Conduct :=
  { c with coordinator := c.coordinator.ignoreSignals }

/-- The number of the next timer. -/
def nextTimer (c : Conduct) : TimerId :=
  c.coordinator.timers.made

/-- Arms a timer. -/
def arm (c : Conduct) (delay : Nat) (t : Termination) : Conduct :=
  let ts := c.coordinator.timers
  (c.setTimers
    { ts with
      made := ts.made + 1
      armed := ts.armed ++ [⟨ts.made, c.now + delay, delay, t⟩] }).tell (.timerArmed ts.made t)

/-- Disarms a timer. -/
def disarm (c : Conduct) (id : TimerId) : Conduct :=
  c.setTimers (c.coordinator.timers.drop id)

/-- Disarms the timer of the session under way, if there is one. -/
def disarmDuty (c : Conduct) : Conduct :=
  c.setTimers (c.duty.timer?.elim c.coordinator.timers c.coordinator.timers.drop)

/-- Posts a termination. -/
def post (c : Conduct) (t : Termination) : Conduct :=
  let k := c.coordinator
  { c with
    coordinator := { k with posted := if k.isListening then k.posted ++ [t] else k.posted }
    outline := if k.isListening then (c.now, .terminationPosted t) :: c.outline else c.outline }

/-- A timer fires. -/
def fire (c : Conduct) (a : AbortTimer) : Conduct :=
  let ts := c.coordinator.timers
  ((c.setTimers { ts.drop a.id with fired := a.id :: ts.fired }).tell
    (.timerFired a.id a.termination)).post a.termination

/-- The supervisor's own loop is cut off, if it is under way. -/
def cutOff (c : Conduct) : Conduct :=
  c.disarmDuty.turn c.duty.afterCut

theorem cutOff_of_not_isActive {c : Conduct} (h : ¬ c.duty.isActive = true) : c.cutOff = c := by
  unfold cutOff disarmDuty
  rw [Duty.timer?_of_not_isActive h, Duty.afterCut_of_not_isActive h]
  rfl

/-- The coordinator decides. -/
def decide (c : Conduct) (t : Termination) : Conduct :=
  ({ c with coordinator := c.coordinator.conclude t }.tell (.terminated t)).cutOff

/-- The stop flag is raised. -/
def raiseStop (c : Conduct) : Conduct :=
  let k := c.coordinator
  { c with
    coordinator := { k with stop := k.stop.raise.2 }
    outline := if k.stop.isRaised then c.outline else (c.now, .stopRaised) :: c.outline }

/-- The coordinator awaits the end under the eyes of the grace timer. -/
def awaitEnd (c : Conduct) (grace : TimerId) : Conduct :=
  { c with coordinator := { c.coordinator with phase := .stopping grace } }

/-- A session begins. -/
def beginSession (c : Conduct) (g : Settings) : Conduct :=
  let n := c.count + 1
  ((({ c with count := n }.turn (.adding n c.nextTimer)).tell (Guard.activation.entry n)).arm
    g.driver.activationTimeout .driverActivationTimeout).tell (.callBegan .add)

/-- The event loop of session `n` begins, once the driver is added. -/
def serve (c : Conduct) (g : Settings) (n : SessionId) : Conduct :=
  ((c.turn (.serving n false)).tell (.stateChanged n .activating .running)).tell
    (.loopStarted n g.deviceId)

/-- Session `n` begins to remove the driver. -/
def beginRemoval (c : Conduct) (g : Settings) (n : SessionId) (isOver : Bool) : Conduct :=
  let c := (c.turn (.removing n c.nextTimer isOver)).tell
    (.stateChanged n .running .removalRequested)
  ((c.arm g.driver.removalTimeout .driverRemovalTimeout).tell (Guard.removal.entry n)).tell
    (.callBegan .remove)

/-- Session `n` ends, from the state `s`. -/
def endSession (c : Conduct) (n : SessionId) (s : SessionState) : Conduct :=
  (c.turn .idle).tell (.stateChanged n s .removed)

section Outline

variable (c : Conduct) (g : Settings)

@[simp] theorem outline_tell (h : Happening) : (c.tell h).outline = (c.now, h) :: c.outline := rfl

@[simp] theorem outline_turn (d : Duty) : (c.turn d).outline = c.outline := rfl

@[simp] theorem outline_setTimers (ts : Timers) : (c.setTimers ts).outline = c.outline := rfl

@[simp] theorem outline_setSignals (b : SignalBuffer) : (c.setSignals b).outline = c.outline := rfl

@[simp] theorem outline_ignoreSignals : c.ignoreSignals.outline = c.outline := rfl

@[simp] theorem outline_arm (delay : Nat) (t : Termination) :
    (c.arm delay t).outline = (c.now, .timerArmed c.nextTimer t) :: c.outline := rfl

@[simp] theorem outline_disarm (id : TimerId) : (c.disarm id).outline = c.outline := rfl

@[simp] theorem outline_cutOff : c.cutOff.outline = c.outline := rfl

@[simp] theorem outline_awaitEnd (grace : TimerId) : (c.awaitEnd grace).outline = c.outline := rfl

@[simp] theorem outline_beginSession :
    (c.beginSession g).outline =
      (c.now, .callBegan .add) :: (c.now, .timerArmed c.nextTimer .driverActivationTimeout) ::
        (c.now, .stateChanged (c.count + 1) .inactive .activating) :: c.outline := rfl

@[simp] theorem outline_serve (n : SessionId) :
    (c.serve g n).outline =
      (c.now, .loopStarted n g.deviceId) :: (c.now, .stateChanged n .activating .running) ::
        c.outline := rfl

@[simp] theorem outline_beginRemoval (n : SessionId) (isOver : Bool) :
    (c.beginRemoval g n isOver).outline =
      (c.now, .callBegan .remove) :: (c.now, .stateChanged n .removalRequested .removing) ::
        (c.now, .timerArmed c.nextTimer .driverRemovalTimeout) ::
          (c.now, .stateChanged n .running .removalRequested) :: c.outline := rfl

@[simp] theorem outline_endSession (n : SessionId) (s : SessionState) :
    (c.endSession n s).outline = (c.now, .stateChanged n s .removed) :: c.outline := rfl

end Outline

/-! ## Steps -/

/-- Everything that can become of the conduct of a run in one step. -/
inductive Step (g : Settings) : Conduct → Conduct → Prop where
  /-- Nothing happens that concerns the conduct. -/
  | quiet (c : Conduct) : Step g c c
  | look (c : Conduct) (seen : Bool) : Step g c (c.tell (.checked seen))
  /-- Signals come, or their sending side is given up. -/
  | signals (c : Conduct) (b : SignalBuffer) : Step g c (c.setSignals b)
  /-- The coordinator finds that no signal can come any more. -/
  | ignoreSignals (c : Conduct) : Step g c c.ignoreSignals
  | pass (c : Conduct) (time : Nat) (hle : c.now ≤ time)
      (hposted : c.coordinator.isRunning = true → c.coordinator.posted = [])
      (hdue : ∀ a ∈ c.armed, time ≤ a.deadline) : Step g c { c with now := time }
  | fire (c : Conduct) (a : AbortTimer) (ha : a ∈ c.armed) (hdue : a.deadline ≤ c.now) :
      Step g c (c.fire a)
  | decide (c : Conduct) (t : Termination) (rest : List Termination)
      (hrun : c.coordinator.isRunning = true) (hposted : c.coordinator.posted = t :: rest) :
      Step g c (c.decide t)
  | firstSignal (c : Conduct) (s : Signal) (b : SignalBuffer)
      (hphase : c.coordinator.phase = .awaitingSignal) :
      Step g c
        ((((c.setSignals b).tell (.signalTaken s)).raiseStop.arm g.shutdown.gracePeriod
          .shutdownTimeout).awaitEnd c.nextTimer)
  | secondSignal (c : Conduct) (s : Signal) (b : SignalBuffer) (grace : TimerId)
      (hphase : c.coordinator.phase = .stopping grace) :
      Step g c (((c.setSignals b).tell (.signalTaken s)).decide .repeatedSignal)
  | beginStop (c : Conduct) (hduty : c.duty = .idle) (hstop : c.coordinator.stop.isOver = true) :
      Step g c ((c.turn .stopping).tell (.callBegan .stop))
  | beginSession (c : Conduct) (hduty : c.duty = .idle)
      (hstop : c.coordinator.stop.isOver = false) :
      Step g c ((c.tell (.checked true)).beginSession g)
  /-- The driver is added, or it does not matter that it is not. -/
  | added (c : Conduct) (n : SessionId) (timer : TimerId) (ok : Bool)
      (hduty : c.duty = .adding n timer)
      (hok : ok = true ∨ g.driver.onActivationFailure = .proceed) :
      Step g c (((c.tell (.callEnded .add (.returned ok))).disarm timer).serve g n)
  | skipped (c : Conduct) (n : SessionId) (timer : TimerId) (hduty : c.duty = .adding n timer)
      (hskip : g.driver.onActivationFailure = .skipCycle) :
      Step g c (((c.tell (.callEnded .add (.returned false))).disarm timer).turn (.skipping n))
  | addPanicked (c : Conduct) (n : SessionId) (timer : TimerId) (reason : String)
      (hduty : c.duty = .adding n timer) :
      Step g c ((c.tell (.callEnded .add (.panicked reason))).turn (.stranded n timer))
  /-- A session that skips a refused driver ends with the stop flag. -/
  | skipStopped (c : Conduct) (n : SessionId) (hduty : c.duty = .skipping n)
      (hstop : c.coordinator.stop.isOver = true) : Step g c (c.endSession n .activating)
  /-- A session that skips a refused driver ends as the device is gone. -/
  | skipEnded (c : Conduct) (n : SessionId) (hduty : c.duty = .skipping n) :
      Step g c ((c.tell (.checked false)).endSession n .activating)
  | beginRemoval (c : Conduct) (n : SessionId) (isOver : Bool)
      (hduty : c.duty = .serving n isOver) : Step g c (c.beginRemoval g n isOver)
  | driverRemoved (c : Conduct) (n : SessionId) (timer : TimerId) (isOver : Bool)
      (hduty : c.duty = .removing n timer isOver) :
      Step g c
        ((c.tell (.callEnded .remove (.returned true))).turn (.removed n timer isOver))
  | removalFailed (c : Conduct) (n : SessionId) (timer : TimerId) (isOver : Bool) (r : CallResult)
      (hduty : c.duty = .removing n timer isOver) (hr : r ≠ .returned true) :
      Step g c
        (((c.tell (.callEnded .remove r)).turn (.failed n timer isOver)).tell
          (.stateChanged n .removing .aborted))
  | sessionEnded (c : Conduct) (n : SessionId) (timer : TimerId)
      (hduty : c.duty = .removed n timer true) :
      Step g c ((c.disarm timer).endSession n .removing)
  | loopEnded (c : Conduct) (n : SessionId) (hloop : c.duty.looping? = some n) :
      Step g c ((c.turn c.duty.afterLoop).tell (.loopEnded n))
  | loopPanicked (c : Conduct) (n : SessionId) (reason : String)
      (hloop : c.duty.looping? = some n) :
      Step g c ((c.cutOff.tell (.logged (.loopPanicked reason) none)).post .supervisorPanicked)
  | stopped (c : Conduct) (r : CallResult) (hduty : c.duty = .stopping) :
      Step g c (((c.tell (.callEnded .stop r)).post .completed).turn .finished)
  /-- A call ends that nobody waits for any more. -/
  | lateEnd (c : Conduct) (k : CallKind) (r : CallResult) (hduty : c.duty = .cut (some k)) :
      Step g c ((c.tell (.callEnded k r)).turn (.cut none))

end Conduct

end Hotplug
