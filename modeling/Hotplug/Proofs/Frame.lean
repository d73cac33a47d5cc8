import Hotplug.Proofs.Conduct
import Hotplug.World.Occurrence

/-!
# The frame of a world

The parts of a world that its conduct depends on, and what each operation does to them.
Everything else, the queue and the event loop above all, is free.

* `World.frame` — these parts of a world.
* `Frame.conduct` — the conduct of a run, as its frame shows it.
* `Frame.Orderly` — what the parts of a frame have to do with one another.
* `frame_beginCall`, `frame_endSession`, … — one law for each operation of a world.
-/

namespace Hotplug

/-- The parts of a world that its conduct depends on. -/
structure Frame where
  setup : Setup
  now : Nat
  outline : List (Nat × Happening)
  cycle : CyclePhase
  session : Option Session
  count : Nat
  calls : List Call
  coordinator : Coordinator

/-- The frame of a world. -/
def World.frame {L : EventLoop} (w : World L) : Frame where
  setup := w.setup
  now := w.now
  outline := w.chronicle.outline
  cycle := w.cycle
  session := w.session
  count := w.sessionCount
  calls := w.calls
  coordinator := w.coordinator

/-! ## The conduct that a frame shows -/

/-- Whether the event loop has returned. -/
def LoopPhase.isReturned (p : LoopPhase) : Bool :=
  p = .returned

/-- The duty that a session puts the supervisor at. -/
def Session.duty (s : Session) : Duty :=
  match s.stage with
  | .activating t => .adding s.id t
  | .stranded t => .stranded s.id t
  | .skipping _ => .skipping s.id
  | .running .listening loop => .serving s.id loop.isReturned
  | .running (.removing t) loop => .removing s.id t loop.isReturned
  | .running (.removed t) loop => .removed s.id t loop.isReturned
  | .running (.failed t) loop => .failed s.id t loop.isReturned

/-- The session once its event loop runs. -/
def Session.looped (s : Session) : Session :=
  { s with
    state := .running
    stage := .running .listening .active
    quit := { held := [true, true, true], listener := .listening } }

/-- The state that goes with what a session is doing. -/
def Stage.state : Stage → SessionState
  | activating _ | stranded _ | skipping _ => .activating
  | running .listening _ => .running
  | running (.removing _) _ | running (.removed _) _ => .removing
  | running (.failed _) _ => .aborted

namespace Frame

/-- What the supervisor is at. -/
def duty (f : Frame) : Duty :=
  match f.cycle with
  | .refused r => .refused r
  | .attended => .absent
  | .deciding | .waiting _ => .idle
  | .inSession => f.session.elim .absent Session.duty
  | .stopping => .stopping
  | .finished => .finished
  | .cancelled | .panicked => .cut (f.calls.head?.map (·.kind))

/-- The conduct of the run. -/
def conduct (f : Frame) : Conduct :=
  ⟨f.now, f.duty, f.count, f.coordinator, f.outline⟩

/-- The session that begins next. -/
def nextSession (f : Frame) : Session :=
  { id := f.count + 1
    state := .activating
    stage := .activating f.coordinator.timers.made }

/-- The coordinator with one more timer. -/
def withTimer (f : Frame) (delay : Nat) (t : Termination) : Coordinator :=
  let ts := f.coordinator.timers
  { f.coordinator with
    timers :=
      { ts with
        made := ts.made + 1
        armed := ts.armed ++ [⟨ts.made, f.now + delay, delay, t⟩] } }

/-- The timers without the one of a session that is cut off. -/
def timersAfterCut (f : Frame) : Timers :=
  match f.session.bind (·.stage.timer?) with
  | none => f.coordinator.timers
  | some id => f.coordinator.timers.drop id

/-- What the parts of a frame have to do with one another in a supervised run. -/
structure Orderly (f : Frame) : Prop where
  supervised : f.setup.isAttended = false
  notAttended : f.cycle ≠ .attended
  grace : f.coordinator.gracePeriod = f.setup.settings.shutdown.gracePeriod
  session_iff : f.session ≠ none ↔ f.cycle = .inSession
  session_id : ∀ s ∈ f.session, s.id = f.count
  session_state : ∀ s ∈ f.session, s.state = s.stage.state
  waiting : ∀ wait, f.cycle = .waiting wait → wait.desired = true
  skipping : ∀ s ∈ f.session, ∀ wait, s.stage = .skipping wait → wait.desired = false
  calls : f.calls.map (·.kind) = f.duty.call?.toList

end Frame

/-! ## The laws of the operations -/

namespace World

variable {L : EventLoop} (w : World L)

@[simp] theorem now_frame : w.frame.now = w.now := rfl

/-- What is neither in the frame nor in the outline does not matter to the frame. -/
theorem frame_congr {v : World L} (hsetup : v.setup = w.setup) (hnow : v.now = w.now)
    (hout : v.chronicle.outline = w.chronicle.outline) (hcycle : v.cycle = w.cycle)
    (hsession : v.session = w.session) (hcount : v.sessionCount = w.sessionCount)
    (hcalls : v.calls = w.calls) (hk : v.coordinator = w.coordinator) : v.frame = w.frame := by
  simp only [frame, hsetup, hnow, hout, hcycle, hsession, hcount, hcalls, hk]

/-- A message does not matter to the frame, unless it says that the event loop panicked. -/
theorem frame_log (m : Message) (s : Option SessionId) (hm : m.isLoopPanic = false) :
    (w.write (·.log m s)).frame = w.frame := by
  simp [write, frame, World.now, hm]

theorem frame_record (h : Happening) (hh : h.isOutline = true) :
    (w.write (·.record h)).frame = { w.frame with outline := (w.now, h) :: w.frame.outline } := by
  simp [write, frame, World.now, hh]

@[simp] theorem frame_dropManager : w.dropManager.frame = w.frame := rfl

@[simp] theorem frame_dropHeldManager : w.dropHeldManager.frame = w.frame := by
  unfold dropHeldManager
  split <;> rfl

@[simp] theorem frame_dropConsumers : w.dropConsumers.frame = w.frame := by
  apply frame_congr <;> simp [dropConsumers, World.now]

@[simp] theorem frame_driveLoopback (k : CallKind) : (w.driveLoopback k).frame = w.frame := by
  unfold driveLoopback
  split
  · rfl
  · cases k <;> apply frame_congr <;>
      simp [World.now, World.write, Happening.isOutline]

/-- The call that begins next. -/
def nextCall (k : CallKind) : Call :=
  let b := w.setup.library.behaviour k (Tally.count k w.callCount)
  ⟨k, b.hold.map (w.now + ·), b.result⟩

theorem frame_beginCall (k : CallKind) :
    (w.beginCall k).frame =
      { w.frame with
        outline := (w.now, .callBegan k) :: w.frame.outline
        calls := w.calls ++ [w.nextCall k] } := by
  have h := (frame_driveLoopback (w.write (·.record (.callBegan k))) k).trans
    (frame_record w (.callBegan k) rfl)
  simp only [frame, World.now, Frame.mk.injEq] at h
  obtain ⟨hsetup, hnow, hout, hcycle, hsession, hcount, hcalls, hk⟩ := h
  simp [beginCall, nextCall, frame, World.now, hsetup, hnow, hout, hcycle, hsession, hcount,
    hcalls, hk]

theorem frame_setSession (s : Session) :
    (w.setSession s).frame = { w.frame with session := some s } := rfl

theorem frame_transition (s : Session) (next : SessionState) :
    (w.transition s next).frame =
      { w.frame with
        outline := (w.now, .stateChanged s.id s.state next) :: w.frame.outline
        session := some { s with state := next } } := by
  rw [transition, frame_setSession, frame_record _ _ rfl]

theorem frame_cancelTimer (id : TimerId) (t : Termination) :
    (w.cancelTimer id t).frame =
      { w.frame with
        coordinator := { w.coordinator with timers := w.coordinator.timers.drop id } } := by
  simp [cancelTimer, Timers.cancel, frame, World.now, Message.isLoopPanic]

/-! ## Sessions -/

theorem frame_startSession :
    w.startSession.frame =
      { w.frame with
        outline := (w.frame.now, .callBegan .add) ::
          (w.frame.now, .timerArmed w.frame.coordinator.timers.made .driverActivationTimeout) ::
          (w.frame.now, .stateChanged (w.frame.count + 1) .inactive .activating) ::
          w.frame.outline
        cycle := .inSession
        session := some w.frame.nextSession
        count := w.frame.count + 1
        calls := w.frame.calls ++ [w.nextCall .add]
        coordinator := w.frame.withTimer w.frame.setup.settings.driver.activationTimeout
          .driverActivationTimeout } := by
  rw [startSession, frame_beginCall]
  simp only [frame, armTimer, Timers.arm, World.now, write, Frame.nextSession, Frame.withTimer,
    nextCall]
  simp [Happening.isOutline]

theorem frame_runLoop (s : Session) :
    (w.runLoop s).frame =
      { w.frame with
        outline := (w.now, .loopStarted s.id w.setup.device) ::
          (w.now, .stateChanged s.id s.state .running) :: w.frame.outline
        session := some s.looped } := by
  simp only [runLoop, frame, transition, setSession, write, World.now, Session.looped]
  simp [Happening.isOutline]

theorem frame_requestRemoval (s : Session) (loop : LoopPhase) (r : QuitReason) :
    (w.requestRemoval s loop r).frame =
      { w.frame with
        outline := (w.frame.now, .callBegan .remove) ::
          (w.frame.now, .stateChanged s.id .removalRequested .removing) ::
          (w.frame.now, .timerArmed w.frame.coordinator.timers.made .driverRemovalTimeout) ::
          (w.frame.now, .stateChanged s.id s.state .removalRequested) :: w.frame.outline
        session := some
          { s with
            state := .removing
            stage := .running (.removing w.frame.coordinator.timers.made) loop }
        calls := w.frame.calls ++ [w.nextCall .remove]
        coordinator := w.frame.withTimer w.frame.setup.settings.driver.removalTimeout
          .driverRemovalTimeout } := by
  rw [requestRemoval, frame_beginCall]
  simp only [frame, armTimer, Timers.arm, World.now, write, transition, setSession,
    Frame.withTimer, nextCall]
  simp [Happening.isOutline, Message.isLoopPanic]

theorem frame_reply (s : Session) (executor : Executor) (r : Reply) :
    (w.reply s executor r).frame =
      { w.frame with session := some { s with stage := .running executor .active } } := by
  simp [reply, frame, write, World.now, Happening.isOutline]

theorem frame_removalFailed (s : Session) (timer : TimerId) (loop : LoopPhase) (m : Message)
    (hm : m.isLoopPanic = false) :
    (w.removalFailed s timer loop m).frame =
      { w.frame with
        outline := (w.now, .stateChanged s.id s.state .aborted) :: w.frame.outline
        session := some { s with stage := .running (.failed timer) loop, state := .aborted } } := by
  rw [removalFailed, frame_transition, frame_log _ _ _ hm]
  rfl

@[simp] theorem frame_discardStale (id : SessionId) : (w.discardStale id).frame = w.frame := by
  have hfold : ∀ (ns : List Notification) (c : Chronicle),
      (ns.foldl (fun c n => (c.log (.staleDiscarded n.event) id).release n) c).now = c.now ∧
        (ns.foldl (fun c n => (c.log (.staleDiscarded n.event) id).release n) c).outline =
          c.outline := by
    intro ns
    induction ns with
    | nil => exact fun c => ⟨rfl, rfl⟩
    | cons n ns ih =>
      intro c
      obtain ⟨hnow, hout⟩ := ih ((c.log (.staleDiscarded n.event) id).release n)
      exact ⟨by simpa using hnow, by simpa [Message.isLoopPanic] using hout⟩
  obtain ⟨hnow, hout⟩ := hfold w.queue.items w.chronicle
  apply frame_congr <;> simp only [discardStale, World.now]
  · split <;> simp [hnow]
  · split <;> simp [hout, Message.isLoopPanic]

theorem frame_endSession (s : Session) (hs : w.setup.isAttended = false) :
    (w.endSession s).frame =
      { w.frame with
        outline := (w.now, .stateChanged s.id s.state .removed) :: w.frame.outline
        session := none
        cycle := .deciding } := by
  have h := frame_transition (w.discardStale s.id) s .removed
  rw [frame_discardStale] at h
  simp only [frame, World.now, Frame.mk.injEq] at h
  obtain ⟨hsetup, hnow, hout, hcycle, hsession, hcount, hcalls, hk⟩ := h
  have hd := frame_discardStale w s.id
  simp only [frame, World.now, Frame.mk.injEq] at hd
  simp [endSession, dropChildren, write, frame, World.now, Message.isLoopPanic, hsetup, hnow, hout,
    hcount, hcalls, hk, hs, hd.2.1]

theorem frame_abandonSession :
    w.abandonSession.frame =
      { w.frame with
        session := none
        coordinator := { w.coordinator with timers := w.frame.timersAfterCut } } := by
  unfold abandonSession Frame.timersAfterCut
  cases hs : w.session with
  | none => simp [frame, World.now, hs]
  | some s =>
    simp only [frame, hs, Option.bind_some]
    cases s.stage.timer? <;> rfl

end World

end Hotplug
