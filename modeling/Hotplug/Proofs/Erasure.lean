import Hotplug.Proofs.Veil

/-!
# Erasures

Two runs may differ in much that does not matter to one another's course.  An erasure leaves out
what two worlds may differ in; the operations of a world respect it.

* `Erasure` — what is left of each part of a world.
* `Erasure.world` — what is left of a world, which is again a world.
* `Erasure.Lawful` — an erasure that lets the supervisor, the coordinator and the calls be.
* `Erasure.Lawful.beginCall`, `Erasure.Lawful.endSession`, … — one law for each operation.
-/

namespace Hotplug

/-- What is left of each part of a world.  Neither the coordinator nor the supervisor's own loop
has anything to leave out. -/
structure Erasure (L M : EventLoop) where
  veil : Veil
  library : Library → Library
  files : FileTree → FileTree
  queue : Queue → Queue
  loop : L.State → M.State
  held : List Notification → List Notification
  wait : PresenceWait → PresenceWait
  phase : LoopPhase → LoopPhase
  quit : QuitRequest → QuitRequest
  children : List Child → List Child

namespace Erasure

variable {L M : EventLoop}

/-- What is left of what a session is doing. -/
def stage (E : Erasure L M) : Stage → Stage
  | .activating timer => .activating timer
  | .stranded timer => .stranded timer
  | .skipping wait => .skipping (E.wait wait)
  | .running executor loop => .running executor (E.phase loop)

/-- What is left of a session. -/
def session (E : Erasure L M) (s : Session) : Session :=
  { s with stage := E.stage s.stage, quit := E.quit s.quit }

/-- What is left of what is fixed about a run. -/
def setup (E : Erasure L M) (s : Setup) : Setup :=
  { s with library := E.library s.library }

/-- What is left of a world. -/
def world (E : Erasure L M) (w : World L) : World M where
  setup := E.setup w.setup
  chronicle := E.veil.chronicle w.chronicle
  files := E.files w.files
  coordinator := w.coordinator
  queue := E.queue w.queue
  loop := E.loop w.loop
  held := E.held w.held
  cycle := w.cycle
  session := w.session.map E.session
  sessionCount := w.sessionCount
  children := E.children w.children
  manager := w.manager
  calls := w.calls
  callCount := w.callCount

@[simp] theorem timer?_stage (E : Erasure L M) (st : Stage) : (E.stage st).timer? = st.timer? := by
  cases st with
  | running executor loop => cases executor <;> rfl
  | _ => rfl

end Erasure

/-- Whether a happening is one that the supervisor brings about: a session changes its state, a
call begins or ends, or there is a line in the log about it. -/
def Happening.isSupervision : Happening → Bool
  | stateChanged .. | callBegan _ | callEnded .. => true
  | logged (.stoppingManager) _ | logged (.sessionEnded _) _ => true
  | logged (.activationFailedProceeding) _ | logged (.activationFailedSkipping) _ => true
  | logged (.addPanicked _) _ | logged (.removalFailed) _ | logged (.removalPanicked _) _ => true
  | logged (.stopPanicked _) _ => true
  | _ => false

namespace World

variable {L : EventLoop}

/-- What is left to do at the end of a session that is removed: it is counted, and the tasks
beside it end. -/
def settleSession (w : World L) (s : Session) : World L :=
  let elapsed := w.now - s.activatedAt.getD w.now
  let w := w.write fun c =>
    (c.measure fun m =>
      { m with
        sessionsRemoved := m.sessionsRemoved + 1
        durations := m.durations ++ [elapsed] }).log (.sessionEnded elapsed) s.id
  let w := w.dropChildren s.id
  { w with
    session := none
    cycle := if w.setup.isAttended then .attended else .deciding }

theorem endSession_eq (w : World L) (s : Session) :
    w.endSession s =
      ((w.discardStale s.id).transition s .removed).settleSession { s with state := .removed } :=
  rfl

/-- What a session does once it is asked to quit, and has said why. -/
def removeDriver (w : World L) (s : Session) (loop : LoopPhase) : World L :=
  let w := w.transition s .removalRequested
  let (timer, w) :=
    w.armTimer w.setup.settings.driver.removalTimeout .driverRemovalTimeout
  let w := w.transition { s with state := .removalRequested } .removing
  (w.setSession { s with state := .removing, stage := .running (.removing timer) loop }).beginCall
    .remove

theorem requestRemoval_eq (w : World L) (s : Session) (loop : LoopPhase) (r : QuitReason) :
    w.requestRemoval s loop r =
      (w.write (·.log (.quitRequested r) s.id)).removeDriver s loop :=
  rfl

end World

namespace Erasure

variable {L M : EventLoop} (E : Erasure L M)

/-- An erasure that lets the supervisor, the coordinator and the calls be. -/
structure Lawful : Prop where
  candid : E.veil.Candid
  supervision : ∀ h : Happening, h.isSupervision = true → E.veil.shows h = some h
  started : ∀ m, E.veil.metrics { m with sessionsStarted := m.sessionsStarted + 1 } =
    { E.veil.metrics m with sessionsStarted := (E.veil.metrics m).sessionsStarted + 1 }
  ended : ∀ (elapsed : Nat) (m : Metrics),
    E.veil.metrics
        { m with
          sessionsRemoved := m.sessionsRemoved + 1
          durations := m.durations ++ [elapsed] } =
      { E.veil.metrics m with
        sessionsRemoved := (E.veil.metrics m).sessionsRemoved + 1
        durations := (E.veil.metrics m).durations ++ [elapsed] }
  /-- A call takes as long as it did, and ends as it did. -/
  hold : ∀ l k n, ((E.library l).behaviour k n).hold = (l.behaviour k n).hold
  result : ∀ l k n, ((E.library l).behaviour k n).result = (l.behaviour k n).result
  reports : ∀ l k n q c,
    ((E.queue q).deliverAll (E.veil.chronicle c) ((E.library l).behaviour k n).reports).2 =
      (E.queue (q.deliverAll c (l.behaviour k n).reports).2.1,
        E.veil.chronicle (q.deliverAll c (l.behaviour k n).reports).2.2)
  driveLoopback : ∀ (w : World L) k, E.world (w.driveLoopback k) = (E.world w).driveLoopback k
  dropSender : ∀ q i, E.queue (q.dropSender i).2 = ((E.queue q).dropSender i).2
  dropConsumers : ∀ w : World L, E.world w.dropConsumers = (E.world w).dropConsumers
  discardStale : ∀ (w : World L) n, E.world (w.discardStale n) = (E.world w).discardStale n
  dropChildren : ∀ (n : SessionId) (cs : List Child),
    E.children (cs.filter (·.session ≠ n)) = (E.children cs).filter (·.session ≠ n)

namespace Lawful

variable {E} (w : World L)

/-- Nothing is left of a session that changes in what is left out. -/
theorem keepSession {s s' : Session} (hs : w.session = some s)
    (hss : E.session s' = E.session s) : E.world (w.setSession s') = E.world w := by
  have hsession : (E.world w).session = some (E.session s) := by
    rw [show (E.world w).session = w.session.map E.session from rfl, hs, Option.map_some]
  have hset : E.world (w.setSession s') = { E.world w with session := some (E.session s') } := rfl
  rw [hset, hss, ← hsession]

/-! ## The chronicle -/

theorem record {x : Happening} (hx : E.veil.shows x = some x) :
    E.world (w.write (·.record x)) = (E.world w).write (·.record x) :=
  congrArg (fun c => { E.world w with chronicle := c }) (Veil.record_of_shows hx)

theorem record_of_hides {x : Happening} (hx : E.veil.shows x = none) :
    E.world (w.write (·.record x)) = E.world w :=
  congrArg (fun c => { E.world w with chronicle := c }) (Veil.record_of_hides hx)

theorem measure {f : Metrics → Metrics} (hf : ∀ m, E.veil.metrics (f m) = f (E.veil.metrics m)) :
    E.world (w.write (·.measure f)) = (E.world w).write (·.measure f) :=
  congrArg (fun c => { E.world w with chronicle := c }) (Veil.measure hf)

theorem setSession (s : Session) :
    E.world (w.setSession s) = (E.world w).setSession (E.session s) := rfl

variable (h : E.Lawful)
include h

theorem tell {x : Happening} (hx : x.isSupervision = true) :
    E.world (w.write (·.record x)) = (E.world w).write (·.record x) :=
  record w (h.supervision x hx)

theorem log {m : Message} {s : Option SessionId}
    (hm : (Happening.logged m s).isSupervision = true) :
    E.world (w.write (·.log m s)) = (E.world w).write (·.log m s) :=
  tell w h hm

theorem transition (s : Session) (next : SessionState) :
    E.world (w.transition s next) = (E.world w).transition (E.session s) next := by
  have htell := tell w h (x := .stateChanged s.id s.state next) rfl
  exact congrArg (fun v : World M => v.setSession (E.session { s with state := next })) htell

/-! ## Timers -/

theorem armTimer (delay : Nat) (t : Termination) :
    (E.world w).armTimer delay t =
      ((w.armTimer delay t).1, E.world (w.armTimer delay t).2) := by
  unfold World.armTimer
  rw [show (E.world w).chronicle = E.veil.chronicle w.chronicle from rfl, h.candid.arm]
  rfl

theorem cancelTimer (id : TimerId) (t : Termination) :
    E.world (w.cancelTimer id t) = (E.world w).cancelTimer id t := by
  have hid : (E.world w).sessionId? = w.sessionId? := by
    unfold World.sessionId?
    rw [show (E.world w).session = w.session.map E.session from rfl, Option.map_map]
    rfl
  unfold World.cancelTimer
  rw [hid, show (E.world w).chronicle = E.veil.chronicle w.chronicle from rfl, h.candid.cancel]
  rfl

/-! ## Calls -/

theorem beginCall (k : CallKind) : E.world (w.beginCall k) = (E.world w).beginCall k := by
  let n := Tally.count k w.callCount
  let v := (w.write (·.record (.callBegan k))).driveLoopback k
  have hv : ((E.world w).write (·.record (.callBegan k))).driveLoopback k = E.world v := by
    rw [← tell w h rfl, ← h.driveLoopback]
  have hreports := h.reports w.setup.library k n v.queue v.chronicle
  unfold World.beginCall
  simp only [hv]
  simp only [Erasure.world, Erasure.setup] at hreports ⊢
  simp only [hreports, h.hold, h.result, n]
  rfl

theorem dropManager : E.world w.dropManager = (E.world w).dropManager :=
  congrArg (fun q => { E.world w with manager := .gone, queue := q }) (h.dropSender w.queue 0)

theorem dropHeldManager : E.world w.dropHeldManager = (E.world w).dropHeldManager := by
  unfold World.dropHeldManager
  rw [show (E.world w).manager = w.manager from rfl]
  split
  · exact dropManager w h
  · rfl

/-! ## The end of a session -/

theorem abandonSession : E.world w.abandonSession = (E.world w).abandonSession := by
  unfold World.abandonSession
  rw [show (E.world w).session = w.session.map E.session from rfl]
  cases hs : w.session with
  | none => rfl
  | some s =>
    simp only [Option.map_some, Erasure.session, timer?_stage, World.dropChildren, Erasure.world,
      h.dropChildren, Option.map_none]

theorem cancelCycle : E.world w.cancelCycle = (E.world w).cancelCycle := by
  unfold World.cancelCycle
  rw [show (E.world w).cycle = w.cycle from rfl]
  have hcut : E.world w.abandonSession.dropConsumers.dropHeldManager =
      (E.world w).abandonSession.dropConsumers.dropHeldManager := by
    rw [dropHeldManager _ h, h.dropConsumers, abandonSession w h]
  split
  · exact congrArg (fun v : World M => { v with cycle := CyclePhase.cancelled }) hcut
  · exact congrArg (fun v : World M => { v with cycle := CyclePhase.cancelled }) hcut
  · exact congrArg (fun v : World M => { v with cycle := CyclePhase.cancelled }) hcut
  · exact congrArg (fun v : World M => { v with cycle := CyclePhase.cancelled }) hcut
  · rfl

theorem leave (n : SessionId) : E.world (w.dropChildren n) = (E.world w).dropChildren n :=
  congrArg (fun cs => { E.world w with children := cs }) (h.dropChildren n w.children)

theorem settleSession (s : Session) :
    E.world (w.settleSession s) = (E.world w).settleSession (E.session s) := by
  let elapsed := w.now - s.activatedAt.getD w.now
  let f (m : Metrics) : Metrics :=
    { m with sessionsRemoved := m.sessionsRemoved + 1, durations := m.durations ++ [elapsed] }
  have hended : E.world ((w.write (·.measure f)).write (·.log (.sessionEnded elapsed) s.id)) =
      (((E.world w).write (·.measure f)).write (·.log (.sessionEnded elapsed) s.id)) := by
    rw [log _ h rfl, measure w (h.ended elapsed)]
  have hgone := (leave _ h s.id).trans (congrArg (·.dropChildren s.id) hended)
  exact congrArg (fun v : World M =>
    { v with
      session := none
      cycle := if v.setup.isAttended then CyclePhase.attended else CyclePhase.deciding }) hgone

/-- A session ends as removed. -/
theorem endSession (s : Session) :
    E.world (w.endSession s) = (E.world w).endSession (E.session s) := by
  rw [World.endSession_eq, World.endSession_eq, settleSession _ h, transition _ h, h.discardStale]
  rfl

/-- The driver could not be removed. -/
theorem removalFailed (s : Session) (timer : TimerId) (loop : LoopPhase) {m : Message}
    (hm : (Happening.logged m (some s.id)).isSupervision = true) :
    E.world (w.removalFailed s timer loop m) =
      (E.world w).removalFailed (E.session s) timer (E.phase loop) m := by
  unfold World.removalFailed
  rw [transition _ h, log _ h hm]
  rfl

/-! ## The coordinator -/

theorem coordinated (k : Coordinator) (c : Chronicle) :
    E.world (w.coordinated k c) = (E.world w).coordinated k (E.veil.chronicle c) := by
  unfold World.coordinated
  dsimp only
  rw [show (E.world w).setup.isAttended = w.setup.isAttended from rfl]
  split
  · rename_i t _ _
    have hlog : (Happening.logged (if t.status = .graceful then .finished t else .aborted t)
        none).isSteering = true := by
      split <;> rfl
    exact (record _ (h.candid.steering _ hlog)).trans
      (congrArg (·.write (·.log (if t.status = .graceful then .finished t else .aborted t)))
        (cancelCycle _ h))
  · rfl

theorem fireTimer? : (E.world w).fireTimer? = w.fireTimer?.map E.world := by
  unfold World.fireTimer?
  rw [show (E.world w).chronicle = E.veil.chronicle w.chronicle from rfl,
    show (E.world w).coordinator = w.coordinator from rfl, h.candid.fireTimer?, Option.map_map,
    Option.map_map]
  rfl

theorem decide? : (E.world w).decide? = w.decide?.map E.world := by
  unfold World.decide?
  rw [show (E.world w).chronicle = E.veil.chronicle w.chronicle from rfl,
    show (E.world w).coordinator = w.coordinator from rfl, h.candid.decidePosted?, Option.map_map,
    Option.map_map]
  congr 1
  funext ⟨k, c⟩
  exact (coordinated w h k c).symm

theorem takeSignal? : (E.world w).takeSignal? = w.takeSignal?.map E.world := by
  unfold World.takeSignal?
  rw [show (E.world w).chronicle = E.veil.chronicle w.chronicle from rfl,
    show (E.world w).coordinator = w.coordinator from rfl, h.candid.takeSignal?, Option.map_map,
    Option.map_map]
  congr 1
  funext ⟨k, c⟩
  exact (coordinated w h k c).symm

/-! ## The supervisor's own loop -/

theorem beginStop : E.world w.beginStop = (E.world w).beginStop := by
  unfold World.beginStop
  rw [beginCall _ h, ← log w h rfl]
  rfl

theorem stopEnded (r : CallResult) : E.world (w.stopEnded r) = (E.world w).stopEnded r := by
  have hpost : ∀ u : World L,
      E.world
          { ({ u with
              coordinator := (u.coordinator.post u.chronicle .completed).1
              chronicle := (u.coordinator.post u.chronicle .completed).2 } : World L).dropConsumers
            with cycle := .finished } =
        { ({ E.world u with
            coordinator := ((E.world u).coordinator.post (E.world u).chronicle .completed).1
            chronicle :=
              ((E.world u).coordinator.post (E.world u).chronicle .completed).2 } :
              World M).dropConsumers
          with cycle := .finished } := by
    intro u
    have hdrop := h.dropConsumers
      { u with
        coordinator := (u.coordinator.post u.chronicle .completed).1
        chronicle := (u.coordinator.post u.chronicle .completed).2 }
    rw [show (E.world u).chronicle = E.veil.chronicle u.chronicle from rfl, h.candid.post]
    exact congrArg (fun v : World M => { v with cycle := CyclePhase.finished }) hdrop
  unfold World.stopEnded
  dsimp only
  rw [← dropManager w h, show (E.world w.dropManager).cycle = w.dropManager.cycle from rfl]
  split
  · cases r with
    | returned ok => exact hpost w.dropManager
    | panicked reason =>
      refine (hpost (w.dropManager.write (·.log (.stopPanicked reason)))).trans ?_
      rw [log w.dropManager h rfl]
      rfl
  · rfl

/-! ## The beginning and the removal of a session -/

theorem startSession (hquit : E.quit .fresh = .fresh) :
    E.world w.startSession = (E.world w).startSession := by
  let id := w.sessionCount + 1
  let v := w.write (·.record (.stateChanged id .inactive .activating))
  have hv : (E.world w).write (·.record (.stateChanged id .inactive .activating)) = E.world v :=
    (tell w h rfl).symm
  have harm := armTimer v h w.setup.settings.driver.activationTimeout .driverActivationTimeout
  have hsession (timer : TimerId) :
      E.session { id := id, state := .activating, stage := .activating timer } =
        { id := id, state := .activating, stage := .activating timer } := by
    simp only [Erasure.session, hquit, Erasure.stage]
  unfold World.startSession
  simp only [beginCall _ h]
  rw [show (E.world w).sessionCount = w.sessionCount from rfl, hv]
  rw [show (E.world v).setup.settings.driver.activationTimeout =
    w.setup.settings.driver.activationTimeout from rfl, harm]
  refine congrArg (fun u : World M => u.beginCall .add) ?_
  simp only [Erasure.world, Option.map_some, hsession, id]
  rfl

theorem removeDriver (s : Session) (loop : LoopPhase) :
    E.world (w.removeDriver s loop) =
      (E.world w).removeDriver (E.session s) (E.phase loop) := by
  let asked := w.transition s .removalRequested
  have hasked : (E.world w).transition (E.session s) .removalRequested = E.world asked :=
    (transition w h s _).symm
  have harm := armTimer asked h w.setup.settings.driver.removalTimeout .driverRemovalTimeout
  unfold World.removeDriver
  simp only [beginCall _ h, setSession, transition _ h]
  rw [hasked, show (E.world asked).setup.settings.driver.removalTimeout =
    w.setup.settings.driver.removalTimeout from rfl, harm]
  rfl

end Lawful

/-! ## Two erasures -/

variable {L' : EventLoop}

/-- Two erasures that leave the same of worlds in which the same begins. -/
structure Paired (E : Erasure L M) (E' : Erasure L' M) : Prop where
  left : E.Lawful
  right : E'.Lawful
  wait : ∀ p, E.wait p = E'.wait p
  runLoop : ∀ (w : World L) (v : World L') (s s' : Session), E.world w = E'.world v →
    E.session s = E'.session s' → E.world (w.runLoop s) = E'.world (v.runLoop s')

namespace Paired

variable {E : Erasure L M} {E' : Erasure L' M} {w : World L} {v : World L'} {s s' : Session}

theorem id_eq (hs : E.session s = E'.session s') : s.id = s'.id := by
  have hid := congrArg Session.id hs
  exact hid

/-- What two stages are of which the same is left. -/
theorem stage_cases {st st' : Stage} (hst : E.stage st = E'.stage st') :
    (∃ t, st = .activating t ∧ st' = .activating t) ∨
      (∃ t, st = .stranded t ∧ st' = .stranded t) ∨
      (∃ p p', st = .skipping p ∧ st' = .skipping p' ∧ E.wait p = E'.wait p') ∨
      ∃ x l l', st = .running x l ∧ st' = .running x l' ∧ E.phase l = E'.phase l' := by
  cases st <;> cases st' <;> simp_all [Erasure.stage, and_assoc]

theorem session_cases (hw : E.world w = E'.world v) :
    (w.session = none ∧ v.session = none) ∨
      ∃ s s', w.session = some s ∧ v.session = some s' ∧ E.session s = E'.session s' := by
  have hsession : w.session.map E.session = v.session.map E'.session := congrArg World.session hw
  cases hws : w.session with
  | none =>
    rw [hws] at hsession
    exact .inl ⟨rfl, Option.map_eq_none_iff.1 hsession.symm⟩
  | some s =>
    rw [hws] at hsession
    obtain ⟨s', hs', hss⟩ := Option.map_eq_some_iff.1 hsession.symm
    exact .inr ⟨s, s', rfl, hs', hss.symm⟩

theorem holdManager (hw : E.world w = E'.world v) :
    E.world { w with manager := .held } = E'.world { v with manager := .held } :=
  congrArg (fun u : World M => { u with manager := .held }) hw

variable (h : Paired E E') (hw : E.world w = E'.world v)
include h hw

/-! ### The library has added the driver -/

theorem activated (hs : E.session s = E'.session s') (timer : TimerId) (ok : Bool) :
    E.world (w.activated s timer ok) = E'.world (v.activated s' timer ok) := by
  let f (m : Metrics) : Metrics := { m with sessionsStarted := m.sessionsStarted + 1 }
  let u := (w.cancelTimer timer .driverActivationTimeout).write (·.measure f)
  let u' := (v.cancelTimer timer .driverActivationTimeout).write (·.measure f)
  have hu : E.world u = E'.world u' := by
    rw [Lawful.measure _ h.left.started, Lawful.measure _ h.right.started,
      Lawful.cancelTimer _ h.left, Lawful.cancelTimer _ h.right, hw]
  have hnow : u.now = u'.now := congrArg World.now hu
  have hactive : E.session { s with activatedAt := some u.now } =
      E'.session { s' with activatedAt := some u'.now } := by
    rw [hnow]
    exact congrArg (fun r : Session => { r with activatedAt := some u'.now }) hs
  have hid : s.id = s'.id := id_eq hs
  have hpolicy : u.setup.settings.driver.onActivationFailure =
      u'.setup.settings.driver.onActivationFailure :=
    congrArg (fun x : World M => x.setup.settings.driver.onActivationFailure) hu
  have hlog (m : Message) (hm : ∀ n, (Happening.logged m n).isSupervision = true) :
      E.world (u.write (·.log m s.id)) = E'.world (u'.write (·.log m s'.id)) := by
    rw [Lawful.log _ h.left (hm _), Lawful.log _ h.right (hm _), hu, hid]
  unfold World.activated
  cases ok with
  | true => exact h.runLoop u u' _ _ hu hactive
  | false =>
    simp only [Bool.false_eq_true, if_false]
    split
    next hp =>
      have hp' : u'.setup.settings.driver.onActivationFailure = .proceed := hpolicy.symm.trans hp
      split
      next => exact h.runLoop _ _ _ _ (hlog .activationFailedProceeding fun _ => rfl) hactive
      next hskip => cases hp'.symm.trans hskip
    next hp =>
      have hp' : u'.setup.settings.driver.onActivationFailure = .skipCycle := hpolicy.symm.trans hp
      split
      next hproceed => cases hp'.symm.trans hproceed
      have hskipping : E.session { s with
            activatedAt := some u.now
            stage := .skipping (.start false u.now) } =
          E'.session { s' with
            activatedAt := some u'.now
            stage := .skipping (.start false u'.now) } := by
        rw [hnow]
        simp only [Erasure.session, Erasure.stage, h.wait]
        exact congrArg (fun r : Session =>
          { r with
            activatedAt := some u'.now
            stage := .skipping (E'.wait (.start false u'.now)) }) hs
      have hlogged := hlog .activationFailedSkipping fun _ => rfl
      exact (congrArg (World.setSession · _) hlogged).trans
        (congrArg (World.setSession (E'.world _)) hskipping)

/-! ### Calls that end -/

theorem dropManager : E.world w.dropManager = E'.world v.dropManager := by
  rw [Lawful.dropManager _ h.left, Lawful.dropManager _ h.right, hw]

theorem addEnded (r : CallResult) : E.world (w.addEnded r) = E'.world (v.addEnded r) := by
  have hdropped := dropManager h hw
  have hheld := holdManager hw
  unfold World.addEnded
  rcases session_cases hw with ⟨hws, hvs⟩ | ⟨s, s', hws, hvs, hs⟩
  · rw [hws, hvs]
    exact hdropped
  · rw [hws, hvs] at hheld ⊢
    have hstage := stage_cases (congrArg Session.stage hs)
    rcases hstage with ⟨t, hst, hst'⟩ | ⟨t, hst, hst'⟩ | ⟨p, p', hst, hst', -⟩ |
      ⟨x, l, l', hst, hst', -⟩
    · simp only [hst, hst']
      cases r with
      | returned ok => exact activated h hheld hs t ok
      | panicked reason =>
        have hlogged : E.world (w.dropManager.write (·.log (.addPanicked reason) s.id)) =
            E'.world (v.dropManager.write (·.log (.addPanicked reason) s'.id)) := by
          rw [Lawful.log _ h.left rfl, Lawful.log _ h.right rfl, hdropped, id_eq hs]
        exact (congrArg (World.setSession · _) hlogged).trans
          (congrArg
            (fun r : Session => World.setSession (E'.world _) { r with stage := .stranded t }) hs)
    all_goals
      simp only [hst, hst']
      exact hdropped

theorem removalFailed (hs : E.session s = E'.session s') {l l' : LoopPhase}
    (hphase : E.phase l = E'.phase l') (t : TimerId) {m : Message}
    (hm : ∀ n, (Happening.logged m n).isSupervision = true) :
    E.world (w.removalFailed s t l m) = E'.world (v.removalFailed s' t l' m) := by
  rw [Lawful.removalFailed _ h.left _ _ _ (hm _), Lawful.removalFailed _ h.right _ _ _ (hm _), hw,
    hs, hphase]

theorem removeEnded (r : CallResult) : E.world (w.removeEnded r) = E'.world (v.removeEnded r) := by
  have hdropped := dropManager h hw
  have hheld := holdManager hw
  unfold World.removeEnded
  rcases session_cases hw with ⟨hws, hvs⟩ | ⟨s, s', hws, hvs, hs⟩
  · rw [hws, hvs]
    exact hdropped
  · rw [hws, hvs] at hheld ⊢
    have hstage := stage_cases (congrArg Session.stage hs)
    rcases hstage with ⟨t, hst, hst'⟩ | ⟨t, hst, hst'⟩ | ⟨p, p', hst, hst', -⟩ |
      ⟨x, l, l', hst, hst', hphase⟩
    case inr.inr.inr =>
      cases x with
      | removing t =>
        simp only [hst, hst']
        match r with
        | .returned true =>
          refine (congrArg (World.setSession · _) hheld).trans
            (congrArg (World.setSession (E'.world _)) ?_)
          simp only [Erasure.session, Erasure.stage, hphase]
          exact congrArg (fun r : Session =>
            { r with stage := .running (.removed t) (E'.phase l'), isQuitting := true }) hs
        | .returned false => exact removalFailed h hheld hs hphase t fun _ => rfl
        | .panicked reason => exact removalFailed h hdropped hs hphase t fun _ => rfl
      | _ =>
        simp only [hst, hst']
        exact hdropped
    all_goals
      simp only [hst, hst']
      exact hdropped

theorem endCall? : w.endCall?.map E.world = v.endCall?.map E'.world := by
  have hcalls : w.calls = v.calls := congrArg World.calls hw
  have hnow : w.now = v.now := congrArg World.now hw
  unfold World.endCall?
  rw [hcalls, hnow, Option.map_map, Option.map_map]
  congr 1
  funext call
  have hended : E.world
        ({ w with calls := w.calls.erase call }.write
          (·.record (.callEnded call.kind call.result))) =
      E'.world
        ({ v with calls := v.calls.erase call }.write
          (·.record (.callEnded call.kind call.result))) := by
    rw [Lawful.tell _ h.left rfl, Lawful.tell _ h.right rfl]
    exact congrArg (fun u : World M =>
      { u with calls := u.calls.erase call }.write
        (·.record (.callEnded call.kind call.result))) hw
  rw [hcalls] at hended
  cases hkind : call.kind with
  | add =>
    simp only [Function.comp, hkind] at hended ⊢
    exact addEnded h hended call.result
  | remove =>
    simp only [Function.comp, hkind] at hended ⊢
    exact removeEnded h hended call.result
  | stop =>
    simp only [Function.comp, hkind] at hended ⊢
    rw [Lawful.stopEnded _ h.left, Lawful.stopEnded _ h.right, hended]

end Paired

end Erasure

end Hotplug
