import Hotplug.Proofs.Erasure
import Hotplug.Proofs.Turns

/-!
# Worlds without their traffic

What is left of a world when its notifications are left out: the queue, what the library reports
and the event loop, which is there for nothing else.

* `Happening.isNoise` — what comes of notifications.
* `Erasure.quiet` — what is left of a world without its traffic.
* `Erasure.quiet_lawful` — the supervisor, the coordinator and the calls are untouched.
-/

namespace Hotplug

/-- An event loop that does nothing. -/
def EventLoop.still : EventLoop where
  State := Unit
  enter _ _ _ := ()
  request _ := .hang
  resume _ _ := ()

/-- Whether a happening comes of notifications: of their way through the queue, of what the
event loop is told, or of the loopback library, which does nothing but report. -/
def Happening.isNoise : Happening → Bool
  | accepted _ | refused _ | released _ | outstanding _ | loopReplied .. | loopEnded _ => true
  | logged (.staleDiscarded _) _ | logged (.leftoversReleased _) _ => true
  | logged (.notificationDropped _) _ | logged (.optionApplied ..) _ => true
  | logged (.loopbackStarted _) _ | logged (.loopbackAdded _) _ => true
  | logged (.loopbackRemoved _) _ | logged (.loopbackStopped _) _ => true
  | _ => false

/-- A library that says nothing. -/
def Library.quiet (l : Library) : Library where
  adding n := { l.adding n with reports := [] }
  removing n := { l.removing n with reports := [] }
  stopping := { l.stopping with reports := [] }

theorem Library.behaviour_quiet (l : Library) (k : CallKind) (n : Nat) :
    l.quiet.behaviour k n = { l.behaviour k n with reports := [] } := by
  cases k <;> rfl

/-- A veil over all that comes of notifications. -/
def Veil.quiet : Veil where
  shows h := if h.isNoise then none else some h
  metrics m := { m with notifications := [] }
  outstanding _ := 0

/-! ## The chronicle -/

namespace Veil

theorem quiet_candid : quiet.Candid where
  steering h hh := by
    unfold Happening.isSteering at hh
    split at hh <;> first | rfl | cases hh
  aborts _ _ := rfl

variable (c : Chronicle)

theorem quiet_log {m : Message} {s : Option SessionId}
    (hm : (Happening.logged m s).isNoise = true) :
    quiet.chronicle (c.log m s) = quiet.chronicle c :=
  record_of_hides (by simp [quiet, hm])

theorem quiet_release (n : Notification) : quiet.chronicle (c.release n) = quiet.chronicle c := by
  unfold Chronicle.release
  split
  · rfl
  · exact record_of_hides (h := .released n) rfl
  · exact record_of_hides (v := quiet) (c := c) (h := .released n) rfl

theorem quiet_releaseAll (ns : List Notification) :
    quiet.chronicle (c.releaseAll ns) = quiet.chronicle c := by
  induction ns generalizing c with
  | nil => rfl
  | cons n ns ih => exact (ih (c.release n)).trans (quiet_release c n)

theorem quiet_deliver (q : Queue) (n : Notification) :
    quiet.chronicle (q.deliver c n).2.2 = quiet.chronicle c := by
  unfold Queue.deliver
  split
  · exact record_of_hides (c := c) (h := .accepted n) rfl
  · exact (quiet_release _ n).trans
      ((record_of_hides (h := .refused n) rfl).trans (quiet_log c rfl))

theorem quiet_deliverAll (q : Queue) (ns : List Notification) :
    quiet.chronicle (q.deliverAll c ns).2.2 = quiet.chronicle c := by
  induction ns generalizing q c with
  | nil => rfl
  | cons n ns ih => exact (ih _ _).trans (quiet_deliver c q n)

theorem quiet_report (home : UInt32) (q : Queue) (k : EventKind) :
    quiet.chronicle (Loopback.report home q c k).2 = quiet.chronicle c :=
  quiet_deliver { c with outstanding := c.outstanding + 1 } q _

theorem quiet_applyOptions (os : List (String × OptionValue)) :
    quiet.chronicle (Loopback.applyOptions c os).2 = quiet.chronicle c := by
  induction os generalizing c with
  | nil => rfl
  | cons o os ih =>
    unfold Loopback.applyOptions
    split
    · rfl
    · exact (ih _).trans (quiet_log c rfl)

/-- Nothing is left of what a library says as it is asked for a manager. -/
theorem quiet_start (l : Library) (o : ManagerOptions) :
    quiet.chronicle (l.start c o).2 = quiet.chronicle c := by
  unfold Library.start
  split
  · rfl
  · have happlied := quiet_applyOptions c o.values.entries
    unfold Loopback.start
    split
    · rename_i h
      rw [h] at happlied
      exact happlied
    · rename_i h
      rw [h] at happlied
      exact (quiet_log _ rfl).trans happlied
  · rfl

theorem quiet_look (p : PresenceWait) (interval : Nat) (t : FileTree) (d : DeviceId)
    (id : Option SessionId) :
    p.look interval t d id (quiet.chronicle c) =
      ((p.look interval t d id c).1, quiet.chronicle (p.look interval t d id c).2) := by
  have hcheck : Presence.check t d id (quiet.chronicle c) =
      ((Presence.check t d id c).1, quiet.chronicle (Presence.check t d id c).2) := by
    unfold Presence.check
    split
    · rw [record_of_shows (h := .checked true) rfl]
      exact congrArg (fun c : Chronicle => (true, c.record (.checked true)))
        (record_of_shows rfl).symm
    · exact congrArg (Prod.mk _) (record_of_shows rfl).symm
  unfold PresenceWait.look
  simp only [hcheck]
  split <;> rfl

theorem quiet_discardAll (id : SessionId) (ns : List Notification) :
    quiet.chronicle (ns.foldl (fun c n => (c.log (.staleDiscarded n.event) id).release n) c) =
      quiet.chronicle c := by
  induction ns generalizing c with
  | nil => rfl
  | cons n ns ih => exact (ih _).trans ((quiet_release _ n).trans (quiet_log c rfl))

end Veil

/-! ## The world -/

namespace Erasure

/-- What is left of a world without its traffic. -/
def quiet (L : EventLoop) : Erasure L .still where
  veil := .quiet
  library := Library.quiet
  files t := t
  queue _ := { senders := [], receiver := .dropped }
  loop _ := ()
  held _ := []
  wait p := p
  phase _ := .active
  quit q := q
  children cs := cs

variable {L : EventLoop} (w : World L)

/-- Nothing is left of a change of the queue that goes unseen. -/
theorem quiet_queue (q : Queue) {c : Chronicle}
    (hc : Veil.quiet.chronicle c = Veil.quiet.chronicle w.chronicle) :
    (quiet L).world { w with queue := q, chronicle := c } = (quiet L).world w :=
  congrArg (fun c => { (quiet L).world w with chronicle := c }) hc

theorem quiet_driveLoopback (k : CallKind) :
    (quiet L).world (w.driveLoopback k) = (quiet L).world w := by
  unfold World.driveLoopback
  split
  · rfl
  · rename_i home _
    cases k with
    | add =>
      refine quiet_queue w _ ?_
      exact (Veil.quiet_report _ home _ _).trans
        ((Veil.quiet_report _ home _ _).trans (Veil.quiet_log _ rfl))
    | remove =>
      refine quiet_queue w _ ?_
      exact (Veil.quiet_report _ home _ _).trans (Veil.quiet_log _ rfl)
    | stop =>
      refine quiet_queue w w.queue ?_
      exact (Veil.quiet_log _ rfl).trans (Veil.record_of_hides rfl)

theorem quiet_dropConsumers : (quiet L).world w.dropConsumers = (quiet L).world w := by
  have hc : Veil.quiet.chronicle w.dropConsumers.chronicle = Veil.quiet.chronicle w.chronicle :=
    (Veil.quiet_releaseAll _ _).trans (Veil.quiet_releaseAll _ _)
  exact congrArg (fun c => { (quiet L).world w with chronicle := c }) hc

theorem quiet_discardStale (id : SessionId) :
    (quiet L).world (w.discardStale id) = (quiet L).world w := by
  refine quiet_queue w _ ?_
  split
  · exact Veil.quiet_discardAll _ id _
  · exact (Veil.quiet_log _ rfl).trans (Veil.quiet_discardAll _ id _)

/-- The supervisor, the coordinator and the calls do not depend on the traffic. -/
theorem quiet_lawful : (quiet L).Lawful where
  candid := Veil.quiet_candid
  supervision h hh := by
    unfold Happening.isSupervision at hh
    split at hh <;> first | rfl | cases hh
  started _ := rfl
  ended _ _ := rfl
  hold l k n := by rw [show (quiet L).library l = l.quiet from rfl, l.behaviour_quiet]
  result l k n := by rw [show (quiet L).library l = l.quiet from rfl, l.behaviour_quiet]
  reports l k n q c := by
    rw [show (quiet L).library l = l.quiet from rfl, l.behaviour_quiet]
    exact Prod.ext rfl (Veil.quiet_deliverAll c q _).symm
  driveLoopback := quiet_driveLoopback
  dropSender _ _ := rfl
  dropConsumers := quiet_dropConsumers
  discardStale := quiet_discardStale
  dropChildren _ _ := rfl

theorem quiet_runLoop (s : Session) :
    (quiet L).world (w.runLoop s) = ((quiet L).world w).runLoop ((quiet L).session s) := by
  have hc : Veil.quiet.chronicle ((w.chronicle.record (.stateChanged s.id s.state .running)).record
        (.loopStarted s.id w.setup.device)) =
      ((Veil.quiet.chronicle w.chronicle).record (.stateChanged s.id s.state .running)).record
        (.loopStarted s.id w.setup.device) := by
    rw [Veil.record_of_shows rfl, Veil.record_of_shows rfl]
  exact congrArg (fun c =>
    { (quiet L).world w with
      session :=
        some
          { (quiet L).session s with
            state := .running
            stage := .running .listening .active
            quit := { held := [true, true, true], listener := .listening } }
      children := w.children ++
        [Child.mk s.id 1 (.watchRemoval (.start false w.now)), Child.mk s.id 2 .forwardStop]
      chronicle := c }) hc

variable {L' : EventLoop}

/-- Two worlds of which the same is left without their traffic go on alike. -/
theorem quiet_paired : Paired (quiet L) (quiet L') where
  left := quiet_lawful
  right := quiet_lawful
  wait _ := rfl
  runLoop w v s s' hw hs := by rw [quiet_runLoop, quiet_runLoop, hw, hs]


/-! ## Moves -/

theorem quiet_beginStop : (quiet L).world w.beginStop = ((quiet L).world w).beginStop :=
  Lawful.beginStop w quiet_lawful

theorem quiet_look (p : PresenceWait) (id : Option SessionId) :
    p.look ((quiet L).world w).setup.pollInterval ((quiet L).world w).files
        ((quiet L).world w).setup.device id ((quiet L).world w).chronicle =
      ((p.look w.setup.pollInterval w.files w.setup.device id w.chronicle).1,
        Veil.quiet.chronicle
          (p.look w.setup.pollInterval w.files w.setup.device id w.chronicle).2) :=
  Veil.quiet_look w.chronicle p w.setup.pollInterval w.files w.setup.device id

theorem quiet_cycle? : ((quiet L).world w).cycle? = w.cycle?.map (quiet L).world := by
  unfold World.cycle?
  rw [show ((quiet L).world w).cycle = w.cycle from rfl,
    show ((quiet L).world w).coordinator = w.coordinator from rfl,
    show ((quiet L).world w).now = w.now from rfl]
  split
  · split
    · exact congrArg some (quiet_beginStop w).symm
    · have hlog := Lawful.record w (E := quiet L)
        (x := .logged (.waitingForDevice w.setup.device) none) rfl
      exact congrArg (fun v : World .still =>
        some { v with cycle := .waiting (.start true w.now) }) hlog.symm
  · split
    · exact congrArg some (quiet_beginStop w).symm
    · split
      · rename_i wait _ _ _
        rw [quiet_look]
        rcases wait.look w.setup.pollInterval w.files w.setup.device none w.chronicle with
          ⟨_ | next, c⟩
        · have hlog := Lawful.record { w with chronicle := c } (E := quiet L)
            (x := .logged (.deviceAvailable (w.sessionCount + 1)) none) rfl
          have hstart := Lawful.startSession
            ({ w with chronicle := c }.write (·.log (.deviceAvailable (w.sessionCount + 1))))
            (quiet_lawful (L := L)) rfl
          exact congrArg some ((congrArg World.startSession hlog.symm).trans hstart.symm)
        · rfl
      · rfl
  · rfl

theorem quiet_requestRemoval (s : Session) (loop : LoopPhase) (r : QuitReason) :
    (quiet L).world (w.requestRemoval s loop r) =
      ((quiet L).world w).requestRemoval ((quiet L).session s) ((quiet L).phase loop) r := by
  have hlog := Lawful.record w (E := quiet L) (x := .logged (.quitRequested r) (some s.id)) rfl
  rw [World.requestRemoval_eq, World.requestRemoval_eq, Lawful.removeDriver _ quiet_lawful]
  exact congrArg (·.removeDriver ((quiet L).session s) ((quiet L).phase loop)) hlog

theorem quiet_raiseQuit (child : Child) (r : QuitReason) :
    (quiet L).world (w.raiseQuit child r) = ((quiet L).world w).raiseQuit child r := by
  unfold World.raiseQuit
  rw [show ((quiet L).world w).session = w.session.map (quiet L).session from rfl]
  cases hs : w.session with
  | none => rfl
  | some s =>
    dsimp only [Option.map_some]
    rw [show ((quiet L).session s).id = s.id from rfl]
    split <;> rfl

theorem quiet_skip? : ((quiet L).world w).skip? = w.skip?.map (quiet L).world := by
  unfold World.skip?
  rw [show ((quiet L).world w).session = w.session.map (quiet L).session from rfl]
  rcases w.session with _ | s
  · rfl
  · rw [Option.map_some]
    dsimp only
    rw [show ((quiet L).session s).stage = (quiet L).stage s.stage from rfl]
    cases hstage : s.stage with
    | skipping wait =>
      dsimp only [Erasure.stage]
      rw [show ((quiet L).world w).now = w.now from rfl, show (quiet L).wait wait = wait from rfl,
        show ((quiet L).session s).id = s.id from rfl, quiet_look]
      split
      · rcases wait.look w.setup.pollInterval w.files w.setup.device s.id w.chronicle with
          ⟨_ | next, c⟩
        · exact congrArg some (Lawful.endSession { w with chronicle := c } quiet_lawful s).symm
        · rfl
      · rfl
    | _ => rfl

theorem quiet_forwardStop? :
    ((quiet L).world w).forwardStop? = w.forwardStop?.map (quiet L).world := by
  unfold World.forwardStop?
  rw [show ((quiet L).world w).coordinator = w.coordinator from rfl,
    show ((quiet L).world w).children = w.children from rfl]
  split
  · rw [Option.map_map]
    exact congrArg (Option.map · _) (funext fun child => (quiet_raiseQuit w child .shutdown).symm)
  · rfl

theorem quiet_watchRemoval? :
    ((quiet L).world w).watchRemoval? = w.watchRemoval?.map (quiet L).world := by
  unfold World.watchRemoval?
  rw [show ((quiet L).world w).children = w.children from rfl,
    show ((quiet L).world w).now = w.now from rfl, Option.map_map]
  congr 1
  funext ⟨child, wait⟩
  dsimp only [Function.comp]
  rw [quiet_look]
  rcases wait.look w.setup.pollInterval w.files w.setup.device child.session w.chronicle with
    ⟨_ | next, c⟩
  · have hlog := Lawful.record { w with chronicle := c } (E := quiet L)
      (x := .logged (.deviceRemoved w.setup.device) (some child.session)) rfl
    exact (congrArg (fun v : World .still => v.raiseQuit child .deviceRemoved) hlog.symm).trans
      (quiet_raiseQuit _ child .deviceRemoved).symm
  · rfl

/-! ## Two worlds -/

section Pair

variable {w : World L} {v : World L'} (hw : (quiet L).world w = (quiet L').world v)
include hw

/-- Two worlds of which the same is left without their traffic can make the same moves and come
out alike, unless the move is one of the event loop, or of a session that may have to wait for
its event loop. -/
theorem quiet_attempt {m : Move} (hloop : m ≠ .eventLoop) (hsession : m ≠ .session) :
    (w.attempt m).map (quiet L).world = (v.attempt m).map (quiet L').world := by
  have both {f : World .still → Option (World .still)} {x : Option (World L)}
      {y : Option (World L')} (hx : f ((quiet L).world w) = x.map (quiet L).world)
      (hy : f ((quiet L').world v) = y.map (quiet L').world) :
      x.map (quiet L).world = y.map (quiet L').world :=
    hx.symm.trans ((congrArg f hw).trans hy)
  cases m with
  | fireTimer => exact both (Lawful.fireTimer? w quiet_lawful) (Lawful.fireTimer? v quiet_lawful)
  | decide => exact both (Lawful.decide? w quiet_lawful) (Lawful.decide? v quiet_lawful)
  | takeSignal =>
    exact both (Lawful.takeSignal? w quiet_lawful) (Lawful.takeSignal? v quiet_lawful)
  | cycle => exact both (quiet_cycle? w) (quiet_cycle? v)
  | skip => exact both (quiet_skip? w) (quiet_skip? v)
  | forwardStop => exact both (quiet_forwardStop? w) (quiet_forwardStop? v)
  | watchRemoval => exact both (quiet_watchRemoval? w) (quiet_watchRemoval? v)
  | endCall => exact quiet_paired.endCall? hw
  | eventLoop => exact absurd rfl hloop
  | session => exact absurd rfl hsession

/-- What comes before the event loop in the order of the schedule does not depend on it. -/
theorem quiet_early {m : Move} (hm : m ∈ Move.eventLoop.earlier) :
    (w.attempt m).isSome = (v.attempt m).isSome := by
  have hattempt : (w.attempt m).map (quiet L).world = (v.attempt m).map (quiet L').world := by
    refine quiet_attempt hw ?_ ?_ <;>
    · rintro rfl
      revert hm
      decide
  have hsome := congrArg Option.isSome hattempt
  rwa [Option.isSome_map, Option.isSome_map] at hsome

/-- If both sessions go on, they come out alike. -/
theorem quiet_session {w' : World L} {v' : World L'} (hw' : w.session? = some w')
    (hv' : v.session? = some v') : (quiet L).world w' = (quiet L').world v' := by
  unfold World.session? at hw' hv'
  rcases Paired.session_cases hw with ⟨hs, hs'⟩ | ⟨s, s', hs, hs', hss⟩
  · simp only [hs] at hw'
    cases hw'
  · simp only [hs] at hw'
    simp only [hs'] at hv'
    rcases Paired.stage_cases (congrArg Session.stage hss) with ⟨t, hst, hst'⟩ | ⟨t, hst, hst'⟩ |
      ⟨p, p', hst, hst', -⟩ | ⟨x, l, l', hst, hst', -⟩
    · simp only [hst] at hw'
      cases hw'
    · simp only [hst] at hw'
      cases hw'
    · -- The session skips its driver.
      simp only [hst] at hw'
      simp only [hst'] at hv'
      split at hw'
      · split at hv'
        · obtain rfl := Option.some.inj hw'
          obtain rfl := Option.some.inj hv'
          rw [Lawful.endSession w quiet_lawful, Lawful.endSession v quiet_lawful, hw, hss]
        · cases hv'
      · cases hw'
    · simp only [hst] at hw'
      simp only [hst'] at hv'
      cases x with
      | listening =>
        obtain ⟨r, hr, rfl⟩ := Option.map_eq_some_iff.1 hw'
        obtain ⟨r', hr', rfl⟩ := Option.map_eq_some_iff.1 hv'
        have hquit : ((quiet L).session s).quit = ((quiet L').session s').quit :=
          congrArg Session.quit hss
        have hanswer : s.quit.answer? = s'.quit.answer? := congrArg QuitRequest.answer? hquit
        obtain rfl := Option.some.inj (hr.symm.trans (hanswer.trans hr'))
        rw [quiet_requestRemoval, quiet_requestRemoval, hw, hss]
        rfl
      | removed timer =>
        cases l with
        | returned =>
          cases l' with
          | returned =>
            obtain rfl := Option.some.inj hw'
            obtain rfl := Option.some.inj hv'
            rw [Lawful.endSession _ quiet_lawful, Lawful.endSession _ quiet_lawful,
              Lawful.cancelTimer _ quiet_lawful, Lawful.cancelTimer _ quiet_lawful, hw, hss]
          | _ => cases hv'
        | _ => cases hw'
      | _ => cases hw'

end Pair

end Erasure

end Hotplug
