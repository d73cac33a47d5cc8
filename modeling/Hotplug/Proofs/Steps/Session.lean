import Hotplug.Proofs.Steps.Coordinator

/-!
# The steps of a session

* `leads_eventLoop` — the event loop gets a reply, returns or panics.
* `leads_session`, `leads_skip` — the session removes its driver, or ends.
* `leads_forwardStop`, `leads_watchRemoval` — the tasks beside a session.
-/

namespace Hotplug

open Conduct (Step)

open Hotplug.Frame (Leads)

variable {L : EventLoop} {w w' : World L}

/-! ## The event loop -/

section EventLoop

variable {s : Session} {executor : Executor} {phase : LoopPhase}

/-- The session and its stage, while its event loop is under way. -/
theorem Session.looping?_duty (hst : s.stage = .running executor phase)
    (hp : phase.isReturned = false) : s.duty.looping? = some s.id := by
  unfold Session.duty
  rw [hst]
  cases executor <;> simp [Duty.looping?, hp]

theorem leads_loopPhase (h : w.frame.Orderly) (hs : w.session = some s)
    (hst : s.stage = .running executor phase) (hp : phase.isReturned = false) {p : LoopPhase}
    (hp' : p.isReturned = false) :
    Leads w.frame { w.frame with session := some { s with stage := .running executor p } } := by
  have hstate : (Stage.running executor p).state = s.stage.state := by
    rw [hst]
    cases executor <;> rfl
  have hd : ({ s with stage := .running executor p } : Session).duty = s.duty := by
    unfold Session.duty
    rw [hst]
    cases executor <;> simp [hp, hp']
  obtain ⟨hord, hconduct⟩ :=
    h.setSession hs (t := { s with stage := .running executor p }) rfl rfl hstate (by simp) hd
  exact .of_conduct_eq rfl hord hconduct

theorem leads_reply (h : w.frame.Orderly) (hs : w.session = some s)
    (hst : s.stage = .running executor phase) (hp : phase.isReturned = false) {v : World L}
    (hv : v.frame = w.frame) (r : Reply) : Leads w.frame (v.reply s executor r).frame := by
  rw [World.frame_reply, hv]
  exact leads_loopPhase h hs hst hp rfl

theorem leads_handOver (h : w.frame.Orderly) (hs : w.session = some s)
    (hst : s.stage = .running executor phase) (hp : phase.isReturned = false) {ended : Reply}
    (hw : w.handOver? s executor ended = some w') : Leads w.frame w'.frame := by
  unfold World.handOver? at hw
  split at hw
  · obtain rfl := Option.some.inj hw
    exact leads_reply h hs hst hp rfl _
  · cases hw
  · obtain rfl := Option.some.inj hw
    exact leads_reply h hs hst hp rfl _

theorem leads_loopEnded (h : w.frame.Orderly) (hs : w.session = some s)
    (hst : s.stage = .running executor phase) (hp : phase.isReturned = false) :
    Leads w.frame
      ((w.write (·.record (.loopEnded s.id))).setSession
        { s with stage := .running executor .returned }).frame := by
  have hc := h.cycle_eq hs
  have hd : ({ s with stage := .running executor .returned } : Session).duty =
      s.duty.afterLoop := by
    unfold Session.duty
    rw [hst]
    cases executor <;> rfl
  have hcall : s.duty.afterLoop.call? = s.duty.call? := by
    unfold Session.duty
    rw [hst]
    cases executor <;> rfl
  rw [World.frame_setSession, World.frame_record _ _ rfl]
  refine ⟨rfl, rfl, h.within rfl hc rfl (h.session_id s hs) ?_ (by simp) rfl ?_, ?_⟩
  · rw [h.session_state s hs, hst]
    cases executor <;> rfl
  · rw [hd, hcall, ← h.duty_eq hs]
    exact h.calls
  · have hloop : w.frame.conduct.duty.looping? = some s.id := by
      rw [Frame.conduct, h.duty_eq hs]
      exact Session.looping?_duty hst hp
    refine (Step.loopEnded w.frame.conduct s.id hloop).cast ?_
    simp [Frame.conduct, Conduct.turn, Conduct.tell, h.duty_eq hs, ← hd]
    simp [Frame.duty, hc]

theorem leads_panicLoop (h : w.frame.Orderly) (hs : w.session = some s)
    (hst : s.stage = .running executor phase) (hp : phase.isReturned = false) (reason : String) :
    Leads w.frame (w.panicLoop reason).frame := by
  let v : World L := { w.abandonSession.dropHeldManager.dropConsumers with cycle := .panicked }
  have hv : v.frame = w.frame.cut .panicked := by
    have hdrop : w.abandonSession.dropHeldManager.dropConsumers.frame = w.abandonSession.frame := by
      simp
    rw [World.frame_abandonSession] at hdrop
    exact congrArg (fun f : Frame => { f with cycle := CyclePhase.panicked }) hdrop
  have hactive : w.frame.duty.isActive = true := h.isActive hs
  obtain ⟨hord, hcut⟩ := h.cut hactive (.inr rfl)
  rw [← hv] at hord hcut
  have hatt : w.abandonSession.dropHeldManager.setup.isAttended = false := by
    have hsetup : w.abandonSession.dropHeldManager.setup = w.setup := by
      have hf := (World.frame_dropHeldManager w.abandonSession).trans (World.frame_abandonSession w)
      exact congrArg Frame.setup hf
    rw [hsetup]
    exact h.supervised
  have hloop : w.frame.conduct.duty.looping? = some s.id := by
    rw [Frame.conduct, h.duty_eq hs]
    exact Session.looping?_duty hst hp
  have hpanic : w.panicLoop reason =
      { v with
        coordinator := (v.coordinator.post (v.chronicle.log (.loopPanicked reason))
          .supervisorPanicked).1
        chronicle := (v.coordinator.post (v.chronicle.log (.loopPanicked reason))
          .supervisorPanicked).2 } := by
    unfold World.panicLoop
    simp only [hatt]
    rfl
  have hsetup : v.setup = w.setup := congrArg Frame.setup hv
  rw [hpanic]
  have hnow := (Coordinator.now_post v.coordinator (v.chronicle.log (.loopPanicked reason))
    .supervisorPanicked).trans (congrArg Frame.now hv)
  refine ⟨hsetup, hnow, hord.congr rfl rfl rfl rfl rfl
    (Coordinator.gracePeriod_post _ _ _), ?_⟩
  refine (Step.loopPanicked w.frame.conduct s.id reason hloop).cast ?_
  rw [← hcut]
  refine Eq.trans ?_ (Coordinator.conduct_post v.coordinator
    (v.chronicle.log (.loopPanicked reason)) .supervisorPanicked v.frame.duty v.sessionCount).symm
  simp [Conduct.tell, Frame.conduct, World.frame, World.now, Message.isLoopPanic]

theorem leads_some_reply (h : w.frame.Orderly) (hs : w.session = some s)
    (hst : s.stage = .running executor phase) (hp : phase.isReturned = false) {v : World L}
    (hv : v.frame = w.frame) {r : Reply} (hw : some (v.reply s executor r) = some w') :
    Leads w.frame w'.frame := by
  obtain rfl := Option.some.inj hw
  exact leads_reply h hs hst hp hv r

theorem leads_serve (h : w.frame.Orderly) (hs : w.session = some s)
    (hst : s.stage = .running executor phase) (hp : phase.isReturned = false)
    (hw : w.serve? s executor phase = some w') : Leads w.frame w'.frame := by
  unfold World.serve? at hw
  cases hr : L.request w.loop with
  | nextEvent | tryReceive =>
    simp only [hr] at hw
    split at hw
    · exact leads_some_reply h hs hst hp rfl hw
    · exact leads_handOver h hs hst hp hw
  | receive =>
    simp only [hr] at hw
    exact leads_handOver h hs hst hp hw
  | awaitQuit =>
    simp only [hr] at hw
    split at hw
    · exact leads_some_reply h hs hst hp rfl hw
    · cases hw
  | isQuitting | closeQueue =>
    simp only [hr] at hw
    refine leads_some_reply h hs hst hp ?_ hw
    rfl
  | sleep duration =>
    simp only [hr] at hw
    split at hw
    · split at hw
      · exact leads_some_reply h hs hst hp rfl hw
      · cases hw
    · obtain rfl := Option.some.inj hw
      exact leads_loopPhase h hs hst hp rfl
  | drop | dropAll =>
    simp only [hr] at hw
    refine leads_some_reply h hs hst hp ?_ hw
    apply World.frame_congr <;> simp [World.now]
  | hang => simp [hr] at hw
  | panic reason =>
    simp only [hr, Option.some.injEq] at hw
    subst hw
    exact leads_panicLoop h hs hst hp reason
  | finish =>
    simp only [hr, Option.some.injEq] at hw
    subst hw
    exact leads_loopEnded h hs hst hp

end EventLoop

theorem leads_eventLoop (h : w.frame.Orderly) (hw : w.eventLoop? = some w') :
    Leads w.frame w'.frame := by
  unfold World.eventLoop? at hw
  split at hw
  · cases hw
  · rename_i s hs
    split at hw
    · rename_i executor hst
      exact leads_serve h hs hst rfl hw
    · rename_i executor wake hst
      exact leads_serve h hs hst rfl hw
    · cases hw

/-! ## The session -/

/-- A session that ends leaves an orderly world between two sessions. -/
theorem orderly_endSession (h : w.frame.Orderly) {s : Session} (hs : w.session = some s)
    (hcall : s.duty.call? = none) :
    (w.endSession s).frame.setup = w.frame.setup ∧ (w.endSession s).frame.Orderly ∧
      (w.endSession s).frame.conduct = w.frame.conduct.endSession s.id s.state := by
  have hcalls : w.frame.calls = [] := h.calls_eq_nil (by rw [h.duty_eq hs, hcall])
  rw [World.frame_endSession w s h.supervised]
  refine ⟨rfl, h.between rfl (by simp) (by simp) (by simp) rfl rfl ?_, rfl⟩
  simp [hcalls]
  rfl

theorem leads_requestRemoval (h : w.frame.Orderly) {s : Session} (hs : w.session = some s)
    {loop : LoopPhase} (hst : s.stage = .running .listening loop) (r : QuitReason) :
    Leads w.frame (w.requestRemoval s loop r).frame := by
  have hd : s.duty = .serving s.id loop.isReturned := by
    unfold Session.duty
    rw [hst]
  have hduty := h.duty_eq hs
  have hcalls : w.frame.calls = [] := h.calls_eq_nil (by rw [hduty, hd]; rfl)
  have hstate : s.state = .running := by rw [h.session_state s hs, hst]; rfl
  rw [World.frame_requestRemoval, hcalls, List.nil_append, hstate]
  refine ⟨rfl, rfl, h.within rfl (h.cycle_eq hs) rfl (h.session_id s hs) rfl (by simp) rfl rfl, ?_⟩
  refine (Step.beginRemoval w.frame.conduct s.id loop.isReturned (hduty.trans hd)).cast ?_
  simp [Frame.conduct, Frame.duty, h.cycle_eq hs, Session.duty, Conduct.beginRemoval, Conduct.turn,
    Conduct.tell, Conduct.arm, Conduct.setTimers, Conduct.nextTimer, Frame.withTimer, Guard.entry]

theorem leads_session (h : w.frame.Orderly) (hw : w.session? = some w') :
    Leads w.frame w'.frame := by
  unfold World.session? at hw
  split at hw
  · cases hw
  · rename_i s hs
    have hduty := h.duty_eq hs
    split at hw
    · rename_i wait hst
      have hd : s.duty = .skipping s.id := by
        unfold Session.duty
        rw [hst]
      split at hw
      · rename_i hover
        obtain rfl := Option.some.inj hw
        obtain ⟨hsetup, hord, hconduct⟩ := orderly_endSession h hs (by rw [hd]; rfl)
        refine ⟨hsetup, congrArg Conduct.now hconduct, hord, ?_⟩
        refine (Step.skipStopped w.frame.conduct s.id (hduty.trans hd) hover).cast ?_
        rw [hconduct, h.session_state s hs, hst]
        rfl
      · cases hw
    · rename_i loop hst
      obtain ⟨r, -, rfl⟩ := Option.map_eq_some_iff.1 hw
      exact leads_requestRemoval h hs hst _
    · rename_i timer hst
      have hd : s.duty = .removed s.id timer true := by
        unfold Session.duty
        rw [hst]
        rfl
      obtain rfl := Option.some.inj hw
      have hcancel := World.frame_cancelTimer w timer .driverRemovalTimeout
      have hv : (w.cancelTimer timer .driverRemovalTimeout).frame.Orderly := by
        rw [hcancel]
        exact h.congr rfl rfl rfl rfl rfl rfl
      obtain ⟨hsetup, hord, hconduct⟩ := orderly_endSession hv hs (by rw [hd]; rfl)
      refine ⟨hsetup.trans (by rw [hcancel]), congrArg Conduct.now hconduct, hord, ?_⟩
      refine (Step.sessionEnded w.frame.conduct s.id timer (hduty.trans hd)).cast ?_
      rw [hconduct, hcancel, h.session_state s hs, hst]
      rfl
    · cases hw

/-- A look that still shows the device only makes the session go on skipping it. -/
theorem leads_keepSkipping (h : w.frame.Orderly) {s : Session} (hs : w.session = some s)
    {wait wait' : PresenceWait} (hst : s.stage = .skipping wait) {c : Chronicle}
    (hlook : wait.look w.setup.pollInterval w.files w.setup.device (some s.id) w.chronicle =
      (some wait', c)) :
    Leads w.frame
      (({ w with chronicle := c } : World L).setSession
        { s with stage := .skipping wait' }).frame := by
  obtain ⟨hnow, hsame, seen, -, hout⟩ := PresenceWait.look_eq_some hlook
  have hd : ({ s with stage := .skipping wait' } : Session).duty = s.duty := by
    unfold Session.duty
    rw [hst]
  have hord : ({ w.frame with
      session := some { s with stage := .skipping wait' } } : Frame).Orderly := by
    refine (h.setSession hs (t := { s with stage := .skipping wait' }) rfl rfl ?_ ?_ hd).1
    · rw [hst]
      rfl
    · rintro _ ⟨rfl⟩
      exact hsame.trans (h.skipping s hs wait hst)
  refine ⟨rfl, hnow, hord.congr rfl rfl rfl rfl rfl rfl, ?_⟩
  refine (Step.look w.frame.conduct seen).cast ?_
  have hc : w.cycle = .inSession := h.cycle_eq hs
  simp only [Frame.conduct, Conduct.tell, h.duty_eq hs, ← hd]
  simp [World.frame, World.setSession, Frame.duty, hc, World.now, hnow, hout]

/-- The session ends once a look shows that the device is gone. -/
theorem leads_endSkipping (h : w.frame.Orderly) {s : Session} (hs : w.session = some s)
    {wait : PresenceWait} (hst : s.stage = .skipping wait) {c : Chronicle}
    (hlook : wait.look w.setup.pollInterval w.files w.setup.device (some s.id) w.chronicle =
      (none, c)) :
    Leads w.frame (({ w with chronicle := c } : World L).endSession s).frame := by
  obtain ⟨hnow, hout⟩ := PresenceWait.look_eq_none hlook
  have hd : s.duty = .skipping s.id := by
    unfold Session.duty
    rw [hst]
  have hv : ({ w with chronicle := c } : World L).frame =
      { w.frame with outline := (w.now, .checked false) :: w.frame.outline } := by
    simp [World.frame, World.now, hnow, hout, h.skipping s hs wait hst]
  have hord : ({ w with chronicle := c } : World L).frame.Orderly := by
    rw [hv]
    exact h.congr rfl rfl rfl rfl rfl rfl
  obtain ⟨hsetup, hord', hconduct⟩ := orderly_endSession hord hs (by rw [hd]; rfl)
  refine ⟨hsetup, (congrArg Conduct.now hconduct).trans hnow, hord', ?_⟩
  refine (Step.skipEnded w.frame.conduct s.id ((h.duty_eq hs).trans hd)).cast ?_
  rw [hconduct, hv, h.session_state s hs, hst]
  rfl

theorem leads_skip (h : w.frame.Orderly) (hw : w.skip? = some w') : Leads w.frame w'.frame := by
  unfold World.skip? at hw
  split at hw
  · cases hw
  · rename_i s hs
    split at hw
    · rename_i wait hst
      split at hw
      · split at hw
        · obtain rfl := Option.some.inj hw
          exact leads_keepSkipping h hs hst ‹_›
        · obtain rfl := Option.some.inj hw
          exact leads_endSkipping h hs hst ‹_›
      · cases hw
    · cases hw

/-! ## The tasks beside a session -/

theorem orderly_raiseQuit (h : w.frame.Orderly) (child : Child) (r : QuitReason) :
    (w.raiseQuit child r).frame.setup = w.frame.setup ∧ (w.raiseQuit child r).frame.Orderly ∧
      (w.raiseQuit child r).frame.conduct = w.frame.conduct := by
  unfold World.raiseQuit
  dsimp only
  split
  · exact ⟨rfl, h, rfl⟩
  · rename_i s hs
    split
    · refine ⟨rfl, ?_⟩
      exact h.setSession hs rfl rfl rfl (h.skipping s hs) rfl
    · exact ⟨rfl, h, rfl⟩

theorem leads_forwardStop (h : w.frame.Orderly) (hw : w.forwardStop? = some w') :
    Leads w.frame w'.frame := by
  unfold World.forwardStop? at hw
  split at hw
  · obtain ⟨child, -, rfl⟩ := Option.map_eq_some_iff.1 hw
    obtain ⟨hsetup, hord, hconduct⟩ := orderly_raiseQuit h child .shutdown
    exact .of_conduct_eq hsetup hord hconduct
  · cases hw

theorem leads_watchRemoval (h : w.frame.Orderly) (hw : w.watchRemoval? = some w') :
    Leads w.frame w'.frame := by
  obtain ⟨⟨child, wait⟩, -, rfl⟩ := Option.map_eq_some_iff.1 hw
  dsimp only
  split
  · rename_i wait' c hlook
    obtain ⟨hnow, -, seen, -, hout⟩ := PresenceWait.look_eq_some hlook
    refine ⟨rfl, hnow, h.congr rfl rfl rfl rfl rfl rfl, ?_⟩
    refine (Step.look w.frame.conduct seen).cast ?_
    simp [Frame.conduct, Conduct.tell, World.frame, World.now, hnow, hout, Frame.duty]
  · rename_i c hlook
    obtain ⟨hnow, hout⟩ := PresenceWait.look_eq_none hlook
    let v : World L :=
      { w with chronicle := c.log (.deviceRemoved w.setup.device) (some child.session) }
    have hv : v.frame =
        { w.frame with outline := (w.now, .checked wait.desired) :: w.frame.outline } := by
      simp [v, World.frame, World.now, hnow, hout, Message.isLoopPanic]
    have hord : v.frame.Orderly := by
      rw [hv]
      exact h.congr rfl rfl rfl rfl rfl rfl
    obtain ⟨hsetup, hord', hconduct⟩ := orderly_raiseQuit hord child .deviceRemoved
    refine ⟨hsetup, (congrArg Conduct.now hconduct).trans hnow, hord', ?_⟩
    refine (Step.look w.frame.conduct wait.desired).cast ?_
    rw [hconduct, hv]
    rfl

end Hotplug
