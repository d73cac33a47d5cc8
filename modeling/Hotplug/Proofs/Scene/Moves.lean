import Hotplug.Proofs.Scene.Laws

/-!
# Every move is an act of the scene

What a move makes of an orderly world, it makes of its scene.

* `act_takeSignal`, `act_cycle`, `act_watchRemoval`, … — one lemma for each move but the end of
  a call.
-/

namespace Hotplug

open Scene (Act)

variable {L : EventLoop} {w w' : World L}

/-! ## The coordinator -/

theorem act_fireTimer (hw : w.fireTimer? = some w') : Act w.scene .fireTimer w'.scene := by
  unfold World.fireTimer? Coordinator.fireTimer? at hw
  cases hdue : w.coordinator.timers.due? w.chronicle.now with
  | none => simp [hdue] at hw
  | some a =>
    obtain ⟨ha, hle⟩ := Timers.due?_eq_some hdue
    simp only [hdue, Option.map_some, Option.some.injEq] at hw
    subst hw
    have hpost := Coordinator.conduct_post
      { w.coordinator with timers := (w.coordinator.timers.fire w.chronicle a).1 }
      (w.coordinator.timers.fire w.chronicle a).2 a.termination w.frame.duty w.sessionCount
    have hfire : Conduct.post ⟨(w.coordinator.timers.fire w.chronicle a).2.now, w.frame.duty,
        w.sessionCount, { w.coordinator with
          timers := (w.coordinator.timers.fire w.chronicle a).1 },
        (w.coordinator.timers.fire w.chronicle a).2.outline⟩ a.termination =
        w.scene.conduct.fire a := by
      simp [Conduct.fire, Timers.fire, Conduct.tell, Conduct.setTimers, Frame.conduct,
        World.scene, World.frame, World.now, Happening.isOutline, Message.isLoopPanic]
    rw [hfire] at hpost
    exact (Act.fire a ha hle).cast (World.scene_put w (congrArg Conduct.now hpost)
      (congrArg Conduct.coordinator hpost) (congrArg Conduct.outline hpost))

theorem act_decide (h : w.frame.Orderly) (hw : w.decide? = some w') :
    Act w.scene .decide w'.scene := by
  unfold World.decide? Coordinator.decidePosted? at hw
  split at hw
  · rename_i hrun
    cases hp : w.coordinator.posted with
    | nil => simp [hp] at hw
    | cons t rest =>
      simp only [hp, List.head?_cons, Option.map_some, Option.some.injEq] at hw
      subst hw
      have hscene := World.scene_coordinated w h w.coordinator w.chronicle t rfl
        (f := w.scene) rfl
      unfold Coordinator.decide
      rw [hscene]
      exact .decide t rest hrun hp
  · cases hw

theorem act_takeSignal (h : w.frame.Orderly) (hw : w.takeSignal? = some w') :
    Act w.scene .takeSignal w'.scene := by
  obtain ⟨⟨k, c⟩, hr, rfl⟩ := Option.map_eq_some_iff.1 hw
  have hgo : ∀ (k : Coordinator) (c : Chronicle), k.decision? = none →
      w.coordinated k c = { w with coordinator := k, chronicle := c } := by
    intro k c hk
    simp [World.coordinated, hk]
  obtain ⟨hopen, ⟨s, b, htake, ⟨hphase, heq⟩ | ⟨grace, hphase, heq⟩⟩ | ⟨hrun, hclosed, heq⟩⟩ :=
    Coordinator.takeSignal?_eq_some hr
  · obtain ⟨rfl, rfl⟩ := Prod.mk.inj heq
    have hfirst := Coordinator.conduct_takeFirst { w.coordinator with signals := b } w.chronicle s
      w.frame.duty w.sessionCount
    dsimp only
    rw [hgo _ _ rfl]
    have hact := Act.firstSignal (f := w.scene) s b hphase htake
    have hgrace : w.scene.setup.settings.shutdown.gracePeriod = w.coordinator.gracePeriod :=
      h.grace.symm
    rw [hgrace] at hact
    exact hact.cast (World.scene_put w (congrArg Conduct.now hfirst)
      (congrArg Conduct.coordinator hfirst) (congrArg Conduct.outline hfirst))
  · obtain ⟨rfl, rfl⟩ := Prod.mk.inj heq
    have hscene := World.scene_coordinated w h { w.coordinator with signals := b }
      ((w.chronicle.record (.signalTaken s)).log (.secondSignal s)) .repeatedSignal rfl
      (f := (w.scene.put (w.scene.conduct.setSignals b)).tell (.signalTaken s)) (by
        refine World.scene_eq _ ?_ rfl rfl rfl
        simp only [World.frame, World.now]
        simp [Happening.isOutline, Message.isLoopPanic]
        rfl)
    dsimp only
    rw [hscene]
    exact .secondSignal s b grace hphase htake
  · obtain ⟨rfl, rfl⟩ := Prod.mk.inj heq
    have hdecision : w.coordinator.ignoreSignals.decision? = none :=
      Coordinator.decision?_of_isRunning hrun
    dsimp only
    rw [hgo _ _ hdecision]
    exact (Act.ignoreSignals (f := w.scene) hrun hopen hclosed).cast
      (World.scene_put w rfl rfl rfl)

/-! ## The supervisor's own loop -/

theorem scene_beginStop (w : World L) :
    w.beginStop.scene = ({ w.scene with cycle := .stopping } : Scene).beginCall .stop := by
  unfold World.beginStop
  rw [World.scene_beginCall]
  have hlog := World.scene_log w .stoppingManager none rfl
  exact congrArg (fun f : Scene => ({ f with cycle := .stopping } : Scene).beginCall .stop) hlog

theorem act_cycle (hw : w.cycle? = some w') :
    Act w.scene .cycle w'.scene := by
  unfold World.cycle? at hw
  cases hc : w.cycle with
  | deciding =>
    simp only [hc] at hw
    split at hw
    · rename_i hraised
      obtain rfl := Option.some.inj hw
      rw [scene_beginStop]
      exact .beginStop (.inl ⟨hc, hraised⟩)
    · rename_i hraised
      obtain rfl := Option.some.inj hw
      have hlog := World.scene_log w (.waitingForDevice w.setup.device) none rfl
      have hscene := congrArg
        (fun f : Scene => { f with cycle := CyclePhase.waiting (.start true w.now) }) hlog
      exact (Act.beginWaiting hc (eq_false_of_ne_true hraised)).cast hscene
  | waiting wait =>
    simp only [hc] at hw
    split at hw
    · rename_i hover
      obtain rfl := Option.some.inj hw
      rw [scene_beginStop]
      exact .beginStop (.inr ⟨⟨wait, hc⟩, hover⟩)
    · rename_i hover
      have hover' : w.scene.coordinator.stop.isOver = false := eq_false_of_ne_true hover
      split at hw
      · rename_i hdue
        split at hw
        · rename_i wait' c hlook
          obtain ⟨hseen, rfl, hscene⟩ := World.scene_look_some w hlook
          obtain rfl := Option.some.inj hw
          have hscene' := congrArg
            (fun f : Scene => { f with cycle := CyclePhase.waiting (w.scene.later wait) }) hscene
          exact (Act.keepWaiting wait hc hover' hdue hseen).cast hscene'
        · rename_i c hlook
          obtain ⟨hseen, hscene⟩ := World.scene_look_none w hlook
          obtain rfl := Option.some.inj hw
          rw [hc] at hscene
          rw [World.scene_startSession, World.scene_log _ _ _ rfl, hscene]
          exact .beginSession wait hc hover' hdue hseen
      · cases hw
  | refused | attended | inSession | stopping | finished | cancelled | panicked =>
    simp [hc] at hw

/-! ## The event loop -/

section EventLoop

variable {s : Session} {executor : Executor} {p : LoopPhase}

theorem act_reply (hs : w.session = some s) (hst : s.stage = .running executor p)
    (hp : p.isReturned = false) {v : World L} {r : Reply}
    (hw : some (v.reply s executor r) = some w') (hv : v.scene = w.scene) :
    Act w.scene .eventLoop w'.scene := by
  obtain rfl := Option.some.inj hw
  have hscene : (v.reply s executor r).scene =
      w.scene.setSession { s with stage := .running executor .active } := by
    rw [← hv]
    exact World.scene_eq _ (World.frame_reply v s executor r) rfl rfl rfl
  rw [hscene]
  exact .loopWent s executor p .active hs hst hp rfl

theorem act_handOver (hs : w.session = some s) (hst : s.stage = .running executor p)
    (hp : p.isReturned = false) {ended : Reply} (hw : w.handOver? s executor ended = some w') :
    Act w.scene .eventLoop w'.scene := by
  unfold World.handOver? at hw
  split at hw
  · exact act_reply hs hst hp hw rfl
  · cases hw
  · exact act_reply hs hst hp hw rfl

/-- A loop that panics ends everything but a call that is under way. -/
theorem scene_panicLoop (h : w.frame.Orderly) (reason : String) :
    (w.panicLoop reason).scene = w.scene.panicLoop reason := by
  let v : World L := { w.abandonSession.dropHeldManager.dropConsumers with cycle := .panicked }
  have hv : v.scene = w.scene.abandonSession .panicked := by
    have hdrop : w.abandonSession.dropHeldManager.dropConsumers.scene = w.abandonSession.scene := by
      simp
    rw [← World.scene_abandonSession]
    exact congrArg (fun f : Scene => { f with cycle := CyclePhase.panicked }) hdrop
  have hatt : w.abandonSession.dropHeldManager.setup.isAttended = false := by
    have habandon : w.abandonSession.setup = w.setup :=
      congrArg Frame.setup (World.frame_abandonSession w)
    have hsetup : w.abandonSession.dropHeldManager.scene.setup = w.scene.setup := by
      rw [World.scene_dropHeldManager]
      exact habandon
    exact (congrArg Setup.isAttended hsetup).trans h.supervised
  have hlog : (v.write (·.log (.loopPanicked reason))).scene =
      v.scene.tell (.logged (.loopPanicked reason) none) :=
    World.scene_record v (.logged (.loopPanicked reason) none) rfl
  have hpost := Coordinator.conduct_post v.coordinator (v.chronicle.log (.loopPanicked reason))
    .supervisorPanicked v.frame.duty v.sessionCount
  have hpanic : w.panicLoop reason =
      { v.write (·.log (.loopPanicked reason)) with
        coordinator := (v.coordinator.post (v.chronicle.log (.loopPanicked reason))
          .supervisorPanicked).1
        chronicle := (v.coordinator.post (v.chronicle.log (.loopPanicked reason))
          .supervisorPanicked).2 } := by
    unfold World.panicLoop
    simp only [hatt]
    rfl
  rw [hpanic, World.scene_put _ (congrArg Conduct.now hpost) (congrArg Conduct.coordinator hpost)
    (congrArg Conduct.outline hpost), hlog, hv]
  unfold Scene.panicLoop
  have hconduct : (⟨v.chronicle.now, v.frame.duty, v.sessionCount, v.coordinator,
      (v.chronicle.log (.loopPanicked reason)).outline⟩ : Conduct) =
        ((w.scene.abandonSession .panicked).tell
          (.logged (.loopPanicked reason) none)).conduct := by
    rw [← hv, ← hlog]
    rfl
  exact congrArg (fun d => Scene.put _ (Conduct.post d .supervisorPanicked)) hconduct

theorem act_serve (h : w.frame.Orderly) (hs : w.session = some s)
    (hst : s.stage = .running executor p) (hp : p.isReturned = false)
    (hw : w.serve? s executor p = some w') : Act w.scene .eventLoop w'.scene := by
  unfold World.serve? at hw
  cases hr : L.request w.loop with
  | nextEvent | tryReceive =>
    simp only [hr] at hw
    split at hw
    · exact act_reply hs hst hp hw rfl
    · exact act_handOver hs hst hp hw
  | receive =>
    simp only [hr] at hw
    exact act_handOver hs hst hp hw
  | awaitQuit =>
    simp only [hr] at hw
    split at hw
    · exact act_reply hs hst hp hw rfl
    · cases hw
  | isQuitting | closeQueue =>
    simp only [hr] at hw
    refine act_reply hs hst hp hw ?_
    rfl
  | sleep duration =>
    simp only [hr] at hw
    split at hw
    · split at hw
      · exact act_reply hs hst hp hw rfl
      · cases hw
    · obtain rfl := Option.some.inj hw
      exact .loopWent s executor p _ hs hst hp rfl
  | drop | dropAll =>
    simp only [hr] at hw
    refine act_reply hs hst hp hw (World.scene_eq _ ?_ rfl rfl rfl)
    apply World.frame_congr <;> simp [World.now]
  | hang => simp [hr] at hw
  | panic reason =>
    simp only [hr, Option.some.injEq] at hw
    subst hw
    rw [scene_panicLoop h]
    exact .loopPanicked s executor p reason hs hst hp
  | finish =>
    simp only [hr, Option.some.injEq] at hw
    subst hw
    rw [World.scene_setSession, World.scene_record _ _ rfl]
    exact .loopEnded s executor p hs hst hp

theorem act_eventLoop (h : w.frame.Orderly) (hw : w.eventLoop? = some w') :
    Act w.scene .eventLoop w'.scene := by
  unfold World.eventLoop? at hw
  split at hw
  · cases hw
  · rename_i s hs
    split at hw
    · rename_i executor hst
      exact act_serve h hs hst rfl hw
    · rename_i executor wake hst
      exact act_serve h hs hst rfl hw
    · cases hw

end EventLoop

/-! ## The session -/

theorem act_session (h : w.frame.Orderly) (hw : w.session? = some w') :
    Act w.scene .session w'.scene := by
  unfold World.session? at hw
  split at hw
  · cases hw
  · rename_i s hs
    split at hw
    · rename_i wait hst
      split at hw
      · rename_i hover
        obtain rfl := Option.some.inj hw
        rw [World.scene_endSession w s h.supervised]
        exact .skipStopped s wait hs hst hover
      · cases hw
    · rename_i loop hst
      obtain ⟨r, hr, rfl⟩ := Option.map_eq_some_iff.1 hw
      rw [World.scene_requestRemoval]
      exact .beginRemoval s loop r hs hst hr
    · rename_i timer hst
      obtain rfl := Option.some.inj hw
      rw [World.scene_endSession _ s (by exact h.supervised), World.scene_cancelTimer]
      exact .sessionEnded s timer hs hst
    · cases hw

theorem act_skip (h : w.frame.Orderly) (hw : w.skip? = some w') :
    Act w.scene .skip w'.scene := by
  unfold World.skip? at hw
  split at hw
  · cases hw
  · rename_i s hs
    split at hw
    · rename_i wait hst
      split at hw
      · rename_i hdue
        split at hw
        · rename_i wait' c hlook
          obtain ⟨hseen, rfl, hscene⟩ := World.scene_look_some w hlook
          obtain rfl := Option.some.inj hw
          rw [World.scene_setSession, hscene]
          exact .keepSkipping s wait hs hst hdue hseen
        · rename_i c hlook
          obtain ⟨hseen, hscene⟩ := World.scene_look_none w hlook
          obtain rfl := Option.some.inj hw
          rw [World.scene_endSession _ s (by exact h.supervised), hscene]
          exact .skipEnded s wait hs hst hdue hseen
      · cases hw
    · cases hw

/-! ## The tasks beside a session -/

theorem scene_raiseQuit (w : World L) (child : Child) (r : QuitReason) :
    (w.raiseQuit child r).scene = w.scene.raiseQuit child r := by
  unfold World.raiseQuit Scene.raiseQuit
  dsimp only
  cases hs : w.session with
  | none =>
    refine World.scene_eq _ ?_ rfl rfl rfl
    simp [World.frame, World.scene, World.now, hs]
  | some s =>
    by_cases hid : s.id = child.session
    · refine World.scene_eq _ ?_ ?_ ?_ ?_ <;>
        simp [World.setSession, World.frame, World.scene, World.now, QuitRequest.spend, hs, hid]
    · refine World.scene_eq _ ?_ ?_ ?_ ?_ <;>
        simp [World.frame, World.scene, World.now, hs, hid]

theorem act_forwardStop (hw : w.forwardStop? = some w') :
    Act w.scene .forwardStop w'.scene := by
  unfold World.forwardStop? at hw
  split at hw
  · rename_i hover
    obtain ⟨child, hfind, rfl⟩ := Option.map_eq_some_iff.1 hw
    have hmem : child ∈ w.children := List.mem_of_find?_eq_some hfind
    have htask : child.task = .forwardStop := by simpa using List.find?_some hfind
    rw [scene_raiseQuit]
    exact .stopForwarded child hmem htask hover
  · cases hw

/-- A watcher that is due to look is one of the tasks. -/
theorem dueLook?_eq_some {now : Nat} {children : List Child} {child : Child}
    {wait : PresenceWait} (h : children.findSome? (Child.dueLook? now) = some (child, wait)) :
    child ∈ children ∧ child.task = .watchRemoval wait ∧ wait.due ≤ now := by
  obtain ⟨other, hmem, hdue⟩ := List.exists_of_findSome?_eq_some h
  unfold Child.dueLook? at hdue
  split at hdue
  · rename_i wait' htask
    split at hdue
    · obtain ⟨rfl, rfl⟩ := Prod.mk.inj (Option.some.inj hdue)
      exact ⟨hmem, htask, ‹_›⟩
    · cases hdue
  · cases hdue

theorem act_watchRemoval (hw : w.watchRemoval? = some w') :
    Act w.scene .watchRemoval w'.scene := by
  obtain ⟨⟨child, wait⟩, hfind, rfl⟩ := Option.map_eq_some_iff.1 hw
  obtain ⟨hmem, htask, hdue⟩ := dueLook?_eq_some hfind
  dsimp only
  split
  · rename_i wait' c hlook
    obtain ⟨hseen, rfl, hscene⟩ := World.scene_look_some w hlook
    have hscene' := congrArg (fun f : Scene => { f with
      children := w.children.map fun other =>
        if other = child then { child with task := .watchRemoval (w.scene.later wait) }
        else other }) hscene
    exact (Act.keepWatching child wait hmem htask hdue hseen).cast hscene'
  · rename_i c hlook
    obtain ⟨hseen, hscene⟩ := World.scene_look_none w hlook
    have hlog := (World.scene_log ({ w with chronicle := c } : World L)
      (.deviceRemoved w.setup.device) (some child.session) rfl).trans hscene
    refine Act.cast ?_ ((scene_raiseQuit _ child .deviceRemoved).trans
      (congrArg (Scene.raiseQuit · child .deviceRemoved) hlog))
    exact .removalSeen child wait hmem htask hdue hseen

end Hotplug
