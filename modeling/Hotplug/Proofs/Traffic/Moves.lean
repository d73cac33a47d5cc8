import Hotplug.Proofs.Teardown
import Hotplug.Proofs.Traffic
import Mathlib.Data.List.Perm.Basic

/-!
# Every move is a chain of steps of the traffic

What each operation and each move of a world makes of its traffic.

* `Chronicle.Quiet` of timers, the coordinator and looks — most of a run has nothing to do with
  notifications.
* `Library.Within`, `World.hasLoopReturned` — what the library does of its own accord, and when the
  event loop is done.
* `flows_beginCall`, `flows_endSession`, … — one lemma for each operation.
* `flows_cycle`, `flows_eventLoop`, `flows_endCall`, … — one lemma for each move.
* `flows_occur` — whatever happens.
* `Supervision.flows` — from any moment of a run to any later one.
-/

namespace Hotplug

open Traffic (Flows Step)

/-! ## What has nothing to do with notifications -/

namespace Chronicle.Quiet

variable {c c' : Chronicle}

theorem post (h : c.Quiet c') (k : Coordinator) (t : Termination) : c.Quiet (k.post c' t).2 := by
  unfold Coordinator.post
  split
  · exact h.record rfl
  · exact h.record rfl

theorem fire (h : c.Quiet c') (ts : Timers) (a : AbortTimer) : c.Quiet (ts.fire c' a).2 := by
  have hfired : c.Quiet ((c'.log (.timerFired a.termination a.delay)).record
      (.timerFired a.id a.termination)) := (h.record rfl).record rfl
  exact ⟨hfired.adds, hfired.outstanding⟩

theorem fireTimer? (h : c.Quiet c') {k : Coordinator} {r : Coordinator × Chronicle}
    (hr : k.fireTimer? c' = some r) : c.Quiet r.2 := by
  unfold Coordinator.fireTimer? at hr
  split at hr
  · cases hr
  · rename_i a _
    obtain rfl := Option.some.inj hr
    exact (h.fire k.timers a).post _ _

theorem decidePosted? (h : c.Quiet c') {k : Coordinator} {r : Coordinator × Chronicle}
    (hr : k.decidePosted? c' = some r) : c.Quiet r.2 := by
  unfold Coordinator.decidePosted? at hr
  split at hr
  · obtain ⟨t, -, rfl⟩ := Option.map_eq_some_iff.1 hr
    exact h.record rfl
  · cases hr

theorem trigger (h : c.Quiet c') (k : Coordinator) : c.Quiet (k.trigger c').2.2 := by
  unfold Coordinator.trigger
  dsimp only
  split
  · exact h.record rfl
  · exact h

theorem takeSignal? (h : c.Quiet c') {k : Coordinator} {r : Coordinator × Chronicle}
    (hr : k.takeSignal? c' = some r) : c.Quiet r.2 := by
  obtain ⟨-, ⟨s, b, -, ⟨-, rfl⟩ | ⟨grace, -, rfl⟩⟩ | ⟨-, -, rfl⟩⟩ :=
    Coordinator.takeSignal?_eq_some hr
  · have htaken : c.Quiet ((c'.record (.signalTaken s)).log (.signalReceived s)) :=
      (h.record rfl).record rfl
    exact (htaken.trigger { k with signals := b }).record rfl
  · exact ((h.record (x := .signalTaken s) rfl).record
      (x := .logged (.secondSignal s) none) rfl).record (x := .terminated .repeatedSignal) rfl
  · exact h

/-- A look for the device is of no concern to notifications. -/
theorem look (h : c.Quiet c') {wait : PresenceWait} {interval : Nat} {t : FileTree} {d : DeviceId}
    {s : Option SessionId} {wait' : Option PresenceWait} {c'' : Chronicle}
    (hlook : wait.look interval t d s c' = (wait', c'')) : c.Quiet c'' := by
  have hcheck : c.Quiet (Presence.check t d s c').2 := by
    unfold Presence.check
    split
    · exact (h.record rfl).record rfl
    · exact h.record rfl
  unfold PresenceWait.look at hlook
  dsimp only at hlook
  split at hlook
  · obtain ⟨-, rfl⟩ := Prod.mk.inj hlook
    exact hcheck.measure _
  · obtain ⟨-, rfl⟩ := Prod.mk.inj hlook
    exact hcheck

theorem applyOptions (h : c.Quiet c') (os : List (String × OptionValue)) :
    c.Quiet (Loopback.applyOptions c' os).2 := by
  induction os generalizing c' with
  | nil => exact h
  | cons o os ih =>
    unfold Loopback.applyOptions
    split
    · exact h
    · exact ih (h.record rfl)

theorem start (h : c.Quiet c') (l : Library) (o : ManagerOptions) : c.Quiet (l.start c' o).2 := by
  have hoptions := h.applyOptions o.values.entries
  unfold Library.start Loopback.start
  split
  · exact h
  · split
    · rename_i heq
      rw [heq] at hoptions
      exact hoptions
    · rename_i heq
      rw [heq] at hoptions
      exact hoptions.record rfl
  · exact h

end Chronicle.Quiet

/-! ## Services -/

section Services

variable {s : Session} {executor : Executor} {p : LoopPhase}

/-- The event loop of a running session runs. -/
theorem Session.looping?_service (hst : s.stage = .running executor p) :
    s.service.looping? = some s.id := by
  unfold Session.service
  rw [hst]
  cases executor <;> rfl

theorem Session.service_eq_dismissing :
    s.service = .dismissing s.id ↔ ∃ timer loop, s.stage = .running (.removed timer) loop := by
  constructor
  · intro h
    unfold Session.service at h
    split at h
    case h_6 timer loop hst => exact ⟨timer, loop, hst⟩
    all_goals cases h
  · rintro ⟨timer, loop, hst⟩
    unfold Session.service
    rw [hst]

/-- The service does not depend on how far the event loop has come. -/
theorem Session.service_loop (hst : s.stage = .running executor p) (p' : LoopPhase) :
    ({ s with stage := .running executor p' } : Session).service = s.service := by
  unfold Session.service
  rw [hst]
  cases executor <;> rfl

end Services

/-- Whatever the library does in its calls of its own accord, it may do. -/
structure Library.Within (l : Library) (may : Deed → Prop) : Prop where
  bring : ∀ k n, ∀ x ∈ (l.behaviour k n).reports, may (.bring x)
  stop : may (.stop l.loopback.isSome)

/-- Whether a session is at a stage at which its event loop has returned. -/
def Stage.hasLoopReturned : Stage → Bool
  | running _ .returned => true
  | _ => false

namespace World

variable {L : EventLoop} {w v : World L} {may : Deed → Prop}

/-- Whether the event loop of the session under way has returned. -/
def hasLoopReturned (w : World L) : Bool :=
  w.session.any (·.stage.hasLoopReturned)

theorem service_of_some {s : Session} (hs : w.session = some s) : w.service = s.service := by
  unfold service
  rw [hs]
  rfl

theorem service_of_none (hs : w.session = none) :
    w.service = if w.cycle.isOver then .over else .idle := by
  unfold service
  rw [hs]
  rfl

/-! ## Operations -/

/-- A change that has nothing to do with notifications. -/
theorem flows_quiet (hc : w.chronicle.Quiet v.chronicle) (hqueue : v.queue = w.queue)
    (hheld : v.held = w.held) (hserv : v.service = w.service)
    (hcount : v.sessionCount = w.sessionCount) : Flows may w.traffic v.traffic := by
  refine (Flows.step (.quiet v.chronicle hc)).cast ?_
  unfold traffic
  rw [hqueue, hheld, hserv, hcount]

theorem flows_deliverAll (f : Traffic) (ks : List Notification)
    (hbring : ∀ k ∈ ks, may (.bring k)) :
    Flows may f
      { f with
        queue := (f.queue.deliverAll f.chronicle ks).2.1
        chronicle := (f.queue.deliverAll f.chronicle ks).2.2 } := by
  induction ks generalizing f with
  | nil => exact .refl f
  | cons k ks ih =>
    obtain ⟨hk, hks⟩ := List.forall_mem_cons.1 hbring
    exact (Flows.step (.deliver k hk)).trans (ih (f.deliver k) hks)

/-- A call in a session begins. -/
theorem flows_beginCall (hlib : w.setup.library.Within may) {k : CallKind} (hk : k ≠ .stop)
    (hbusy : w.service ≠ .idle) : Flows may w.traffic (w.beginCall k).traffic := by
  let u : World L := w.write (·.record (.callBegan k))
  have hbegan : Flows may w.traffic u.traffic := by
    refine flows_quiet ((Chronicle.Quiet.refl _).record ?_) rfl rfl rfl rfl
    cases k <;> first | rfl | exact absurd rfl hk
  have hdriven : Flows may u.traffic (u.driveLoopback k).traffic := by
    unfold driveLoopback
    split
    · exact .refl _
    · rename_i home _
      have hlog : ∀ m : Message, (Happening.logged m none).isTraffic = false →
          Flows may u.traffic { u.traffic with chronicle := u.chronicle.log m } :=
        fun m hm => .step (.quiet _ ((Chronicle.Quiet.refl _).record hm))
      cases k with
      | add =>
        exact ((hlog _ rfl).andThen (.report home .driverReady hbusy)).andThen
          (.report home .nodeAdded hbusy)
      | remove => exact (hlog _ rfl).andThen (.report home .driverRemoved hbusy)
      | stop => exact absurd rfl hk
  exact (hbegan.trans hdriven).trans (flows_deliverAll _ _ (hlib.bring k _))

theorem flows_startSession (hlib : w.setup.library.Within may) (hserv : w.service = .idle) :
    Flows may w.traffic w.startSession.traffic := by
  let u : World L := w.write (·.record (.stateChanged (w.sessionCount + 1) .inactive .activating))
  let armed := u.armTimer u.setup.settings.driver.activationTimeout .driverActivationTimeout
  let v : World L :=
    { armed.2 with
      sessionCount := w.sessionCount + 1
      cycle := .inSession
      session := some
        { id := w.sessionCount + 1, state := .activating, stage := .activating armed.1 } }
  have hu : Flows may w.traffic armed.2.traffic :=
    flows_quiet (((Chronicle.Quiet.refl _).record rfl).record rfl) rfl rfl rfl rfl
  have hv : Flows may w.traffic v.traffic := hu.andThen (.begin hserv)
  exact hv.trans (flows_beginCall (w := v) hlib (by rintro ⟨⟩) (by rintro ⟨⟩))

theorem flows_runLoop {s : Session} (hserv : w.service = .attaching s.id) :
    Flows may w.traffic (w.runLoop s).traffic := by
  have hc : w.chronicle.Quiet _ :=
    ((Chronicle.Quiet.refl _).record (x := .stateChanged s.id s.state .running) rfl).record
      (x := .loopStarted s.id w.setup.device) rfl
  have hquiet : Flows may w.traffic { w.traffic with chronicle := _ } := .step (.quiet _ hc)
  exact hquiet.andThen (.serve s.id hserv)

theorem flows_requestRemoval {s : Session} {loop : LoopPhase} (hlib : w.setup.library.Within may)
    (hs : w.session = some s) (hst : s.stage = .running .listening loop) (r : QuitReason) :
    Flows may w.traffic (w.requestRemoval s loop r).traffic := by
  let u : World L := (w.write (·.log (.quitRequested r) s.id)).transition s .removalRequested
  let armed := u.armTimer u.setup.settings.driver.removalTimeout .driverRemovalTimeout
  let v : World L :=
    (armed.2.transition { s with state := .removalRequested } .removing).setSession
      { s with state := .removing, stage := .running (.removing armed.1) loop }
  have hserv : v.service = w.service := by
    rw [service_of_some hs]
    unfold Session.service
    rw [hst]
    rfl
  have hv : Flows may w.traffic v.traffic :=
    flows_quiet ((((Chronicle.Quiet.refl _).record rfl).record rfl |>.record rfl).record rfl)
      rfl rfl hserv rfl
  exact hv.trans (flows_beginCall (w := v) hlib (by rintro ⟨⟩) (by rintro ⟨⟩))

/-- What a session leaves in the queue is released before it ends. -/
theorem flows_endSession {s : Session} (hatt : w.setup.isAttended = false)
    (hserv : w.service = .attaching s.id ∨ w.service = .dismissing s.id)
    (hleft : w.service = .dismissing s.id → may (.leave w.held)) :
    Flows may w.traffic (w.endSession s).traffic := by
  let cleared : Traffic := w.traffic.clear s.id
  let noted : Traffic := { cleared with chronicle := (w.discardStale s.id).chronicle }
  let left : Traffic :=
    { noted with chronicle := noted.chronicle.record (.stateChanged s.id s.state .removed) }
  have hnoted : cleared.Step may noted := by
    refine .quiet _ ?_
    unfold World.discardStale
    dsimp only
    split
    · exact .refl _
    · exact (Chronicle.Quiet.refl _).record rfl
  have hleft : Flows may w.traffic left :=
    ((Flows.step (.clear s.id hserv hleft)).andThen hnoted).andThen (.leave s.id s.state rfl rfl)
  have hidle : (w.endSession s).service = .idle := by
    have hcycle : (w.endSession s).cycle = .deciding := 
      if_neg (show ¬ w.setup.isAttended = true by simp [hatt])
    rw [service_of_none rfl, hcycle]
    rfl
  have hquiet : left.chronicle.Quiet (w.endSession s).chronicle :=
    ((Chronicle.Quiet.refl _).measure _).record rfl
  refine (hleft.andThen (.quiet _ hquiet)).cast ?_
  unfold traffic
  rw [hidle]
  rfl

/-! ## The end of the supervisor's own loop -/

theorem abandonSession_eq (w : World L) :
    w.abandonSession.chronicle = w.chronicle ∧ w.abandonSession.queue = w.queue ∧
      w.abandonSession.held = w.held ∧ w.abandonSession.session = none ∧
      w.abandonSession.sessionCount = w.sessionCount := by
  unfold abandonSession
  cases hs : w.session with
  | none => exact ⟨rfl, rfl, rfl, hs, rfl⟩
  | some s => exact ⟨rfl, rfl, rfl, rfl, rfl⟩

theorem dropHeldManager_eq (w : World L) :
    w.dropHeldManager = w ∨ w.dropHeldManager = w.dropManager := by
  unfold dropHeldManager
  split
  · exact .inr rfl
  · exact .inl rfl

/-- The supervisor's own loop ends, and the queue and the event loop with it. -/
theorem traffic_dropConsumers (hs : w.session = none) {cycle : CyclePhase}
    (hover : cycle.isOver = true) :
    ({ w.dropConsumers with cycle := cycle } : World L).traffic = w.traffic.shut := by
  let v : World L := { w.dropConsumers with cycle := cycle }
  have hserv : v.service = .over := (service_of_none (w := v) hs).trans (if_pos hover)
  change v.traffic = w.traffic.shut
  unfold traffic
  rw [hserv]
  rfl

/-- The supervisor's own loop ends, perhaps with the manager. -/
theorem flows_dropConsumers {u : World L} (hu : u = v ∨ u = v.dropManager)
    (hc : v.chronicle = w.chronicle) (hqueue : v.queue = w.queue) (hheld : v.held = w.held)
    (hs : v.session = none) (hcount : v.sessionCount = w.sessionCount) {cycle : CyclePhase}
    (hover : cycle.isOver = true) :
    Flows may w.traffic ({ u.dropConsumers with cycle := cycle } : World L).traffic := by
  have hshut : Flows may w.traffic v.traffic.shut := by
    refine (Flows.step .shut).cast ?_
    unfold Traffic.shut traffic
    rw [hc, hqueue, hheld, hcount]
  rcases hu with rfl | rfl
  · rw [traffic_dropConsumers hs hover]
    exact hshut
  · rw [traffic_dropConsumers (by exact hs) hover]
    exact hshut.andThen (.part rfl)

theorem flows_cancelCycle : Flows may w.traffic w.cancelCycle.traffic := by
  obtain ⟨hc, hqueue, hheld, hs, hcount⟩ := abandonSession_eq w
  have hcut : Flows may w.traffic
      { w.abandonSession.dropConsumers.dropHeldManager with cycle := .cancelled }.traffic := by
    rcases dropHeldManager_eq w.abandonSession.dropConsumers with heq | heq
    · rw [heq]
      exact flows_dropConsumers (.inl rfl) hc hqueue hheld hs hcount rfl
    · rw [heq]
      exact flows_dropConsumers (.inr rfl) hc hqueue hheld hs hcount rfl
  unfold cancelCycle
  split
  case h_5 => exact .refl _
  all_goals exact hcut

theorem flows_coordinated {k : Coordinator} {c : Chronicle} (hc : w.chronicle.Quiet c) :
    Flows may w.traffic (w.coordinated k c).traffic := by
  let v : World L := { w with coordinator := k, chronicle := c }
  have hv : Flows may w.traffic v.traffic := flows_quiet hc rfl rfl rfl rfl
  unfold coordinated
  dsimp only
  split
  · refine (hv.trans flows_cancelCycle).trans (flows_quiet ?_ rfl rfl rfl rfl)
    refine (Chronicle.Quiet.refl _).record ?_
    split <;> rfl
  · exact hv

theorem flows_panicLoop (hatt : w.setup.isAttended = false) (reason : String) :
    Flows may w.traffic (w.panicLoop reason).traffic := by
  obtain ⟨hc, hqueue, hheld, hs, hcount⟩ := abandonSession_eq w
  have hatt' : w.abandonSession.dropHeldManager.setup.isAttended = false := by
    have hdrop := congrArg Frame.setup (frame_dropHeldManager w.abandonSession)
    have hsetup := hdrop.trans (congrArg Frame.setup (frame_abandonSession w))
    exact (congrArg Setup.isAttended hsetup).trans hatt
  have hend : Flows may w.traffic
      { w.abandonSession.dropHeldManager.dropConsumers with cycle := .panicked }.traffic :=
    flows_dropConsumers (dropHeldManager_eq _) hc hqueue hheld hs hcount rfl
  unfold panicLoop
  simp only [hatt', Bool.false_eq_true, if_false]
  exact hend.trans (flows_quiet (((Chronicle.Quiet.refl _).record rfl).post _ _) rfl rfl rfl rfl)

/-! ## Moves -/

theorem flows_fireTimer (hw : w.fireTimer? = some v) : Flows may w.traffic v.traffic := by
  obtain ⟨r, hr, rfl⟩ := Option.map_eq_some_iff.1 hw
  exact flows_quiet ((Chronicle.Quiet.refl _).fireTimer? hr) rfl rfl rfl rfl

theorem flows_decide (hw : w.decide? = some v) : Flows may w.traffic v.traffic := by
  obtain ⟨r, hr, rfl⟩ := Option.map_eq_some_iff.1 hw
  exact flows_coordinated ((Chronicle.Quiet.refl _).decidePosted? hr)

theorem flows_takeSignal (hw : w.takeSignal? = some v) : Flows may w.traffic v.traffic := by
  obtain ⟨r, hr, rfl⟩ := Option.map_eq_some_iff.1 hw
  exact flows_coordinated ((Chronicle.Quiet.refl _).takeSignal? hr)

theorem flows_beginStop (hlib : w.setup.library.Within may) (hserv : w.service = .idle)
    (hs : w.session = none) : Flows may w.traffic w.beginStop.traffic := by
  let u : World L := { (w.write (·.log .stoppingManager)) with cycle := .stopping }
  let v : World L := (u.write (·.record (.callBegan .stop))).driveLoopback .stop
  have hu : u.service = .idle := service_of_none (w := u) hs
  have hv : v.traffic = u.traffic.stop w.setup.library.loopback.isSome := by
    unfold Traffic.stop
    simp only [v, u, driveLoopback, write]
    cases w.setup.library.loopback <;> rfl
  have hquiet : Flows may w.traffic u.traffic :=
    flows_quiet ((Chronicle.Quiet.refl _).record rfl) rfl rfl (hu.trans hserv.symm) rfl
  have hstop : Flows may w.traffic v.traffic :=
    (hquiet.andThen (.stop _ hu hlib.stop)).cast hv
  exact hstop.trans (flows_deliverAll _ _ (hlib.bring .stop _))

theorem flows_cycle (h : w.frame.Orderly) (hlib : w.setup.library.Within may)
    (hw : w.cycle? = some v) : Flows may w.traffic v.traffic := by
  unfold cycle? at hw
  split at hw
  · rename_i hc
    have hs : w.session = none := h.session_eq_none (by simp [frame, hc])
    have hidle : w.service = .idle := by rw [service_of_none hs, hc]; rfl
    split at hw
    · obtain rfl := Option.some.inj hw
      exact flows_beginStop hlib hidle hs
    · obtain rfl := Option.some.inj hw
      refine flows_quiet ((Chronicle.Quiet.refl _).record rfl) rfl rfl ?_ rfl
      exact (service_of_none (by exact hs)).trans hidle.symm
  · rename_i wait hc
    have hs : w.session = none := h.session_eq_none (by simp [frame, hc])
    have hidle : w.service = .idle := by rw [service_of_none hs, hc]; rfl
    split at hw
    · obtain rfl := Option.some.inj hw
      exact flows_beginStop hlib hidle hs
    · split at hw
      · split at hw
        · rename_i wait' c hlook
          obtain rfl := Option.some.inj hw
          refine flows_quiet ((Chronicle.Quiet.refl _).look hlook) rfl rfl ?_ rfl
          exact (service_of_none (by exact hs)).trans hidle.symm
        · rename_i c hlook
          obtain rfl := Option.some.inj hw
          let u : World L := ({ w with chronicle := c } : World L).write
            (·.log (.deviceAvailable (w.sessionCount + 1)))
          have hu : Flows may w.traffic u.traffic :=
            flows_quiet (((Chronicle.Quiet.refl _).look hlook).record rfl) rfl rfl rfl rfl
          exact hu.trans (flows_startSession (w := u) hlib hidle)
      · cases hw
  · cases hw

/-! ## The event loop -/

section EventLoop

/-- A list has what stands at a place in it, and all the rest. -/
theorem perm_eraseIdx (ks : List Notification) (i : Nat) :
    ks.Perm (ks[i]?.toList ++ ks.eraseIdx i) := by
  by_cases hi : i < ks.length
  · rw [List.getElem?_eq_getElem hi]
    exact (List.getElem_cons_eraseIdx_perm hi).symm
  · rw [List.getElem?_eq_none (Nat.le_of_not_lt hi),
      List.eraseIdx_of_length_le (Nat.le_of_not_lt hi)]
    exact .refl _

variable {s : Session} {executor : Executor} {p : LoopPhase} {q : Request}

theorem traffic_reply (hs : w.session = some s) (hst : s.stage = .running executor p) (r : Reply) :
    (w.reply s executor r).traffic = w.traffic.reply s.id r := by
  have hserv : (w.reply s executor r).service = w.service := by
    rw [service_of_some hs]
    exact s.service_loop hst .active
  unfold traffic
  rw [hserv]
  rfl

/-- The event loop is told something that it may be told. -/
theorem flows_reply (hs : w.session = some s) (hst : s.stage = .running executor p)
    (hask : may (.ask q)) {r : Reply} (htells : w.traffic.Tells s.id q r) :
    Flows may w.traffic (w.reply s executor r).traffic := by
  have hloop : w.traffic.service.looping? = some s.id :=
    (congrArg Service.looping? (service_of_some hs)).trans (s.looping?_service hst)
  rw [traffic_reply hs hst]
  exact .step (.reply s.id q r hloop hask htells)

theorem flows_handOver (hs : w.session = some s) (hst : s.stage = .running executor p)
    (hask : may (.ask q)) (hlets : w.traffic.Lets s.id q) {ended : Reply}
    (htells : w.queue.receive.1 = .disconnected → w.traffic.Tells s.id q ended)
    (hw : w.handOver? s executor ended = some v) : Flows may w.traffic v.traffic := by
  have hloop : w.traffic.service.looping? = some s.id :=
    (congrArg Service.looping? (service_of_some hs)).trans (s.looping?_service hst)
  unfold handOver? at hw
  split at hw
  · rename_i k queue hreceive
    obtain rfl := Option.some.inj hw
    cases hitems : w.queue.items with
    | nil =>
      unfold Queue.receive at hreceive
      simp only [hitems] at hreceive
      split at hreceive <;> cases hreceive
    | cons first rest =>
      unfold Queue.receive at hreceive
      simp only [hitems] at hreceive
      cases hreceive
      rw [traffic_reply (w := { w with queue := _, held := k :: w.held }) hs hst]
      exact .step (.take s.id q k rest hloop hask hlets hitems)
  · cases hw
  · rename_i queue hreceive
    obtain rfl := Option.some.inj hw
    exact flows_reply hs hst hask (htells (congrArg Prod.fst hreceive))

/-- What the event loop asks for is done. -/
theorem flows_serve (hatt : w.setup.isAttended = false) (hs : w.session = some s)
    (hst : s.stage = .running executor p) (hask : may (.ask (L.request w.loop)))
    (hquit : s.isQuitting = true ↔ w.service = .dismissing s.id)
    (hw : w.serve? s executor p = some v) : Flows may w.traffic v.traffic := by
  unfold serve? at hw
  generalize L.request w.loop = q at hask hw
  cases q with
  | nextEvent =>
    dsimp only at hw
    split at hw
    · rename_i hquitting
      obtain rfl := Option.some.inj hw
      exact flows_reply hs hst hask (.inl (hquit.1 hquitting))
    · rename_i hquitting
      refine flows_handOver hs hst hask (mt hquit.2 hquitting) ?_ hw
      exact fun hnone => Or.inr hnone
  | receive => exact flows_handOver hs hst hask trivial id hw
  | tryReceive =>
    dsimp only at hw
    split at hw
    · rename_i hempty
      obtain rfl := Option.some.inj hw
      exact flows_reply hs hst hask hempty
    · exact flows_handOver hs hst hask trivial id hw
  | awaitQuit =>
    dsimp only at hw
    split at hw
    · rename_i hquitting
      obtain rfl := Option.some.inj hw
      exact flows_reply hs hst hask (hquit.1 hquitting)
    · cases hw
  | isQuitting =>
    obtain rfl := Option.some.inj hw
    exact flows_reply hs hst hask hquit
  | sleep duration =>
    dsimp only at hw
    split at hw
    · split at hw
      · obtain rfl := Option.some.inj hw
        exact flows_reply hs hst hask trivial
      · cases hw
    · obtain rfl := Option.some.inj hw
      refine flows_quiet (.refl _) rfl rfl ?_ rfl
      rw [service_of_some hs]
      exact s.service_loop hst _
  | drop i =>
    obtain rfl := Option.some.inj hw
    let u : World L :=
      { w with
        held := w.held.eraseIdx i
        chronicle := w.chronicle.releaseAll w.held[i]?.toList }
    have hu : Flows may w.traffic u.traffic := .step (.drop _ _ (perm_eraseIdx w.held i))
    exact hu.trans (flows_reply (w := u) hs hst hask trivial)
  | dropAll =>
    obtain rfl := Option.some.inj hw
    let u : World L := { w with held := [], chronicle := w.chronicle.releaseAll w.held }
    have hu : Flows may w.traffic u.traffic := .step (.drop _ _ (.of_eq (List.append_nil _).symm))
    exact hu.trans (flows_reply (w := u) hs hst hask trivial)
  | closeQueue =>
    obtain rfl := Option.some.inj hw
    let u : World L := { w with queue := w.queue.close }
    have hu : Flows may w.traffic u.traffic := .step (.close hask)
    exact hu.trans (flows_reply (w := u) hs hst hask trivial)
  | hang => cases hw
  | panic reason =>
    obtain rfl := Option.some.inj hw
    exact flows_panicLoop hatt reason
  | finish =>
    obtain rfl := Option.some.inj hw
    refine flows_quiet ((Chronicle.Quiet.refl _).record rfl) rfl rfl ?_ rfl
    rw [service_of_some hs]
    exact s.service_loop hst _

end EventLoop

theorem flows_eventLoop (h : w.frame.Orderly) (hquits : w.scene.QuitsRemoved)
    (hask : may (.ask (L.request w.loop))) (hw : w.eventLoop? = some v) :
    Flows may w.traffic v.traffic := by
  unfold eventLoop? at hw
  split at hw
  · cases hw
  · rename_i s hs
    have hquit : s.isQuitting = true ↔ w.service = .dismissing s.id := by
      rw [service_of_some hs, s.service_eq_dismissing]
      exact hquits s hs
    split at hw
    · rename_i executor hst
      exact flows_serve h.supervised hs hst hask hquit hw
    · rename_i executor wake hst
      exact flows_serve h.supervised hs hst hask hquit hw
    · cases hw

/-! ## The session and the tasks beside it -/

theorem service_of_skipping {s : Session} {wait : PresenceWait} (hs : w.session = some s)
    (hst : s.stage = .skipping wait) : w.service = .attaching s.id := by
  rw [service_of_some hs]
  unfold Session.service
  rw [hst]

/-- A session that skips a refused driver ends without an event loop. -/
theorem flows_endSkipping {s : Session} {wait : PresenceWait} (hatt : w.setup.isAttended = false)
    (hs : w.session = some s) (hst : s.stage = .skipping wait) :
    Flows may w.traffic (w.endSession s).traffic := by
  have hserv := service_of_skipping hs hst
  refine flows_endSession hatt (.inl hserv) fun hdismissing => ?_
  rw [hserv] at hdismissing
  cases hdismissing

theorem flows_session (h : w.frame.Orderly) (hlib : w.setup.library.Within may)
    (hleft : w.hasLoopReturned = true → may (.leave w.held)) (hw : w.session? = some v) :
    Flows may w.traffic v.traffic := by
  unfold session? at hw
  split at hw
  · cases hw
  · rename_i s hs
    split at hw
    · rename_i wait hst
      split at hw
      · obtain rfl := Option.some.inj hw
        exact flows_endSkipping h.supervised hs hst
      · cases hw
    · rename_i loop hst
      obtain ⟨r, -, rfl⟩ := Option.map_eq_some_iff.1 hw
      exact flows_requestRemoval hlib hs hst _
    · rename_i timer hst
      obtain rfl := Option.some.inj hw
      let u : World L := w.cancelTimer timer .driverRemovalTimeout
      have hu : Flows may w.traffic u.traffic :=
        flows_quiet ((Chronicle.Quiet.refl _).record rfl) rfl rfl rfl rfl
      have hserv : u.service = .dismissing s.id :=
        (service_of_some (by exact hs)).trans (s.service_eq_dismissing.2 ⟨timer, .returned, hst⟩)
      have hreturned : w.hasLoopReturned = true := by
        unfold hasLoopReturned
        rw [hs]
        exact congrArg Stage.hasLoopReturned hst
      exact hu.trans (flows_endSession (by exact h.supervised) (.inr hserv)
        fun _ => hleft hreturned)
    · cases hw

theorem flows_skip (h : w.frame.Orderly) (hw : w.skip? = some v) :
    Flows may w.traffic v.traffic := by
  unfold skip? at hw
  split at hw
  · cases hw
  · rename_i s hs
    split at hw
    · rename_i wait hst
      have hserv := service_of_skipping hs hst
      split at hw
      · split at hw
        · rename_i wait' c hlook
          obtain rfl := Option.some.inj hw
          exact flows_quiet ((Chronicle.Quiet.refl _).look hlook) rfl rfl hserv.symm rfl
        · rename_i c hlook
          obtain rfl := Option.some.inj hw
          let u : World L := { w with chronicle := c }
          have hu : Flows may w.traffic u.traffic :=
            flows_quiet ((Chronicle.Quiet.refl _).look hlook) rfl rfl rfl rfl
          exact hu.trans (flows_endSkipping (w := u) (by exact h.supervised) hs hst)
      · cases hw
    · cases hw

theorem flows_raiseQuit (child : Child) (r : QuitReason) :
    Flows may w.traffic (w.raiseQuit child r).traffic := by
  unfold raiseQuit
  dsimp only
  split
  · exact .refl _
  · rename_i s hs
    split
    · exact flows_quiet (.refl _) rfl rfl (service_of_some hs).symm rfl
    · exact .refl _

theorem flows_forwardStop (hw : w.forwardStop? = some v) : Flows may w.traffic v.traffic := by
  unfold forwardStop? at hw
  split at hw
  · obtain ⟨child, -, rfl⟩ := Option.map_eq_some_iff.1 hw
    exact flows_raiseQuit child .shutdown
  · cases hw

theorem flows_watchRemoval (hw : w.watchRemoval? = some v) : Flows may w.traffic v.traffic := by
  obtain ⟨⟨child, wait⟩, -, rfl⟩ := Option.map_eq_some_iff.1 hw
  dsimp only
  split
  · rename_i wait' c hlook
    exact flows_quiet ((Chronicle.Quiet.refl _).look hlook) rfl rfl rfl rfl
  · rename_i c hlook
    let u : World L :=
      { w with chronicle := c.log (.deviceRemoved w.setup.device) (some child.session) }
    have hu : Flows may w.traffic u.traffic :=
      flows_quiet (((Chronicle.Quiet.refl _).look hlook).record rfl) rfl rfl rfl rfl
    exact hu.trans (flows_raiseQuit child .deviceRemoved)

/-! ## Library calls -/

section Calls

variable {s : Session} {timer : TimerId} {loop : LoopPhase}

theorem flows_activated (hserv : w.service = .attaching s.id) (ok : Bool) :
    Flows may w.traffic (w.activated s timer ok).traffic := by
  let u : World L := (w.cancelTimer timer .driverActivationTimeout).write
    (·.measure fun m => { m with sessionsStarted := m.sessionsStarted + 1 })
  have hcancelled : w.chronicle.Quiet (w.cancelTimer timer .driverActivationTimeout).chronicle :=
    (Chronicle.Quiet.refl _).record rfl
  have hu : Flows may w.traffic u.traffic :=
    flows_quiet ⟨hcancelled.adds, hcancelled.outstanding⟩ rfl rfl rfl rfl
  unfold activated
  dsimp only
  split
  · exact hu.trans (flows_runLoop (w := u) hserv)
  · split
    · let v : World L := u.write (·.log .activationFailedProceeding s.id)
      have hv : Flows may u.traffic v.traffic :=
        flows_quiet ((Chronicle.Quiet.refl _).record rfl) rfl rfl rfl rfl
      exact (hu.trans hv).trans (flows_runLoop (w := v) hserv)
    · exact hu.trans (flows_quiet ((Chronicle.Quiet.refl _).record rfl) rfl rfl hserv.symm rfl)

theorem flows_addEnded (hs : w.session = some s) (hst : s.stage = .activating timer)
    (r : CallResult) : Flows may w.traffic (w.addEnded r).traffic := by
  have hserv : w.service = .attaching s.id := by
    rw [service_of_some hs]
    unfold Session.service
    rw [hst]
  unfold addEnded
  simp only [hs, hst]
  cases r with
  | returned ok =>
    let u : World L := { w with manager := .held, session := some s }
    have hu : u.service = w.service := (service_of_some rfl).trans (service_of_some hs).symm
    have hback : Flows may w.traffic u.traffic := flows_quiet (.refl _) rfl rfl hu rfl
    exact hback.trans (flows_activated (w := u) (hu.trans hserv) ok)
  | panicked reason =>
    have hlost : Flows may w.traffic { w.traffic.dropSender 0 with service := .stranded s.id } :=
      .step (.strand s.id hserv)
    exact hlost.andThen (.quiet _ ((Chronicle.Quiet.refl _).record rfl))

theorem flows_removeEnded (hs : w.session = some s)
    (hst : s.stage = .running (.removing timer) loop) (r : CallResult)
    (htold : .callEnded .remove r ∈ storyOf s.id w.chronicle.happenings) :
    Flows may w.traffic (w.removeEnded r).traffic := by
  have hserv : w.service = .serving s.id := by
    rw [service_of_some hs]
    unfold Session.service
    rw [hst]
  unfold removeEnded
  simp only [hs, hst]
  have hfail : Flows may w.traffic { w.traffic with service := .failing s.id } :=
    .step (.fail s.id hserv)
  cases r with
  | returned ok =>
    cases ok with
    | true => exact .step (.dismiss s.id hserv htold)
    | false =>
      exact hfail.andThen (.quiet _ (((Chronicle.Quiet.refl _).record rfl).record rfl))
  | panicked reason =>
    have hlost := hfail.andThen (.orphan s.id reason rfl htold)
    exact hlost.andThen (.quiet _ (((Chronicle.Quiet.refl _).record rfl).record rfl))

theorem flows_stopEnded (hs : w.session = none) (hc : w.cycle = .stopping) (r : CallResult) :
    Flows may w.traffic (w.stopEnded r).traffic := by
  have hidle : w.service = .idle := by
    rw [service_of_none hs, hc]
    rfl
  have hc' : w.dropManager.cycle = .stopping := hc
  -- Whatever is logged meanwhile, the queue ends with the manager.
  have hend : ∀ c, w.chronicle.Quiet c →
      Flows may w.traffic
        { ({ w.dropManager with
            coordinator := (w.dropManager.coordinator.post c .completed).1
            chronicle := (w.dropManager.coordinator.post c .completed).2 } :
          World L).dropConsumers with
          cycle := .finished }.traffic := by
    intro c hquiet
    let u : World L :=
      { w with
        coordinator := (w.coordinator.post c .completed).1
        chronicle := (w.coordinator.post c .completed).2 }
    have hu : Flows may w.traffic u.traffic := flows_quiet (hquiet.post _ _) rfl rfl rfl rfl
    exact hu.trans (flows_dropConsumers (v := u) (.inr rfl) rfl rfl rfl hs rfl rfl)
  unfold stopEnded
  simp only [hc']
  cases r with
  | returned ok => exact hend w.chronicle (.refl _)
  | panicked reason =>
    exact hend (w.chronicle.log (.stopPanicked reason)) ((Chronicle.Quiet.refl _).record rfl)

/-- A call that nobody waits for any more ends after the supervisor's own loop. -/
theorem flows_lateEnd (hs : w.session = none) (hover : w.cycle.isOver = true) :
    Flows may w.traffic w.dropManager.traffic :=
  .step (.part ((service_of_none hs).trans (if_pos hover)))

end Calls

theorem flows_endCall (h : w.frame.Orderly)
    (hbegun : begunIn w.chronicle.happenings = w.sessionCount) (hw : w.endCall? = some v) :
    Flows may w.traffic v.traffic := by
  obtain ⟨call, hfind, rfl⟩ := Option.map_eq_some_iff.1 hw
  have hmem : call ∈ w.frame.calls := List.mem_of_find?_eq_some hfind
  obtain ⟨-, hd⟩ := h.call_eq hmem
  dsimp only
  generalize hu : World.write { w with calls := w.calls.erase call }
    (·.record (.callEnded call.kind call.result)) = u
  have hsession : u.session = w.session := by rw [← hu]; rfl
  have hcycle : u.cycle = w.cycle := by rw [← hu]; rfl
  have hended : Flows may w.traffic u.traffic := by
    rw [← hu]
    exact flows_quiet ((Chronicle.Quiet.refl _).record rfl) rfl rfl rfl rfl
  refine hended.trans ?_
  cases hs : w.session with
  | none =>
    have hs' : u.session = none := hsession.trans hs
    obtain ⟨hk, hc⟩ | hcut := h.duty_of_call hs hd
    · rw [hk]
      exact flows_stopEnded hs' (hcycle.trans hc) call.result
    · have hover : u.cycle.isOver = true := by
        rw [hcycle]
        rcases h.cycle_of_cut hcut with hc | hc
        · rw [show w.cycle = .cancelled from hc]; rfl
        · rw [show w.cycle = .panicked from hc]; rfl
      have hlate : Flows may u.traffic u.dropManager.traffic := flows_lateEnd hs' hover
      cases hk : call.kind with
      | add => simpa [addEnded, hs'] using hlate
      | remove => simpa [removeEnded, hs'] using hlate
      | stop =>
        have hne : u.dropManager.cycle ≠ .stopping := by
          intro hc
          rw [show u.cycle = .stopping from hc] at hover
          cases hover
        unfold stopEnded
        dsimp only
        split
        · exact absurd ‹_› hne
        · exact hlate
  | some s =>
    have hs' : u.session = some s := hsession.trans hs
    have hds : s.duty.call? = some call.kind := by
      rw [← h.duty_eq hs]
      exact hd
    cases hk : call.kind with
    | add =>
      obtain ⟨timer, hst⟩ := s.stage_of_adding (hds.trans (congrArg some hk))
      exact flows_addEnded hs' hst _
    | remove =>
      obtain ⟨timer, loop, hst⟩ := s.stage_of_removing (hds.trans (congrArg some hk))
      refine flows_removeEnded hs' hst _ ?_
      have hid : begunIn w.chronicle.happenings = s.id := hbegun.trans (h.session_id s hs).symm
      rw [← hu, hk]
      exact mem_storyOf_cons.2 (.inl ⟨rfl, decide_eq_true hid⟩)
    | stop => exact absurd (hds.trans (congrArg some hk)) s.call?_duty_ne_stop

/-! ## Whatever happens -/

theorem flows_attempt (h : w.frame.Orderly) (hquits : w.scene.QuitsRemoved)
    (hbegun : begunIn w.chronicle.happenings = w.sessionCount) (hlib : w.setup.library.Within may)
    (hleft : w.hasLoopReturned = true → may (.leave w.held)) {m : Move}
    (hask : m = .eventLoop → may (.ask (L.request w.loop))) (hw : w.attempt m = some v) :
    Flows may w.traffic v.traffic := by
  cases m with
  | fireTimer => exact flows_fireTimer hw
  | decide => exact flows_decide hw
  | takeSignal => exact flows_takeSignal hw
  | cycle => exact flows_cycle h hlib hw
  | eventLoop => exact flows_eventLoop h hquits (hask rfl) hw
  | session => exact flows_session h hlib hleft hw
  | skip => exact flows_skip h hw
  | forwardStop => exact flows_forwardStop hw
  | watchRemoval => exact flows_watchRemoval hw
  | endCall => exact flows_endCall h hbegun hw

theorem flows_notify (w : World L) (ks : List Notification) (hbring : ∀ k ∈ ks, may (.bring k)) :
    Flows may w.traffic (w.notify ks).2.traffic := by
  unfold notify
  split
  · exact flows_deliverAll _ _ hbring
  · exact .refl _

/-- Whatever happens is a chain of steps of the traffic. -/
theorem flows_occur (h : w.frame.Orderly) (hquits : w.scene.QuitsRemoved)
    (hbegun : begunIn w.chronicle.happenings = w.sessionCount) (hlib : w.setup.library.Within may)
    (hleft : w.hasLoopReturned = true → may (.leave w.held)) {o : Occurrence}
    (hask : o = .move .eventLoop → may (.ask (L.request w.loop)))
    (hbring : ∀ ks, o = .notify ks → ∀ k ∈ ks, may (.bring k))
    (hdetach : o = .detach → may .detach) : Flows may w.traffic (w.occur o).traffic := by
  cases o with
  | move m =>
    unfold occur
    dsimp only
    cases hw : w.attempt m with
    | none => exact .refl _
    | some v => exact flows_attempt h hquits hbegun hlib hleft (fun hm => hask (by rw [hm])) hw
  | pass time =>
    unfold occur
    dsimp only
    split
    · exact flows_quiet ⟨Adds.refl _, rfl⟩ rfl rfl rfl rfl
    · exact .refl _
  | signal | closeSignals | files => exact .refl _
  | notify ks => exact flows_notify w ks (hbring ks rfl)
  | detach => exact .step (.detach (hdetach rfl))

end World

/-! ## Runs -/

namespace Supervision

variable {L : EventLoop} (s : Supervision L)

/-- The traffic of a run at its start. -/
theorem traffic_start :
    s.start.traffic.queue =
        (if s.refusal?.isSome then { senders := [false, false], receiver := .dropped }
        else { senders := [true, true] }) ∧
      s.start.traffic.held = [] ∧
      s.start.traffic.service = (if s.refusal?.isSome then .over else .idle) ∧
      s.start.traffic.count = 0 ∧
      Adds (!·.isTraffic) [] s.start.traffic.chronicle.happenings := by
  let c : Chronicle := Chronicle.record {} (.managerStarting s.settings.managerOptions)
  have hquiet : Chronicle.Quiet {} (s.library.start c s.settings.managerOptions).2 :=
    ((Chronicle.Quiet.refl _).record rfl).start _ _
  have href : s.refusal? = (s.library.start c s.settings.managerOptions).1 := rfl
  have hstart : s.start = World.launch s.setup s.loop s.files s.signalCapacity := rfl
  rw [hstart, href]
  unfold World.launch
  simp only [setup, Bool.false_eq_true, if_false]
  cases (s.library.start c s.settings.managerOptions).1 with
  | none => exact ⟨rfl, rfl, rfl, rfl, hquiet.adds.cons rfl⟩
  | some r => exact ⟨rfl, rfl, rfl, rfl, hquiet.adds⟩

/-- What the event loop asks for, and what the library does of its own accord, in a run. -/
def deeds (os : List Occurrence) : Deed → Prop
  | .ask q => ∃ before after, os = before ++ .move .eventLoop :: after ∧
      L.request (s.after before).loop = q
  | .leave ks => ∃ before, before <+: os ∧ (s.after before).hasLoopReturned = true ∧
      (s.after before).held = ks
  | .bring k => (∃ c n, k ∈ (s.library.behaviour c n).reports) ∨ ∃ ks, .notify ks ∈ os ∧ k ∈ ks
  | .stop isDriven => s.library.loopback.isSome = isDriven
  | .detach => .detach ∈ os

theorem begunIn_history (os : List Occurrence) :
    begunIn (s.history os) = (s.after os).sessionCount :=
  (begunIn_outlineOf _).symm.trans (s.narrated_after os).begun

theorem flows_concat (os : List Occurrence) (o : Occurrence) (ps : List Occurrence) :
    Flows (s.deeds (os ++ o :: ps)) (s.after os).traffic (s.after (os ++ [o])).traffic := by
  have hsetup : (s.after os).setup = s.setup := s.setup_after os
  rw [after_concat]
  refine World.flows_occur (s.orderly_after os) (s.quitsRemoved_after os) (s.begunIn_history os)
    ?_ ?_ ?_ ?_ ?_
  · rw [hsetup]
    exact ⟨fun c n k hk => .inl ⟨c, n, hk⟩, rfl⟩
  · exact fun hreturned => ⟨os, List.prefix_append _ _, hreturned, rfl⟩
  · rintro rfl
    exact ⟨os, ps, rfl, rfl⟩
  · rintro ks rfl k hk
    exact .inr ⟨ks, List.mem_append_right _ List.mem_cons_self, hk⟩
  · rintro rfl
    exact List.mem_append_right _ List.mem_cons_self

/-- From any moment of a run to any later one, its traffic flows. -/
theorem flows (os ps : List Occurrence) :
    Flows (s.deeds (os ++ ps)) (s.after os).traffic (s.after (os ++ ps)).traffic := by
  induction ps generalizing os with
  | nil =>
    rw [List.append_nil]
    exact .refl _
  | cons o ps ih =>
    have hrest := ih (os ++ [o])
    rw [← List.append_cons] at hrest
    exact (s.flows_concat os o ps).trans hrest

end Supervision

end Hotplug
