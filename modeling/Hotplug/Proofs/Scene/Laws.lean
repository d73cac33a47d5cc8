import Hotplug.Proofs.Scene
import Hotplug.Proofs.Steps.Coordinator

/-!
# The laws of scenes

What each operation of a world does to its scene: the same operation on scenes does.

* `World.scene_eq` — a scene is a frame with the files, the tasks and the calls.
* `World.scene_beginCall`, `World.scene_endSession`, … — one law for each operation.
* `World.scene_look` — a look shows what the files hold, and the next one comes an interval
  later.
-/

namespace Hotplug

namespace World

variable {L : EventLoop} (w : World L)

theorem scene_eq {f : Scene} (hframe : w.frame = f.toFrame) (hfiles : w.files = f.files)
    (hchildren : w.children = f.children) (hcount : w.callCount = f.callCount) : w.scene = f := by
  unfold scene
  rw [hframe, hfiles, hchildren, hcount]

/-! ## What does not matter to the scene -/

/-- A message does not matter to the scene, unless it says that the event loop panicked. -/
theorem scene_log (m : Message) (s : Option SessionId) (hm : m.isLoopPanic = false) :
    (w.write (·.log m s)).scene = w.scene :=
  scene_eq _ (frame_log w m s hm) rfl rfl rfl

theorem scene_record (h : Happening) (hh : h.isOutline = true) :
    (w.write (·.record h)).scene = w.scene.tell h :=
  scene_eq _ (frame_record w h hh) rfl rfl rfl

@[simp] theorem scene_dropHeldManager : w.dropHeldManager.scene = w.scene := by
  have hframe : w.dropHeldManager.frame = w.frame := frame_dropHeldManager w
  apply scene_eq _ hframe
  · unfold dropHeldManager
    split <;> rfl
  · unfold dropHeldManager
    split <;> rfl
  · unfold dropHeldManager
    split <;> rfl

@[simp] theorem scene_dropConsumers : w.dropConsumers.scene = w.scene :=
  scene_eq _ (frame_dropConsumers w) rfl rfl rfl

/-- The loopback library touches neither the files nor the tasks. -/
theorem company_driveLoopback (k : CallKind) :
    (w.driveLoopback k).files = w.files ∧ (w.driveLoopback k).children = w.children ∧
      (w.driveLoopback k).callCount = w.callCount := by
  unfold driveLoopback
  split
  · exact ⟨rfl, rfl, rfl⟩
  · cases k with
    | add => exact ⟨rfl, rfl, rfl⟩
    | remove => exact ⟨rfl, rfl, rfl⟩
    | stop => exact ⟨rfl, rfl, rfl⟩

/-! ## Calls, timers and states -/

theorem scene_beginCall (k : CallKind) : (w.beginCall k).scene = w.scene.beginCall k := by
  obtain ⟨hfiles, hchildren, hcount⟩ :=
    company_driveLoopback (w.write (·.record (.callBegan k))) k
  refine scene_eq _ (frame_beginCall w k) hfiles hchildren ?_
  exact congrArg (Tally.bump k) hcount

theorem scene_setSession (s : Session) : (w.setSession s).scene = w.scene.setSession s := rfl

theorem scene_transition (s : Session) (next : SessionState) :
    (w.transition s next).scene = w.scene.transition s next :=
  scene_eq _ (frame_transition w s next) rfl rfl rfl

theorem scene_armTimer (delay : Nat) (t : Termination) :
    (w.armTimer delay t).2.scene = w.scene.armTimer delay t := by
  refine scene_eq _ ?_ rfl rfl rfl
  simp only [armTimer, Timers.arm, frame, World.now]
  simp [Happening.isOutline]
  rfl

theorem scene_cancelTimer (id : TimerId) (t : Termination) :
    (w.cancelTimer id t).scene = w.scene.dropTimer id :=
  scene_eq _ (frame_cancelTimer w id t) rfl rfl rfl

/-! ## Sessions -/

theorem scene_startSession : w.startSession.scene = w.scene.startSession := by
  unfold startSession Scene.startSession
  rw [scene_beginCall]
  apply congrArg (Scene.beginCall · .add)
  have harm := scene_armTimer (w.write (·.record (.stateChanged (w.sessionCount + 1) .inactive
    .activating))) w.setup.settings.driver.activationTimeout .driverActivationTimeout
  rw [scene_record _ _ rfl] at harm
  exact congrArg (fun f : Scene =>
    { f with
      cycle := .inSession
      session := some w.scene.nextSession
      count := w.sessionCount + 1 : Scene }) harm

theorem scene_runLoop (s : Session) : (w.runLoop s).scene = w.scene.runLoop s :=
  scene_eq _ (frame_runLoop w s) rfl rfl rfl

theorem scene_requestRemoval (s : Session) (loop : LoopPhase) (r : QuitReason) :
    (w.requestRemoval s loop r).scene = w.scene.requestRemoval s loop := by
  refine scene_eq _ ((frame_requestRemoval w s loop r).trans rfl) ?_ ?_ ?_
  · exact (company_driveLoopback _ _).1
  · exact (company_driveLoopback _ _).2.1
  · exact congrArg (Tally.bump .remove) (company_driveLoopback _ _).2.2

theorem scene_endSession (s : Session) (hs : w.setup.isAttended = false) :
    (w.endSession s).scene = w.scene.endSession s :=
  scene_eq _ (frame_endSession w s hs) rfl rfl rfl

/-- The tasks beside a session that is cut off are gone. -/
theorem company_abandonSession :
    w.abandonSession.files = w.files ∧
      w.abandonSession.children = w.scene.childrenAfterCut ∧
      w.abandonSession.callCount = w.callCount := by
  unfold abandonSession Scene.childrenAfterCut
  cases hs : w.session with
  | none => simp [scene, frame, hs]
  | some s => simp [scene, frame, hs, dropChildren]

theorem scene_abandonSession (cycle : CyclePhase) :
    ({ w.abandonSession with cycle := cycle } : World L).scene = w.scene.abandonSession cycle := by
  obtain ⟨hfiles, hchildren, hcount⟩ := company_abandonSession w
  refine scene_eq _ ?_ hfiles hchildren hcount
  exact congrArg (fun f : Frame => { f with cycle := cycle }) (frame_abandonSession w)

/-- Ending a run while its loop is under way cuts the session off. -/
theorem scene_cancelCycle (h : w.frame.Orderly) : w.cancelCycle.scene = w.scene.cancelCycle := by
  have hcut : { w.abandonSession.dropConsumers.dropHeldManager with cycle := .cancelled }.scene =
      w.scene.abandonSession .cancelled := by
    rw [← scene_abandonSession]
    have hdrop : w.abandonSession.dropConsumers.dropHeldManager.scene = w.abandonSession.scene := by
      simp
    exact congrArg (fun f : Scene => { f with cycle := CyclePhase.cancelled }) hdrop
  have hactive : w.frame.duty.isActive = true → w.scene.cancelCycle =
      w.scene.abandonSession .cancelled := fun ha => if_pos ha
  have hpassive : ¬ w.frame.duty.isActive = true → w.scene.cancelCycle = w.scene :=
    fun ha => if_neg ha
  cases hc : w.cycle with
  | inSession =>
    obtain ⟨s, hs⟩ := h.exists_session hc
    rw [hactive (h.isActive hs)]
    simp only [cancelCycle, hc, hcut]
  | deciding | waiting | stopping =>
    rw [hactive (by simp [Frame.duty, frame, hc, Duty.isActive])]
    simp only [cancelCycle, hc, hcut]
  | refused | attended | finished | cancelled | panicked =>
    rw [hpassive (by simp [Frame.duty, frame, hc, Duty.isActive])]
    simp only [cancelCycle, hc]

/-! ## Looks -/

theorem seen_eq (t : FileTree) (d : DeviceId) (s : Option SessionId) (c : Chronicle) :
    (Presence.check t d s c).1 = (Sighting.of t d).isPresent := by
  unfold Presence.check
  cases hsight : Sighting.of t d with
  | unclear fault => rfl
  | present => rfl
  | absent => rfl

/-- A wait that is over has seen what it waits for. -/
theorem scene_look_none {wait : PresenceWait} {s : Option SessionId} {c : Chronicle}
    (hlook : wait.look w.setup.pollInterval w.files w.setup.device s w.chronicle = (none, c)) :
    w.scene.sees = wait.desired ∧
      ({ w with chronicle := c } : World L).scene = w.scene.tell (.checked w.scene.sees) := by
  have hseen : w.scene.sees = wait.desired := by
    refine (seen_eq w.files w.setup.device s w.chronicle).symm.trans ?_
    unfold PresenceWait.look at hlook
    dsimp only at hlook
    split at hlook
    · assumption
    · cases hlook
  obtain ⟨hnow, hout⟩ := PresenceWait.look_eq_none hlook
  refine ⟨hseen, scene_eq _ ?_ rfl rfl rfl⟩
  rw [hseen]
  simp only [frame, now, hnow, hout]
  rfl

/-- A wait that goes on has not seen what it waits for, and looks again later. -/
theorem scene_look_some {wait wait' : PresenceWait} {s : Option SessionId} {c : Chronicle}
    (hlook : wait.look w.setup.pollInterval w.files w.setup.device s w.chronicle =
      (some wait', c)) :
    w.scene.sees ≠ wait.desired ∧ wait' = w.scene.later wait ∧
      ({ w with chronicle := c } : World L).scene = w.scene.tell (.checked w.scene.sees) := by
  obtain ⟨hnow, hout⟩ := Presence.outline_check w.files w.setup.device s w.chronicle
  rw [seen_eq] at hout
  unfold PresenceWait.look at hlook
  dsimp only at hlook
  split at hlook
  · cases hlook
  · rename_i hseen
    rw [seen_eq] at hseen
    obtain ⟨hw, rfl⟩ := Prod.mk.inj hlook
    obtain rfl := Option.some.inj hw
    refine ⟨hseen, ?_, scene_eq _ ?_ rfl rfl rfl⟩
    · rw [hnow]
      rfl
    · simp only [frame, now, hnow, hout]
      rfl

/-! ## The coordinator -/

/-- A world with another coordinator and another chronicle shows the conduct that they make. -/
theorem scene_put {k : Coordinator} {c : Chronicle} {d : Conduct}
    (hnow : c.now = d.now) (hk : k = d.coordinator) (hout : c.outline = d.outline) :
    ({ w with coordinator := k, chronicle := c } : World L).scene = w.scene.put d := by
  refine scene_eq _ ?_ rfl rfl rfl
  simp only [frame, now, hnow, hk, hout]
  rfl

/-- A decision of the coordinator ends the supervisor's own loop, if that is under way. -/
theorem scene_coordinated (h : w.frame.Orderly) (k : Coordinator) (c : Chronicle)
    (t : Termination) (hg : k.gracePeriod = w.coordinator.gracePeriod) {f : Scene}
    (hf : ({ w with coordinator := k, chronicle := c } : World L).scene = f) :
    (w.coordinated (k.conclude t) (c.record (.terminated t))).scene = f.decide t := by
  let v : World L :=
    { w with coordinator := k.conclude t, chronicle := c.record (.terminated t) }
  have hv : v.frame.Orderly := h.congr rfl rfl rfl rfl rfl hg
  have hscene : v.scene =
      ({ f with coordinator := f.coordinator.conclude t : Scene }.tell (.terminated t)) := by
    rw [← hf]
    refine scene_eq _ ?_ rfl rfl rfl
    simp only [v, frame, now]
    simp [Happening.isOutline]
    rfl
  have hatt : v.setup.isAttended = false := h.supervised
  have hcancel : v.cancelCycle.scene = f.decide t := by
    rw [scene_cancelCycle v hv, hscene]
    rfl
  rw [← hcancel]
  unfold coordinated
  dsimp only
  split
  · exact scene_log _ _ _ (by split <;> rfl)
  · rename_i hno
    exact (hno t rfl hatt).elim

end World

end Hotplug
