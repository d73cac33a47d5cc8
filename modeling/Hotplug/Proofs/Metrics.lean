import Hotplug.Proofs.Appearances
import Hotplug.Proofs.Metrics.Upkeep
import Hotplug.Proofs.Tallies

/-!
# Metrics agree with what happened

The counters of sessions, of removals and of fired timers, and the gauge for the device, say what
the happenings of a run say.

* `Metrics.Fits` — the metrics are those of what has happened.
* `World.Measured` — so it is in a world; every move keeps it.
* `Supervision.metrics_agree` — so it is at every moment of a run.
-/

namespace Hotplug

/-! ## Metrics and happenings -/

/-- Whether a happening shows in none of the metrics of the supervisor itself. -/
def Happening.isUnmeasured : Happening → Bool
  | callEnded .add (.returned _) | stateChanged _ _ .removed | timerFired .. => false
  | callBegan .add | checked false => false
  | _ => true

namespace Happening

variable (x : Happening)

theorem isReturn_of_isUnmeasured (hx : x.isUnmeasured = true) : x.isReturn = false := by
  cases x with
  | callEnded k r => cases k <;> cases r <;> first | rfl | cases hx
  | _ => rfl

theorem removedSession?_of_isUnmeasured (hx : x.isUnmeasured = true) :
    x.removedSession? = none := by
  cases x with
  | stateChanged n a b => cases b <;> first | rfl | cases hx
  | _ => rfl

theorem fired?_of_isUnmeasured (t : Termination) (hx : x.isUnmeasured = true) :
    x.fired? t = none := by
  cases x <;> first | rfl | cases hx

theorem isLater_of_isUnmeasured (hx : x.isUnmeasured = true) : x.isLater = true := by
  cases x with
  | callBegan k => cases k <;> first | rfl | cases hx
  | _ => rfl

end Happening

section Gone

variable {hs hs' : List (Nat × Happening)} {t : Nat} {x : Happening}

theorem gone_iff {p : Happening → Bool} (hadds : Adds p hs hs')
    (hlater : ∀ x, p x = true → x.isLater = true) (hlook : p (.checked false) = false) :
    Gone hs' ↔ Gone hs :=
  ⟨fun ⟨t, ht⟩ => ⟨t, hadds.since hlook ht⟩, fun h => h.adds (hadds.mono hlater)⟩

theorem gone_cons_iff (hlater : x.isLater = true) (hlook : x ≠ .checked false) :
    Gone ((t, x) :: hs) ↔ Gone hs :=
  gone_iff (p := fun y => y = x) ((Adds.refl _).cons (by simp)) (by simpa using hlater)
    (by simpa using Ne.symm hlook)

/-- A look has just shown that the device is gone. -/
theorem gone_of_look : Gone ((t, .checked false) :: hs) :=
  ⟨t, (since_cons _).2 (.inl rfl)⟩

/-- A session has just begun. -/
theorem not_gone_of_begin : ¬ Gone ((t, .callBegan .add) :: hs) := by
  rintro ⟨t', hsince⟩
  have hnot : ¬ Since (· = .callBegan .add) (.checked false) t' ((t, .callBegan .add) :: hs) :=
    not_since_of_ends rfl (by rintro ⟨⟩)
  exact hnot hsince

end Gone

namespace Metrics

/-- The metrics of the supervisor itself are those of what has happened. -/
structure Fits (m : Metrics) (hs : List (Nat × Happening)) : Prop where
  started : m.sessionsStarted = (startedIn hs).length
  removed : m.sessionsRemoved = (removedIn hs).length
  sampled : m.durations.length = (removedIn hs).length
  fired : ∀ x, Tally.count x m.aborts = (firedIn x hs).length
  /-- The gauge says that the device is there only once a session has begun. -/
  begun : m.devicePresent = some true → ∃ t, (t, .callBegan .add) ∈ hs
  present : ∀ b, m.devicePresent = some b → (b = true ↔ ¬ Gone hs)

namespace Fits

variable {m m' : Metrics} {hs hs' : List (Nat × Happening)} {t : Nat}

theorem fresh : Fits {} [] := by
  refine ⟨rfl, rfl, rfl, fun _ => rfl, ?_, ?_⟩
  · rintro ⟨⟩
  · rintro b ⟨⟩

/-- The counts of notifications do not matter. -/
theorem congr (h : m.Fits hs) (hown : m'.own = m.own) : m'.Fits hs where
  started := (congrArg sessionsStarted hown).trans h.started
  removed := (congrArg sessionsRemoved hown).trans h.removed
  sampled := (congrArg (·.durations.length) hown).trans h.sampled
  fired x := (congrArg (Tally.count x ·.aborts) hown).trans (h.fired x)
  begun hm := h.begun ((congrArg devicePresent hown).symm.trans hm)
  present b hm := h.present b ((congrArg devicePresent hown).symm.trans hm)

/-- What happens shows in none of the metrics. -/
theorem adds (h : m.Fits hs) (hadds : Adds Happening.isUnmeasured hs hs') : m.Fits hs' where
  started := by rw [hadds.startedIn Happening.isReturn_of_isUnmeasured, h.started]
  removed := by rw [hadds.removedIn Happening.removedSession?_of_isUnmeasured, h.removed]
  sampled := by rw [hadds.removedIn Happening.removedSession?_of_isUnmeasured, h.sampled]
  fired x := by rw [hadds.firedIn (·.fired?_of_isUnmeasured x), h.fired]
  begun hm := by
    obtain ⟨t, hmem⟩ := h.begun hm
    exact ⟨t, (hadds.mem rfl).2 hmem⟩
  present b hm := by
    rw [gone_iff hadds Happening.isLater_of_isUnmeasured rfl]
    exact h.present b hm

/-- What happens does not matter to the gauge. -/
theorem gauge_cons {x : Happening} (h : m.Fits hs) (hlater : x.isLater = true)
    (hlook : x ≠ .checked false) :
    (m.devicePresent = some true → ∃ t', (t', .callBegan .add) ∈ (t, x) :: hs) ∧
      ∀ b, m.devicePresent = some b → (b = true ↔ ¬ Gone ((t, x) :: hs)) := by
  rw [gone_cons_iff hlater hlook]
  refine ⟨fun hpresent => ?_, h.present⟩
  obtain ⟨t', hmem⟩ := h.begun hpresent
  exact ⟨t', List.mem_cons_of_mem _ hmem⟩

/-- The call to add the driver returns to the session that waits for it. -/
theorem start (h : m.Fits hs) (ok : Bool) (hgoing : ∀ e ∈ hs, e.2.isEnd = false) :
    Fits { m with sessionsStarted := m.sessionsStarted + 1 }
      ((t, .callEnded .add (.returned ok)) :: hs) := by
  obtain ⟨hbegun, hpresent⟩ :=
    h.gauge_cons (t := t) (x := .callEnded .add (.returned ok)) rfl (by rintro ⟨⟩)
  refine ⟨?_, ?_, ?_, fun x => ?_, hbegun, hpresent⟩
  · rw [startedIn_cons_of_return rfl hgoing, List.length_cons, h.started]
  · exact h.removed
  · exact h.sampled
  · exact h.fired x

/-- The call to add the driver ends when nobody waits for it any more. -/
theorem late (h : m.Fits hs) (k : CallKind) (r : CallResult) (hended : ∃ e ∈ hs, e.2.isEnd = true) :
    m.Fits ((t, .callEnded k r) :: hs) := by
  obtain ⟨hbegun, hpresent⟩ := h.gauge_cons (t := t) (x := .callEnded k r) rfl (by rintro ⟨⟩)
  refine ⟨?_, ?_, ?_, fun x => ?_, hbegun, hpresent⟩
  · rw [startedIn_cons_of_ended _ hended, h.started]
  · exact h.removed
  · exact h.sampled
  · exact h.fired x

/-- A session is removed. -/
theorem remove (h : m.Fits hs) (n : SessionId) (a : SessionState) (elapsed : Nat) :
    Fits
      { m with
        sessionsRemoved := m.sessionsRemoved + 1
        durations := m.durations ++ [elapsed] }
      ((t, .stateChanged n a .removed) :: hs) := by
  obtain ⟨hbegun, hpresent⟩ :=
    h.gauge_cons (t := t) (x := .stateChanged n a .removed) rfl (by rintro ⟨⟩)
  have hcons : removedIn ((t, .stateChanged n a .removed) :: hs) = n :: removedIn hs := rfl
  refine ⟨?_, ?_, ?_, fun x => ?_, hbegun, hpresent⟩
  · rw [startedIn_cons_of_not _ rfl, h.started]
  · rw [hcons, List.length_cons, h.removed]
  · rw [hcons, List.length_cons, List.length_append, h.sampled]
    rfl
  · exact h.fired x

/-- A timer fires. -/
theorem fire (h : m.Fits hs) (id : TimerId) (x : Termination) :
    Fits { m with aborts := Tally.bump x m.aborts } ((t, .timerFired id x) :: hs) := by
  obtain ⟨hbegun, hpresent⟩ := h.gauge_cons (t := t) (x := .timerFired id x) rfl (by rintro ⟨⟩)
  refine ⟨?_, ?_, ?_, fun y => ?_, hbegun, hpresent⟩
  · rw [startedIn_cons_of_not _ rfl, h.started]
  · exact h.removed
  · exact h.sampled
  · rw [Tally.count_bump, firedIn_cons, List.length_append, h.fired, Happening.fired?]
    split
    · simp [Nat.add_comm]
    · simp

/-- A session begins, as a look shows the device. -/
theorem begin (h : m.Fits hs) :
    Fits { m with devicePresent := some true } ((t, .callBegan .add) :: hs) where
  started := by rw [startedIn_cons_of_not _ rfl, h.started]
  removed := h.removed
  sampled := h.sampled
  fired := h.fired
  begun _ := ⟨t, List.mem_cons_self⟩
  present := by
    rintro b ⟨⟩
    exact iff_of_true rfl not_gone_of_begin

/-- A look shows that the device is gone, and the gauge says so. -/
theorem vanish (h : m.Fits hs) :
    Fits { m with devicePresent := some false } ((t, .checked false) :: hs) where
  started := by rw [startedIn_cons_of_not _ rfl, h.started]
  removed := h.removed
  sampled := h.sampled
  fired := h.fired
  begun := by rintro ⟨⟩
  present := by
    rintro b ⟨⟩
    exact iff_of_false Bool.false_ne_true (not_not_intro gone_of_look)

/-- A look shows that the device is still gone. -/
theorem absent (h : m.Fits hs) (hgone : (∃ t, (t, .callBegan .add) ∈ hs) → Gone hs) :
    m.Fits ((t, .checked false) :: hs) := by
  have hdown : m.devicePresent ≠ some true :=
    fun hm => (h.present true hm).1 rfl (hgone (h.begun hm))
  refine ⟨?_, h.removed, h.sampled, h.fired, fun hm => absurd hm hdown, ?_⟩
  · rw [startedIn_cons_of_not _ rfl, h.started]
  · intro b hm
    refine iff_of_false ?_ (not_not_intro gone_of_look)
    rintro rfl
    exact hdown hm

end Fits

end Metrics

/-! ## Worlds -/

/-- As long as the supervisor waits for the next session, the device has been gone since the last
one, if there was one. -/
theorem Scene.Evident.gone_of_waiting {f : Scene} (h : f.Evident) {wait : PresenceWait}
    (hc : f.cycle = .waiting wait) (hover : f.coordinator.stop.isOver = false)
    (hbegan : ∃ t, (t, .callBegan .add) ∈ f.outline) : Gone f.outline := by
  obtain ⟨r, hr⟩ := h.idle (.inr ⟨wait, hc⟩) hbegan
  cases r with
  | deviceRemoved => exact hr
  | shutdown =>
    have hraised : f.coordinator.stop.isRaised = true := hr
    rw [Scene.isRaised_of_not_isOver hover] at hraised
    cases hraised

/-- The metrics of a world are those of what has happened in it. -/
def World.Measured {L : EventLoop} (w : World L) : Prop :=
  w.chronicle.metrics.Fits w.scene.outline

namespace World.Measured

variable {L : EventLoop} {w w' : World L}

/-- What happens shows in none of the metrics. -/
theorem go (h : w.Measured) (hadds : Adds Happening.isUnmeasured w.scene.outline w'.scene.outline)
    (hown : w'.own = w.own) : w'.Measured :=
  (h.adds hadds).congr hown

/-- One thing happens that shows in none of the metrics. -/
theorem cons (h : w.Measured) {x : Happening} (hx : x.isUnmeasured = true)
    (hout : w'.scene.outline = (w.now, x) :: w.scene.outline) (hown : w'.own = w.own) :
    w'.Measured := by
  refine h.go ?_ hown
  rw [hout]
  exact (Adds.refl _).cons hx

/-- Nothing happens that anybody sees. -/
theorem stay (h : w.Measured) (hout : w'.scene.outline = w.scene.outline) (hown : w'.own = w.own) :
    w'.Measured := by
  refine h.go ?_ hown
  rw [hout]
  exact Adds.refl _

theorem log (h : w.Measured) (m : Message) (s : Option SessionId) :
    (w.write (·.log m s)).Measured := by
  refine h.go ?_ rfl
  change Adds _ w.chronicle.outline (w.chronicle.log m s).outline
  rw [Chronicle.outline_log]
  split
  · exact (Adds.refl _).cons rfl
  · exact Adds.refl _

/-- The coordinator is asked for a termination. -/
theorem post (h : w.Measured) (k : Coordinator) (t : Termination) :
    ({ w with
        coordinator := (k.post w.chronicle t).1
        chronicle := (k.post w.chronicle t).2 } : World L).Measured := by
  refine h.go ?_ (congrArg Metrics.own (k.metrics_post w.chronicle t))
  have hpost : (k.post w.chronicle t).2.outline =
      (Conduct.post ⟨w.now, .idle, 0, k, w.chronicle.outline⟩ t).outline :=
    congrArg Conduct.outline (k.conduct_post w.chronicle t .idle 0)
  change Adds _ w.chronicle.outline (k.post w.chronicle t).2.outline
  rw [hpost]
  exact Conduct.adds_post (Adds.refl _) t rfl

theorem dropConsumers (h : w.Measured) : w.dropConsumers.Measured :=
  h.stay (congrArg (fun f : Scene => f.outline) (scene_dropConsumers w)) (own_dropConsumers w)

theorem beginStop (h : w.Measured) : w.beginStop.Measured :=
  h.cons (x := .callBegan .stop) rfl (by rw [scene_beginStop]; rfl) (own_beginStop w)

/-- A session begins, as a look shows the device. -/
theorem startSession (h : w.Measured) {v : World L}
    (hout : v.scene.outline = (w.now, .checked true) :: w.scene.outline)
    (hown : v.own = { w.own with devicePresent := some true }) : v.startSession.Measured := by
  -- In `v` the gauge is up already, while the device may have been gone since the last session
  -- began: only the call to add the driver makes the two agree again.
  have hopen : Adds Happening.isUnmeasured w.scene.outline
      ((v.now, .timerArmed v.coordinator.timers.made .driverActivationTimeout) ::
        (v.now, .stateChanged (v.sessionCount + 1) .inactive .activating) :: v.scene.outline) := by
    rw [hout]
    exact (((Adds.refl _).cons rfl).cons rfl).cons rfl
  have hfits := (h.adds hopen).begin (t := v.now)
  have houtline : v.startSession.scene.outline = (v.now, .callBegan .add) ::
      (v.now, .timerArmed v.coordinator.timers.made .driverActivationTimeout) ::
        (v.now, .stateChanged (v.sessionCount + 1) .inactive .activating) :: v.scene.outline := by
    rw [scene_startSession]
    rfl
  unfold Measured
  rw [houtline]
  exact hfits.congr ((own_startSession v).trans hown)

/-- A session ends as removed. -/
theorem endSession (h : w.Measured) (hsup : w.setup.isAttended = false) (s : Session) :
    (w.endSession s).Measured := by
  obtain ⟨elapsed, hown⟩ := w.own_endSession s
  unfold Measured
  rw [scene_endSession w s hsup]
  exact (h.remove s.id s.state elapsed).congr hown

theorem requestRemoval (h : w.Measured) (s : Session) (loop : LoopPhase) (r : QuitReason) :
    (w.requestRemoval s loop r).Measured := by
  refine h.go ?_ (own_requestRemoval w s loop r)
  rw [scene_requestRemoval, Scene.outline_requestRemoval]
  exact (((Adds.refl _).cons rfl).cons rfl |>.cons rfl).cons rfl

theorem runLoop (h : w.Measured) (s : Session) : (w.runLoop s).Measured := by
  refine h.go ?_ (own_runLoop w s)
  rw [scene_runLoop]
  exact ((Adds.refl _).cons rfl).cons rfl

/-- The library has added the driver, or refused to, and a session waits for that. -/
theorem activated (h : w.Measured) (hgoing : ∀ e ∈ w.scene.outline, e.2.isEnd = false)
    {v : World L} {ok : Bool}
    (hout : v.scene.outline = (w.now, .callEnded .add (.returned ok)) :: w.scene.outline)
    (hown : v.own = w.own) (s : Session) (timer : TimerId) :
    (v.activated s timer ok).Measured := by
  -- The counter follows the call within the same move, whatever becomes of the session then.
  let u : World L := (v.cancelTimer timer .driverActivationTimeout).write
    (·.measure fun m => { m with sessionsStarted := m.sessionsStarted + 1 })
  have hu : u.Measured := by
    have houtline : u.scene.outline = (w.now, .callEnded .add (.returned ok)) :: w.scene.outline :=
      (congrArg (fun f : Scene => f.outline) (scene_cancelTimer v timer _)).trans hout
    unfold Measured
    rw [houtline]
    exact (h.start ok hgoing).congr
      (congrArg (fun m : Metrics => { m with sessionsStarted := m.sessionsStarted + 1 }) hown)
  unfold World.activated
  dsimp only
  split
  · exact hu.runLoop _
  · split
    · exact (hu.log _ _).runLoop _
    · exact hu.log _ _

/-- The library has ended the call to remove the driver. -/
theorem removeEnded (h : w.Measured) (r : CallResult) : (w.removeEnded r).Measured := by
  have hfailed : ∀ (v : World L), v.Measured → ∀ (s : Session) (timer : TimerId)
      (loop : LoopPhase) (m : Message), (v.removalFailed s timer loop m).Measured := by
    intro v hv s timer loop m
    refine (hv.log m s.id).cons (x := .stateChanged s.id s.state .aborted) rfl ?_ rfl
    unfold removalFailed
    rw [scene_transition]
    rfl
  unfold World.removeEnded
  split
  · split
    · exact h
    · exact hfailed _ h _ _ _ _
    · exact hfailed _ h _ _ _ _
    · exact h
  · exact h

/-- The library has ended the call to stop the manager. -/
theorem stopEnded (h : w.Measured) (r : CallResult) : (w.stopEnded r).Measured := by
  have hpost : ∀ v : World L, v.Measured →
      ({ ({ v with
          coordinator := (v.coordinator.post v.chronicle .completed).1
          chronicle := (v.coordinator.post v.chronicle .completed).2 } : World L).dropConsumers with
        cycle := .finished } : World L).Measured := by
    intro v hv
    exact (hv.post v.coordinator .completed).dropConsumers
  unfold World.stopEnded
  dsimp only
  split
  · cases r with
    | returned ok => exact hpost w.dropManager h
    | panicked reason =>
      exact hpost (w.dropManager.write (·.log (.stopPanicked reason))) (Measured.log h _ _)
  · exact h

/-! ### The moves -/

theorem addEnded (h : w.Measured) (hord : w.frame.Orderly) (hturn : w.frame.conduct.InTurn)
    (hd : w.frame.duty.call? = some .add) {v : World L} {r : CallResult}
    (hsession : v.session = w.session)
    (hout : v.scene.outline = (w.now, .callEnded .add r) :: w.scene.outline)
    (hown : v.own = w.own) : (v.addEnded r).Measured := by
  unfold World.addEnded
  cases hs : w.session with
  | none =>
    -- Nobody waits for the call any more, so something has ended the run.
    have hcut : w.frame.duty = .cut (some .add) := by
      obtain ⟨⟨⟩, -⟩ | hcut := hord.duty_of_call hs hd
      exact hcut
    have hlate : v.Measured := by
      have hfits := Metrics.Fits.late (t := w.now) h .add r (hturn.ended _ hcut)
      rw [← hout] at hfits
      exact hfits.congr hown
    simp only [hsession, hs]
    exact hlate
  | some s =>
    have hds : s.duty.call? = some .add := by
      rw [← hord.duty_eq hs]
      exact hd
    obtain ⟨timer, hst⟩ := s.stage_of_adding hds
    simp only [hsession, hs, hst]
    cases r with
    | returned ok =>
      exact h.activated (v := { v with manager := .held, session := some s })
        (hturn.going (hord.isActive hs)) hout hown s timer
    | panicked reason =>
      have hv : v.Measured := h.cons (x := .callEnded .add (.panicked reason)) rfl hout hown
      exact Measured.log (w := v.dropManager) hv _ _

theorem endCall? (h : w.Measured) (hord : w.frame.Orderly) (hturn : w.frame.conduct.InTurn)
    (hw : w.endCall? = some w') : w'.Measured := by
  obtain ⟨call, hfind, rfl⟩ := Option.map_eq_some_iff.1 hw
  have hmem : call ∈ w.frame.calls := List.mem_of_find?_eq_some hfind
  obtain ⟨-, hd⟩ := hord.call_eq hmem
  dsimp only
  generalize hv : World.write { w with calls := w.calls.erase call }
    (·.record (.callEnded call.kind call.result)) = v
  have hsession : v.session = w.session := by
    rw [← hv]
    rfl
  have hout : v.scene.outline = (w.now, .callEnded call.kind call.result) :: w.scene.outline := by
    rw [← hv, scene_record _ _ rfl]
    rfl
  have hown : v.own = w.own := by
    rw [← hv]
    rfl
  cases hk : call.kind with
  | add =>
    rw [hk] at hd hout
    exact h.addEnded hord hturn hd hsession hout hown
  | remove =>
    rw [hk] at hout
    exact (h.cons rfl hout hown).removeEnded _
  | stop =>
    rw [hk] at hout
    exact (h.cons rfl hout hown).stopEnded _

theorem fireTimer? (h : w.Measured) (hw : w.fireTimer? = some w') : w'.Measured := by
  obtain ⟨⟨k, c⟩, hfire, rfl⟩ := Option.map_eq_some_iff.1 hw
  unfold Coordinator.fireTimer? at hfire
  cases hdue : w.coordinator.timers.due? w.chronicle.now with
  | none => simp [hdue] at hfire
  | some a =>
    simp only [hdue, Option.some.injEq] at hfire
    let v : World L :=
      { w with
        coordinator :=
          { w.coordinator with timers := (w.coordinator.timers.fire w.chronicle a).1 }
        chronicle := (w.coordinator.timers.fire w.chronicle a).2 }
    have hout : v.chronicle.outline =
        (w.chronicle.now, .timerFired a.id a.termination) :: w.chronicle.outline := by
      simp [v, Timers.fire, Happening.isOutline, Message.isLoopPanic]
    have hv : v.Measured := by
      change Metrics.Fits _ v.chronicle.outline
      rw [hout]
      exact Metrics.Fits.fire h a.id a.termination
    have hpost := hv.post v.coordinator a.termination
    rw [hfire] at hpost
    exact hpost

/-- The moves that show in none of the metrics. -/
theorem of_act {m : Move} (h : w.Measured) (hact : w.scene.Act m w'.scene)
    (hm : m = .decide ∨ m = .takeSignal ∨ m = .eventLoop ∨ m = .forwardStop)
    (hown : w'.own = w.own) : w'.Measured := by
  refine h.go ?_ hown
  generalize w'.scene = f' at hact
  cases hact with
  | decide t =>
    rw [Scene.outline_decide]
    exact (Adds.refl _).cons rfl
  | firstSignal s b =>
    exact (Conduct.adds_raiseStop (c := (w.scene.conduct.setSignals b).tell (.signalTaken s))
      ((Adds.refl _).cons rfl) rfl).cons rfl
  | secondSignal s b =>
    rw [Scene.outline_decide]
    exact ((Adds.refl _).cons rfl).cons rfl
  | ignoreSignals | loopWent | stopForwarded => exact Adds.refl _
  | loopEnded => exact (Adds.refl _).cons rfl
  | loopPanicked => exact Conduct.adds_post ((Adds.refl _).cons rfl) _ rfl
  | _ => simp at hm

theorem decide? (h : w.Measured) (hord : w.frame.Orderly) (hw : w.decide? = some w') :
    w'.Measured := by
  refine h.of_act (act_decide hord hw) (by simp) ?_
  obtain ⟨r, hr, rfl⟩ := Option.map_eq_some_iff.1 hw
  exact w.own_coordinated r.1 (Coordinator.metrics_decidePosted? hr)

theorem takeSignal? (h : w.Measured) (hord : w.frame.Orderly) (hw : w.takeSignal? = some w') :
    w'.Measured := by
  refine h.of_act (act_takeSignal hord hw) (by simp) ?_
  obtain ⟨r, hr, rfl⟩ := Option.map_eq_some_iff.1 hw
  exact w.own_coordinated r.1 (Coordinator.metrics_takeSignal? hr)

theorem eventLoop? (h : w.Measured) (hord : w.frame.Orderly) (hw : w.eventLoop? = some w') :
    w'.Measured :=
  h.of_act (act_eventLoop hord hw) (by simp) (w.own_eventLoop? hw)

theorem forwardStop? (h : w.Measured) (hw : w.forwardStop? = some w') : w'.Measured := by
  refine h.of_act (act_forwardStop hw) (by simp) ?_
  unfold World.forwardStop? at hw
  split at hw
  · obtain ⟨child, -, rfl⟩ := Option.map_eq_some_iff.1 hw
    exact own_raiseQuit w child .shutdown
  · cases hw

/-! ### Looks -/

section Looks

variable {wait wait' : PresenceWait} {s : Option SessionId} {c : Chronicle}

/-- A look does not show what its wait for the device to go waits for. -/
theorem look_some (h : w.Measured) (hdesired : wait.desired = false)
    (hlook : wait.look w.setup.pollInterval w.files w.setup.device s w.chronicle =
      (some wait', c)) : ({ w with chronicle := c } : World L).Measured := by
  obtain ⟨hseen, -, hscene⟩ := scene_look_some w hlook
  have hsees : w.scene.sees = true := by
    rw [hdesired] at hseen
    exact eq_true_of_ne_false hseen
  rw [hsees] at hscene
  exact h.cons (x := .checked true) rfl (congrArg (fun f : Scene => f.outline) hscene)
    (congrArg Metrics.own (PresenceWait.metrics_look_some hlook))

/-- A look shows that the device is gone. -/
theorem look_none (h : w.Measured) (hdesired : wait.desired = false)
    (hlook : wait.look w.setup.pollInterval w.files w.setup.device s w.chronicle = (none, c)) :
    ({ w with chronicle := c } : World L).Measured := by
  obtain ⟨hseen, hscene⟩ := scene_look_none w hlook
  rw [hseen, hdesired] at hscene
  have hmetrics := PresenceWait.metrics_look_none hlook
  rw [hdesired] at hmetrics
  unfold Measured
  rw [hscene]
  exact (Metrics.Fits.vanish h).congr (congrArg Metrics.own hmetrics)

/-- A look shows that the device is still gone. -/
theorem look_waiting (h : w.Measured)
    (hgone : (∃ t, (t, .callBegan .add) ∈ w.scene.outline) → Gone w.scene.outline)
    (hdesired : wait.desired = true)
    (hlook : wait.look w.setup.pollInterval w.files w.setup.device s w.chronicle =
      (some wait', c)) : ({ w with chronicle := c } : World L).Measured := by
  obtain ⟨hseen, -, hscene⟩ := scene_look_some w hlook
  have hsees : w.scene.sees = false := by
    rw [hdesired] at hseen
    exact eq_false_of_ne_true hseen
  rw [hsees] at hscene
  unfold Measured
  rw [hscene]
  exact (Metrics.Fits.absent h hgone).congr
    (congrArg Metrics.own (PresenceWait.metrics_look_some hlook))

/-- A look shows that the device has come. -/
theorem look_arrival (hdesired : wait.desired = true)
    (hlook : wait.look w.setup.pollInterval w.files w.setup.device s w.chronicle = (none, c)) :
    ({ w with chronicle := c } : World L).scene.outline =
        (w.now, .checked true) :: w.scene.outline ∧
      ({ w with chronicle := c } : World L).own = { w.own with devicePresent := some true } := by
  obtain ⟨hseen, hscene⟩ := scene_look_none w hlook
  have hmetrics := PresenceWait.metrics_look_none hlook
  rw [hseen, hdesired] at hscene
  rw [hdesired] at hmetrics
  exact ⟨congrArg (fun f : Scene => f.outline) hscene, congrArg Metrics.own hmetrics⟩

end Looks

theorem cycle? (h : w.Measured) (hord : w.frame.Orderly) (hevident : w.scene.Evident)
    (hw : w.cycle? = some w') : w'.Measured := by
  unfold World.cycle? at hw
  cases hc : w.cycle with
  | deciding =>
    simp only [hc] at hw
    split at hw
    · obtain rfl := Option.some.inj hw
      exact h.beginStop
    · obtain rfl := Option.some.inj hw
      exact h.log _ none
  | waiting wait =>
    have hdesired : wait.desired = true := hord.waiting wait hc
    simp only [hc] at hw
    split at hw
    · obtain rfl := Option.some.inj hw
      exact h.beginStop
    · rename_i hover
      split at hw
      · split at hw
        · rename_i wait' c hlook
          obtain rfl := Option.some.inj hw
          exact h.look_waiting (hevident.gone_of_waiting hc (eq_false_of_ne_true hover)) hdesired
            hlook
        · rename_i c hlook
          obtain rfl := Option.some.inj hw
          obtain ⟨hout, hown⟩ := look_arrival hdesired hlook
          refine h.startSession ?_ hown
          rw [scene_log _ _ _ rfl]
          exact hout
      · cases hw
  | refused | attended | inSession | stopping | finished | cancelled | panicked =>
    simp [hc] at hw

theorem session? (h : w.Measured) (hord : w.frame.Orderly) (hw : w.session? = some w') :
    w'.Measured := by
  unfold World.session? at hw
  split at hw
  · cases hw
  · rename_i s hs
    split at hw
    · split at hw
      · obtain rfl := Option.some.inj hw
        exact h.endSession hord.supervised s
      · cases hw
    · rename_i loop hst
      obtain ⟨r, -, rfl⟩ := Option.map_eq_some_iff.1 hw
      exact h.requestRemoval s loop _
    · rename_i timer hst
      obtain rfl := Option.some.inj hw
      have hcancel : (w.cancelTimer timer .driverRemovalTimeout).Measured :=
        h.stay (by rw [scene_cancelTimer]; rfl) rfl
      exact hcancel.endSession hord.supervised s
    · cases hw

theorem skip? (h : w.Measured) (hord : w.frame.Orderly) (hw : w.skip? = some w') :
    w'.Measured := by
  unfold World.skip? at hw
  split at hw
  · cases hw
  · rename_i s hs
    split at hw
    · rename_i wait hst
      have hdesired : wait.desired = false := hord.skipping s hs wait hst
      split at hw
      · split at hw
        · rename_i wait' c hlook
          obtain rfl := Option.some.inj hw
          exact h.look_some hdesired hlook
        · rename_i c hlook
          obtain rfl := Option.some.inj hw
          exact (h.look_none hdesired hlook).endSession hord.supervised s
      · cases hw
    · cases hw

theorem watchRemoval? (h : w.Measured) (haccomp : w.scene.Accompanied)
    (hw : w.watchRemoval? = some w') : w'.Measured := by
  obtain ⟨⟨child, wait⟩, hfind, rfl⟩ := Option.map_eq_some_iff.1 hw
  obtain ⟨hmem, htask, -⟩ := dueLook?_eq_some hfind
  have hdesired : wait.desired = false := by
    cases hs : w.scene.session with
    | none =>
      have hchild : child ∈ w.scene.children := hmem
      rw [haccomp.alone hs] at hchild
      cases hchild
    | some s => exact (haccomp.beside s hs).desired hmem htask
  dsimp only
  split
  · rename_i wait' c hlook
    exact h.look_some hdesired hlook
  · rename_i c hlook
    have hgone := (h.look_none hdesired hlook).log (.deviceRemoved w.setup.device) child.session
    exact hgone.stay (by rw [scene_raiseQuit]; rfl) (own_raiseQuit _ child .deviceRemoved)

theorem attempt (h : w.Measured) (hord : w.frame.Orderly) (hturn : w.frame.conduct.InTurn)
    (hevident : w.scene.Evident) (haccomp : w.scene.Accompanied) {m : Move}
    (hw : w.attempt m = some w') : w'.Measured := by
  cases m with
  | fireTimer => exact h.fireTimer? hw
  | decide => exact h.decide? hord hw
  | takeSignal => exact h.takeSignal? hord hw
  | cycle => exact h.cycle? hord hevident hw
  | eventLoop => exact h.eventLoop? hord hw
  | session => exact h.session? hord hw
  | skip => exact h.skip? hord hw
  | forwardStop => exact h.forwardStop? hw
  | watchRemoval => exact h.watchRemoval? haccomp hw
  | endCall => exact h.endCall? hord hturn hw

/-- Whatever happens, the metrics are those of what has happened. -/
theorem occur (h : w.Measured) (hord : w.frame.Orderly) (hturn : w.frame.conduct.InTurn)
    (hevident : w.scene.Evident) (haccomp : w.scene.Accompanied) (o : Occurrence) :
    (w.occur o).Measured := by
  cases o with
  | move m =>
    unfold World.occur
    dsimp only
    cases hw : w.attempt m with
    | none => exact h
    | some w' => exact h.attempt hord hturn hevident haccomp hw
  | pass time =>
    unfold World.occur
    dsimp only
    split
    · exact h
    · exact h
  | notify ns =>
    refine h.stay (congrArg (fun f : Scene => f.outline) (scene_notify ns)) ?_
    change (w.notify ns).2.own = w.own
    unfold World.notify
    split
    · exact w.queue.own_deliverAll w.chronicle ns
    · rfl
  | signal | closeSignals | detach | files => exact h

end World.Measured

/-! ## Runs -/

namespace Supervision

variable {L : EventLoop} (s : Supervision L)

theorem measured_start : s.start.Measured := by
  have hout : s.start.scene.outline = [(0, .managerStarting s.settings.managerOptions)] :=
    congrArg Frame.outline s.frame_start
  have hown : s.start.own = {} := by
    change (World.launch s.setup s.loop s.files s.signalCapacity).own = {}
    unfold World.launch
    dsimp only
    split
    · simp [World.own, Metrics.own]
    · simp [World.own, Metrics.own, setup]
  unfold World.Measured
  rw [hout]
  exact (Metrics.Fits.fresh.adds ((Adds.refl _).cons rfl)).congr hown

theorem measured_after (os : List Occurrence) : (s.after os).Measured := by
  refine run_induction (P := fun os => (s.after os).Measured) s.measured_start ?_ os
  intro os o h
  rw [after_concat]
  exact h.occur (s.orderly_after os) (s.reached_after os).inTurn (s.evident_after os)
    (s.accompanied_after os) o

/-- How the metrics of a run go with what has happened in it. -/
structure MetricsAgree (os : List Occurrence) (m : Metrics) : Prop where
  /-- A session counts as started when the call to add its driver came back, with either result,
  to the supervisor's own loop. -/
  started : Counts (Started (s.history os)) m.sessionsStarted
  removed : Counts (Removed (s.history os)) m.sessionsRemoved
  sampled : m.durations.length = m.sessionsRemoved
  ordered : m.sessionsRemoved ≤ m.sessionsStarted ∧ m.sessionsStarted ≤ m.sessionsRemoved + 1
  waiting : ∀ wait, (s.after os).cycle = .waiting wait → m.sessionsStarted = m.sessionsRemoved
  completed : (s.after os).outcome? = some (.ok .completed) →
    m.sessionsStarted = m.sessionsRemoved
  aborts : ∀ x, Counts (Fired x (s.history os)) (Tally.count x m.aborts)
  /-- A run that a timer ends has counted that timer. -/
  forced : ∀ x, (s.after os).outcome? = some (.ok x) → x.isTimeout = true →
    0 < Tally.count x m.aborts
  present : ∀ b, m.devicePresent = some b → (b = true ↔ ¬ Gone (s.history os))

/-- Between two sessions, and at the end of a completed run, all that were started are removed. -/
theorem started_eq_removed (os : List Occurrence) {d : Duty}
    (hduty : (s.after os).frame.conduct.duty = d) (hcut : ∀ call, d ≠ .cut call)
    (hnone : d.started? = none) :
    (s.after os).chronicle.metrics.sessionsStarted =
      (s.after os).chronicle.metrics.sessionsRemoved := by
  have hmeasured := s.measured_after os
  have hturn := (s.reached_after os).inTurn
  have heq : startedIn (s.after os).scene.outline = removedIn (s.after os).scene.outline :=
    hturn.eq_of_started? (hduty ▸ hcut) (hduty ▸ hnone)
  rw [hmeasured.started, hmeasured.removed, heq]

/-- **Metrics agree with what happened.**  At every moment of every run the counters say how many
sessions were started, how many were removed and how many timers fired for each reason, and the
gauge says whether a look has shown that the device was gone since the last session began. -/
theorem metrics_agree (os : List Occurrence) :
    s.MetricsAgree os (s.after os).chronicle.metrics := by
  have hout : (s.after os).scene.outline = outlineOf (s.history os) := rfl
  have hmeasured := s.measured_after os
  have hturn := (s.reached_after os).inTurn
  have hspent := (s.reached_after os).spent
  refine ⟨?_, ?_, ?_, ?_, ?_, ?_, ?_, ?_, ?_⟩
  · refine ⟨startedIn (s.history os), ?_, fun n => mem_startedIn, ?_⟩
    · rw [← startedIn_outlineOf]
      exact hturn.nodup.1
    · rw [hmeasured.started, hout, startedIn_outlineOf]
  · refine ⟨removedIn (s.history os), ?_, fun n => mem_removedIn, ?_⟩
    · rw [← removedIn_outlineOf]
      exact hturn.nodup.2
    · rw [hmeasured.removed, hout, removedIn_outlineOf]
  · rw [hmeasured.sampled, hmeasured.removed]
  · rw [hmeasured.started, hmeasured.removed]
    exact hturn.length_le
  · intro wait hc
    have hduty : (s.after os).frame.conduct.duty = .idle := by
      simp [Frame.conduct, Frame.duty, World.frame, hc]
    exact s.started_eq_removed os hduty (by rintro _ ⟨⟩) rfl
  · intro hdone
    obtain ⟨hduty, -⟩ := (s.reached_after os).honest.decided (World.phase_of_outcome? hdone)
    exact s.started_eq_removed os hduty (by rintro _ ⟨⟩) rfl
  · refine fun x => ⟨firedIn x (s.history os), ?_, fun id => mem_firedIn, ?_⟩
    · rw [← firedIn_outlineOf]
      exact hspent.once x
    · rw [hmeasured.fired, hout, firedIn_outlineOf]
  · intro x hdone htimeout
    rw [hmeasured.fired]
    exact List.length_pos_iff.2 (hspent.decided x (World.phase_of_outcome? hdone) htimeout)
  · intro b hb
    rw [hmeasured.present b hb, hout]
    exact not_congr (exists_congr fun t => since_outlineOf rfl (by rintro _ rfl; rfl))

/-- A device that is seen twice while one session is under way. -/
example :
    let s : Supervision (Script.loop [[.awaitQuit]]) :=
      { files := .plugged, loop := {} }
    let m := (s.after [.move .cycle, .move .cycle, .move .endCall,
      .move .watchRemoval]).chronicle.metrics
    m.sessionsStarted = 1 ∧ m.sessionsRemoved = 0 ∧ m.devicePresent = some true :=
  ⟨rfl, rfl, rfl⟩

end Supervision

end Hotplug
