import Hotplug.Proofs.StateMachine

/-!
# Healthy runs

A run is healthy when its library does what it is asked to do, in time, and its event loops
return in time.  Nothing but the supervisor itself comes to the end of such a run.

* `World.IsHealthy` — the calls and the event loops of a run have behaved so far.
* `Scene.Sound` — what this means for the scene: nothing is posted before the end, and every
  call ends before its timer fires.
* `Scene.Sound.step` — a healthy run stays sound.
-/

namespace Hotplug

open Scene (Act Step)

/-! ## Health -/

/-- Whether a call returns, and does so in less than `limit`. -/
def Behaviour.returnsWithin (b : Behaviour) (limit : Nat) : Bool :=
  match b.hold, b.result with
  | some d, .returned _ => d < limit
  | _, _ => false

theorem Behaviour.exists_of_returnsWithin {b : Behaviour} {limit : Nat}
    (h : b.returnsWithin limit = true) :
    ∃ d ok, b.hold = some d ∧ d < limit ∧ b.result = .returned ok := by
  unfold returnsWithin at h
  split at h
  · exact ⟨_, _, ‹_›, of_decide_eq_true h, ‹_›⟩
  · cases h

/-- Whether the event loop of a session has returned. -/
def Stage.hasReturned : Stage → Bool
  | running _ p => p.isReturned
  | _ => false

/-- Whether the event loop panics. -/
def Happening.isLoopPanic : Happening → Bool
  | logged m _ => m.isLoopPanic
  | _ => false

/-- The calls of a run to add and to remove the driver, and its event loops, have behaved so far.
A call to stop the manager may end as it likes. -/
structure World.IsHealthy {L : EventLoop} (w : World L) : Prop where
  /-- A call to add the driver returns before its timer fires. -/
  adds : ∀ i < Tally.count .add w.callCount,
    (w.setup.library.adding i).returnsWithin w.setup.settings.driver.activationTimeout = true
  /-- A call to remove the driver removes it before its timer fires. -/
  removes : ∀ i < Tally.count .remove w.callCount,
    (w.setup.library.removing i).returnsWithin w.setup.settings.driver.removalTimeout = true ∧
      (w.setup.library.removing i).result = .returned true
  noPanic : ∀ e ∈ w.chronicle.happenings, e.2.isLoopPanic = false
  /-- An event loop that has to quit has returned, or it learns so at this very instant. -/
  returned : ∀ s ∈ w.session, s.isQuitting = true →
    s.stage.hasReturned = true ∨
      (w.now, .callEnded .remove (.returned true)) ∈ w.chronicle.happenings

/-- Whether a run is healthy can be seen. -/
instance {L : EventLoop} (w : World L) : Decidable w.IsHealthy :=
  decidable_of_iff
    ((∀ i < Tally.count .add w.callCount,
        (w.setup.library.adding i).returnsWithin w.setup.settings.driver.activationTimeout = true) ∧
      (∀ i < Tally.count .remove w.callCount,
        (w.setup.library.removing i).returnsWithin w.setup.settings.driver.removalTimeout = true ∧
          (w.setup.library.removing i).result = .returned true) ∧
      (∀ e ∈ w.chronicle.happenings, e.2.isLoopPanic = false) ∧
      ∀ s ∈ w.session, s.isQuitting = true →
        s.stage.hasReturned = true ∨
          (w.now, .callEnded .remove (.returned true)) ∈ w.chronicle.happenings)
    ⟨fun ⟨ha, hr, hn, hq⟩ => ⟨ha, hr, hn, hq⟩, fun h => ⟨h.adds, h.removes, h.noPanic, h.returned⟩⟩

namespace Scene

/-- What the health of a world is to its scene. -/
structure Healthy (f : Scene) : Prop where
  adds : ∀ i < Tally.count .add f.callCount, ∃ d ok,
    (f.setup.library.adding i).hold = some d ∧
      d < f.setup.settings.driver.activationTimeout ∧
        (f.setup.library.adding i).result = .returned ok
  removes : ∀ i < Tally.count .remove f.callCount, ∃ d,
    (f.setup.library.removing i).hold = some d ∧
      d < f.setup.settings.driver.removalTimeout ∧
        (f.setup.library.removing i).result = .returned true
  noPanic : ∀ t reason n, (t, .logged (.loopPanicked reason) n) ∉ f.outline
  returned : ∀ s ∈ f.session, ∀ timer loop, s.stage = .running (.removed timer) loop →
    loop = .returned ∨ (f.now, .callEnded .remove (.returned true)) ∈ f.outline

end Scene

theorem World.IsHealthy.scene {L : EventLoop} {w : World L} (h : w.IsHealthy)
    (hquits : w.scene.QuitsRemoved) : w.scene.Healthy where
  adds i hi := Behaviour.exists_of_returnsWithin (h.adds i hi)
  removes i hi := by
    obtain ⟨hwithin, hresult⟩ := h.removes i hi
    obtain ⟨d, ok, hhold, hlt, -⟩ := Behaviour.exists_of_returnsWithin hwithin
    exact ⟨d, hhold, hlt, hresult⟩
  noPanic t reason n hmem := by
    have hcalm := h.noPanic _ ((mem_outlineOf rfl).1 hmem)
    cases hcalm
  returned s hs timer loop hst := by
    rcases h.returned s hs ((hquits s hs).2 ⟨timer, loop, hst⟩) with hreturned | hnow
    · left
      rw [hst] at hreturned
      cases loop with
      | returned => rfl
      | active | asleep => cases hreturned
    · exact .inr ((mem_outlineOf rfl).2 hnow)

namespace Scene.Healthy

variable {f f' : Scene}

/-- A call to add the driver that begins in a healthy run returns in time. -/
theorem nextAdd (h : f'.Healthy) (hsetup : f'.setup = f.setup)
    (hcount : f'.callCount = Tally.bump .add f.callCount) :
    ∃ d ok, (f.nextCall .add).ends = some (f.now + d) ∧
      d < f.setup.settings.driver.activationTimeout ∧
        (f.nextCall .add).result = .returned ok := by
  obtain ⟨d, ok, hhold, hlt, hresult⟩ := h.adds (Tally.count .add f.callCount) (by
    rw [hcount, Tally.count_bump]
    simp)
  rw [hsetup] at hhold hlt hresult
  refine ⟨d, ok, ?_, hlt, hresult⟩
  change (f.setup.library.adding _).hold.map _ = _
  rw [hhold]
  rfl

/-- A call to remove the driver that begins in a healthy run removes it in time. -/
theorem nextRemove (h : f'.Healthy) (hsetup : f'.setup = f.setup)
    (hcount : f'.callCount = Tally.bump .remove f.callCount) :
    ∃ d, (f.nextCall .remove).ends = some (f.now + d) ∧
      d < f.setup.settings.driver.removalTimeout ∧
        (f.nextCall .remove).result = .returned true := by
  obtain ⟨d, hhold, hlt, hresult⟩ := h.removes (Tally.count .remove f.callCount) (by
    rw [hcount, Tally.count_bump]
    simp)
  rw [hsetup] at hhold hlt hresult
  refine ⟨d, ?_, hlt, hresult⟩
  change (f.setup.library.removing _).hold.map _ = _
  rw [hhold]
  rfl

end Scene.Healthy

/-! ## Sound scenes -/

/-- Whether a session goes on by itself. -/
def Stage.goesOn : Stage → Bool
  | stranded _ | running (.failed _) _ => false
  | _ => true

theorem Stage.goesOn_running (executor : Executor) (p p' : LoopPhase) :
    (running executor p).goesOn = (running executor p').goesOn := by
  cases executor <;> rfl

theorem Stage.timer?_running (executor : Executor) (p p' : LoopPhase) :
    (running executor p).timer? = (running executor p').timer? := by
  cases executor <;> rfl

/-- Whether there is no supervisor's own loop, or it was cut off. -/
def CyclePhase.isCut : CyclePhase → Bool
  | refused _ | attended | cancelled | panicked => true
  | _ => false

/-- The timer of the session under way. -/
def Frame.watch? (f : Frame) : Option TimerId :=
  f.session.bind (·.stage.timer?)

/-- The call that the supervisor waits for is the one that is busy. -/
theorem Frame.Orderly.exists_call {f : Frame} (h : f.Orderly) {k : CallKind}
    (hd : f.duty.call? = some k) : ∃ call, f.calls = [call] ∧ call.kind = k := by
  have hcalls := h.calls
  rw [hd] at hcalls
  exact List.map_eq_singleton_iff.1 hcalls

theorem Frame.watch?_eq {f : Frame} {s : Session} (hs : f.session = some s) :
    f.watch? = s.stage.timer? := by
  unfold watch?
  rw [hs]
  rfl

namespace Scene

variable {f f' : Scene}

/-- A call ends before the timer of the session fires. -/
def EndsInTime (f : Scene) (call : Call) : Prop :=
  ∃ e, call.ends = some e ∧
    ∀ a ∈ f.coordinator.timers.armed, f.watch? = some a.id → e < a.deadline

/-- Nothing goes wrong: nothing is posted but at the end, the session goes on, and every call
ends well and in time. -/
structure Sound (f : Scene) : Prop where
  uncut : f.cycle.isCut = false
  posted : f.cycle ≠ .finished → f.coordinator.posted = []
  finished : f.cycle = .finished → f.coordinator.posted = [.completed]
  stage : ∀ s ∈ f.session, s.stage.goesOn = true
  ends : ∀ call ∈ f.calls, ∀ e ∈ call.ends, f.now ≤ e
  add : ∀ call ∈ f.calls, call.kind = .add →
    f.EndsInTime call ∧ ∃ ok, call.result = .returned ok
  remove : ∀ call ∈ f.calls, call.kind = .remove →
    f.EndsInTime call ∧ call.result = .returned true
  timely : ∀ a ∈ f.coordinator.timers.armed, f.watch? = some a.id → f.now < a.deadline

namespace Sound

/-- Nothing is under way yet. -/
theorem of_deciding (hcycle : f.cycle = .deciding) (hs : f.session = none) (hcalls : f.calls = [])
    (hposted : f.coordinator.posted = []) : f.Sound := by
  have hcall : ∀ call, call ∉ f.calls := by simp [hcalls]
  refine ⟨?_, fun _ => hposted, ?_, ?_, fun call h => absurd h (hcall call),
    fun call h => absurd h (hcall call), fun call h => absurd h (hcall call), ?_⟩
  · rw [hcycle]
    rfl
  · rw [hcycle]
    rintro ⟨⟩
  · rw [hs]
    rintro _ ⟨⟩
  · unfold Frame.watch?
    rw [hs]
    rintro _ _ ⟨⟩

/-- A call to add the driver does not panic. -/
theorem not_panicked (h : f.Sound) {call : Call} (hend : f.CanEnd call)
    (hkind : call.kind = .add) (reason : String) : call.result ≠ .panicked reason := by
  obtain ⟨-, ok, hok⟩ := h.add call (by simp [hend.calls]) hkind
  rw [hok]
  rintro ⟨⟩

/-- A call to remove the driver removes it. -/
theorem removes (h : f.Sound) {call : Call} (hend : f.CanEnd call)
    (hkind : call.kind = .remove) : call.result = .returned true :=
  (h.remove call (by simp [hend.calls]) hkind).2

/-- The supervisor's own loop was not cut off. -/
theorem not_cut (h : f.Sound) : ¬ (f.cycle = .cancelled ∨ f.cycle = .panicked) := by
  have huncut := h.uncut
  rintro (hc | hc)
  · rw [hc] at huncut
    cases huncut
  · rw [hc] at huncut
    cases huncut

/-- Nothing new is under way. -/
theorem go (h : f.Sound) (hnow : f'.now = f.now)
    (huncut : f'.cycle.isCut = false)
    (hfinished : f'.cycle = .finished ↔ f.cycle = .finished)
    (hposted : f'.coordinator.posted = f.coordinator.posted)
    (hstage : ∀ s ∈ f'.session, s.stage.goesOn = true) (hcalls : ∀ call ∈ f'.calls, call ∈ f.calls)
    (hwatch : ∀ a ∈ f'.coordinator.timers.armed, f'.watch? = some a.id →
      a ∈ f.coordinator.timers.armed ∧ f.watch? = some a.id) : f'.Sound := by
  have hends : ∀ {call : Call}, f.EndsInTime call → f'.EndsInTime call := by
    rintro call ⟨e, he, hlt⟩
    refine ⟨e, he, fun a ha hid => ?_⟩
    obtain ⟨ha, hid⟩ := hwatch a ha hid
    exact hlt a ha hid
  refine ⟨huncut, ?_, ?_, hstage, ?_, ?_, ?_, ?_⟩
  · rw [ne_eq, hfinished, hposted]
    exact h.posted
  · rw [hfinished, hposted]
    exact h.finished
  · rw [hnow]
    exact fun call hcall => h.ends call (hcalls call hcall)
  · exact fun call hcall hk => (h.add call (hcalls call hcall) hk).imp_left hends
  · exact fun call hcall hk => (h.remove call (hcalls call hcall) hk).imp_left hends
  · rw [hnow]
    intro a ha hid
    obtain ⟨ha, hid⟩ := hwatch a ha hid
    exact h.timely a ha hid

/-- The session stays where it is, and nothing new is under way. -/
theorem keep (h : f.Sound) (hnow : f'.now = f.now) (hcycle : f'.cycle = f.cycle)
    (hposted : f'.coordinator.posted = f.coordinator.posted)
    (hstage : f'.session.map (·.stage) = f.session.map (·.stage)) (hcalls : f'.calls = f.calls)
    (harmed : ∀ a ∈ f'.coordinator.timers.armed, f.watch? = some a.id →
      a ∈ f.coordinator.timers.armed) : f'.Sound := by
  have hwatch : f'.watch? = f.watch? := by
    have hbind : ∀ o : Option Session,
        o.bind (·.stage.timer?) = (o.map (·.stage)).bind (·.timer?) := by
      intro o
      cases o <;> rfl
    unfold Frame.watch?
    rw [hbind, hbind, hstage]
  refine h.go hnow (hcycle ▸ h.uncut) (by rw [hcycle]) hposted ?_ (fun _ => hcalls ▸ id) ?_
  · intro s' hs'
    have hsome : f.session.map (·.stage) = some s'.stage := by
      rw [← hstage, show f'.session = some s' from hs']
      rfl
    obtain ⟨s, hs, heq⟩ := Option.map_eq_some_iff.1 hsome
    rw [← heq]
    exact h.stage s hs
  · rw [hwatch]
    exact fun a ha hid => ⟨harmed a ha hid, hid⟩

/-- The session turns to another stage, and its call is over if it has one. -/
theorem turn (h : f.Sound) (hnow : f'.now = f.now) (hcycle : f'.cycle = f.cycle)
    (hposted : f'.coordinator.posted = f.coordinator.posted) {s : Session}
    (hs : f'.session = some s) (hgoes : s.stage.goesOn = true)
    (hcalls : ∀ call ∈ f'.calls, call ∈ f.calls)
    (hwatch : ∀ a ∈ f'.coordinator.timers.armed, s.stage.timer? = some a.id →
      a ∈ f.coordinator.timers.armed ∧ f.watch? = some a.id) : f'.Sound := by
  refine h.go hnow (hcycle ▸ h.uncut) (by rw [hcycle]) hposted ?_ hcalls ?_
  · intro t ht
    rw [hs] at ht
    obtain rfl := Option.some.inj ht
    exact hgoes
  · rw [Frame.watch?_eq hs]
    exact hwatch

/-- The session ends. -/
theorem leave (h : f.Sound) (hnow : f'.now = f.now) (hcycle : f'.cycle = .deciding)
    (hbefore : f.cycle ≠ .finished)
    (hposted : f'.coordinator.posted = f.coordinator.posted) (hs : f'.session = none)
    (hcalls : f'.calls = f.calls) : f'.Sound := by
  refine h.go hnow ?_ ?_ hposted ?_ (fun _ => hcalls ▸ id) ?_
  · rw [hcycle]
    rfl
  · rw [hcycle]
    exact iff_of_false (by rintro ⟨⟩) hbefore
  · rw [hs]
    rintro _ ⟨⟩
  · unfold Frame.watch?
    rw [hs]
    rintro _ _ ⟨⟩

/-- A call begins under the eyes of a new timer, which it does not keep waiting. -/
theorem begin (h : f.Sound) (hnow : f'.now = f.now) (hcycle : f'.cycle = .inSession)
    (hbefore : f.cycle ≠ .finished) (hposted : f'.coordinator.posted = f.coordinator.posted)
    {s : Session} (hs : f'.session = some s) (hgoes : s.stage.goesOn = true) {a : AbortTimer}
    (hid : s.stage.timer? = some a.id)
    (harmed : f'.coordinator.timers.armed = f.coordinator.timers.armed ++ [a])
    (hfresh : ∀ b ∈ f.coordinator.timers.armed, b.id ≠ a.id) {call : Call} {d : Nat}
    (hcalls : f'.calls = [call]) (hends : call.ends = some (f.now + d))
    (hlt : f.now + d < a.deadline) (hadd : call.kind = .add → ∃ ok, call.result = .returned ok)
    (hremove : call.kind = .remove → call.result = .returned true) : f'.Sound := by
  have hwatch : f'.watch? = some a.id := (Frame.watch?_eq hs).trans hid
  -- The timer of the session is the new one.
  have hnew : ∀ b ∈ f'.coordinator.timers.armed, f'.watch? = some b.id → b = a := by
    intro b hb hbid
    rw [harmed] at hb
    rw [hwatch] at hbid
    rcases List.mem_append.1 hb with hb | hb
    · exact absurd (Option.some.inj hbid).symm (hfresh b hb)
    · exact List.mem_singleton.1 hb
  have hmeets : f'.EndsInTime call := by
    refine ⟨f.now + d, hends, fun b hb hbid => ?_⟩
    rw [hnew b hb hbid]
    exact hlt
  have hcall : ∀ c ∈ f'.calls, c = call := by
    rw [hcalls]
    exact fun c hc => List.mem_singleton.1 hc
  refine ⟨?_, ?_, ?_, ?_, ?_, ?_, ?_, ?_⟩
  · rw [hcycle]
    rfl
  · rw [hposted]
    exact fun _ => h.posted hbefore
  · rw [hcycle]
    rintro ⟨⟩
  · intro t ht
    rw [hs] at ht
    obtain rfl := Option.some.inj ht
    exact hgoes
  · intro c hc e he
    rw [hcall c hc, hends] at he
    obtain rfl := Option.some.inj he
    rw [hnow]
    exact Nat.le_add_right _ _
  · intro c hc hk
    rw [hcall c hc] at hk ⊢
    exact ⟨hmeets, hadd hk⟩
  · intro c hc hk
    rw [hcall c hc] at hk ⊢
    exact ⟨hmeets, hremove hk⟩
  · intro b hb hbid
    rw [hnew b hb hbid, hnow]
    exact Nat.lt_of_le_of_lt (Nat.le_add_right _ _) hlt

/-- The manager begins to be stopped. -/
theorem beginStop (h : f.Sound) (hbefore : f.cycle ≠ .finished) (hcalls : f.calls = []) :
    ({ f with cycle := .stopping : Scene }.beginCall .stop).Sound := by
  have hcall : ∀ c ∈ ({ f with cycle := .stopping : Scene }.beginCall .stop).calls,
      c = f.nextCall .stop := by
    intro c hc
    have hc' : c ∈ f.calls ++ [f.nextCall .stop] := hc
    rw [hcalls] at hc'
    exact List.mem_singleton.1 hc'
  refine ⟨rfl, fun _ => h.posted hbefore, by rintro ⟨⟩, h.stage, ?_, ?_, ?_,
    h.timely⟩
  · intro c hc e he
    rw [hcall c hc] at he
    obtain ⟨d, -, rfl⟩ := Option.map_eq_some_iff.1 he
    exact Nat.le_add_right _ _
  · intro c hc hk
    rw [hcall c hc] at hk
    cases hk
  · intro c hc hk
    rw [hcall c hc] at hk
    cases hk

/-- The manager has been stopped. -/
theorem stopped (h : f.Sound) (hbefore : f.cycle ≠ .finished) {call : Call}
    (hcalls : f.calls = [call]) (hrun : f.coordinator.isRunning = true) :
    Sound { (f.endCall call).put ((f.endCall call).conduct.post .completed) with
      cycle := .finished } := by
  have hnone : ∀ c, c ∉ f.calls.erase call := by simp [hcalls]
  refine ⟨rfl, fun hc => absurd rfl hc, fun _ => ?_, h.stage,
    fun c hc => absurd hc (hnone c), fun c hc => absurd hc (hnone c),
    fun c hc => absurd hc (hnone c), h.timely⟩
  have hposted := Conduct.posted_post (c := (f.endCall call).conduct) hrun .completed
  rw [show (f.endCall call).conduct.coordinator.posted = [] from h.posted hbefore] at hposted
  exact hposted

end Sound

/-! ## One step -/

/-- Who asks a session to quit leaves it where it is. -/
theorem stage_raiseQuit (f : Scene) (child : Child) (r : QuitReason) :
    (f.raiseQuit child r).session.map (·.stage) = f.session.map (·.stage) := by
  unfold raiseQuit
  cases f.session with
  | none => rfl
  | some s =>
    simp only [Option.map_some]
    split <;> rfl

theorem phase_decide (t : Termination) : (f.decide t).coordinator.phase = .decided t := by
  unfold decide cancelCycle
  split <;> rfl

/-- No timer fires as long as none is late. -/
theorem Sound.lt_deadline (h : f.Sound) (hord : f.toFrame.Orderly) (hsteer : f.conduct.Steered)
    (hgrace : ∀ a ∈ f.coordinator.timers.armed, f.coordinator.phase = .stopping a.id →
      f.now < a.deadline) {a : AbortTimer} (ha : a ∈ f.coordinator.timers.armed) :
    f.now < a.deadline := by
  rcases hsteer.owned a ha with hphase | htimer
  · exact hgrace a ha hphase
  · exact h.timely a ha (hord.timer?_duty.symm.trans htimer)

theorem Sound.act (h : f.Sound) (hord : f.toFrame.Orderly) (hsteer : f.conduct.Steered)
    (hgrace : ∀ a ∈ f.coordinator.timers.armed, f.coordinator.phase = .stopping a.id →
      f.now < a.deadline) (hhealthy : f'.Healthy) {m : Move} (hs : f.Act m f')
    (hrun : f'.coordinator.isRunning = true) : f'.Sound := by
  have hfresh : ∀ b ∈ f.coordinator.timers.armed, b.id ≠ f.coordinator.timers.made := fun b hb =>
    Nat.ne_of_lt (hsteer.id_lt hb)
  have hdropped : ∀ {id : TimerId} {a : AbortTimer},
      a ∈ (f.coordinator.timers.drop id).armed → a ∈ f.coordinator.timers.armed := fun ha =>
    (Conduct.mem_armed_drop.1 ha).1
  cases hs with
  | fire a ha hdue => exact absurd (h.lt_deadline hord hsteer hgrace ha) (Nat.not_lt_of_le hdue)
  | decide t => simp [Coordinator.isRunning, phase_decide] at hrun
  | secondSignal s b grace => simp [Coordinator.isRunning, phase_decide] at hrun
  | firstSignal s b hphase =>
    refine h.keep rfl rfl rfl rfl rfl fun a ha hid => ?_
    rcases List.mem_append.1 ha with ha | ha
    · exact ha
    · obtain rfl := List.mem_singleton.1 ha
      have htimer : f.conduct.duty.timer? = some f.coordinator.timers.made :=
        hord.timer?_duty.trans hid
      exact absurd (hsteer.timer _ htimer).1 (Nat.lt_irrefl _)
  | ignoreSignals => exact h.keep rfl rfl rfl rfl rfl fun _ ha _ => ha
  | beginStop hc =>
    have hidle : f.duty = .idle ∧ f.cycle ≠ .finished := by
      rcases hc with ⟨hc, -⟩ | ⟨⟨wait, hc⟩, -⟩
      · simp [Frame.duty, hc]
      · simp [Frame.duty, hc]
    obtain ⟨hduty, hbefore⟩ := hidle
    exact h.beginStop hbefore (hord.calls_eq_nil (by rw [hduty]; rfl))
  | beginWaiting hc | keepWaiting wait hc =>
    refine h.go rfl rfl ?_ rfl h.stage (fun _ => id) fun a ha hid => ?_
    · rw [hc]
      exact iff_of_false (by rintro ⟨⟩) (by rintro ⟨⟩)
    · exact ⟨ha, hid⟩
  | beginSession wait hc =>
    obtain ⟨d, ok, hends, hlt, hresult⟩ := hhealthy.nextAdd (f := f) rfl rfl
    have hcalls : ((f.tell (.checked f.sees)).startSession).calls = [f.nextCall .add] :=
      hord.calls_concat (by simp [Frame.duty, hc, Duty.call?]) _
    have harmed : ((f.tell (.checked f.sees)).startSession).coordinator.timers.armed =
        f.coordinator.timers.armed ++ [⟨f.coordinator.timers.made,
          f.now + f.setup.settings.driver.activationTimeout,
          f.setup.settings.driver.activationTimeout, .driverActivationTimeout⟩] := rfl
    exact h.begin rfl rfl (by rw [hc]; rintro ⟨⟩) rfl rfl rfl rfl harmed hfresh hcalls hends
      (Nat.add_lt_add_left hlt _) (fun _ => ⟨ok, hresult⟩) (by rintro ⟨⟩)
  | loopWent s executor p p' hs hst | loopEnded s executor p hs hst =>
    have hgoes := h.stage s hs
    rw [hst] at hgoes
    refine h.turn rfl rfl rfl rfl ?_ (fun _ => id) fun a ha hid => ⟨ha, ?_⟩
    · rw [← hgoes]
      exact Stage.goesOn_running _ _ _
    · rw [Frame.watch?_eq hs, hst, ← hid]
      exact Stage.timer?_running _ _ _
  | loopPanicked s executor p reason =>
    exact absurd (mem_outline_panicLoop f reason) (hhealthy.noPanic f.now reason none)
  | skipStopped s _ hs | skipEnded s _ hs | sessionEnded s _ hs =>
    exact h.leave rfl rfl (by rw [hord.cycle_eq hs]; rintro ⟨⟩) rfl rfl rfl
  | beginRemoval s loop r hs hst =>
    obtain ⟨d, hends, hlt, hresult⟩ := hhealthy.nextRemove (f.setup_requestRemoval s loop)
      (f.callCount_requestRemoval s loop)
    have hcalls := (f.calls_requestRemoval s loop).trans
      (hord.calls_concat (by rw [hord.duty_eq hs]; simp [Session.duty, hst, Duty.call?]) _)
    have hcoordinator := f.coordinator_requestRemoval s loop
    have hcycle := (f.cycle_requestRemoval s loop).trans (hord.cycle_eq hs)
    exact h.begin (f.now_requestRemoval s loop) hcycle (by rw [hord.cycle_eq hs]; rintro ⟨⟩)
      (congrArg (·.posted) hcoordinator) (f.session_requestRemoval s loop) rfl rfl
      (congrArg (·.timers.armed) hcoordinator) hfresh hcalls hends
      (Nat.add_lt_add_left hlt _) (by rintro ⟨⟩) (fun _ => hresult)
  | keepSkipping s wait hs => exact h.turn rfl rfl rfl rfl rfl (fun _ => id) (by rintro _ _ ⟨⟩)
  | stopForwarded child | removalSeen child =>
    refine h.keep rfl rfl rfl ?_ rfl fun a ha _ => ha
    exact stage_raiseQuit _ _ _
  | keepWatching child wait => exact h.keep rfl rfl rfl rfl rfl fun a ha _ => ha
  | added s timer call | skipped s timer call =>
    exact h.turn rfl rfl rfl rfl rfl (fun _ => List.mem_of_mem_erase) (by rintro _ _ ⟨⟩)
  | addPanicked s timer call reason hs hst hend hkind hresult =>
    exact absurd hresult (h.not_panicked hend hkind reason)
  | driverRemoved s timer loop call hs hst =>
    refine h.turn rfl rfl rfl rfl rfl (fun _ => List.mem_of_mem_erase) fun a ha hid => ⟨ha, ?_⟩
    rw [Frame.watch?_eq hs, hst]
    exact hid
  | removalFailed s timer loop call hs hst hend hkind hresult =>
    exact absurd (h.removes hend hkind) hresult
  | stopped call hc hend =>
    refine h.stopped (by rw [hc]; rintro ⟨⟩) hend.calls (hsteer.running ?_)
    change f.duty.isActive = true
    simp [Frame.duty, hc, Duty.isActive]
  | lateEnd call hc => exact absurd hc h.not_cut

/-- No time passes while an event loop that has to quit has not returned. -/
theorem Rests.eq_of_removed {time : Nat} (hrests : f.Rests time) (hpast : UpTo f.now f.outline)
    (hhealthy : Healthy { f with now := time }) {s : Session} (hs : f.session = some s)
    {timer : TimerId} {loop : LoopPhase} (hst : s.stage = .running (.removed timer) loop) :
    time = f.now := by
  rcases hhealthy.returned s hs timer loop hst with rfl | hmem
  · exact absurd hst (hrests.removed s timer hs)
  · exact Nat.le_antisymm (hpast _ hmem) hrests.le

theorem Sound.pass (h : f.Sound) (hord : f.toFrame.Orderly) (hpast : UpTo f.now f.outline)
    {time : Nat} (hrests : f.Rests time) (hhealthy : Healthy { f with now := time }) :
    Sound { f with now := time } := by
  refine ⟨h.uncut, h.posted, h.finished, h.stage,
    fun call hcall e he => (hrests.calls call hcall e he).2, h.add, h.remove, ?_⟩
  intro a ha hid
  obtain ⟨s, hs, htimer⟩ := Option.bind_eq_some_iff.1 hid
  have hgoes := h.stage s hs
  -- Time passes only as long as a call is busy, and that ends before the timer fires.
  have hbusy : ∀ {call : Call}, call ∈ f.calls → f.EndsInTime call → time < a.deadline := by
    rintro call hcall ⟨e, he, hlt⟩
    exact Nat.lt_of_le_of_lt (hrests.calls call hcall e he).2 (hlt a ha hid)
  have hduty := hord.duty_eq hs
  cases hst : s.stage with
  | activating timer =>
    obtain ⟨call, hcalls, hk⟩ := hord.exists_call (k := .add) (by
      rw [hduty]
      simp [Session.duty, hst, Duty.call?])
    exact hbusy (by simp [hcalls]) (h.add call (by simp [hcalls]) hk).1
  | running executor loop =>
    rw [hst] at hgoes htimer
    cases executor with
    | listening => cases htimer
    | removing timer =>
      obtain ⟨call, hcalls, hk⟩ := hord.exists_call (k := .remove) (by
        rw [hduty]
        simp [Session.duty, hst, Duty.call?])
      exact hbusy (by simp [hcalls]) (h.remove call (by simp [hcalls]) hk).1
    | removed timer =>
      change time < a.deadline
      rw [hrests.eq_of_removed hpast hhealthy hs hst]
      exact h.timely a ha hid
    | failed => cases hgoes
  | stranded =>
    rw [hst] at hgoes
    cases hgoes
  | skipping =>
    rw [hst] at htimer
    cases htimer

/-- A healthy run stays sound, as long as it goes on and its grace timer is not late. -/
theorem Sound.step (h : f.Sound) (hord : f.toFrame.Orderly) (hsteer : f.conduct.Steered)
    (hpast : UpTo f.now f.outline)
    (hgrace : ∀ a ∈ f.coordinator.timers.armed, f.coordinator.phase = .stopping a.id →
      f.now < a.deadline) (hhealthy : f'.Healthy) {o : Occurrence} (hs : f.Step o f')
    (hrun : f'.coordinator.isRunning = true) : f'.Sound := by
  cases hs with
  | stay => exact h
  | files | signal | closeSignals => exact h.keep rfl rfl rfl rfl rfl fun a ha _ => ha
  | pass time hrests => exact h.pass hord hpast hrests hhealthy
  | act hact => exact h.act hord hsteer hgrace hhealthy hact hrun

end Scene

end Hotplug
