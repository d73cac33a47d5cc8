import Hotplug.Proofs.Healthy

/-!
# The time that is left

When a healthy run is asked to stop, it takes no longer than its library calls do.

* `Scene.left?` — the time that the calls still take, until the manager is stopped.
* `Scene.Ends` — the manager is going to be stopped at a certain time.
* `Scene.Step.ends` — this time never changes.
-/

namespace Hotplug

open Scene (Act Step)

/-! ## The time that is left -/

namespace Scene

variable (f : Scene)

/-- What the session under way is doing. -/
def stage? : Option Stage :=
  f.session.map (·.stage)

/-- How long a call takes that begins next. -/
def whole? (k : CallKind) : Option Nat :=
  (f.setup.library.behaviour k (Tally.count k f.callCount)).hold

/-- How long the call under way still takes. -/
def rest? : Option Nat :=
  f.calls.head?.bind fun call => call.ends.map (· - f.now)

/-- Whether the driver that is being added will be refused, and the device skipped then. -/
def skips : Bool :=
  f.setup.settings.driver.onActivationFailure = .skipCycle &&
    f.calls.any (·.result = .returned false)

/-- How long it still takes to add the driver, if it is being added. -/
def addingLeft? : Option Nat :=
  match f.stage? with
  | some (.activating _) => f.rest?
  | _ => some 0

/-- How long it still takes to remove the driver of the session under way, if there is one and it
is not skipped. -/
def removingLeft? : Option Nat :=
  match f.stage? with
  | some (.activating _) => if f.skips then some 0 else f.whole? .remove
  | some (.running .listening _) => f.whole? .remove
  | some (.running (.removing _) _) => f.rest?
  | some (.stranded _) | some (.running (.failed _) _) => none
  | none | some (.skipping _) | some (.running (.removed _) _) => some 0

/-- How long it still takes to stop the manager. -/
def stoppingLeft? : Option Nat :=
  match f.cycle with
  | .deciding | .waiting _ | .inSession => f.whole? .stop
  | .stopping => f.rest?
  | .refused _ | .attended | .finished | .cancelled | .panicked => some 0

/-- How long it still takes until the manager is stopped, if it is asked for now: the sum of what
is left of the calls. -/
def left? : Option Nat :=
  f.addingLeft?.bind fun a => f.removingLeft?.bind fun r => f.stoppingLeft?.map (a + r + ·)

/-- The manager is going to be stopped at `time`. -/
def Ends (time : Nat) : Prop :=
  ∃ l, f.left? = some l ∧ f.now + l = time

variable {f} {f' : Scene} {time : Nat}

theorem left?_of_eq {a r p : Nat} (ha : f.addingLeft? = some a) (hr : f.removingLeft? = some r)
    (hp : f.stoppingLeft? = some p) : f.left? = some (a + r + p) := by
  simp [left?, ha, hr, hp]

theorem exists_of_left? {l : Nat} (h : f.left? = some l) :
    ∃ a r p, f.addingLeft? = some a ∧ f.removingLeft? = some r ∧ f.stoppingLeft? = some p ∧
      l = a + r + p := by
  obtain ⟨a, ha, h⟩ := Option.bind_eq_some_iff.1 h
  obtain ⟨r, hr, h⟩ := Option.bind_eq_some_iff.1 h
  obtain ⟨p, hp, rfl⟩ := Option.map_eq_some_iff.1 h
  exact ⟨a, r, p, ha, hr, hp, rfl⟩

theorem left?_congr (ha : f'.addingLeft? = f.addingLeft?)
    (hr : f'.removingLeft? = f.removingLeft?) (hp : f'.stoppingLeft? = f.stoppingLeft?) :
    f'.left? = f.left? := by
  simp only [left?, ha, hr, hp]

theorem whole?_congr (hsetup : f'.setup = f.setup) (hcount : f'.callCount = f.callCount)
    (k : CallKind) : f'.whole? k = f.whole? k := by
  simp only [whole?, hsetup, hcount]

/-- A call that can end takes no more time. -/
theorem rest?_of_canEnd {call : Call} (h : f.CanEnd call) : f.rest? = some 0 := by
  have hover := h.isOver
  unfold Call.isOver at hover
  unfold rest?
  rw [h.calls]
  cases hends : call.ends with
  | none => simp [hends] at hover
  | some e =>
    have hle : e ≤ f.now := by simpa [hends] using hover
    simp [hends, Nat.sub_eq_zero_of_le hle]

/-- A call that has just begun has all its time left. -/
theorem rest?_of_begin {k : CallKind} (hcalls : f'.calls = [f.nextCall k]) (hnow : f'.now = f.now) :
    f'.rest? = f.whole? k := by
  unfold rest? whole?
  rw [hcalls, hnow]
  change ((f.setup.library.behaviour k _).hold.map (f.now + ·)).map (· - f.now) = _
  rw [Option.map_map]
  cases (f.setup.library.behaviour k (Tally.count k f.callCount)).hold <;> simp

theorem stage?_eq {s : Session} {stage : Stage} (hs : f.session = some s) (hst : s.stage = stage) :
    f.stage? = some stage := by
  simp [stage?, hs, hst]

/-- An event loop that goes on takes no time of the calls. -/
theorem left?_of_running {executor : Executor} {p p' : LoopPhase}
    (hstage : f.stage? = some (.running executor p))
    (hstage' : f'.stage? = some (.running executor p')) (hcycle : f'.cycle = f.cycle)
    (hrest : f'.rest? = f.rest?) (hwhole : ∀ k, f'.whole? k = f.whole? k) : f'.left? = f.left? := by
  refine left?_congr ?_ ?_ ?_
  · simp only [addingLeft?, hstage, hstage']
  · simp only [removingLeft?, hstage, hstage', hrest, hwhole]
    cases executor <;> rfl
  · simp only [stoppingLeft?, hcycle, hrest, hwhole]

/-- Whoever asks a session to quit takes no time of the calls. -/
theorem left?_raiseQuit (f : Scene) (child : Child) (r : QuitReason) :
    (f.raiseQuit child r).left? = f.left? := by
  have hstage : (f.raiseQuit child r).stage? = f.stage? := stage_raiseQuit f child r
  refine left?_congr ?_ ?_ rfl
  · unfold addingLeft?
    rw [hstage]
    rfl
  · unfold removingLeft?
    rw [hstage]
    rfl

/-- Without a session there is nothing left but the stop. -/
theorem left?_of_idle (hs : f.session = none) (hs' : f'.session = none)
    (hstop : f'.stoppingLeft? = f.stoppingLeft?) : f'.left? = f.left? := by
  have hstage : f.stage? = none := by simp [stage?, hs]
  have hstage' : f'.stage? = none := by simp [stage?, hs']
  refine left?_congr ?_ ?_ hstop
  · simp only [addingLeft?, hstage, hstage']
  · simp only [removingLeft?, hstage, hstage']

/-- A session has all of the stop before it. -/
theorem stoppingLeft?_of_session (hord : f.toFrame.Orderly) {s : Session} (hs : f.session = some s)
    (hcycle : f'.cycle = .inSession ∨ f'.cycle = .deciding)
    (hsetup : f'.setup = f.setup) : f'.stoppingLeft? = f.stoppingLeft? := by
  have hwhole : f'.whole? .stop = f.whole? .stop := by
    change f'.setup.library.stopping.hold = f.setup.library.stopping.hold
    rw [hsetup]
  have hc : f.cycle = .inSession := hord.cycle_eq hs
  rcases hcycle with hc' | hc'
  · simp only [stoppingLeft?, hc, hc', hwhole]
  · simp only [stoppingLeft?, hc, hc', hwhole]

/-- A move of a sound run takes no time, and leaves as much as there was. -/
theorem Act.left? (hord : f.toFrame.Orderly) (hsteer : f.conduct.Steered) (hsound : f.Sound)
    {grace : TimerId} (hphase : f.coordinator.phase = .stopping grace) (hhealthy : f'.Healthy)
    {m : Move} (hs : f.Act m f') (hrun : f'.coordinator.isRunning = true) :
    f'.now = f.now ∧ f'.left? = f.left? := by
  have hup : f.coordinator.stop.isRaised = true := hsteer.raised grace hphase
  have hover : f.coordinator.stop.isOver = true := by simp [StopFlag.isOver, hup]
  cases hs with
  | fire => exact ⟨rfl, rfl⟩
  | decide t | secondSignal => simp [Coordinator.isRunning, phase_decide] at hrun
  | firstSignal | ignoreSignals => exact ⟨rfl, rfl⟩
  | beginStop hc =>
    refine ⟨rfl, ?_⟩
    have hidle : f.duty = .idle ∧ f.cycle ≠ .inSession ∧ f.stoppingLeft? = f.whole? .stop := by
      rcases hc with ⟨hc, -⟩ | ⟨⟨wait, hc⟩, -⟩
      · simp [Frame.duty, stoppingLeft?, hc]
      · simp [Frame.duty, stoppingLeft?, hc]
    obtain ⟨hduty, hsession, hstop⟩ := hidle
    have hcalls : ({ f with cycle := .stopping : Scene }.beginCall .stop).calls =
        [f.nextCall .stop] := hord.calls_concat (by rw [hduty]; rfl) _
    have hnone := hord.session_eq_none hsession
    refine left?_of_idle hnone hnone ?_
    rw [hstop]
    exact rest?_of_begin hcalls rfl
  | beginWaiting hc hstop =>
    rw [hup] at hstop
    cases hstop
  | keepWaiting wait hc hstop | beginSession wait hc hstop =>
    rw [hover] at hstop
    cases hstop
  | loopWent s executor p p' hs hst | loopEnded s executor p hs hst =>
    exact ⟨rfl, left?_of_running (stage?_eq hs hst) (stage?_eq rfl rfl) rfl rfl fun _ => rfl⟩
  | loopPanicked s executor p reason =>
    exact absurd (mem_outline_panicLoop f reason) (hhealthy.noPanic f.now reason none)
  | skipStopped s _ hs hst | skipEnded s _ hs hst | sessionEnded s _ hs hst =>
    have hstage := stage?_eq hs hst
    refine ⟨rfl, left?_congr ?_ ?_ (stoppingLeft?_of_session hord hs (.inr rfl) rfl)⟩
    · simp only [addingLeft?, hstage]
      rfl
    · simp only [removingLeft?, hstage]
      rfl
  | beginRemoval s loop r hs hst =>
    have hstage := stage?_eq hs hst
    have hstage' := stage?_eq (f.session_requestRemoval s loop) rfl
    have hcalls := (f.calls_requestRemoval s loop).trans
      (hord.calls_concat (by rw [hord.duty_eq hs]; simp [Session.duty, hst, Duty.call?]) _)
    have hnow := f.now_requestRemoval s loop
    refine ⟨hnow, left?_congr ?_ ?_ ?_⟩
    · simp only [addingLeft?, hstage, hstage']
    · simp only [removingLeft?, hstage, hstage']
      exact rest?_of_begin hcalls hnow
    · exact stoppingLeft?_of_session hord hs
        (.inl ((f.cycle_requestRemoval s loop).trans (hord.cycle_eq hs)))
        (f.setup_requestRemoval s loop)
  | keepSkipping s wait hs hst =>
    have hstage := stage?_eq hs hst
    refine ⟨rfl, left?_congr ?_ ?_ (stoppingLeft?_of_session hord hs (.inl (hord.cycle_eq hs)) rfl)⟩
    · simp only [addingLeft?, hstage]
      rfl
    · simp only [removingLeft?, hstage]
      rfl
  | stopForwarded child | removalSeen child => exact ⟨rfl, left?_raiseQuit _ _ _⟩
  | keepWatching child wait => exact ⟨rfl, rfl⟩
  | added s timer call ok hs hst hend hkind hresult hok =>
    have hstage := stage?_eq hs hst
    have hskips : f.skips = false := by
      rcases hok with rfl | hproceed
      · simp [skips, hend.calls, hresult]
      · simp [skips, hproceed]
    have hstage' := stage?_eq (f := ((f.endCall call).dropTimer timer).runLoop
      { s with activatedAt := some f.now }) rfl rfl
    refine ⟨rfl, left?_congr ?_ ?_ (stoppingLeft?_of_session hord hs (.inl (hord.cycle_eq hs))
      rfl)⟩
    · simp only [addingLeft?, hstage, hstage', rest?_of_canEnd hend, Session.looped]
    · simp only [removingLeft?, hstage, hstage', hskips, Session.looped, Bool.false_eq_true,
        if_false]
      exact whole?_congr rfl rfl _
  | skipped s timer call hs hst hend hkind hresult hskip =>
    have hstage := stage?_eq hs hst
    have hskips : f.skips = true := by simp [skips, hend.calls, hresult, hskip]
    refine ⟨rfl, left?_congr ?_ ?_ (stoppingLeft?_of_session hord hs (.inl (hord.cycle_eq hs)) rfl)⟩
    · simp only [addingLeft?, hstage, rest?_of_canEnd hend]
      rfl
    · simp only [removingLeft?, hstage, hskips]
      rfl
  | addPanicked s timer call reason hs hst hend hkind hresult =>
    exact absurd hresult (hsound.not_panicked hend hkind reason)
  | driverRemoved s timer loop call hs hst hend =>
    have hstage := stage?_eq hs hst
    refine ⟨rfl, left?_congr ?_ ?_ (stoppingLeft?_of_session hord hs (.inl (hord.cycle_eq hs)) rfl)⟩
    · simp only [addingLeft?, hstage]
      rfl
    · simp only [removingLeft?, hstage, rest?_of_canEnd hend]
      rfl
  | removalFailed s timer loop call hs hst hend hkind hresult =>
    exact absurd (hsound.removes hend hkind) hresult
  | stopped call hc hend =>
    have hnone : f.session = none := hord.session_eq_none (by rw [hc]; rintro ⟨⟩)
    refine ⟨rfl, left?_of_idle hnone hnone ?_⟩
    simp only [stoppingLeft?, hc, rest?_of_canEnd hend]
  | lateEnd call hc => exact absurd hc hsound.not_cut

/-! ## The passing of time -/

/-- A call goes on as time passes. -/
theorem rest?_pass (hrests : f.Rests time) {x : Nat} (hrest : f.rest? = some x) :
    time - f.now ≤ x ∧ ({ f with now := time } : Scene).rest? = some (x - (time - f.now)) := by
  obtain ⟨call, hcall, hends⟩ := Option.bind_eq_some_iff.1 hrest
  obtain ⟨e, he, rfl⟩ := Option.map_eq_some_iff.1 hends
  obtain ⟨-, hle⟩ := hrests.calls call (List.mem_of_head? hcall) e he
  have hrest' : ({ f with now := time } : Scene).rest? = some (e - time) := by
    unfold rest?
    rw [show ({ f with now := time } : Scene).calls.head? = some call from hcall]
    simp [he]
  have hfrom := hrests.le
  refine ⟨by omega, hrest'.trans (congrArg some ?_)⟩
  omega

/-- Time passes in a run that has been asked to stop only as long as a call is busy. -/
theorem Sound.busy_of_rests (h : f.Sound) (hord : f.toFrame.Orderly) (hacc : f.Accompanied)
    (hsteer : f.conduct.Steered) {grace : TimerId} (hphase : f.coordinator.phase = .stopping grace)
    (hpast : UpTo f.now f.outline) (hrests : f.Rests time)
    (hhealthy : Healthy { f with now := time }) :
    time = f.now ∨ (∃ timer, f.stage? = some (.activating timer)) ∨
      (∃ timer loop, f.stage? = some (.running (.removing timer) loop)) ∨
        f.session = none ∧ f.cycle = .stopping := by
  have hup : f.coordinator.stop.isRaised = true := hsteer.raised grace hphase
  have hover : f.coordinator.stop.isOver = true := by simp [StopFlag.isOver, hup]
  have hnotOver : f.coordinator.stop.isOver ≠ false := by simp [hover]
  cases hs : f.session with
  | none =>
    right; right; right
    refine ⟨rfl, ?_⟩
    have huncut := h.uncut
    cases hc : f.cycle with
    | stopping => rfl
    | deciding => exact absurd hc hrests.deciding
    | waiting wait => exact absurd (hrests.waiting wait hc).1 hnotOver
    | inSession => exact absurd hs (hord.session_iff.2 hc)
    | finished =>
      have hrun : f.coordinator.isRunning = true := by simp [Coordinator.isRunning, hphase]
      have hposted := h.finished hc
      rw [hrests.posted hrun] at hposted
      cases hposted
    | refused | attended | cancelled | panicked =>
      rw [hc] at huncut
      cases huncut
  | some s =>
    have hgoes := h.stage s hs
    cases hst : s.stage with
    | activating timer => exact .inr (.inl ⟨timer, stage?_eq hs hst⟩)
    | skipping wait => exact absurd (hrests.skipping s wait hs hst).1 hnotOver
    | stranded =>
      rw [hst] at hgoes
      cases hgoes
    | running executor loop =>
      cases executor with
      | removing timer => exact .inr (.inr (.inl ⟨timer, loop, stage?_eq hs hst⟩))
      | removed timer => exact .inl (hrests.eq_of_removed hpast hhealthy hs hst)
      | failed =>
        rw [hst] at hgoes
        cases hgoes
      | listening =>
        -- The forwarder has seen the flag, and the session has heard of it.
        have hbeside := hacc.beside s hs
        have hanswer := hrests.listening s loop hs hst
        rw [hbeside.answer?_eq] at hanswer
        have hreason : s.quit.reason = none := by simpa using hanswer
        exact absurd rfl (hrests.forwarding hover _
          (hbeside.forwarder_mem (by rw [hst]; rfl) hreason))

theorem Ends.of_parts {T a r p : Nat} (ha : f.addingLeft? = some a)
    (hr : f.removingLeft? = some r) (hp : f.stoppingLeft? = some p)
    (h : f.now + (a + r + p) = T) : f.Ends T :=
  ⟨_, left?_of_eq ha hr hp, h⟩

/-- As time passes, less is left of the call under way, and as much as before of the others. -/
theorem Ends.pass {T : Nat} (hends : f.Ends T) (h : f.Sound) (hord : f.toFrame.Orderly)
    (hacc : f.Accompanied) (hsteer : f.conduct.Steered) {grace : TimerId}
    (hphase : f.coordinator.phase = .stopping grace) (hpast : UpTo f.now f.outline)
    (hrests : f.Rests time) (hhealthy : Healthy { f with now := time }) :
    ({ f with now := time } : Scene).Ends T := by
  have hfrom := hrests.le
  obtain ⟨l, hleft, rfl⟩ := hends
  obtain ⟨a, r, p, ha, hr, hp, rfl⟩ := exists_of_left? hleft
  have hstop : ∀ s, f.session = some s →
      ({ f with now := time } : Scene).stoppingLeft? = some p := by
    intro s hs
    rw [← hp]
    exact stoppingLeft?_of_session hord hs (.inl (hord.cycle_eq hs)) rfl
  rcases h.busy_of_rests hord hacc hsteer hphase hpast hrests hhealthy with
    heq | ⟨timer, hstage⟩ | ⟨timer, loop, hstage⟩ | ⟨hs, hc⟩
  · rw [heq]
    exact .of_parts ha hr hp rfl
  · obtain ⟨s, hs, -⟩ := Option.map_eq_some_iff.1 hstage
    have hstage' : ({ f with now := time } : Scene).stage? = some (.activating timer) := hstage
    have hrest : f.rest? = some a := by simpa only [addingLeft?, hstage] using ha
    obtain ⟨hle, hrest'⟩ := rest?_pass hrests hrest
    refine .of_parts (a := a - (time - f.now)) (r := r) ?_ ?_ (hstop s hs) (by simp only; omega)
    · simpa only [addingLeft?, hstage'] using hrest'
    · simp only [removingLeft?, hstage, hstage'] at hr ⊢
      exact hr
  · obtain ⟨s, hs, -⟩ := Option.map_eq_some_iff.1 hstage
    have hstage' : ({ f with now := time } : Scene).stage? =
        some (.running (.removing timer) loop) := hstage
    have hrest : f.rest? = some r := by simpa only [removingLeft?, hstage] using hr
    obtain ⟨hle, hrest'⟩ := rest?_pass hrests hrest
    refine .of_parts (a := a) (r := r - (time - f.now)) ?_ ?_ (hstop s hs) (by simp only; omega)
    · simp only [addingLeft?, hstage, hstage'] at ha ⊢
      exact ha
    · simpa only [removingLeft?, hstage'] using hrest'
  · have hstage : f.stage? = none := by simp [stage?, hs]
    have hstage' : ({ f with now := time } : Scene).stage? = none := hstage
    have hrest : f.rest? = some p := by simpa only [stoppingLeft?, hc] using hp
    obtain ⟨hle, hrest'⟩ := rest?_pass hrests hrest
    refine .of_parts (a := a) (r := r) (p := p - (time - f.now)) ?_ ?_ ?_ (by simp only; omega)
    · simp only [addingLeft?, hstage, hstage'] at ha ⊢
      exact ha
    · simp only [removingLeft?, hstage, hstage'] at hr ⊢
      exact hr
    · simpa only [stoppingLeft?, hc] using hrest'

theorem Step.ends {T : Nat} (hends : f.Ends T) (h : f.Sound) (hord : f.toFrame.Orderly)
    (hacc : f.Accompanied) (hsteer : f.conduct.Steered) {grace : TimerId}
    (hphase : f.coordinator.phase = .stopping grace) (hpast : UpTo f.now f.outline)
    (hhealthy : f'.Healthy) {o : Occurrence} (hs : f.Step o f')
    (hrun : f'.coordinator.isRunning = true) : f'.Ends T := by
  cases hs with
  | stay | files | signal | closeSignals => exact hends
  | pass time hrests => exact hends.pass h hord hacc hsteer hphase hpast hrests hhealthy
  | act hact =>
    obtain ⟨hnow, hleft⟩ := hact.left? hord hsteer h hphase hhealthy hrun
    obtain ⟨l, hl, hT⟩ := hends
    exact ⟨l, hleft.trans hl, hnow ▸ hT⟩

end Scene

end Hotplug
