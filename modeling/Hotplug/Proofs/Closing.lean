import Hotplug.Proofs.Causes
import Hotplug.Proofs.Remaining

/-!
# Healthy runs that come to their end

A healthy run that has been asked to stop goes straight to its end, and gets there before the
grace period is over.

* `Scene.Step.phase` — what a step makes of the coordinator.
* `Scene.Closing` — a run that has been asked to stop, and will be done at a certain time.
* `Scene.Completes.step` — it stays on its way, until it has completed at that time.
* `Scene.Sound.closing` — where the way begins.
-/

namespace Hotplug

open Scene (Act Step)

namespace Scene

variable {f f' : Scene} {t time : Nat}

/-! ## The coordinator -/

/-- The scene after the first signal. -/
def warn (f : Scene) (s : Signal) (b : SignalBuffer) : Scene :=
  f.put ((((f.conduct.setSignals b).tell (.signalTaken s)).raiseStop.arm
    f.setup.settings.shutdown.gracePeriod .shutdownTimeout).awaitEnd f.conduct.nextTimer)

theorem signalTimes_warn (f : Scene) (s : Signal) (b : SignalBuffer) :
    signalTimes (f.warn s b).outline = f.now :: signalTimes f.outline :=
  Conduct.signalTimes_raiseStop (c := (f.conduct.setSignals b).tell (.signalTaken s))

/-- What a step can make of the coordinator, as long as there is one signal at most: it stays in
its phase, it takes the signal, or it decides as was posted. -/
theorem Step.phase (hsteer : f.conduct.Steered) {o : Occurrence} (hs : f.Step o f')
    (hone : (signalTimes f'.outline).length ≤ 1) :
    (f'.coordinator.phase = f.coordinator.phase ∧
        signalTimes f'.outline = signalTimes f.outline) ∨
      (∃ s b, f.coordinator.phase = .awaitingSignal ∧ f' = f.warn s b) ∨
        ∃ x rest, f.coordinator.isRunning = true ∧ f.coordinator.posted = x :: rest ∧
          f' = f.decide x := by
  cases hs with
  | stay | files | signal | closeSignals | pass => exact .inl ⟨rfl, rfl⟩
  | act hact =>
    cases hact with
    | decide x rest hrun hposted => exact .inr (.inr ⟨x, rest, hrun, hposted, rfl⟩)
    | firstSignal s b hphase => exact .inr (.inl ⟨s, b, hphase, rfl⟩)
    | secondSignal s b grace hphase =>
      -- That would be one signal too many.
      obtain ⟨-, t, ht⟩ := hsteer.warned grace hphase
      rw [outline_decide] at hone
      have hnil : signalTimes f.conduct.outline = [] := by
        simpa [signalTimes_cons, Happening.isSignal] using hone
      rw [hnil] at ht
      cases ht
    | fire a =>
      exact .inl ⟨rfl, Conduct.signalTimes_post (c := f.conduct.tell _) a.termination⟩
    | loopPanicked => exact .inl ⟨rfl, Conduct.signalTimes_post _⟩
    | stopped => exact .inl ⟨rfl, Conduct.signalTimes_post _⟩
    | beginRemoval s loop =>
      refine .inl ⟨rfl, ?_⟩
      rw [outline_requestRemoval]
      rfl
    | _ => exact .inl ⟨rfl, rfl⟩

/-- The coordinator never waits for its first signal again. -/
theorem Step.awaiting (hsteer : f.conduct.Steered) (hsteer' : f'.conduct.Steered) {o : Occurrence}
    (hs : f.Step o f') (hphase : f'.coordinator.phase = .awaitingSignal) :
    f.coordinator.phase = .awaitingSignal := by
  have hnil : signalTimes f'.outline = [] := (hsteer'.calm hphase).2
  rcases hs.phase hsteer (by simp [hnil]) with ⟨hsame, -⟩ | ⟨s, b, hbefore, -⟩ | ⟨x, -, -, -, rfl⟩
  · exact hsame.symm.trans hphase
  · exact hbefore
  · rw [phase_decide] at hphase
    cases hphase

/-! ## The way to the end -/

/-- A run that has been asked to stop at `t`, and will have stopped the manager at `time`. -/
structure Closing (t time : Nat) (f : Scene) : Prop where
  phase : ∃ grace, f.coordinator.phase = .stopping grace
  signal : signalTimes f.outline = [t]
  sound : f.Sound
  ends : f.Ends time

/-- A run that has completed at `time`. -/
structure HasCompleted (time : Nat) (f : Scene) : Prop where
  phase : f.coordinator.phase = .decided .completed
  told : (time, .terminated .completed) ∈ f.outline

/-- A run that will have completed at `time`, or has. -/
def Completes (t time : Nat) (f : Scene) : Prop :=
  f.Closing t time ∨ f.HasCompleted time

namespace Closing

theorem isRunning (h : f.Closing t time) : f.coordinator.isRunning = true := by
  obtain ⟨grace, hphase⟩ := h.phase
  simp [Coordinator.isRunning, hphase]

theorem isRaised (h : f.Closing t time) (hsteer : f.conduct.Steered) :
    f.coordinator.stop.isRaised = true := by
  obtain ⟨grace, hphase⟩ := h.phase
  exact hsteer.raised grace hphase

theorem now_le (h : f.Closing t time) : f.now ≤ time := by
  obtain ⟨l, -, hl⟩ := h.ends
  omega

/-- The grace timer does not fire before the end. -/
theorem lt_grace (h : f.Closing t time) {g : Settings} (hcaused : f.conduct.Caused g)
    (htime : time < t + g.shutdown.gracePeriod) {a : AbortTimer}
    (ha : a ∈ f.coordinator.timers.armed) (hphase : f.coordinator.phase = .stopping a.id) :
    f.now < a.deadline := by
  obtain ⟨-, t₁, hsignal, hdeadline⟩ := hcaused.grace a.id hphase a ha rfl
  have heq : [t] = [t₁] := h.signal.symm.trans hsignal
  have hle := h.now_le
  have ht : t = t₁ := (List.cons.inj heq).1
  omega

/-- There is no other end to decide on than the one it has come to. -/
theorem decide (h : f.Closing t time) (hord : f.toFrame.Orderly) {x : Termination}
    {rest : List Termination} (hposted : f.coordinator.posted = x :: rest) :
    (f.decide x).HasCompleted time := by
  have hcycle : f.cycle = .finished := by
    refine Classical.byContradiction fun hc => ?_
    rw [h.sound.posted hc] at hposted
    cases hposted
  rw [h.sound.finished hcycle] at hposted
  obtain ⟨rfl, -⟩ := List.cons.inj hposted
  -- Nothing is left to do, so that the time has come.
  have hstage : f.stage? = none := by
    have hnone : f.session = none := hord.session_eq_none (by rw [hcycle]; rintro ⟨⟩)
    simp [stage?, hnone]
  have hleft : f.left? = some 0 :=
    left?_of_eq (a := 0) (r := 0) (p := 0) (by simp only [addingLeft?, hstage])
      (by simp only [removingLeft?, hstage]) (by simp only [stoppingLeft?, hcycle])
  obtain ⟨l, hl, hend⟩ := h.ends
  obtain rfl : 0 = l := Option.some.inj (hleft.symm.trans hl)
  obtain rfl : f.now = time := hend
  refine ⟨phase_decide _, ?_⟩
  rw [outline_decide]
  exact List.mem_cons_self

theorem step (h : f.Closing t time) {g : Settings} (hord : f.toFrame.Orderly)
    (hacc : f.Accompanied) (hreached : f.conduct.Reached g)
    (htime : time < t + g.shutdown.gracePeriod) (hhealthy : f'.Healthy)
    (hone : (signalTimes f'.outline).length ≤ 1) {o : Occurrence} (hs : f.Step o f') :
    f'.Completes t time := by
  have hsteer := hreached.steered
  have hpast : UpTo f.now f.outline := hreached.upTo
  obtain ⟨grace, hphase⟩ := h.phase
  rcases hs.phase hsteer hone with ⟨hsame, hsignals⟩ | ⟨s, b, hawaiting, -⟩ |
    ⟨x, rest, -, hposted, rfl⟩
  · have hphase' : f'.coordinator.phase = .stopping grace := hsame.trans hphase
    have hrun : f'.coordinator.isRunning = true := by simp [Coordinator.isRunning, hphase']
    refine .inl ⟨⟨grace, hphase'⟩, hsignals.trans h.signal, ?_, ?_⟩
    · exact h.sound.step hord hsteer hpast (fun a => h.lt_grace hreached.caused htime) hhealthy hs
        hrun
    · exact hs.ends h.ends h.sound hord hacc hsteer hphase hpast hhealthy hrun
  · rw [hphase] at hawaiting
    cases hawaiting
  · exact .inr (h.decide hord hposted)

end Closing

/-- A decision stays. -/
theorem HasCompleted.step (h : f.HasCompleted time) (hsteer : f.conduct.Steered)
    (hone : (signalTimes f'.outline).length ≤ 1) {o : Occurrence} (hs : f.Step o f') :
    f'.HasCompleted time := by
  refine ⟨?_, hs.outline_suffix.subset h.told⟩
  rcases hs.phase hsteer hone with ⟨hsame, -⟩ | ⟨s, b, hawaiting, -⟩ | ⟨x, rest, hrun, -, -⟩
  · exact hsame.trans h.phase
  · rw [h.phase] at hawaiting
    cases hawaiting
  · simp [Coordinator.isRunning, h.phase] at hrun

/-- A healthy run stays on its way, until it has completed. -/
theorem Completes.step (h : f.Completes t time) {g : Settings} (hord : f.toFrame.Orderly)
    (hacc : f.Accompanied) (hreached : f.conduct.Reached g)
    (htime : time < t + g.shutdown.gracePeriod) (hhealthy : f'.Healthy)
    (hone : (signalTimes f'.outline).length ≤ 1) {o : Occurrence} (hs : f.Step o f') :
    f'.Completes t time := by
  rcases h with hclosing | hdone
  · exact hclosing.step hord hacc hreached htime hhealthy hone hs
  · exact .inr (hdone.step hreached.steered hone hs)

/-! ## Where the way begins -/

/-- A healthy run is sound until the first signal. -/
theorem Sound.step_awaiting (h : f.Sound) {g : Settings} (hord : f.toFrame.Orderly)
    (hreached : f.conduct.Reached g) (hphase : f.coordinator.phase = .awaitingSignal)
    (hhealthy : f'.Healthy) {o : Occurrence} (hs : f.Step o f')
    (hrun : f'.coordinator.isRunning = true) : f'.Sound := by
  refine h.step hord hreached.steered hreached.upTo ?_ hhealthy hs hrun
  rintro a - hgrace
  rw [hphase] at hgrace
  cases hgrace

/-- If a signal was taken that is the first, the coordinator has waited for it. -/
theorem Step.firstSignal (hsteer : f.conduct.Steered) {o : Occurrence} (hs : f.Step o f')
    (hcalm : signalTimes f.outline = []) (htaken : signalTimes f'.outline = [t]) :
    f.coordinator.phase = .awaitingSignal ∧ f.now = t ∧ ∃ s b, f' = f.warn s b := by
  rcases hs.phase hsteer (by simp [htaken]) with ⟨-, hsignals⟩ | ⟨s, b, hphase, rfl⟩ |
    ⟨x, rest, -, -, rfl⟩
  · rw [hsignals, hcalm] at htaken
    cases htaken
  · exact ⟨hphase, by simpa [signalTimes_warn, hcalm] using htaken, s, b, rfl⟩
  · rw [outline_decide, signalTimes_cons, hcalm] at htaken
    cases htaken

/-- When a sound run takes its first signal, it is on its way. -/
theorem Sound.closing (h : f.Sound) {g : Settings} (hord : f.toFrame.Orderly)
    (hreached : f.conduct.Reached g) (hcalm : signalTimes f.outline = []) {left : Nat}
    (hleft : f.left? = some left) (hhealthy : f'.Healthy) {o : Occurrence} (hs : f.Step o f')
    (htaken : signalTimes f'.outline = [t]) : f'.Closing t (t + left) := by
  obtain ⟨hphase, rfl, s, b, rfl⟩ := hs.firstSignal hreached.steered hcalm htaken
  exact ⟨⟨_, rfl⟩, htaken, h.step_awaiting hord hreached hphase hhealthy hs rfl, left, hleft, rfl⟩

end Scene

end Hotplug
