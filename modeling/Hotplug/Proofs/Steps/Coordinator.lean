import Hotplug.Proofs.Orderly

/-!
# The steps of the coordinator and of the supervisor's own loop

* `leads_fireTimer`, `leads_decide`, `leads_takeSignal` — the moves of the coordinator.
* `leads_cycle` — the supervisor's own loop goes on.
-/

namespace Hotplug

open Conduct (Step)

open Hotplug.Frame (Leads)

variable {L : EventLoop} {w w' : World L}

/-! ## Timers and the coordinator -/

/-- A coordinator that is run listens. -/
theorem Coordinator.isListening_of_isRunning {k : Coordinator} (h : k.isRunning = true) :
    k.isListening = true := by
  unfold isRunning at h
  unfold isListening
  split at h <;> simp_all

theorem Coordinator.conduct_post (k : Coordinator) (c : Chronicle) (t : Termination) (d : Duty)
    (n : Nat) :
    (⟨(k.post c t).2.now, d, n, (k.post c t).1, (k.post c t).2.outline⟩ : Conduct) =
      Conduct.post ⟨c.now, d, n, k, c.outline⟩ t := by
  unfold Coordinator.post Conduct.post
  by_cases h : k.isListening = true
  · simp [h, Happening.isOutline]
  · simp [h, Message.isLoopPanic]

theorem Coordinator.now_post (k : Coordinator) (c : Chronicle) (t : Termination) :
    (k.post c t).2.now = c.now := by
  unfold Coordinator.post
  split <;> simp

theorem Coordinator.gracePeriod_post (k : Coordinator) (c : Chronicle) (t : Termination) :
    (k.post c t).1.gracePeriod = k.gracePeriod := by
  unfold Coordinator.post
  split <;> rfl

/-- The due timer is an armed one, and its deadline has come. -/
theorem Timers.due?_eq_some {ts : Timers} {now : Nat} {a : AbortTimer}
    (h : ts.due? now = some a) : a ∈ ts.armed ∧ a.deadline ≤ now :=
  ⟨List.mem_of_find?_eq_some h, by simpa using List.find?_some h⟩

theorem Timers.due?_eq_none {ts : Timers} {now : Nat} (h : ts.due? now = none) :
    ∀ a ∈ ts.armed, now < a.deadline := by
  simpa [Timers.due?] using h

theorem leads_fireTimer (h : w.frame.Orderly) (hw : w.fireTimer? = some w') :
    Leads w.frame w'.frame := by
  unfold World.fireTimer? Coordinator.fireTimer? at hw
  cases hdue : w.coordinator.timers.due? w.chronicle.now with
  | none => simp [hdue] at hw
  | some a =>
    obtain ⟨ha, hle⟩ := Timers.due?_eq_some hdue
    simp only [hdue, Option.map_some, Option.some.injEq] at hw
    subst hw
    refine ⟨rfl, Coordinator.now_post _ _ _, h.congr rfl rfl rfl rfl rfl
      (Coordinator.gracePeriod_post _ _ _), ?_⟩
    refine (Step.fire w.frame.conduct a ha hle).cast ?_
    have hpost := Coordinator.conduct_post
      { w.coordinator with timers := (w.coordinator.timers.fire w.chronicle a).1 }
      (w.coordinator.timers.fire w.chronicle a).2 a.termination w.frame.duty w.sessionCount
    refine Eq.trans ?_ hpost.symm
    simp [Conduct.fire, Timers.fire, Conduct.tell, Conduct.setTimers, Frame.conduct, World.frame,
      World.now, Happening.isOutline, Message.isLoopPanic]

theorem frame_cancelCycle (h : w.frame.Orderly) :
    w.cancelCycle.frame =
      if w.frame.duty.isActive then w.frame.cut .cancelled else w.frame := by
  have hcut : { w.abandonSession.dropConsumers.dropHeldManager with cycle := .cancelled }.frame =
      w.frame.cut .cancelled := by
    have habandon := World.frame_abandonSession w
    have hdrop : w.abandonSession.dropConsumers.dropHeldManager.frame = w.abandonSession.frame := by
      simp
    rw [habandon] at hdrop
    exact congrArg (fun f : Frame => { f with cycle := CyclePhase.cancelled }) hdrop
  cases hc : w.cycle with
  | inSession =>
    obtain ⟨s, hs⟩ := h.exists_session hc
    have hactive : w.frame.duty.isActive = true := h.isActive hs
    simp only [World.cancelCycle, hc, hactive, if_true, hcut]
  | deciding | waiting | stopping =>
    have hactive : w.frame.duty.isActive = true := by
      simp [Frame.duty, World.frame, hc, Duty.isActive]
    simp only [World.cancelCycle, hc, hactive, if_true, hcut]
  | refused | attended | finished | cancelled | panicked =>
    have hactive : w.frame.duty.isActive = false := by
      simp [Frame.duty, World.frame, hc, Duty.isActive]
    simp [World.cancelCycle, hc, hactive]

/-- A decision of the coordinator ends the supervisor's own loop, if that is under way. -/
theorem frame_coordinated_conclude (h : w.frame.Orderly) (k : Coordinator) (c : Chronicle)
    (t : Termination) (hg : k.gracePeriod = w.coordinator.gracePeriod) :
    let f := (w.coordinated (k.conclude t) (c.record (.terminated t))).frame
    f.setup = w.setup ∧ f.Orderly ∧
      f.conduct = Conduct.decide ⟨c.now, w.frame.duty, w.sessionCount, k, c.outline⟩ t := by
  intro f
  let v : World L :=
    { w with coordinator := k.conclude t, chronicle := c.record (.terminated t) }
  have hv : v.frame.Orderly := h.congr rfl rfl rfl rfl rfl hg
  have hconduct : v.frame.conduct =
      (Conduct.tell ⟨c.now, w.frame.duty, w.sessionCount, k.conclude t, c.outline⟩
        (.terminated t)) := by
    simp [v, Frame.conduct, World.frame, World.now, Conduct.tell, Happening.isOutline, Frame.duty]
  have hf : f = if v.frame.duty.isActive then v.frame.cut .cancelled else v.frame := by
    have hatt : v.setup.isAttended = false := h.supervised
    rw [← frame_cancelCycle hv]
    simp only [f, World.coordinated]
    split
    · rename_i t' _ _
      exact World.frame_log _ _ _ (by split <;> rfl)
    · rename_i hno
      exact (hno t rfl hatt).elim
  change _ ∧ _ ∧ _ = (Conduct.tell ⟨c.now, w.frame.duty, w.sessionCount, k.conclude t, c.outline⟩
    (.terminated t)).cutOff
  rw [← hconduct, hf]
  by_cases ha : v.frame.duty.isActive = true
  · obtain ⟨hord, hcut⟩ := hv.cut ha (.inl rfl)
    rw [if_pos ha]
    exact ⟨rfl, hord, hcut⟩
  · rw [if_neg ha]
    refine ⟨rfl, hv, ?_⟩
    exact (Conduct.cutOff_of_not_isActive ha).symm

theorem leads_decide (h : w.frame.Orderly) (hw : w.decide? = some w') :
    Leads w.frame w'.frame := by
  unfold World.decide? Coordinator.decidePosted? at hw
  split at hw
  · rename_i hrun
    cases hp : w.coordinator.posted with
    | nil => simp [hp] at hw
    | cons t rest =>
      simp only [hp, List.head?_cons, Option.map_some, Option.some.injEq] at hw
      subst hw
      obtain ⟨hsetup, hord, hconduct⟩ :=
        frame_coordinated_conclude h w.coordinator w.chronicle t rfl
      exact ⟨hsetup, congrArg Conduct.now hconduct, hord,
        (Step.decide w.frame.conduct t rest hrun hp).cast hconduct.symm⟩
  · simp at hw

theorem Coordinator.conduct_takeFirst (k : Coordinator) (c : Chronicle) (s : Signal) (d : Duty)
    (n : Nat) :
    (⟨(k.takeFirst c s).2.now, d, n, (k.takeFirst c s).1, (k.takeFirst c s).2.outline⟩ : Conduct) =
      (((Conduct.tell ⟨c.now, d, n, k, c.outline⟩ (.signalTaken s)).raiseStop.arm k.gracePeriod
        .shutdownTimeout).awaitEnd k.timers.made) := by
  cases hraised : k.stop.isRaised <;>
    simp [Coordinator.takeFirst, Coordinator.trigger, StopFlag.raise, Timers.arm, hraised,
      Conduct.tell, Conduct.raiseStop, Conduct.arm, Conduct.setTimers, Conduct.awaitEnd,
      Happening.isOutline, Message.isLoopPanic]

/-- Signals that are still polled give one that waits, or the news that none can come any more. -/
theorem Coordinator.poll?_eq_some {k : Coordinator} {c : Chronicle}
    {react : Coordinator → Chronicle → Signal → Coordinator × Chronicle}
    {r : Coordinator × Chronicle} (h : k.poll? c react = some r) :
    k.signalsOpen = true ∧
      ((∃ s b, k.signals.receive = (.signal s, b) ∧ r = react { k with signals := b } c s) ∨
        k.signals.receive.1 = .closed ∧ r = (k.ignoreSignals, c)) := by
  unfold poll? at h
  split at h
  · next hopen =>
    refine ⟨hopen, ?_⟩
    split at h
    · next s b hreceive => exact .inl ⟨s, b, hreceive, (Option.some.inj h).symm⟩
    · cases h
    · next b hreceive => exact .inr ⟨by rw [hreceive], (Option.some.inj h).symm⟩
  · cases h

/-- A signal is taken as the first one or as the second one, or none can come any more. -/
theorem Coordinator.takeSignal?_eq_some {k : Coordinator} {c : Chronicle}
    {r : Coordinator × Chronicle} (h : k.takeSignal? c = some r) :
    k.signalsOpen = true ∧
      ((∃ s b, k.signals.receive = (.signal s, b) ∧
        (k.phase = .awaitingSignal ∧ r = { k with signals := b }.takeFirst c s ∨
          ∃ grace, k.phase = .stopping grace ∧ r = { k with signals := b }.takeSecond c s)) ∨
        k.isRunning = true ∧ k.signals.receive.1 = .closed ∧ r = (k.ignoreSignals, c)) := by
  unfold takeSignal? at h
  split at h
  · next hphase =>
    obtain ⟨hopen, ⟨s, b, hreceive, rfl⟩ | hclosed⟩ := poll?_eq_some h
    · exact ⟨hopen, .inl ⟨s, b, hreceive, .inl ⟨hphase, rfl⟩⟩⟩
    · exact ⟨hopen, .inr ⟨by simp [isRunning, hphase], hclosed⟩⟩
  · next grace hphase =>
    obtain ⟨hopen, ⟨s, b, hreceive, rfl⟩ | hclosed⟩ := poll?_eq_some h
    · exact ⟨hopen, .inl ⟨s, b, hreceive, .inr ⟨grace, hphase, rfl⟩⟩⟩
    · exact ⟨hopen, .inr ⟨by simp [isRunning, hphase], hclosed⟩⟩
  · cases h

theorem Coordinator.poll?_eq_none {k : Coordinator} {c : Chronicle}
    {react : Coordinator → Chronicle → Signal → Coordinator × Chronicle} :
    k.poll? c react = none ↔ (k.signalsOpen = true → k.signals.receive.1 = .pending) := by
  unfold poll?
  cases k.signalsOpen with
  | false => simp
  | true =>
    rw [if_pos rfl]
    split <;> simp_all

/-- A coordinator that is run takes no signal as long as none waits and more can come, and once it
polls them no more. -/
theorem Coordinator.takeSignal?_eq_none {k : Coordinator} {c : Chronicle} :
    k.takeSignal? c = none ↔
      (k.isRunning = true → k.signalsOpen = true → k.signals.receive.1 = .pending) := by
  unfold takeSignal? isRunning
  cases k.phase with
  | awaitingSignal | stopping => simp [poll?_eq_none]
  | idle | decided | dropped => simp

/-- A coordinator that is run has not decided. -/
theorem Coordinator.decision?_of_isRunning {k : Coordinator} (h : k.isRunning = true) :
    k.decision? = none := by
  unfold isRunning at h
  unfold decision?
  split at h <;> simp_all

theorem leads_takeSignal (h : w.frame.Orderly) (hw : w.takeSignal? = some w') :
    Leads w.frame w'.frame := by
  obtain ⟨⟨k, c⟩, hr, rfl⟩ := Option.map_eq_some_iff.1 hw
  obtain ⟨-, ⟨s, b, -, ⟨hphase, heq⟩ | ⟨grace, hphase, heq⟩⟩ | ⟨hrun, -, heq⟩⟩ :=
    Coordinator.takeSignal?_eq_some hr
  · have hk : k = ({ w.coordinator with signals := b }.takeFirst w.chronicle s).1 :=
      congrArg Prod.fst heq
    have hc : c = ({ w.coordinator with signals := b }.takeFirst w.chronicle s).2 :=
      congrArg Prod.snd heq
    have hcoord : w.coordinated k c = { w with coordinator := k, chronicle := c } := by
      have hdecision : k.decision? = none := by rw [hk]; rfl
      simp [World.coordinated, hdecision]
    simp only [hcoord]
    subst hk hc
    refine ⟨rfl, ?_, h.congr rfl rfl rfl rfl rfl rfl, ?_⟩
    · exact congrArg Conduct.now
        (Coordinator.conduct_takeFirst _ w.chronicle s w.frame.duty w.sessionCount)
    refine (Step.firstSignal w.frame.conduct s b hphase).cast (Eq.trans ?_
      (Coordinator.conduct_takeFirst _ w.chronicle s w.frame.duty w.sessionCount).symm)
    rw [← h.grace]
    rfl
  · obtain ⟨rfl, rfl⟩ := Prod.mk.inj heq
    obtain ⟨hsetup, hord, hconduct⟩ := frame_coordinated_conclude h
      { w.coordinator with signals := b }
      ((w.chronicle.record (.signalTaken s)).log (.secondSignal s)) .repeatedSignal rfl
    refine ⟨hsetup, congrArg Conduct.now hconduct, hord,
      (Step.secondSignal w.frame.conduct s b grace hphase).cast ?_⟩
    refine Eq.trans ?_ hconduct.symm
    simp [Frame.conduct, World.frame, World.now, Conduct.tell, Conduct.setSignals,
      Happening.isOutline, Message.isLoopPanic, Frame.duty]
  · obtain ⟨rfl, rfl⟩ := Prod.mk.inj heq
    have hcoord : w.coordinated w.coordinator.ignoreSignals w.chronicle =
        { w with coordinator := w.coordinator.ignoreSignals } := by
      have hdecision : w.coordinator.ignoreSignals.decision? = none :=
        Coordinator.decision?_of_isRunning hrun
      simp [World.coordinated, hdecision]
    simp only [hcoord]
    exact ⟨rfl, rfl, h.congr rfl rfl rfl rfl rfl rfl,
      (Step.ignoreSignals w.frame.conduct).cast rfl⟩

/-! ## The supervisor's own loop -/

theorem leads_beginStop (h : w.frame.Orderly) (hd : w.frame.duty = .idle)
    (hstop : w.coordinator.stop.isOver = true) : Leads w.frame w.beginStop.frame := by
  let v : World L := { (w.write (·.log .stoppingManager)) with cycle := .stopping }
  have hv : v.frame = { w.frame with cycle := .stopping } :=
    congrArg (fun f : Frame => { f with cycle := CyclePhase.stopping })
      (World.frame_log w .stoppingManager none rfl)
  have hf : w.beginStop.frame =
      { w.frame with
        cycle := .stopping
        outline := (w.now, .callBegan .stop) :: w.frame.outline
        calls := [v.nextCall .stop] } := by
    have hcalls : w.calls = [] := h.calls_eq_nil (by rw [hd]; rfl)
    refine (World.frame_beginCall v .stop).trans ?_
    rw [hv]
    simp [v, World.write, World.now, hcalls]
  have hs : w.session = none := h.session_eq_none_of_duty (by rw [hd]; rfl)
  rw [hf]
  exact ⟨rfl, rfl, h.between rfl (by simp) (by simp) (by simp) hs rfl rfl,
    (Step.beginStop w.frame.conduct hd hstop).cast rfl⟩

/-- The supervisor's own loop goes on to wait, or goes on waiting. -/
theorem Frame.Orderly.wait {f : Frame} (h : f.Orderly) (hd : f.duty = .idle) {wait : PresenceWait}
    (hw : wait.desired = true) : ({ f with cycle := .waiting wait } : Frame).Orderly := by
  refine h.between rfl (by simp) (by simp) (by simpa using hw) ?_ rfl ?_
  · exact h.session_eq_none_of_duty (by rw [hd]; rfl)
  · have hcalls := h.calls
    rw [hd] at hcalls
    exact hcalls

theorem leads_startSession (h : w.frame.Orderly) (hd : w.frame.duty = .idle)
    (hstop : w.coordinator.stop.isOver = false) {v : World L}
    (hv : v.frame = { w.frame with outline := (w.now, .checked true) :: w.frame.outline }) :
    Leads w.frame v.startSession.frame := by
  have hcalls : w.frame.calls = [] := h.calls_eq_nil (by rw [hd]; rfl)
  have hf := World.frame_startSession v
  rw [hv] at hf
  dsimp only at hf
  rw [hcalls, List.nil_append] at hf
  rw [hf]
  refine ⟨rfl, rfl, h.within rfl rfl rfl rfl rfl ?_ rfl rfl, ?_⟩
  · intro wait hwait
    cases hwait
  · exact (Step.beginSession w.frame.conduct hd hstop).cast rfl

/-- The supervisor's own loop begins to wait for the device. -/
theorem leads_beginWaiting (h : w.frame.Orderly) (hd : w.frame.duty = .idle) :
    Leads w.frame
      ({ (w.write (·.log (.waitingForDevice w.setup.device))) with
        cycle := .waiting (.start true w.now) } : World L).frame := by
  have hf : ({ (w.write (·.log (.waitingForDevice w.setup.device))) with
      cycle := .waiting (.start true w.now) } : World L).frame =
        { w.frame with cycle := .waiting (.start true w.now) } :=
    congrArg (fun f : Frame => { f with cycle := .waiting (.start true w.now) })
      (World.frame_log w (.waitingForDevice w.setup.device) none rfl)
  rw [hf]
  refine ⟨rfl, rfl, h.wait hd rfl, (Step.quiet _).cast ?_⟩
  simp [Frame.conduct, hd]
  rfl

/-- A look that does not show the device only makes the wait go on. -/
theorem leads_keepWaiting (h : w.frame.Orderly) (hd : w.frame.duty = .idle)
    {wait wait' : PresenceWait} (hdesired : wait.desired = true) {c : Chronicle}
    (hlook : wait.look w.setup.pollInterval w.files w.setup.device none w.chronicle =
      (some wait', c)) :
    Leads w.frame ({ w with chronicle := c, cycle := .waiting wait' } : World L).frame := by
  obtain ⟨hnow, hsame, seen, -, hout⟩ := PresenceWait.look_eq_some hlook
  have hf : ({ w with chronicle := c, cycle := .waiting wait' } : World L).frame =
      { w.frame with
        outline := (w.now, .checked seen) :: w.frame.outline
        cycle := .waiting wait' } := by
    simp [World.frame, World.now, hnow, hout]
  rw [hf]
  refine ⟨rfl, rfl, (h.wait hd (hsame.trans hdesired)).congr rfl rfl rfl rfl rfl rfl, ?_⟩
  refine (Step.look w.frame.conduct seen).cast ?_
  simp [Frame.conduct, hd, Conduct.tell]
  rfl

theorem leads_cycle (h : w.frame.Orderly) (hw : w.cycle? = some w') :
    Leads w.frame w'.frame := by
  unfold World.cycle? at hw
  cases hc : w.cycle with
  | deciding =>
    have hd : w.frame.duty = .idle := by simp [Frame.duty, World.frame, hc]
    simp only [hc] at hw
    split at hw
    · rename_i hraised
      obtain rfl := Option.some.inj hw
      exact leads_beginStop h hd (by simp [StopFlag.isOver, hraised])
    · obtain rfl := Option.some.inj hw
      exact leads_beginWaiting h hd
  | waiting wait =>
    have hd : w.frame.duty = .idle := by simp [Frame.duty, World.frame, hc]
    have hdesired : wait.desired = true := h.waiting wait hc
    simp only [hc] at hw
    split at hw
    · rename_i hover
      obtain rfl := Option.some.inj hw
      exact leads_beginStop h hd hover
    · rename_i hover
      split at hw
      · split at hw
        · obtain rfl := Option.some.inj hw
          exact leads_keepWaiting h hd hdesired ‹_›
        · rename_i c hlook
          obtain ⟨hnow, hout⟩ := PresenceWait.look_eq_none hlook
          obtain rfl := Option.some.inj hw
          refine leads_startSession h hd (by simpa using hover) ?_
          rw [World.frame_log _ _ _ rfl]
          simp [World.frame, World.now, hc, hnow, hout, hdesired]
      · cases hw
  | refused | attended | inSession | stopping | finished | cancelled | panicked =>
    simp [hc] at hw

end Hotplug
