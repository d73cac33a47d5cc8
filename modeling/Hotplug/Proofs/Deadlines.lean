import Hotplug.Proofs.Steering
import Hotplug.Session.Script

/-!
# Deadlines

No run goes on beyond the deadlines that its settings give to the operations of a session and
to its end, whatever hangs, fails or panics.

* `Guard.Ends` — what ends the operation that a timer watches over.
* `Conduct.Prompt` — time has not passed any deadline, and as long as nothing is posted the
  timer of each is armed.
* `Supervision.deadlines_kept` — no run that has not returned is past a deadline.
-/

namespace Hotplug

/-- What ends an operation of session `n`: it leaves the state of activating, or its driver is
refused and it is skipped; or it reaches the state of being removed. -/
def Guard.Ends (g : Settings) (n : SessionId) : Guard → Happening → Prop
  | activation, h =>
    (∃ s, h = .stateChanged n .activating s) ∨
      g.driver.onActivationFailure = .skipCycle ∧ h = .callEnded .add (.returned false)
  | removal, h => ∃ s, h = .stateChanged n s .removed

theorem Guard.entry_inj {p p' : Guard} {n n' : SessionId} (h : p.entry n = p'.entry n') :
    p = p' ∧ n = n' := by
  cases p <;> cases p' <;> cases h <;> exact ⟨rfl, rfl⟩

theorem Guard.isSignal_entry (p : Guard) (n : SessionId) : (p.entry n).isSignal = false := by
  cases p <;> rfl

theorem Guard.terminated_ne_entry (p : Guard) (n : SessionId) (x : Termination) :
    .terminated x ≠ p.entry n := by
  cases p <;> rintro ⟨⟩

namespace Conduct

variable {g : Settings} {c c' : Conduct}

/-- A timer with a deadline is armed. -/
def HasTimer (c : Conduct) (id : TimerId) (deadline : Nat) : Prop :=
  ∃ a ∈ c.armed, a.id = id ∧ a.deadline = deadline

/-- No deadline has passed.  As long as nothing is posted, there is a timer for each. -/
structure Prompt (g : Settings) (c : Conduct) : Prop where
  operation : ∀ p n t, Since (Guard.Ends g n p) (p.entry n) t c.outline →
    c.coordinator.isRunning = true → c.now ≤ t + p.timeout g ∧
      (c.coordinator.posted = [] →
        ∃ id, c.duty.guard? = some (p, n, id) ∧ c.HasTimer id (t + p.timeout g))
  shutdown : ∀ t ∈ signalTimes c.outline, c.coordinator.isRunning = true →
    c.now ≤ t + g.shutdown.gracePeriod ∧
      (c.coordinator.posted = [] →
        ∃ id, c.coordinator.phase = .stopping id ∧ c.HasTimer id (t + g.shutdown.gracePeriod))
  ended : ∀ t x, (t, .terminated x) ∈ c.outline →
    ∀ t' ∈ signalTimes c.outline, t ≤ t' + g.shutdown.gracePeriod

namespace Prompt

/-- Nothing begins, and as long as nothing is posted the timers stay. -/
theorem go (h : Prompt g c) (hnow : c'.now = c.now)
    (hphase : c'.coordinator.phase = c.coordinator.phase)
    (hposted : c'.coordinator.posted = [] → c.coordinator.posted = [])
    (hadds : Adds Happening.isRoutine c.outline c'.outline)
    (hguard : ∀ p n t id, c'.coordinator.posted = [] →
      Since (Guard.Ends g n p) (p.entry n) t c'.outline → c.duty.guard? = some (p, n, id) →
        c'.duty.guard? = some (p, n, id) ∧ ∀ a ∈ c.armed, a.id = id → a ∈ c'.armed)
    (hgrace : ∀ id, c'.coordinator.posted = [] → c.coordinator.phase = .stopping id →
      ∀ a ∈ c.armed, a.id = id → a ∈ c'.armed) : Prompt g c' := by
  have hrun : c'.coordinator.isRunning = c.coordinator.isRunning := by
    simp only [Coordinator.isRunning, hphase]
  have hsignals := hadds.signalTimes Happening.isSignal_of_isRoutine
  constructor
  · intro p n t hsince hr
    rw [hrun] at hr
    have hold := hadds.since (p.isRoutine_entry n) hsince
    obtain ⟨hle, htimer⟩ := h.operation p n t hold hr
    rw [hnow]
    refine ⟨hle, fun hp => ?_⟩
    obtain ⟨id, hid, a, ha, haid, hdl⟩ := htimer (hposted hp)
    obtain ⟨hid', hkeep⟩ := hguard p n t id hp hsince hid
    exact ⟨id, hid', a, hkeep a ha haid, haid, hdl⟩
  · intro t ht hr
    rw [hsignals] at ht
    rw [hrun] at hr
    obtain ⟨hle, htimer⟩ := h.shutdown t ht hr
    rw [hnow, hphase]
    refine ⟨hle, fun hp => ?_⟩
    obtain ⟨id, hid, a, ha, haid, hdl⟩ := htimer (hposted hp)
    exact ⟨id, hid, a, hgrace id hp hid a ha haid, haid, hdl⟩
  · intro t x hx
    rw [hadds.mem rfl] at hx
    rw [hsignals]
    exact h.ended t x hx

/-- The timers and what they watch over stay as they are. -/
theorem keep (h : Prompt g c) (hnow : c'.now = c.now)
    (hphase : c'.coordinator.phase = c.coordinator.phase)
    (hposted : c'.coordinator.posted = c.coordinator.posted)
    (hadds : Adds Happening.isRoutine c.outline c'.outline)
    (hguard : c'.duty.guard? = c.duty.guard?) (harmed : c'.armed = c.armed) : Prompt g c' := by
  refine h.go hnow hphase (fun hp => hposted.symm.trans hp) hadds ?_ ?_
  · intro p n t id _ _ hid
    rw [hguard, harmed]
    exact ⟨hid, fun a ha _ => ha⟩
  · intro id _ _ a ha _
    rw [harmed]
    exact ha

/-- Something is posted, and the run is about to end. -/
theorem posted (h : Prompt g c) (hnow : c'.now = c.now)
    (hphase : c'.coordinator.phase = c.coordinator.phase)
    (hposted : c'.coordinator.posted ≠ [])
    (hadds : Adds Happening.isRoutine c.outline c'.outline) : Prompt g c' :=
  h.go hnow hphase (fun hp => absurd hp hposted) hadds (fun _ _ _ _ hp => absurd hp hposted)
    fun _ hp => absurd hp hposted

/-- The operation under way ends, and its timer is disarmed. -/
theorem release (h : Prompt g c) (hsteer : c.Steered) (hnow : c'.now = c.now)
    (hphase : c'.coordinator.phase = c.coordinator.phase)
    (hposted : c'.coordinator.posted = c.coordinator.posted)
    (hadds : Adds Happening.isRoutine c.outline c'.outline) {p : Guard} {n : SessionId}
    {id : TimerId} (hguard : c.duty.guard? = some (p, n, id))
    (hends : ∀ t, ¬ Since (Guard.Ends g n p) (p.entry n) t c'.outline)
    (harmed : c'.armed = (c.coordinator.timers.drop id).armed) : Prompt g c' := by
  refine h.go hnow hphase (fun hp => hposted.symm.trans hp) hadds ?_ ?_
  · intro p' n' t id' _ hsince hid'
    obtain ⟨rfl, rfl, rfl⟩ : p = p' ∧ n = n' ∧ id = id' := by simpa [hguard] using hid'
    exact absurd hsince (hends t)
  · intro grace _ hgrace a ha haid
    rw [harmed]
    refine mem_armed_drop.2 ⟨ha, ?_⟩
    rintro rfl
    exact (hsteer.timer _ (Duty.timer?_of_guard? hguard)).2 (haid ▸ hgrace)

/-- An operation begins under a new timer. -/
theorem begin (h : Prompt g c) (hnow : c'.now = c.now)
    (hphase : c'.coordinator.phase = c.coordinator.phase)
    (hposted : c'.coordinator.posted = c.coordinator.posted) (hold : c.duty.guard? = none)
    {p : Guard} {n : SessionId} {id : TimerId} (hguard : c'.duty.guard? = some (p, n, id))
    {hs : List (Nat × Happening)} (hbefore : Adds Happening.isRoutine c.outline hs)
    (hafter : Adds Happening.isRoutine ((c.now, p.entry n) :: hs) c'.outline)
    {a : AbortTimer} (harmed : c'.armed = c.armed ++ [a]) (haid : a.id = id)
    (hdeadline : a.deadline = c.now + p.timeout g) : Prompt g c' := by
  have hrun : c'.coordinator.isRunning = c.coordinator.isRunning := by
    simp only [Coordinator.isRunning, hphase]
  have hsignals : signalTimes c'.outline = signalTimes c.outline := by
    rw [hafter.signalTimes Happening.isSignal_of_isRoutine, signalTimes_cons, p.isSignal_entry,
      ← hbefore.signalTimes Happening.isSignal_of_isRoutine]
    rfl
  constructor
  · intro p' n' t hsince hr
    rw [hnow, hposted]
    rcases (since_cons _).1 (hafter.since (p'.isRoutine_entry n') hsince) with heq | ⟨-, hsince⟩
    · obtain ⟨rfl, hentry⟩ := Prod.mk.inj heq
      obtain ⟨rfl, rfl⟩ := Guard.entry_inj hentry
      refine ⟨Nat.le_add_right _ _, fun _ => ⟨id, hguard, a, ?_, haid, hdeadline⟩⟩
      simp [harmed]
    · -- no operation was under way, so something must have been posted
      have hearlier := hbefore.since (p'.isRoutine_entry n') hsince
      obtain ⟨hle, htimer⟩ := h.operation p' n' t hearlier (hrun ▸ hr)
      refine ⟨hle, fun hp => ?_⟩
      obtain ⟨id', hid', -⟩ := htimer hp
      rw [hold] at hid'
      cases hid'
  · intro t ht hr
    rw [hsignals] at ht
    obtain ⟨hle, htimer⟩ := h.shutdown t ht (hrun ▸ hr)
    rw [hnow, hphase, hposted]
    refine ⟨hle, fun hp => ?_⟩
    obtain ⟨grace, hgrace, b, hb, hbid, hdl⟩ := htimer hp
    exact ⟨grace, hgrace, b, by simp [harmed, hb], hbid, hdl⟩
  · intro t x hx
    rw [hsignals]
    rcases List.mem_cons.1 ((hafter.mem rfl).1 hx) with heq | hx
    · exact absurd (Prod.mk.inj heq).2 (p.terminated_ne_entry n x)
    · exact h.ended t x ((hbefore.mem rfl).1 hx)

/-- The coordinator decides before any deadline has passed. -/
theorem decide
    (hshutdown : ∀ t ∈ signalTimes c.outline, c.now ≤ t + g.shutdown.gracePeriod)
    (hended : ∀ t x, (t, .terminated x) ∉ c.outline) (t : Termination) :
    Prompt g (c.decide t) := by
  constructor
  · rintro p n t' _ ⟨⟩
  · rintro t' _ ⟨⟩
  · intro t' x hx
    rcases List.mem_cons.1 hx with hx | hx
    · obtain ⟨rfl, -⟩ := Prod.mk.inj hx
      exact hshutdown
    · exact absurd hx (hended t' x)

/-- The first signal comes, and the grace timer is armed. -/
theorem firstSignal (h : Prompt g c) (hsteer : c.Steered) (s : Signal) (b : SignalBuffer)
    (hphase : c.coordinator.phase = .awaitingSignal) :
    Prompt g
      ((((c.setSignals b).tell (.signalTaken s)).raiseStop.arm g.shutdown.gracePeriod
        .shutdownTimeout).awaitEnd c.nextTimer) := by
  have hrun : c.coordinator.isRunning = true := by simp [Coordinator.isRunning, hphase]
  have hadds : Adds (fun x => x.isRoutine || x.isSignal) c.outline
      (((c.setSignals b).tell (.signalTaken s)).raiseStop.arm g.shutdown.gracePeriod
        .shutdownTimeout).outline :=
    (adds_raiseStop (c := (c.setSignals b).tell (.signalTaken s)) ((Adds.refl _).cons rfl) rfl).cons
      rfl
  constructor
  · intro p n t hsince _
    have hentry : ((p.entry n).isRoutine || (p.entry n).isSignal) = false := by cases p <;> rfl
    obtain ⟨hle, htimer⟩ := h.operation p n t (hadds.since hentry hsince) hrun
    refine ⟨hle, fun hp => ?_⟩
    obtain ⟨id, hid, a, ha, haid, hdl⟩ := htimer hp
    exact ⟨id, hid, a, List.mem_append_left _ ha, haid, hdl⟩
  · intro t ht _
    have hsignals := (signalTimes_raiseStop (c := (c.setSignals b).tell (.signalTaken s))).trans
      (congrArg (c.now :: ·) (hsteer.calm hphase).2)
    obtain rfl : t = c.now := by
      have ht' : t ∈ signalTimes ((c.setSignals b).tell (.signalTaken s)).raiseStop.outline := ht
      rw [hsignals] at ht'
      exact List.mem_singleton.1 ht'
    let a : AbortTimer :=
      ⟨c.nextTimer, c.now + g.shutdown.gracePeriod, g.shutdown.gracePeriod, .shutdownTimeout⟩
    refine ⟨Nat.le_add_right _ _, fun _ => ⟨c.nextTimer, rfl, a, ?_, rfl, rfl⟩⟩
    exact List.mem_append_right _ (List.mem_singleton.2 rfl)
  · intro t x hx
    exact absurd ((hadds.mem (e := (t, .terminated x)) rfl).1 hx) (hsteer.not_terminated hrun t x)

/-- Time passes up to the next deadline at most. -/
theorem pass (h : Prompt g c) {time : Nat}
    (hposted : c.coordinator.isRunning = true → c.coordinator.posted = [])
    (hdue : ∀ a ∈ c.armed, time ≤ a.deadline) : Prompt g { c with now := time } where
  operation p n t hsince hr := by
    obtain ⟨-, htimer⟩ := h.operation p n t hsince hr
    obtain ⟨id, hid, a, ha, haid, hdl⟩ := htimer (hposted hr)
    exact ⟨hdl ▸ hdue a ha, fun _ => ⟨id, hid, a, ha, haid, hdl⟩⟩
  shutdown t ht hr := by
    obtain ⟨-, htimer⟩ := h.shutdown t ht hr
    obtain ⟨id, hid, a, ha, haid, hdl⟩ := htimer (hposted hr)
    exact ⟨hdl ▸ hdue a ha, fun _ => ⟨id, hid, a, ha, haid, hdl⟩⟩
  ended := h.ended

theorem step (h : Prompt g c) (hsteer : c.Steered) (hs : Step g c c') : Prompt g c' := by
  cases hs with
  | quiet => exact h
  | look seen => exact h.keep rfl rfl rfl ((Adds.refl _).cons rfl) rfl rfl
  | signals | ignoreSignals => exact h.keep rfl rfl rfl (Adds.refl _) rfl rfl
  | pass time hle hposted hdue => exact h.pass hposted hdue
  | fire a ha =>
    refine h.posted rfl rfl ?_ (adds_post ((Adds.refl _).cons rfl) _ rfl)
    rw [show (c.fire a).coordinator.posted = c.coordinator.posted ++ [a.termination] from
      posted_post (hsteer.isRunning_of_mem ha) _]
    simp
  | decide t rest hrun hposted =>
    exact .decide (fun t ht => (h.shutdown t ht hrun).1) (hsteer.not_terminated hrun) t
  | firstSignal s b hphase => exact h.firstSignal hsteer s b hphase
  | secondSignal s b grace hphase =>
    have hrun : c.coordinator.isRunning = true := by simp [Coordinator.isRunning, hphase]
    refine .decide (c := (c.setSignals b).tell (.signalTaken s)) ?_ ?_ _
    · intro t ht
      rcases List.mem_cons.1 ht with rfl | ht
      · exact Nat.le_add_right _ _
      · exact (h.shutdown t ht hrun).1
    · intro t x hx
      exact hsteer.not_terminated hrun t x (by simpa using hx)
  | beginStop hduty =>
    exact h.keep rfl rfl rfl ((Adds.refl _).cons rfl) (by rw [hduty]; rfl) rfl
  | beginSession hduty =>
    exact h.begin rfl rfl rfl (by rw [hduty]; rfl) (p := .activation) rfl ((Adds.refl _).cons rfl)
      (((Adds.refl _).cons rfl).cons rfl) rfl rfl rfl
  | added n timer ok hduty =>
    refine h.release hsteer rfl rfl rfl (((Adds.refl _).cons rfl).cons rfl |>.cons rfl)
      (p := .activation) (n := n) (by rw [hduty]; rfl) (fun t => ?_) rfl
    refine not_since_cons (by simp [Guard.entry]) ?_
    exact not_since_of_ends (.inl ⟨_, rfl⟩) (by simp [Guard.entry])
  | skipped n timer hduty hskip =>
    refine h.release hsteer rfl rfl rfl ((Adds.refl _).cons rfl)
      (p := .activation) (n := n) (by rw [hduty]; rfl) (fun t => ?_) rfl
    exact not_since_of_ends (.inr ⟨hskip, rfl⟩) (by simp [Guard.entry])
  | addPanicked n timer reason hduty =>
    exact h.keep rfl rfl rfl ((Adds.refl _).cons rfl) (by rw [hduty]; rfl) rfl
  | skipStopped n hduty =>
    exact h.keep rfl rfl rfl ((Adds.refl _).cons rfl) (by rw [hduty]; rfl) rfl
  | skipEnded n hduty =>
    exact h.keep rfl rfl rfl (((Adds.refl _).cons rfl).cons rfl) (by rw [hduty]; rfl) rfl
  | beginRemoval n isOver hduty =>
    exact h.begin rfl rfl rfl (by rw [hduty]; rfl) (p := .removal) rfl
      (((Adds.refl _).cons rfl).cons rfl) ((Adds.refl _).cons rfl) rfl rfl rfl
  | driverRemoved n timer isOver hduty =>
    exact h.keep rfl rfl rfl ((Adds.refl _).cons rfl) (by rw [hduty]; rfl) rfl
  | removalFailed n timer isOver r hduty =>
    exact h.keep rfl rfl rfl (((Adds.refl _).cons rfl).cons rfl) (by rw [hduty]; rfl) rfl
  | sessionEnded n timer hduty =>
    refine h.release hsteer rfl rfl rfl ((Adds.refl _).cons rfl)
      (p := .removal) (n := n) (by rw [hduty]; rfl) (fun t => ?_) rfl
    exact not_since_of_ends ⟨_, rfl⟩ (by simp [Guard.entry])
  | loopEnded n hloop =>
    exact h.keep rfl rfl rfl ((Adds.refl _).cons rfl) (Duty.guard?_afterLoop _) rfl
  | loopPanicked n reason hloop =>
    have hrun : c.coordinator.isRunning = true :=
      hsteer.running (Duty.isActive_of_looping? hloop)
    refine h.posted rfl rfl ?_ (adds_post ((Adds.refl _).cons rfl) _ rfl)
    rw [posted_post (c := c.cutOff.tell (.logged (.loopPanicked reason) none)) hrun]
    simp
  | stopped r hduty =>
    have hrun : c.coordinator.isRunning = true := hsteer.running (by rw [hduty]; rfl)
    refine h.posted rfl rfl ?_ (adds_post ((Adds.refl _).cons rfl) _ rfl)
    change ((c.tell (.callEnded .stop r)).post .completed).coordinator.posted ≠ []
    rw [posted_post (c := c.tell (.callEnded .stop r)) hrun]
    simp
  | lateEnd k r hduty =>
    exact h.keep rfl rfl rfl ((Adds.refl _).cons rfl) (by rw [hduty]; rfl) rfl

end Prompt

theorem Reached.prompt (h : Reached g c) : Prompt g c := by
  induction h with
  | begun b =>
    refine ⟨?_, by rintro _ ⟨⟩, ?_⟩
    · intro p n t hsince
      refine absurd hsince (not_since_cons ?_ not_since_nil)
      cases p <;> rintro ⟨⟩
    · simp [Conduct.begun]
  | refused b r =>
    refine ⟨by rintro p n t _ ⟨⟩, by rintro _ ⟨⟩, ?_⟩
    simp [Conduct.refused]
  | step hr hs ih => exact ih.step hr.steered hs

end Conduct

/-! ## Runs that have not returned -/

/-- No deadline has passed by `now`: neither the one for the end of the run, nor that of an
operation of a session. -/
structure InTime (g : Settings) (now : Nat) (hs : List (Nat × Happening)) : Prop where
  shutdown : ∀ t ∈ signalTimes hs, now ≤ t + g.shutdown.gracePeriod
  /-- A session may stay in the state of activating beyond the deadline only when its driver
  was refused and it is skipped. -/
  activation : ∀ n t,
    Since
        (fun h => (∃ s, h = .stateChanged n .activating s) ∨
          g.driver.onActivationFailure = .skipCycle ∧ h = .callEnded .add (.returned false))
        (.stateChanged n .inactive .activating) t hs →
      now ≤ t + g.driver.activationTimeout
  removal : ∀ n t,
    Since (fun h => ∃ s, h = .stateChanged n s .removed)
        (.stateChanged n .removalRequested .removing) t hs →
      now ≤ t + g.driver.removalTimeout

theorem Guard.isOutline_of_ends (g : Settings) (n : SessionId) (p : Guard) (h : Happening)
    (hh : p.Ends g n h) : h.isOutline = true := by
  cases p with
  | activation => rcases hh with ⟨s, rfl⟩ | ⟨-, rfl⟩ <;> rfl
  | removal =>
    obtain ⟨s, rfl⟩ := hh
    rfl

/-- The coordinator of a run that has not returned is running. -/
theorem World.isRunning_of_outcome? {L : EventLoop} {w : World L} (hsteer : w.frame.conduct.Steered)
    (h : w.outcome? = none) : w.coordinator.isRunning = true := by
  by_cases hrun : w.coordinator.isRunning = true
  · exact hrun
  · exfalso
    rcases hsteer.settled (Bool.eq_false_iff.2 hrun) with ⟨t, ht⟩ | ⟨r, hr⟩
    · have hphase : w.coordinator.phase = .decided t := ht
      unfold World.outcome? at h
      split at h
      · cases h
      · simp [Coordinator.decision?, hphase] at h
    · have hc : w.cycle = .refused r := Frame.cycle_of_refused hr
      simp [World.outcome?, hc] at h

/-- Whether a happening is that a session changes its state. -/
def Happening.isChange : Happening → Bool
  | stateChanged .. => true
  | _ => false

namespace Supervision

variable {L : EventLoop} (s : Supervision L)

/-- **No run outlives its deadlines.**  As long as a run has not returned, the grace period
after its first signal is not over, nor is the time of any operation of a session.  When it
returns, the grace period is not over either. -/
theorem deadlines_kept (os : List Occurrence) :
    ((s.after os).outcome? = none →
      InTime s.settings (s.after os).now (s.after os).chronicle.happenings) ∧
    ∀ t x, (t, .terminated x) ∈ (s.after os).chronicle.happenings →
      ∀ t' ∈ signalTimes (s.after os).chronicle.happenings,
        t ≤ t' + s.settings.shutdown.gracePeriod := by
  have hout : (s.after os).frame.conduct.outline = outlineOf (s.after os).chronicle.happenings :=
    rfl
  have hreached := s.reached_after os
  have hprompt := hreached.prompt
  refine ⟨fun h => ?_, ?_⟩
  · have hrun := World.isRunning_of_outcome? hreached.steered h
    have hoperation : ∀ p n t, Since (Guard.Ends s.settings n p) (p.entry n) t
        (s.after os).chronicle.happenings → (s.after os).now ≤ t + p.timeout s.settings := by
      intro p n t hsince
      refine (hprompt.operation p n t ?_ hrun).1
      rw [hout, since_outlineOf (by cases p <;> rfl) (p.isOutline_of_ends s.settings n)]
      exact hsince
    constructor
    · intro t ht
      refine (hprompt.shutdown t ?_ hrun).1
      rw [hout, signalTimes_outlineOf]
      exact ht
    · exact fun n t => hoperation .activation n t
    · exact fun n t => hoperation .removal n t
  · intro t x hx t' ht'
    refine hprompt.ended t x ?_ t' ?_
    · rw [hout]
      exact (mem_outlineOf rfl).2 hx
    · rw [hout, signalTimes_outlineOf]
      exact ht'

/-- A run whose library is busy for ever as it adds the driver. -/
def hanging : Supervision (Script.loop []) where
  settings := { shutdown := { gracePeriod := 50 } }
  files := .plugged
  library := { adding := fun _ => { hold := none } }
  loop := {}

/-- A session begins, a signal comes, and the grace period passes. -/
def hangingCourse : List Occurrence :=
  [.move .cycle, .move .cycle, .pass 30, .signal .interrupt, .move .takeSignal, .pass 80]

theorem deadlines_kept_hanging :
    (hanging.after hangingCourse).outcome? = none ∧
      signalTimes (hanging.after hangingCourse).chronicle.happenings = [30] ∧
        InTime hanging.settings 80 (hanging.after hangingCourse).chronicle.happenings :=
  ⟨rfl, rfl, (deadlines_kept hanging hangingCourse).1 rfl⟩

/-- A run whose driver is refused, and that skips the device. -/
def skipping : Supervision (Script.loop []) where
  settings := { driver := { activationTimeout := 100, onActivationFailure := .skipCycle } }
  files := .plugged
  library := { adding := fun _ => { result := .returned false } }
  loop := {}

/-- A session begins, and waits for a device to go away that stays. -/
def skippingCourse : List Occurrence :=
  [.move .cycle, .move .cycle, .move .endCall, .move .skip, .pass 1000]

/-- A session whose driver was refused stays in the state of activating for as long as the
device is there. -/
theorem skipping_exceeds_activationTimeout :
    (skipping.after skippingCourse).outcome? = none ∧
      Since (fun h => ∃ s, h = .stateChanged 1 .activating s)
        (.stateChanged 1 .inactive .activating) 0
          (skipping.after skippingCourse).chronicle.happenings ∧
        0 + skipping.settings.driver.activationTimeout < (skipping.after skippingCourse).now := by
  have hnew : ∀ e ∈ (skipping.after skippingCourse).chronicle.happenings.take 6,
      e.2.isChange = false := by decide +kernel
  refine ⟨rfl, ⟨_, _, (List.take_append_drop 6 _).symm, ?_⟩, by decide +kernel⟩
  rintro e he ⟨s, hs⟩
  have hchange := hnew e he
  rw [hs] at hchange
  cases hchange

end Supervision

end Hotplug
