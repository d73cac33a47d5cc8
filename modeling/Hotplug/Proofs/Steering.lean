import Hotplug.Proofs.Reach

/-!
# The coordinator and its supervisor

What the coordinator has to do with what the supervisor is at, in every conduct that a run
can come to.

* `Conduct.Steered` — the coordinator runs as long as the supervisor does, the stop flag goes
  up with the first signal, and every armed timer belongs to the coordinator or to the session
  under way.
* `Conduct.Reached.steered` — so it is in every run.
-/

namespace Hotplug

theorem Guard.isRoutine_entry (p : Guard) (n : SessionId) : (p.entry n).isRoutine = false := by
  cases p <;> rfl

namespace Conduct

/-- How the coordinator goes with its supervisor. -/
structure Steered (c : Conduct) : Prop where
  running : c.duty.isActive = true → c.coordinator.isRunning = true
  held : c.coordinator.isRunning = true → c.coordinator.stop.isHeld = true
  undecided : c.coordinator.isRunning = true → terminationsOf c.outline = []
  /-- Before the first signal the stop flag is down. -/
  calm : c.coordinator.phase = .awaitingSignal →
    c.coordinator.stop.isRaised = false ∧ signalTimes c.outline = []
  /-- After the first signal there is a grace timer. -/
  warned : ∀ grace, c.coordinator.phase = .stopping grace →
    grace < c.nextTimer ∧ ∃ t, signalTimes c.outline = [t]
  raised : ∀ grace, c.coordinator.phase = .stopping grace → c.coordinator.stop.isRaised = true
  ending : c.duty.isEnding = true → c.coordinator.phase ≠ .awaitingSignal
  /-- The timer of the session is not the grace timer. -/
  timer : ∀ id, c.duty.timer? = some id → id < c.nextTimer ∧ c.coordinator.phase ≠ .stopping id
  owned : ∀ a ∈ c.armed, c.coordinator.phase = .stopping a.id ∨ c.duty.timer? = some a.id
  /-- The coordinator runs until it has decided. -/
  settled : c.coordinator.isRunning = false →
    (∃ t, c.coordinator.phase = .decided t) ∨ ∃ r, c.duty = .refused r

variable {g : Settings} {c c' : Conduct}

theorem posted_post (h : c.coordinator.isRunning = true) (t : Termination) :
    (c.post t).coordinator.posted = c.coordinator.posted ++ [t] :=
  if_pos (Coordinator.isListening_of_isRunning h)

theorem outline_post (h : c.coordinator.isRunning = true) (t : Termination) :
    (c.post t).outline = (c.now, .terminationPosted t) :: c.outline :=
  if_pos (Coordinator.isListening_of_isRunning h)

@[simp] theorem signalTimes_raiseStop :
    signalTimes c.raiseStop.outline = signalTimes c.outline := by
  change signalTimes (if _ then _ else _) = _
  split
  · rfl
  · rfl

@[simp] theorem signalTimes_post (t : Termination) :
    signalTimes (c.post t).outline = signalTimes c.outline := by
  change signalTimes (if _ then _ else _) = _
  split
  · rfl
  · rfl

@[simp] theorem terminationsOf_raiseStop :
    terminationsOf c.raiseStop.outline = terminationsOf c.outline := by
  change terminationsOf (if _ then _ else _) = _
  split
  · rfl
  · rfl

@[simp] theorem terminationsOf_post (t : Termination) :
    terminationsOf (c.post t).outline = terminationsOf c.outline := by
  change terminationsOf (if _ then _ else _) = _
  split
  · rfl
  · rfl

theorem adds_post {p : Happening → Bool} {hs : List (Nat × Happening)}
    (h : Adds p hs c.outline) (t : Termination) (ht : p (.terminationPosted t) = true) :
    Adds p hs (c.post t).outline := by
  change Adds p hs (if _ then _ else _)
  split
  · exact h.cons ht
  · exact h

theorem adds_raiseStop {p : Happening → Bool} {hs : List (Nat × Happening)}
    (h : Adds p hs c.outline) (hp : p .stopRaised = true) : Adds p hs c.raiseStop.outline := by
  change Adds p hs (if _ then _ else _)
  split
  · exact h
  · exact h.cons hp

theorem mem_armed_drop {ts : Timers} {id : TimerId} {a : AbortTimer} :
    a ∈ (ts.drop id).armed ↔ a ∈ ts.armed ∧ a.id ≠ id := by
  simp [Timers.drop]

/-- A decision disarms the grace timer. -/
theorem mem_armed_conclude {k : Coordinator} {t : Termination} {a : AbortTimer} :
    a ∈ (k.conclude t).timers.armed ↔ a ∈ k.timers.armed ∧ k.phase ≠ .stopping a.id := by
  unfold Coordinator.conclude
  cases hphase : k.phase with
  | stopping grace => simp [mem_armed_drop, eq_comm]
  | idle | awaitingSignal | decided | dropped => simp

/-- Cutting the supervisor's own loop off disarms the timer of the session. -/
theorem mem_armed_cutOff {a : AbortTimer} :
    a ∈ c.cutOff.armed ↔ a ∈ c.armed ∧ c.duty.timer? ≠ some a.id := by
  change a ∈ (c.duty.timer?.elim c.coordinator.timers c.coordinator.timers.drop).armed ↔ _
  cases c.duty.timer? with
  | none => simp [armed]
  | some id => simp [armed, mem_armed_drop, eq_comm]

/-! ## One step -/

namespace Steered

/-- A conduct is steered as the one before it, if the timers that are still armed belong to
somebody. -/
theorem congr (h : c.Steered) (hphase : c'.coordinator.phase = c.coordinator.phase)
    (hstop : c'.coordinator.stop = c.coordinator.stop) (hmade : c'.nextTimer = c.nextTimer)
    (hsignals : signalTimes c'.outline = signalTimes c.outline)
    (hterms : terminationsOf c'.outline = terminationsOf c.outline)
    (hactive : c'.duty.isActive = true → c.duty.isActive = true)
    (hending : c'.duty.isEnding = true → c.coordinator.phase ≠ .awaitingSignal)
    (hrefused : ∀ r, c.duty = .refused r → c'.duty = .refused r)
    (htimer : ∀ id, c'.duty.timer? = some id → c.duty.timer? = some id)
    (howned : ∀ a ∈ c'.armed, c.coordinator.phase = .stopping a.id ∨ c'.duty.timer? = some a.id) :
    c'.Steered := by
  have hrun : c'.coordinator.isRunning = c.coordinator.isRunning := by
    simp only [Coordinator.isRunning, hphase]
  constructor
  · intro ha
    rw [hrun]
    exact h.running (hactive ha)
  · rw [hrun, hstop]
    exact h.held
  · rw [hrun, hterms]
    exact h.undecided
  · rw [hphase, hstop, hsignals]
    exact h.calm
  · rw [hphase, hmade, hsignals]
    exact h.warned
  · rw [hphase, hstop]
    exact h.raised
  · rw [hphase]
    exact hending
  · intro id hid
    rw [hmade, hphase]
    exact h.timer id (htimer id hid)
  · rw [hphase]
    exact howned
  · rw [hrun, hphase]
    intro hr
    exact (h.settled hr).imp_right (Exists.imp hrefused)

/-- The supervisor stays at its duty, and no timer is armed or disarmed. -/
theorem keep (h : c.Steered) (hphase : c'.coordinator.phase = c.coordinator.phase)
    (hstop : c'.coordinator.stop = c.coordinator.stop)
    (htimers : c'.coordinator.timers = c.coordinator.timers)
    (hsignals : signalTimes c'.outline = signalTimes c.outline)
    (hterms : terminationsOf c'.outline = terminationsOf c.outline) (hduty : c'.duty = c.duty) :
    c'.Steered := by
  refine h.congr hphase hstop ?_ hsignals hterms ?_ ?_ ?_ ?_ ?_
  · simp only [nextTimer, htimers]
  · simp [hduty]
  · rw [hduty]
    exact h.ending
  · simp [hduty]
  · simp [hduty]
  · simp only [armed, htimers, hduty]
    exact h.owned

/-- The supervisor turns to a duty with the same timer. -/
theorem turn (h : c.Steered) (hphase : c'.coordinator.phase = c.coordinator.phase)
    (hstop : c'.coordinator.stop = c.coordinator.stop)
    (htimers : c'.coordinator.timers = c.coordinator.timers)
    (hsignals : signalTimes c'.outline = signalTimes c.outline)
    (hterms : terminationsOf c'.outline = terminationsOf c.outline)
    (hactive : c.duty.isActive = true)
    (hending : c'.duty.isEnding = false ∨ c.coordinator.phase ≠ .awaitingSignal)
    (htimer : c'.duty.timer? = c.duty.timer?) : c'.Steered := by
  refine h.congr hphase hstop ?_ hsignals hterms (fun _ => hactive) ?_ ?_ ?_ ?_
  · simp only [nextTimer, htimers]
  · intro he
    exact hending.resolve_left (by simp [he])
  · intro r hr
    rw [hr] at hactive
    cases hactive
  · simp [htimer]
  · simp only [armed, htimers, htimer]
    exact h.owned

/-- The supervisor disarms the timer of the session. -/
theorem release (h : c.Steered) (hphase : c'.coordinator.phase = c.coordinator.phase)
    (hstop : c'.coordinator.stop = c.coordinator.stop) {id : TimerId}
    (hid : c.duty.timer? = some id)
    (htimers : c'.coordinator.timers = c.coordinator.timers.drop id)
    (hsignals : signalTimes c'.outline = signalTimes c.outline)
    (hterms : terminationsOf c'.outline = terminationsOf c.outline)
    (hactive : c.duty.isActive = true)
    (hending : c'.duty.isEnding = false)
    (htimer : c'.duty.timer? = none) : c'.Steered := by
  refine h.congr hphase hstop ?_ hsignals hterms (fun _ => hactive) ?_ ?_ ?_ ?_
  · simp only [nextTimer, htimers]
    rfl
  · intro he
    rw [hending] at he
    cases he
  · intro r hr
    rw [hr] at hactive
    cases hactive
  · simp [htimer]
  · intro a ha
    simp only [armed, htimers, Timers.drop, List.mem_filter, decide_eq_true_eq] at ha
    refine (h.owned a ha.1).imp_right fun ht => ?_
    rw [hid] at ht
    exact absurd (Option.some.inj ht).symm ha.2

/-- The supervisor's own loop is cut off. -/
theorem cutOff (h : c.Steered) : c.cutOff.Steered := by
  by_cases hactive : c.duty.isActive = true
  · have hending : c.cutOff.duty.isEnding = false := Duty.isEnding_afterCut hactive
    cases hid : c.duty.timer? with
    | none =>
      refine h.turn rfl rfl ?_ rfl rfl hactive (.inl hending) ?_
      · simp only [Conduct.cutOff, disarmDuty, hid]
        rfl
      · exact (Duty.timer?_afterCut _).trans hid.symm
    | some id =>
      refine h.release rfl rfl hid ?_ rfl rfl hactive hending (Duty.timer?_afterCut _)
      simp only [Conduct.cutOff, disarmDuty, hid]
      rfl
  · rw [cutOff_of_not_isActive hactive]
    exact h

/-- A timer is armed for the session that the supervisor turns to. -/
theorem arm (h : c.Steered) (hphase : c'.coordinator.phase = c.coordinator.phase)
    (hstop : c'.coordinator.stop = c.coordinator.stop) {a : AbortTimer} (ha : a.id = c.nextTimer)
    (hmade : c'.nextTimer = c.nextTimer + 1) (harmed : c'.armed = c.armed ++ [a])
    (hsignals : signalTimes c'.outline = signalTimes c.outline)
    (hterms : terminationsOf c'.outline = terminationsOf c.outline)
    (hactive : c.duty.isActive = true) (hending : c'.duty.isEnding = false)
    (htimer : c.duty.timer? = none) (htimer' : c'.duty.timer? = some c.nextTimer) : c'.Steered := by
  have hrun : c'.coordinator.isRunning = true := by
    have := h.running hactive
    simpa only [Coordinator.isRunning, hphase] using this
  have hrun' : c.coordinator.isRunning = true := h.running hactive
  constructor
  · exact fun _ => hrun
  · rw [hstop]
    exact fun _ => h.held hrun'
  · rw [hterms]
    exact fun _ => h.undecided hrun'
  · rw [hphase, hstop, hsignals]
    exact h.calm
  · rw [hphase, hmade, hsignals]
    intro grace hgrace
    obtain ⟨hlt, hsig⟩ := h.warned grace hgrace
    exact ⟨Nat.lt_succ_of_lt hlt, hsig⟩
  · rw [hphase, hstop]
    exact h.raised
  · intro he
    rw [hending] at he
    cases he
  · intro id hid
    obtain rfl : c.nextTimer = id := Option.some.inj (htimer'.symm.trans hid)
    rw [hmade, hphase]
    refine ⟨Nat.lt_succ_self _, fun hgrace => ?_⟩
    exact absurd (h.warned _ hgrace).1 (Nat.lt_irrefl _)
  · rw [hphase, harmed]
    intro b hb
    rcases List.mem_append.1 hb with hb | hb
    · refine .inl ((h.owned b hb).resolve_right ?_)
      simp [htimer]
    · obtain rfl := List.mem_singleton.1 hb
      exact .inr (by rw [htimer', ha])
  · intro hr
    rw [hrun] at hr
    cases hr

theorem fire (h : c.Steered) (a : AbortTimer) : (c.fire a).Steered := by
  refine h.congr rfl rfl rfl (signalTimes_post _) (terminationsOf_post _) id h.ending
    (fun _ hr => hr) (fun _ hid => hid) ?_
  intro b hb
  exact h.owned b (List.mem_filter.1 hb).1

/-- A decision leaves no timer armed. -/
theorem armed_decide (t : Termination)
    (howned : ∀ a ∈ c.armed, c.coordinator.phase = .stopping a.id ∨ c.duty.timer? = some a.id) :
    (c.decide t).armed = [] := by
  rw [List.eq_nil_iff_forall_not_mem]
  intro a ha
  obtain ⟨ha, htimer⟩ := mem_armed_cutOff.1 ha
  obtain ⟨ha, hphase⟩ := mem_armed_conclude.1 ha
  rcases howned a ha with hgrace | hsession
  · exact hphase hgrace
  · exact htimer hsession

theorem decide (t : Termination)
    (howned : ∀ a ∈ c.armed, c.coordinator.phase = .stopping a.id ∨ c.duty.timer? = some a.id) :
    (c.decide t).Steered where
  running ha := by
    rw [show (c.decide t).duty = c.duty.afterCut from rfl, Duty.isActive_afterCut] at ha
    cases ha
  held hr := by cases hr
  undecided hr := by cases hr
  calm hp := by cases hp
  warned _ hp := by cases hp
  raised _ hp := by cases hp
  ending _ hp := by cases hp
  timer id hid := by
    rw [show (c.decide t).duty = c.duty.afterCut from rfl, Duty.timer?_afterCut] at hid
    cases hid
  owned a ha := by
    rw [armed_decide t howned] at ha
    cases ha
  settled _ := .inl ⟨t, rfl⟩

/-- The first signal raises the stop flag, and a grace timer is armed. -/
theorem firstSignal (h : c.Steered) (s : Signal) (b : SignalBuffer) (delay : Nat)
    (hphase : c.coordinator.phase = .awaitingSignal) :
    ((((c.setSignals b).tell (.signalTaken s)).raiseStop.arm delay .shutdownTimeout).awaitEnd
      c.nextTimer).Steered := by
  obtain ⟨hdown, hsignals⟩ := h.calm hphase
  have hrun : c.coordinator.isRunning = true := by simp [Coordinator.isRunning, hphase]
  constructor
  · exact fun _ => rfl
  · exact fun _ => h.held hrun
  · intro _
    refine (terminationsOf_raiseStop (c := (c.setSignals b).tell (.signalTaken s))).trans ?_
    exact h.undecided hrun
  · rintro ⟨⟩
  · rintro grace ⟨⟩
    refine ⟨Nat.lt_succ_self _, c.now, ?_⟩
    refine (signalTimes_raiseStop (c := (c.setSignals b).tell (.signalTaken s))).trans ?_
    exact congrArg (c.now :: ·) hsignals
  · exact fun _ _ => rfl
  · rintro - ⟨⟩
  · intro id hid
    obtain ⟨hlt, -⟩ := h.timer id hid
    refine ⟨Nat.lt_succ_of_lt hlt, ?_⟩
    rintro ⟨⟩
    exact Nat.lt_irrefl _ hlt
  · intro a ha
    rcases List.mem_append.1 ha with ha | ha
    · refine .inr ((h.owned a ha).resolve_left ?_)
      simp [hphase]
    · obtain rfl := List.mem_singleton.1 ha
      exact .inl rfl
  · rintro ⟨⟩

theorem step (h : c.Steered) (hs : Step g c c') : c'.Steered := by
  cases hs with
  | quiet => exact h
  | look seen => exact h.keep rfl rfl rfl rfl rfl rfl
  | signals | ignoreSignals => exact h.keep rfl rfl rfl rfl rfl rfl
  | pass time => exact h.keep rfl rfl rfl rfl rfl rfl
  | fire a => exact h.fire a
  | decide t => exact Steered.decide t h.owned
  | firstSignal s b hphase => exact h.firstSignal s b _ hphase
  | secondSignal s b grace hphase => exact Steered.decide _ h.owned
  | beginStop hduty hstop =>
    have hactive : c.duty.isActive = true := by rw [hduty]; rfl
    refine h.turn rfl rfl rfl rfl rfl hactive ?_ (by rw [hduty]; rfl)
    refine .inr fun hphase => ?_
    have hheld := h.held (h.running hactive)
    simp [StopFlag.isOver, (h.calm hphase).1, hheld] at hstop
  | beginSession hduty =>
    exact h.arm rfl rfl rfl rfl rfl rfl rfl (by rw [hduty]; rfl) rfl (by rw [hduty]; rfl) rfl
  | added n timer ok hduty =>
    exact h.release rfl rfl (by rw [hduty]; rfl) rfl rfl rfl (by rw [hduty]; rfl) rfl rfl
  | skipped n timer hduty =>
    exact h.release rfl rfl (by rw [hduty]; rfl) rfl rfl rfl (by rw [hduty]; rfl) rfl rfl
  | addPanicked n timer reason hduty =>
    exact h.turn rfl rfl rfl rfl rfl (by rw [hduty]; rfl) (.inl rfl) (by rw [hduty]; rfl)
  | skipStopped n hduty | skipEnded n hduty =>
    exact h.turn rfl rfl rfl rfl rfl (by rw [hduty]; rfl) (.inl rfl) (by rw [hduty]; rfl)
  | beginRemoval n isOver hduty =>
    exact h.arm rfl rfl rfl rfl rfl rfl rfl (by rw [hduty]; rfl) rfl (by rw [hduty]; rfl) rfl
  | driverRemoved n timer isOver hduty | removalFailed n timer isOver r hduty =>
    exact h.turn rfl rfl rfl rfl rfl (by rw [hduty]; rfl) (.inl rfl) (by rw [hduty]; rfl)
  | sessionEnded n timer hduty =>
    exact h.release rfl rfl (by rw [hduty]; rfl) rfl rfl rfl (by rw [hduty]; rfl) rfl rfl
  | loopEnded n hloop =>
    have hending : c.duty.afterLoop.isEnding = false :=
      Duty.isEnding_of_session? (Duty.session?_afterLoop hloop)
    exact h.turn rfl rfl rfl rfl rfl (Duty.isActive_of_looping? hloop) (.inl hending)
      (Duty.timer?_afterLoop _)
  | loopPanicked n reason hloop =>
    exact h.cutOff.keep rfl rfl rfl (signalTimes_post _) (terminationsOf_post _) rfl
  | stopped r hduty =>
    refine h.turn rfl rfl rfl (signalTimes_post _) (terminationsOf_post _) (by rw [hduty]; rfl) ?_
      (by rw [hduty]; rfl)
    exact .inr (h.ending (by rw [hduty]; rfl))
  | lateEnd k r hduty =>
    refine h.congr rfl rfl rfl rfl rfl (by rintro ⟨⟩) (by rintro ⟨⟩) ?_ (by rintro _ ⟨⟩) ?_
    · simp [hduty]
    · intro a ha
      refine .inl ((h.owned a ha).resolve_right ?_)
      simp [hduty, Duty.timer?, Duty.guard?]

end Steered

theorem Steered.not_terminated (h : c.Steered) (hrun : c.coordinator.isRunning = true) (t : Nat)
    (x : Termination) : (t, .terminated x) ∉ c.outline := by
  rw [← mem_terminationsOf, h.undecided hrun]
  exact List.not_mem_nil

/-- Every armed timer has been made. -/
theorem Steered.id_lt (h : c.Steered) {a : AbortTimer} (ha : a ∈ c.armed) : a.id < c.nextTimer := by
  rcases h.owned a ha with hphase | htimer
  · exact (h.warned a.id hphase).1
  · exact (h.timer a.id htimer).1

/-- Once the coordinator has decided, no timer is armed. -/
theorem Steered.isRunning_of_mem (h : c.Steered) {a : AbortTimer} (ha : a ∈ c.armed) :
    c.coordinator.isRunning = true := by
  rcases h.owned a ha with hphase | htimer
  · simp [Coordinator.isRunning, hphase]
  · by_cases hactive : c.duty.isActive = true
    · exact h.running hactive
    · rw [Duty.timer?_of_not_isActive hactive] at htimer
      cases htimer

/-- In every run the coordinator goes with its supervisor. -/
theorem Reached.steered (h : Reached g c) : c.Steered := by
  induction h with
  | begun b =>
    constructor
    · exact fun _ => rfl
    · exact fun _ => rfl
    · exact fun _ => rfl
    · exact fun _ => ⟨rfl, rfl⟩
    · rintro _ ⟨⟩
    · rintro _ ⟨⟩
    · rintro ⟨⟩
    · rintro _ ⟨⟩
    · rintro _ ⟨⟩
    · rintro ⟨⟩
  | refused b r =>
    constructor
    · rintro ⟨⟩
    · rintro ⟨⟩
    · rintro ⟨⟩
    · rintro ⟨⟩
    · rintro _ ⟨⟩
    · rintro _ ⟨⟩
    · rintro ⟨⟩
    · rintro _ ⟨⟩
    · rintro _ ⟨⟩
    · exact fun _ => .inr ⟨r, rfl⟩
  | step hr hs ih => exact ih.step hs

end Conduct

end Hotplug
