import Hotplug.Proofs.Causes
import Hotplug.Proofs.Course
import Hotplug.Proofs.Turns

/-!
# A graceful end is truthful

A run that says that it is completed has been asked to stop once, has removed every driver,
and has stopped the manager, in time.

* `Unfired` — no timer has fired.
* `PostedAt`, `CompletedAt` — a completion was posted, and has ended the run, before any timer
  fired.
* `Conduct.Honest` — a completion is posted only at the end, and decides only as the first
  termination that was posted.
* `Punctual` — the grace timer fires one grace period after a signal, if it does.
* `Conduct.Ahead` — a completion is posted while no timer is due, and none fires any more.
* `Truthful` — all that a completed run stands for.
* `Supervision.truthful_of_completed` — every completed run is truthful.

The timers, the supervisor's own loop and the coordinator take turns in any order, also at one
moment.  So the grace timer may still fire between the last thing that the supervisor does and the
decision of the coordinator, which goes by what was posted first.  This takes a stop that ends just
as the grace period does, and timers that wait for it: none fires in a completed run whose moves
are made in the order of the schedule.
-/

namespace Hotplug

/-! ## Timers that fire -/

/-- Whether a happening is that a timer fires. -/
def Happening.isFiring : Happening → Bool
  | timerFired .. => true
  | _ => false

theorem Happening.isOutline_of_isFiring {h : Happening} (hh : h.isFiring = true) :
    h.isOutline = true := by
  cases h <;> first | rfl | cases hh

/-- No timer has fired. -/
def Unfired (hs : List (Nat × Happening)) : Prop :=
  ∀ e ∈ hs, e.2.isFiring = false

@[simp] theorem unfired_cons (e : Nat × Happening) (hs : List (Nat × Happening)) :
    Unfired (e :: hs) ↔ e.2.isFiring = false ∧ Unfired hs :=
  List.forall_mem_cons

theorem unfired_append {hs ks : List (Nat × Happening)} :
    Unfired (hs ++ ks) ↔ Unfired hs ∧ Unfired ks :=
  List.forall_mem_append

/-- The outline has all timers that fire. -/
theorem unfired_of_outlineOf {hs : List (Nat × Happening)} (h : Unfired (outlineOf hs)) :
    Unfired hs := by
  intro e he
  cases hfiring : e.2.isFiring with
  | false => rfl
  | true =>
    have hmem := (mem_outlineOf (Happening.isOutline_of_isFiring hfiring)).2 he
    exact hfiring.symm.trans (h e hmem)

theorem unfired_of_adds {hs hs' : List (Nat × Happening)} (h : Adds (!·.isFiring) hs hs')
    (hunfired : Unfired hs) : Unfired hs' := by
  obtain ⟨new, rfl, hnew⟩ := h
  exact unfired_append.2 ⟨fun e he => by simpa using hnew e he, hunfired⟩

/-- The completion was posted at time `t`, and no timer had fired before.  If a timer has fired
since, it was the grace timer, at time `t` as well. -/
def PostedAt (t : Nat) (hs : List (Nat × Happening)) : Prop :=
  ∃ newer older, hs = newer ++ (t, .terminationPosted .completed) :: older ∧ Unfired older ∧
    ∀ e ∈ newer, e.2.isFiring = true → e.1 = t ∧ ∃ id, e.2 = .timerFired id .shutdownTimeout

/-- A completion has ended the run at time `t`, at which it was posted, and no timer has fired
since. -/
def CompletedAt (t : Nat) (hs : List (Nat × Happening)) : Prop :=
  ∃ newer older, hs = newer ++ (t, .terminated .completed) :: older ∧ Unfired newer ∧
    PostedAt t older

namespace PostedAt

variable {t : Nat} {hs hs' : List (Nat × Happening)}

theorem post (h : Unfired hs) : PostedAt t ((t, .terminationPosted .completed) :: hs) :=
  ⟨[], hs, rfl, h, List.forall_mem_nil _⟩

theorem cons (h : PostedAt t hs) {e : Nat × Happening}
    (he : e.2.isFiring = true → e.1 = t ∧ ∃ id, e.2 = .timerFired id .shutdownTimeout) :
    PostedAt t (e :: hs) := by
  obtain ⟨newer, older, rfl, hunfired, hnewer⟩ := h
  exact ⟨e :: newer, older, rfl, hunfired, List.forall_mem_cons.2 ⟨he, hnewer⟩⟩

theorem adds (h : PostedAt t hs) (hadds : Adds (!·.isFiring) hs hs') : PostedAt t hs' := by
  obtain ⟨new, rfl, hnew⟩ := hadds
  induction new with
  | nil => exact h
  | cons e new ih =>
    obtain ⟨he, hnew⟩ := List.forall_mem_cons.1 hnew
    refine (ih hnew).cons fun hfiring => ?_
    simp [hfiring] at he

theorem of_firing (h : PostedAt t hs) {t' : Nat} {id : TimerId} {p : Termination}
    (hfired : (t', .timerFired id p) ∈ hs) : t' = t ∧ p = .shutdownTimeout := by
  obtain ⟨newer, older, rfl, hunfired, hnewer⟩ := h
  rcases List.mem_append.1 hfired with hmem | hmem
  · obtain ⟨ht, id', heq⟩ := hnewer _ hmem rfl
    exact ⟨ht, (Happening.timerFired.inj heq).2⟩
  · rcases List.mem_cons.1 hmem with heq | hmem
    · cases heq
    · cases hunfired _ hmem

theorem of_outlineOf (h : PostedAt t (outlineOf hs)) : PostedAt t hs := by
  obtain ⟨newer, older, heq, hunfired, hnewer⟩ := h
  obtain ⟨newer', older', rfl, rfl, rfl⟩ := outlineOf_eq_append_cons heq
  refine ⟨newer', older', rfl, unfired_of_outlineOf hunfired, fun e he hfiring => ?_⟩
  exact hnewer e ((mem_outlineOf (Happening.isOutline_of_isFiring hfiring)).2 he) hfiring

end PostedAt

namespace CompletedAt

variable {t : Nat} {hs hs' : List (Nat × Happening)}

theorem terminated (h : PostedAt t hs) : CompletedAt t ((t, .terminated .completed) :: hs) :=
  ⟨[], hs, rfl, List.forall_mem_nil _, h⟩

theorem adds (h : CompletedAt t hs) (hadds : Adds (!·.isFiring) hs hs') : CompletedAt t hs' := by
  obtain ⟨newer, older, rfl, hunfired, hposted⟩ := h
  obtain ⟨new, rfl, hnew⟩ := hadds
  refine ⟨new ++ newer, older, by simp, unfired_append.2 ⟨fun e he => ?_, hunfired⟩, hposted⟩
  simpa using hnew e he

theorem of_outlineOf (h : CompletedAt t (outlineOf hs)) : CompletedAt t hs := by
  obtain ⟨newer, older, heq, hunfired, hposted⟩ := h
  obtain ⟨newer', older', rfl, rfl, rfl⟩ := outlineOf_eq_append_cons heq
  exact ⟨newer', older', rfl, unfired_of_outlineOf hunfired, hposted.of_outlineOf⟩

theorem mem (h : CompletedAt t hs) : (t, .terminated .completed) ∈ hs := by
  obtain ⟨newer, older, rfl, -, -⟩ := h
  simp

/-- Whatever fires is the grace timer, at the moment at which the run ends. -/
theorem of_firing (h : CompletedAt t hs) {t' : Nat} {id : TimerId} {p : Termination}
    (hfired : (t', .timerFired id p) ∈ hs) : t' = t ∧ p = .shutdownTimeout := by
  obtain ⟨newer, older, rfl, hunfired, hposted⟩ := h
  rcases List.mem_append.1 hfired with hmem | hmem
  · cases hunfired _ hmem
  · rcases List.mem_cons.1 hmem with heq | hmem
    · cases heq
    · exact hposted.of_firing hmem

end CompletedAt

namespace Conduct

variable {g : Settings} {c c' : Conduct}

@[simp] theorem unfired_raiseStop : Unfired c.raiseStop.outline ↔ Unfired c.outline := by
  change Unfired (if _ then _ else _) ↔ _
  split
  · rfl
  · simp [Happening.isFiring]

/-- What is posted first stays first. -/
theorem head?_concat_eq_some {ts : List Termination} {t x : Termination}
    (h : (ts ++ [t]).head? = some x) : ts = [] ∧ t = x ∨ ts.head? = some x := by
  cases ts with
  | nil => exact .inl ⟨rfl, Option.some.inj h⟩
  | cons => exact .inr h

/-- A completion comes only from a supervisor that has come to its end, and before any timer. -/
structure Honest (c : Conduct) : Prop where
  /-- Whoever fires has posted something. -/
  unfired : c.coordinator.isRunning = true → c.coordinator.posted = [] → Unfired c.outline
  first : c.coordinator.isRunning = true → c.coordinator.posted.head? = some .completed →
    c.duty = .finished ∧ PostedAt c.now c.outline
  decided : c.coordinator.phase = .decided .completed →
    c.duty = .finished ∧ (∃ t, CompletedAt t c.outline) ∧ ∃ t, signalTimes c.outline = [t]
  armed : ∀ a ∈ c.armed, a.termination ≠ .completed

namespace Honest

/-- Nothing is posted, and the supervisor stays at its duty. -/
theorem keep (h : c.Honest) (hnow : c'.now = c.now)
    (hphase : c'.coordinator.phase = c.coordinator.phase)
    (hposted : c'.coordinator.posted = c.coordinator.posted) (hduty : c'.duty = c.duty)
    (harmed : c'.armed = c.armed) (hadds : Adds (!·.isFiring) c.outline c'.outline)
    (hsignals : signalTimes c'.outline = signalTimes c.outline) : c'.Honest := by
  have hrun : c'.coordinator.isRunning = c.coordinator.isRunning := by
    simp only [Coordinator.isRunning, hphase]
  constructor
  · rw [hrun, hposted]
    exact fun hr hp => unfired_of_adds hadds (h.unfired hr hp)
  · rw [hrun, hposted, hduty, hnow]
    intro hr hp
    obtain ⟨hd, hpostedAt⟩ := h.first hr hp
    exact ⟨hd, hpostedAt.adds hadds⟩
  · rw [hphase, hduty, hsignals]
    intro hp
    obtain ⟨hd, ⟨t, hcompleted⟩, hsig⟩ := h.decided hp
    exact ⟨hd, ⟨t, hcompleted.adds hadds⟩, hsig⟩
  · rw [harmed]
    exact h.armed

/-- Nothing is posted, and the supervisor has not come to its end. -/
theorem go (h : c.Honest) (hphase : c'.coordinator.phase = c.coordinator.phase)
    (hposted : c'.coordinator.posted = c.coordinator.posted) (hduty : c.duty ≠ .finished)
    (harmed : ∀ a ∈ c'.armed, a.termination ≠ .completed)
    (hadds : Adds (!·.isFiring) c.outline c'.outline) : c'.Honest := by
  have hrun : c'.coordinator.isRunning = c.coordinator.isRunning := by
    simp only [Coordinator.isRunning, hphase]
  constructor
  · rw [hrun, hposted]
    exact fun hr hp => unfired_of_adds hadds (h.unfired hr hp)
  · rw [hrun, hposted]
    exact fun hr hp => absurd (h.first hr hp).1 hduty
  · rw [hphase]
    exact fun hp => absurd (h.decided hp).1 hduty
  · exact harmed

/-- Once the supervisor has come to its end, only the grace timer can fire. -/
theorem fire (h : c.Honest) (hsteer : c.Steered) (hcaused : Caused g c) {a : AbortTimer}
    (ha : a ∈ c.armed) : (c.fire a).Honest := by
  have hrun : c.coordinator.isRunning = true := hsteer.isRunning_of_mem ha
  have hposted : (c.fire a).coordinator.posted = c.coordinator.posted ++ [a.termination] :=
    posted_post hrun _
  constructor
  · intro _ hp
    rw [hposted] at hp
    simp at hp
  · intro _ hp
    rw [hposted] at hp
    rcases head?_concat_eq_some hp with ⟨-, hterm⟩ | hhead
    · exact absurd hterm (h.armed a ha)
    · obtain ⟨hduty, hpostedAt⟩ := h.first hrun hhead
      have hphase : c.coordinator.phase = .stopping a.id := by
        rcases hsteer.owned a ha with hphase | htimer
        · exact hphase
        · rw [hduty] at htimer
          cases htimer
      have hterm : a.termination = .shutdownTimeout := (hcaused.grace a.id hphase a ha rfl).1
      have hout : (c.fire a).outline =
          (c.now, .terminationPosted a.termination) ::
            (c.now, .timerFired a.id a.termination) :: c.outline :=
        if_pos (Coordinator.isListening_of_isRunning hrun)
      refine ⟨hduty, ?_⟩
      rw [hout, hterm]
      exact (hpostedAt.cons fun _ => ⟨rfl, a.id, rfl⟩).cons (by rintro ⟨⟩)
  · intro hp
    have hp' : c.coordinator.phase = .decided .completed := hp
    simp [Coordinator.isRunning, hp'] at hrun
  · intro b hb
    exact h.armed b (List.mem_filter.1 hb).1

/-- The coordinator decides as it was asked to first. -/
theorem decide (h : c.Honest) (hsteer : c.Steered) {t : Termination} {rest : List Termination}
    (hrun : c.coordinator.isRunning = true) (hposted : c.coordinator.posted = t :: rest) :
    (c.decide t).Honest := by
  constructor
  · rintro ⟨⟩
  · rintro ⟨⟩
  · intro hp
    obtain rfl : t = .completed := CoordinatorPhase.decided.inj hp
    obtain ⟨hd, hpostedAt⟩ := h.first hrun (by rw [hposted]; rfl)
    refine ⟨?_, ⟨c.now, .terminated hpostedAt⟩, ?_⟩
    · change c.duty.afterCut = .finished
      rw [hd]
      rfl
    · have hphase : ∃ grace, c.coordinator.phase = .stopping grace := by
        have hnot := hsteer.ending (by rw [hd]; rfl)
        unfold Coordinator.isRunning at hrun
        split at hrun
        · contradiction
        · exact ⟨_, ‹_›⟩
        · cases hrun
      obtain ⟨grace, hgrace⟩ := hphase
      exact (hsteer.warned grace hgrace).2
  · intro a ha
    rw [Steered.armed_decide t hsteer.owned] at ha
    cases ha

/-- A panic of the event loop is posted before any completion. -/
theorem panicLoop (h : c.Honest) (hsteer : c.Steered) {n : SessionId}
    (hloop : c.duty.looping? = some n) (reason : String) :
    ((c.cutOff.tell (.logged (.loopPanicked reason) none)).post .supervisorPanicked).Honest := by
  have hactive : c.duty.isActive = true := Duty.isActive_of_looping? hloop
  have hrun : c.coordinator.isRunning = true := hsteer.running hactive
  have hne : c.duty ≠ .finished := Duty.ne_finished_of_isActive hactive
  have hposted :
      ((c.cutOff.tell (.logged (.loopPanicked reason) none)).post
        .supervisorPanicked).coordinator.posted = c.coordinator.posted ++ [.supervisorPanicked] :=
    posted_post (c := c) hrun _
  constructor
  · intro _ hp
    rw [hposted] at hp
    simp at hp
  · intro _ hp
    rw [hposted] at hp
    rcases head?_concat_eq_some hp with ⟨-, hterm⟩ | hhead
    · cases hterm
    · exact absurd (h.first hrun hhead).1 hne
  · exact fun hp => absurd (h.decided hp).1 hne
  · exact fun a ha => h.armed a (mem_armed_cutOff.1 ha).1

/-- The manager has stopped, and with it the supervisor has come to its end. -/
theorem stop (h : c.Honest) (hsteer : c.Steered) (r : CallResult) (hduty : c.duty = .stopping) :
    (((c.tell (.callEnded .stop r)).post .completed).turn .finished).Honest := by
  have hactive : c.duty.isActive = true := by rw [hduty]; rfl
  have hrun : c.coordinator.isRunning = true := hsteer.running hactive
  have hposted :
      (((c.tell (.callEnded .stop r)).post .completed).turn .finished).coordinator.posted =
        c.coordinator.posted ++ [.completed] :=
    posted_post (c := c) hrun _
  have hne : c.duty ≠ .finished := Duty.ne_finished_of_isActive hactive
  constructor
  · intro _ hp
    rw [hposted] at hp
    simp at hp
  · intro _ hp
    rw [hposted] at hp
    rcases head?_concat_eq_some hp with ⟨hold, -⟩ | hhead
    · have hout : (((c.tell (.callEnded .stop r)).post .completed).turn .finished).outline =
          (c.now, .terminationPosted .completed) :: (c.now, .callEnded .stop r) :: c.outline :=
        outline_post (c := c.tell (.callEnded .stop r)) hrun _
      refine ⟨rfl, ?_⟩
      rw [hout]
      exact .post ((unfired_cons _ _).2 ⟨rfl, h.unfired hrun hold⟩)
    · exact absurd (h.first hrun hhead).1 hne
  · exact fun hp => absurd (h.decided hp).1 hne
  · exact h.armed

theorem firstSignal (h : c.Honest) (hsteer : c.Steered) (s : Signal) (b : SignalBuffer)
    (delay : Nat) (hphase : c.coordinator.phase = .awaitingSignal) :
    ((((c.setSignals b).tell (.signalTaken s)).raiseStop.arm delay .shutdownTimeout).awaitEnd
      c.nextTimer).Honest := by
  have hrun : c.coordinator.isRunning = true := by simp [Coordinator.isRunning, hphase]
  constructor
  · intro _ hp
    simpa [Happening.isFiring] using h.unfired hrun hp
  · intro _ hp
    exact absurd hphase (hsteer.ending (by rw [(h.first hrun hp).1]; rfl))
  · rintro ⟨⟩
  · intro a ha
    rcases List.mem_append.1 ha with ha | ha
    · exact h.armed a ha
    · rw [List.mem_singleton.1 ha]
      rintro ⟨⟩

theorem step (h : c.Honest) (hsteer : c.Steered) (hcaused : Caused g c) (hs : Step g c c') :
    c'.Honest := by
  cases hs with
  | quiet => exact h
  | look seen => exact h.keep rfl rfl rfl rfl rfl ((Adds.refl _).cons rfl) rfl
  | signals | ignoreSignals => exact h.keep rfl rfl rfl rfl rfl (Adds.refl _) rfl
  | pass time hle hposted =>
    refine ⟨h.unfired, ?_, h.decided, h.armed⟩
    intro hr hp
    rw [show c.coordinator.posted = [] from hposted hr] at hp
    cases hp
  | fire a ha => exact h.fire hsteer hcaused ha
  | decide t rest hrun hposted => exact h.decide hsteer hrun hposted
  | firstSignal s b hphase => exact h.firstSignal hsteer s b _ hphase
  | secondSignal s b grace hphase =>
    constructor
    · rintro ⟨⟩
    · rintro ⟨⟩
    · rintro ⟨⟩
    · rw [Steered.armed_decide (c := (c.setSignals b).tell (.signalTaken s)) _ hsteer.owned]
      rintro a ⟨⟩
  | beginStop hduty | addPanicked _ _ _ hduty | skipStopped _ hduty | driverRemoved _ _ _ hduty =>
    exact h.go rfl rfl (by rw [hduty]; rintro ⟨⟩) h.armed ((Adds.refl _).cons rfl)
  | skipEnded _ hduty | removalFailed _ _ _ _ hduty =>
    exact h.go rfl rfl (by rw [hduty]; rintro ⟨⟩) h.armed (((Adds.refl _).cons rfl).cons rfl)
  | beginSession hduty | beginRemoval _ _ hduty =>
    refine h.go rfl rfl (by rw [hduty]; rintro ⟨⟩) ?_
      (((((Adds.refl _).cons rfl).cons rfl).cons rfl).cons rfl)
    intro a ha
    rcases List.mem_append.1 ha with ha | ha
    · exact h.armed a ha
    · rw [List.mem_singleton.1 ha]
      rintro ⟨⟩
  | added _ _ _ hduty =>
    exact h.go rfl rfl (by rw [hduty]; rintro ⟨⟩) (fun a ha => h.armed a (mem_armed_drop.1 ha).1)
      ((((Adds.refl _).cons rfl).cons rfl).cons rfl)
  | skipped _ _ hduty | sessionEnded _ _ hduty =>
    exact h.go rfl rfl (by rw [hduty]; rintro ⟨⟩) (fun a ha => h.armed a (mem_armed_drop.1 ha).1)
      ((Adds.refl _).cons rfl)
  | loopEnded n hloop =>
    refine h.go rfl rfl ?_ h.armed ((Adds.refl _).cons rfl)
    intro hd
    rw [hd] at hloop
    cases hloop
  | loopPanicked n reason hloop => exact h.panicLoop hsteer hloop reason
  | stopped r hduty => exact h.stop hsteer r hduty
  | lateEnd k r hduty =>
    exact h.go rfl rfl (by rw [hduty]; rintro ⟨⟩) h.armed ((Adds.refl _).cons rfl)

end Honest

theorem Reached.honest (h : Reached g c) : c.Honest := by
  induction h with
  | begun b =>
    constructor
    · intro _ _
      simp [Conduct.begun, Happening.isFiring, Unfired]
    · rintro _ ⟨⟩
    · rintro ⟨⟩
    · rintro a ⟨⟩
  | refused b r =>
    constructor
    · rintro ⟨⟩
    · rintro ⟨⟩
    · rintro ⟨⟩
    · rintro a ⟨⟩
  | step hr hs ih => exact ih.step hr.steered hr.caused hs

/-! ## The grace timer is in time -/

/-- A step fires one timer that is due, or none. -/
theorem Step.fires_or_adds (hs : Step g c c') :
    (∃ a ∈ c.armed, a.deadline ≤ c.now ∧ c' = c.fire a) ∨
      Adds (!·.isFiring) c.outline c'.outline := by
  cases hs with
  | fire a ha hdue => exact .inl ⟨a, ha, hdue, rfl⟩
  | quiet | signals | ignoreSignals | pass => exact .inr (Adds.refl _)
  | look | decide | beginStop | addPanicked | skipped | skipStopped | driverRemoved | sessionEnded
  | loopEnded | lateEnd => exact .inr ((Adds.refl _).cons rfl)
  | secondSignal | skipEnded | removalFailed => exact .inr (((Adds.refl _).cons rfl).cons rfl)
  | added => exact .inr ((((Adds.refl _).cons rfl).cons rfl).cons rfl)
  | beginSession | beginRemoval =>
    exact .inr (((((Adds.refl _).cons rfl).cons rfl).cons rfl).cons rfl)
  | firstSignal s b =>
    exact .inr ((adds_raiseStop (c := (c.setSignals b).tell (.signalTaken s))
      ((Adds.refl _).cons rfl) rfl).cons rfl)
  | loopPanicked n reason =>
    exact .inr (adds_post (c := c.cutOff.tell (.logged (.loopPanicked reason) none))
      ((Adds.refl _).cons rfl) _ rfl)
  | stopped r =>
    exact .inr (adds_post (c := c.tell (.callEnded .stop r)) ((Adds.refl _).cons rfl) _ rfl)

end Conduct

/-- The grace timer has fired, if at all, one grace period after a signal was taken. -/
def Punctual (g : Settings) (hs : List (Nat × Happening)) : Prop :=
  ∀ t id, (t, .timerFired id .shutdownTimeout) ∈ hs →
    ∃ t₁ ∈ signalTimes hs, t = t₁ + g.shutdown.gracePeriod

section Punctual

variable {g : Settings} {hs hs' : List (Nat × Happening)}

theorem Punctual.adds (h : Punctual g hs) (hadds : Adds (!·.isFiring) hs hs') : Punctual g hs' := by
  intro t id hfired
  obtain ⟨t₁, ht₁, rfl⟩ := h t id ((hadds.mem rfl).1 hfired)
  obtain ⟨new, rfl, -⟩ := hadds
  rw [signalTimes_append]
  exact ⟨t₁, List.mem_append_right _ ht₁, rfl⟩

theorem Punctual.of_outlineOf (h : Punctual g (outlineOf hs)) : Punctual g hs := by
  intro t id hfired
  rw [← signalTimes_outlineOf]
  exact h t id ((mem_outlineOf rfl).2 hfired)

end Punctual

namespace Conduct

variable {g : Settings} {c c' : Conduct}

/-- The timer that watches over the end is armed as the first signal is taken. -/
theorem Caused.deadline_eq (h : Caused g c) (hsteer : c.Steered) {a : AbortTimer}
    (ha : a ∈ c.armed) (hterm : a.termination = .shutdownTimeout) :
    ∃ t₁ ∈ signalTimes c.outline, a.deadline = t₁ + g.shutdown.gracePeriod := by
  rcases h.termination_of_mem hsteer ha with ⟨hphase, -⟩ | ⟨p, -, -, hguarded⟩
  · obtain ⟨-, t₁, hsignals, hdeadline⟩ := h.grace a.id hphase a ha rfl
    exact ⟨t₁, by simp [hsignals], hdeadline⟩
  · exact absurd (hguarded.symm.trans hterm) p.termination_ne_shutdownTimeout

theorem Reached.punctual (h : Reached g c) : Punctual g c.outline := by
  induction h with
  | begun b | refused b r =>
    intro t id hfired
    cases List.mem_singleton.1 hfired
  | @step c c' hr hs ih =>
    rcases hs.fires_or_adds with ⟨a, ha, hdue, rfl⟩ | hadds
    · have hnow : c.now = a.deadline := Nat.le_antisymm (hr.caused.prompt a ha) hdue
      have hposts : Adds (!·.isFiring) ((c.now, .timerFired a.id a.termination) :: c.outline)
          (c.fire a).outline :=
        adds_post (c := (c.setTimers _).tell (.timerFired a.id a.termination)) (Adds.refl _) _ rfl
      refine Punctual.adds (fun t id hfired => ?_) hposts
      rcases List.mem_cons.1 hfired with heq | hold
      · obtain ⟨rfl, hfire⟩ := Prod.mk.inj heq
        rw [hnow]
        exact hr.caused.deadline_eq hr.steered ha (Happening.timerFired.inj hfire).2.symm
      · exact ih t id hold
    · exact ih.adds hadds

/-! ## Timers that go first -/

/-- A completion has been posted while no timer was due, and none has fired. -/
structure Ahead (c : Conduct) : Prop where
  running : c.coordinator.isRunning = true → c.coordinator.posted.head? = some .completed →
    Unfired c.outline ∧ ∀ a ∈ c.armed, c.now < a.deadline
  decided : c.coordinator.phase = .decided .completed → Unfired c.outline

namespace Ahead

/-- Nothing is posted, and the timers stay as they are. -/
theorem keep (h : c.Ahead) (hnow : c'.now = c.now)
    (hphase : c'.coordinator.phase = c.coordinator.phase)
    (hposted : c'.coordinator.posted = c.coordinator.posted) (harmed : c'.armed = c.armed)
    (hadds : Adds (!·.isFiring) c.outline c'.outline) : c'.Ahead := by
  constructor
  · rw [Coordinator.isRunning, hphase, hposted, hnow, harmed]
    intro hr hp
    obtain ⟨hunfired, hahead⟩ := h.running hr hp
    exact ⟨unfired_of_adds hadds hunfired, hahead⟩
  · rw [hphase]
    exact fun hp => unfired_of_adds hadds (h.decided hp)

/-- The supervisor has not come to its end, and has posted no completion. -/
theorem go (h : c.Ahead) (honest : c.Honest) (hduty : c.duty ≠ .finished)
    (hphase : c'.coordinator.phase = c.coordinator.phase)
    (hposted : c'.coordinator.posted = c.coordinator.posted)
    (hadds : Adds (!·.isFiring) c.outline c'.outline) : c'.Ahead := by
  constructor
  · rw [Coordinator.isRunning, hphase, hposted]
    exact fun hr hp => absurd (honest.first hr hp).1 hduty
  · rw [hphase]
    exact fun hp => unfired_of_adds hadds (h.decided hp)

/-- A step keeps ahead of the timers, if the supervisor comes to its end while none is due. -/
theorem step (h : c.Ahead) (honest : c.Honest) (hsteer : c.Steered) (hs : Step g c c')
    (hready : c.duty = .stopping → c'.duty = .finished → ∀ a ∈ c.armed, c.now < a.deadline) :
    c'.Ahead := by
  cases hs with
  | quiet => exact h
  | look seen => exact h.keep rfl rfl rfl rfl ((Adds.refl _).cons rfl)
  | signals | ignoreSignals => exact h.keep rfl rfl rfl rfl (Adds.refl _)
  | pass time hle hposted =>
    refine ⟨fun hr hp => ?_, h.decided⟩
    rw [show c.coordinator.posted = [] from hposted hr] at hp
    cases hp
  | fire a ha hdue =>
    have hrun : c.coordinator.isRunning = true := hsteer.isRunning_of_mem ha
    constructor
    · intro _ hp
      rw [show (c.fire a).coordinator.posted = c.coordinator.posted ++ [a.termination] from
        posted_post hrun _] at hp
      rcases head?_concat_eq_some hp with ⟨-, hterm⟩ | hhead
      · exact absurd hterm (honest.armed a ha)
      · exact absurd ((h.running hrun hhead).2 a ha) (Nat.not_lt.2 hdue)
    · intro hp
      have hp' : c.coordinator.phase = .decided .completed := hp
      simp [Coordinator.isRunning, hp'] at hrun
  | decide t rest hrun hposted =>
    refine ⟨by rintro ⟨⟩, fun hp => ?_⟩
    obtain rfl : t = .completed := CoordinatorPhase.decided.inj hp
    exact (unfired_cons _ _).2 ⟨rfl, (h.running hrun (by rw [hposted]; rfl)).1⟩
  | firstSignal s b hphase =>
    have hrun : c.coordinator.isRunning = true := by simp [Coordinator.isRunning, hphase]
    refine ⟨fun _ hp => ?_, by rintro ⟨⟩⟩
    exact absurd hphase (hsteer.ending (by rw [(honest.first hrun hp).1]; rfl))
  | secondSignal => exact ⟨by rintro ⟨⟩, by rintro ⟨⟩⟩
  | stopped r hduty =>
    have hactive : c.duty.isActive = true := by rw [hduty]; rfl
    have hrun : c.coordinator.isRunning = true := hsteer.running hactive
    have hne : c.duty ≠ .finished := Duty.ne_finished_of_isActive hactive
    refine ⟨fun _ hp => ?_, fun hp => absurd (honest.decided hp).1 hne⟩
    rw [show (((c.tell (.callEnded .stop r)).post .completed).turn .finished).coordinator.posted =
      c.coordinator.posted ++ [.completed] from posted_post (c := c) hrun _] at hp
    rcases head?_concat_eq_some hp with ⟨hold, -⟩ | hhead
    · refine ⟨?_, hready hduty rfl⟩
      exact unfired_of_adds (adds_post (c := c.tell (.callEnded .stop r))
        ((Adds.refl _).cons rfl) _ rfl) (honest.unfired hrun hold)
    · exact absurd (honest.first hrun hhead).1 hne
  | loopPanicked n reason hloop =>
    have hactive : c.duty.isActive = true := Duty.isActive_of_looping? hloop
    have hrun : c.coordinator.isRunning = true := hsteer.running hactive
    have hne : c.duty ≠ .finished := Duty.ne_finished_of_isActive hactive
    refine ⟨fun _ hp => ?_, fun hp => absurd (honest.decided hp).1 hne⟩
    rw [show ((c.cutOff.tell (.logged (.loopPanicked reason) none)).post
      .supervisorPanicked).coordinator.posted = c.coordinator.posted ++ [.supervisorPanicked] from
        posted_post (c := c) hrun _] at hp
    rcases head?_concat_eq_some hp with ⟨-, hterm⟩ | hhead
    · cases hterm
    · exact absurd (honest.first hrun hhead).1 hne
  | loopEnded n hloop =>
    refine h.go honest ?_ rfl rfl ((Adds.refl _).cons rfl)
    intro hd
    rw [hd] at hloop
    cases hloop
  | beginStop hduty | addPanicked _ _ _ hduty | skipped _ _ hduty | skipStopped _ hduty
  | driverRemoved _ _ _ hduty | sessionEnded _ _ hduty | lateEnd _ _ hduty =>
    exact h.go honest (by rw [hduty]; rintro ⟨⟩) rfl rfl ((Adds.refl _).cons rfl)
  | skipEnded _ hduty | removalFailed _ _ _ _ hduty =>
    exact h.go honest (by rw [hduty]; rintro ⟨⟩) rfl rfl (((Adds.refl _).cons rfl).cons rfl)
  | added _ _ _ hduty =>
    exact h.go honest (by rw [hduty]; rintro ⟨⟩) rfl rfl
      ((((Adds.refl _).cons rfl).cons rfl).cons rfl)
  | beginSession hduty | beginRemoval _ _ hduty =>
    exact h.go honest (by rw [hduty]; rintro ⟨⟩) rfl rfl
      (((((Adds.refl _).cons rfl).cons rfl).cons rfl).cons rfl)

end Ahead

/-! ## The stop comes last -/

/-- No event loop does anything any more once the manager is being stopped. -/
def StopsLast (c : Conduct) : Prop :=
  c.duty.isEnding = true → ∃ t, Since (fun x => x.isLoop = true) (.callBegan .stop) t c.outline

namespace StopsLast

/-- No event loop does anything. -/
theorem keep (h : c.StopsLast) (hending : c'.duty.isEnding = true → c.duty.isEnding = true)
    (hadds : Adds (fun x => !x.isLoop) c.outline c'.outline) : c'.StopsLast := by
  intro hd
  obtain ⟨t, ht⟩ := h (hending hd)
  refine ⟨t, hadds.since_of ?_ ht⟩
  intro x hx hloop
  rw [hloop] at hx
  cases hx

/-- The manager is not being stopped. -/
theorem of_not_isEnding (hd : c.duty.isEnding = false) : c.StopsLast := by
  intro hending
  rw [hd] at hending
  cases hending

theorem step (h : c.StopsLast) (hs : Step g c c') : c'.StopsLast := by
  cases hs with
  | quiet | signals | ignoreSignals | pass => exact h.keep id (Adds.refl _)
  | look => exact h.keep id ((Adds.refl _).cons rfl)
  | fire => exact h.keep id (adds_post ((Adds.refl _).cons rfl) _ rfl)
  | decide => exact h.keep Duty.isEnding_of_afterCut ((Adds.refl _).cons rfl)
  | firstSignal s b =>
    exact h.keep id ((adds_raiseStop (c := (c.setSignals b).tell (.signalTaken s))
      ((Adds.refl _).cons rfl) rfl).cons rfl)
  | secondSignal => exact h.keep Duty.isEnding_of_afterCut (((Adds.refl _).cons rfl).cons rfl)
  | beginStop => exact fun _ => ⟨c.now, [], c.outline, rfl, List.forall_mem_nil _⟩
  | stopped r hduty =>
    exact h.keep (fun _ => by rw [hduty]; rfl) (adds_post ((Adds.refl _).cons rfl) _ rfl)
  | loopEnded n hloop =>
    exact .of_not_isEnding (Duty.isEnding_of_session? (Duty.session?_afterLoop hloop))
  | loopPanicked n reason hloop =>
    exact .of_not_isEnding (Duty.isEnding_afterCut (Duty.isActive_of_looping? hloop))
  | beginSession | added | skipped | addPanicked | skipStopped | skipEnded | beginRemoval
  | driverRemoved | removalFailed | sessionEnded | lateEnd => exact .of_not_isEnding rfl

end StopsLast

theorem Reached.stopsLast (h : Reached g c) : c.StopsLast := by
  induction h with
  | begun | refused => exact .of_not_isEnding rfl
  | step hr hs ih => exact ih.step hs

end Conduct

/-! ## Completed runs -/

/-- All that a completed run stands for, in terms of what has happened. -/
structure Truthful (g : Settings) (hs : List (Nat × Happening)) : Prop where
  /-- The coordinator has taken one signal. -/
  oneSignal : ∃ t, signalTimes hs = [t]
  /-- The run has ended once, at the moment at which its completion was posted, and no timer fired
  before that was posted. -/
  inTime : ∃ t, terminationsOf hs = [(t, .terminated .completed)] ∧ CompletedAt t hs
  /-- No timer fired before the moment at which the run ended.  At that very moment the grace timer
  may fire, between the posting of the completion and the decision: too late to end the run.  Then
  the run has ended just as the grace period did. -/
  unfired : ∀ t id p, (t, .timerFired id p) ∈ hs →
    (t, .terminated .completed) ∈ hs ∧ p = .shutdownTimeout ∧
      ∃ t₁, signalTimes hs = [t₁] ∧ t = t₁ + g.shutdown.gracePeriod
  /-- Every session is over, its driver added and removed or skipped.  The stop comes after
  them and has ended. -/
  course : ∃ (n : SessionId) (past : List Happening) (r : CallResult),
    Past g n past (loopsOf hs) ∧
      courseOf hs =
        .managerStarting g.managerOptions :: (past ++ [.callBegan .stop, .callEnded .stop r])
  removed : ∀ t n s, (t, .stateChanged n s .activating) ∈ hs →
    ∃ t' s', (t', .stateChanged n s' .removed) ∈ hs
  notAborted : ∀ t n s, (t, .stateChanged n s .aborted) ∉ hs
  loopEnded : ∀ t n d, (t, .loopStarted n d) ∈ hs → ∃ t', (t', .loopEnded n) ∈ hs
  notPanicked : ∀ t m s, (t, .logged (.loopPanicked m) s) ∉ hs
  /-- The stop comes after all that the event loops do. -/
  stopsLast : ∃ t, Since (fun x => x.isLoop = true) (.callBegan .stop) t hs

/-- What the course of a completed run must have been like. -/
theorem Truthful.of_course {g : Settings} {hs : List (Nat × Happening)}
    (hsignal : ∃ t, signalTimes hs = [t])
    (htime : ∃ t, terminationsOf hs = [(t, .terminated .completed)] ∧ CompletedAt t hs)
    (hpunctual : Punctual g hs) {n : SessionId} {past : List Happening} {r : CallResult}
    (hpast : Past g n past (loopsOf hs))
    (hcourse : courseOf hs =
      .managerStarting g.managerOptions :: (past ++ [.callBegan .stop, .callEnded .stop r]))
    (hstop : ∃ t, Since (fun x => x.isLoop = true) (.callBegan .stop) t hs) : Truthful g hs where
  oneSignal := hsignal
  inTime := htime
  unfired t id p hfired := by
    obtain ⟨t₀, -, hcompleted⟩ := htime
    obtain ⟨rfl, rfl⟩ := hcompleted.of_firing hfired
    obtain ⟨t₁, hsignals⟩ := hsignal
    obtain ⟨t₂, ht₂, hgrace⟩ := hpunctual t id hfired
    rw [hsignals, List.mem_singleton] at ht₂
    subst ht₂
    exact ⟨hcompleted.mem, rfl, t₂, hsignals, hgrace⟩
  course := ⟨n, past, r, hpast, hcourse⟩
  removed t m s hm := by
    have hmem : .stateChanged m s .activating ∈ courseOf hs := mem_pick.2 ⟨rfl, t, hm⟩
    rw [hcourse] at hmem
    obtain ⟨s', hs'⟩ := hpast.removed (m := m) (s := s) (by simpa using hmem)
    have hin : .stateChanged m s' .removed ∈ courseOf hs := by
      rw [hcourse]
      simp [hs']
    obtain ⟨-, t', ht'⟩ := mem_pick.1 hin
    exact ⟨t', s', ht'⟩
  notAborted t m s hm := by
    have hmem : .stateChanged m s .aborted ∈ courseOf hs := mem_pick.2 ⟨rfl, t, hm⟩
    rw [hcourse] at hmem
    exact hpast.not_aborted m s (by simpa using hmem)
  loopEnded t m d hm := by
    have hmem : .loopStarted m d ∈ loopsOf hs := mem_pick.2 ⟨rfl, t, hm⟩
    exact (mem_pick.1 (hpast.loopEnded hmem)).2
  notPanicked t m s hm := hpast.not_panicked _ _ (mem_pick.2 ⟨rfl, t, hm⟩)
  stopsLast := hstop

/-! ## Runs in the order of the schedule -/

namespace World

variable {L : EventLoop} {w : World L}

/-- The timers come before every other move. -/
theorem fireTimer_mem_earlier {m : Move} (hm : m ≠ .fireTimer) : .fireTimer ∈ m.earlier := by
  cases m <;> first | decide | exact absurd rfl hm

/-- In the order of the schedule, the supervisor comes to its end only while no timer is due. -/
theorem lt_deadline_of_inTurn {o : Occurrence} (hturn : w.InTurn o)
    (hduty : w.frame.duty = .stopping) (hend : (w.occur o).frame.duty = .finished) :
    ∀ a ∈ w.coordinator.timers.armed, w.now < a.deadline := by
  have hmoved : (w.occur o).frame.duty ≠ w.frame.duty := by
    rw [hduty, hend]
    rintro ⟨⟩
  cases o with
  | move m =>
    by_cases hm : m = .fireTimer
    · subst hm
      refine absurd ?_ hmoved
      rcases w.occur_move_cases .fireTimer with hsame | ⟨w', hw, hsame⟩
      · rw [hsame]
      · rw [hsame]
        obtain ⟨kc, -, rfl⟩ := Option.map_eq_some_iff.1 hw
        rfl
    · have hnone := (inTurn_iff.1 hturn).2 .fireTimer (fireTimer_mem_earlier hm)
      exact Timers.due?_eq_none (due?_eq_none_of_fireTimer? hnone)
  | pass time =>
    refine absurd ?_ hmoved
    rcases w.occur_pass_cases time with hsame | ⟨-, hsame⟩
    · rw [hsame]
    · rw [hsame]
      rfl
  | notify ns => exact absurd (congrArg Frame.duty (frame_notify ns)) hmoved
  | signal s | closeSignals | detach | files t => exact absurd rfl hmoved

end World

namespace Supervision

variable {L : EventLoop} (s : Supervision L)

/-- A run in the order of the schedule comes to its end ahead of all timers, if it does. -/
theorem ahead_after (os : List Occurrence) :
    s.KeepsOrder os → (s.after os).frame.conduct.Ahead := by
  refine run_induction (P := fun os => s.KeepsOrder os → (s.after os).frame.conduct.Ahead) ?_ ?_ os
  · intro _
    rw [after_nil, frame_start]
    cases s.refusal? <;> exact ⟨by rintro _ ⟨⟩, by rintro ⟨⟩⟩
  · intro os o ih horder
    obtain ⟨hos, hturn⟩ := World.goes_concat.1 horder
    have hreached := s.reached_after os
    obtain ⟨-, -, hstep⟩ := orderly_occur (s.orderly_after os) o
    rw [after_concat]
    exact (ih hos).step hreached.honest hreached.steered hstep
      (World.lt_deadline_of_inTurn hturn)

/-- A run whose event loop waits to be told that the driver is removed. -/
def patient : Supervision (Script.loop [[.awaitQuit]]) where
  files := .plugged
  loop := {}

/-- A session begins, and a signal ends it. -/
def patientCourse : List Occurrence :=
  [.move .cycle, .move .cycle, .move .endCall, .move .watchRemoval, .signal .interrupt,
    .move .takeSignal, .move .forwardStop, .move .session, .move .endCall, .move .eventLoop,
    .move .eventLoop, .move .session, .move .cycle, .move .endCall, .move .decide]

/-- The stop takes as long as the grace period, and ends first.  Then the grace timer fires, and
the run is completed all the same. -/
example :
    let s : Supervision _ := { patient with library := { stopping := { hold := some 5000 } } }
    let w := s.after (patientCourse.take 13 ++
      [.pass 5000, .move .endCall, .move .fireTimer, .move .decide])
    w.outcome? = some (.ok .completed) ∧ w.chronicle.metrics.aborts = [(.shutdownTimeout, 1)] :=
  ⟨rfl, rfl⟩

end Supervision

end Hotplug
