import Hotplug.Proofs.Steering
import Hotplug.Session.Script

/-!
# Why a run ends

A run that is ended by force is ended for a reason, at the moment at which the reason comes.
No timer of an operation that is done ends anything.

* `Overdue` — a timer has fired on an operation that was not done by its deadline.
* `Cause` — the reason for a termination.
* `Conduct.Caused` — every termination that is posted has its reason now, and every timer
  that is armed watches over an operation that is not done.
* `Supervision.cause_of_outcome` — whatever a run returns, there is the reason for it.
-/

namespace Hotplug

/-! ## Reasons -/

/-- At time `t` a timer fired: it was armed as some session began an operation, just so long
ago as the operation may take, and the operation was not done when the timer fired. -/
def Overdue (g : Settings) (p : Guard) (hs : List (Nat × Happening)) (t : Nat) : Prop :=
  ∃ n id t₀ newer older, hs = newer ++ (t, .timerFired id p.termination) :: older ∧
    (∀ b ∈ p.beginnings n id, Since (p.IsDone n) b t₀ older) ∧ t = t₀ + p.timeout g

/-- The reason for a termination at time `t`. -/
def Cause (g : Settings) (hs : List (Nat × Happening)) (t : Nat) : Termination → Prop
  | .completed => True
  | .repeatedSignal => ∃ t₁, signalTimes hs = [t, t₁]
  | .shutdownTimeout => ∃ t₁, signalTimes hs = [t₁] ∧ t = t₁ + g.shutdown.gracePeriod
  | .driverActivationTimeout => Overdue g .activation hs t
  | .driverRemovalTimeout => Overdue g .removal hs t
  | .supervisorPanicked => ∃ reason, (t, .logged (.loopPanicked reason) none) ∈ hs

/-- Whether a happening makes an operation done. -/
def Happening.isDone : Happening → Bool
  | callEnded .add (.returned _) => true
  | stateChanged _ _ .removed => true
  | _ => false

theorem Guard.isDone_of_isDone (p : Guard) (n : SessionId) (h : Happening) (hh : p.IsDone n h) :
    h.isDone = true := by
  cases p with
  | activation | removal =>
    obtain ⟨_, rfl⟩ := hh
    rfl

section Reasons

variable {g : Settings} {hs hs' : List (Nat × Happening)} {t : Nat}

theorem Overdue.adds {p : Guard} (h : Overdue g p hs t) {q : Happening → Bool}
    (hadds : Adds q hs hs') : Overdue g p hs' t := by
  obtain ⟨n, id, t₀, newer, older, rfl, hsince, ht⟩ := h
  obtain ⟨new, rfl, -⟩ := hadds
  exact ⟨n, id, t₀, new ++ newer, older, by simp, hsince, ht⟩

/-- A reason stays one as long as no signal is taken. -/
theorem Cause.adds {x : Termination} (h : Cause g hs t x) {q : Happening → Bool}
    (hadds : Adds q hs hs') (hsignals : signalTimes hs' = signalTimes hs) : Cause g hs' t x := by
  cases x with
  | completed => trivial
  | repeatedSignal | shutdownTimeout =>
    unfold Cause at h ⊢
    rw [hsignals]
    exact h
  | driverActivationTimeout | driverRemovalTimeout => exact Overdue.adds h hadds
  | supervisorPanicked =>
    obtain ⟨reason, hmem⟩ := h
    obtain ⟨new, rfl, -⟩ := hadds
    exact ⟨reason, List.mem_append_right _ hmem⟩

/-- A reason that came before any signal stays one. -/
theorem Cause.adds_of_calm {x : Termination} (h : Cause g hs t x) (hcalm : signalTimes hs = [])
    {q : Happening → Bool} (hadds : Adds q hs hs') : Cause g hs' t x := by
  cases x with
  | completed => trivial
  | repeatedSignal =>
    obtain ⟨t₁, h⟩ := h
    rw [hcalm] at h
    cases h
  | shutdownTimeout =>
    obtain ⟨t₁, h, -⟩ := h
    rw [hcalm] at h
    cases h
  | driverActivationTimeout | driverRemovalTimeout => exact Overdue.adds h hadds
  | supervisorPanicked =>
    obtain ⟨reason, hmem⟩ := h
    obtain ⟨new, rfl, -⟩ := hadds
    exact ⟨reason, List.mem_append_right _ hmem⟩

/-- An operation that is not done stays so, as long as nothing comes that makes it done. -/
theorem Adds.since_isDone (hadds : Adds (fun x => !x.isDone) hs hs') (p : Guard) (n : SessionId)
    {b : Happening} {t₀ : Nat} (h : Since (p.IsDone n) b t₀ hs) : Since (p.IsDone n) b t₀ hs' := by
  refine hadds.since_of (fun x hx hdone => ?_) h
  rw [p.isDone_of_isDone n x hdone] at hx
  cases hx

end Reasons

/-! ## What every step preserves -/

namespace Conduct

variable {g : Settings} {c c' : Conduct}

/-- Every termination that is posted has its reason now. -/
structure Caused (g : Settings) (c : Conduct) : Prop where
  /-- The timer of an operation was armed as it began, and the operation is not done. -/
  guarded : ∀ p n id, c.duty.guard? = some (p, n, id) →
    ∃ t₀, (∀ b ∈ p.beginnings n id, Since (p.IsDone n) b t₀ c.outline) ∧
      ∀ a ∈ c.armed, a.id = id → a.termination = p.termination ∧ a.deadline = t₀ + p.timeout g
  grace : ∀ id, c.coordinator.phase = .stopping id → ∀ a ∈ c.armed, a.id = id →
    a.termination = .shutdownTimeout ∧
      ∃ t₁, signalTimes c.outline = [t₁] ∧ a.deadline = t₁ + g.shutdown.gracePeriod
  prompt : ∀ a ∈ c.armed, c.now ≤ a.deadline
  posted : c.coordinator.isRunning = true → ∀ x ∈ c.coordinator.posted, Cause g c.outline c.now x
  decided : ∀ x, c.coordinator.phase = .decided x →
    ∃ t, terminationsOf c.outline = [(t, .terminated x)] ∧ Cause g c.outline t x

namespace Caused

/-- Nothing begins. -/
theorem go (h : Caused g c) (hnow : c'.now = c.now)
    (hphase : c'.coordinator.phase = c.coordinator.phase)
    (hadds : Adds Happening.isRoutine c.outline c'.outline)
    (hposted : c.coordinator.isRunning = true →
      ∀ x ∈ c'.coordinator.posted, x ∈ c.coordinator.posted ∨ Cause g c'.outline c.now x)
    (harmed : ∀ a ∈ c'.armed, a ∈ c.armed)
    (hguard : ∀ p n id, c'.duty.guard? = some (p, n, id) → c.duty.guard? = some (p, n, id) ∧
      ∀ b t, Since (p.IsDone n) b t c.outline → Since (p.IsDone n) b t c'.outline) :
    Caused g c' := by
  have hrun : c'.coordinator.isRunning = c.coordinator.isRunning := by
    simp only [Coordinator.isRunning, hphase]
  have hsignals := hadds.signalTimes Happening.isSignal_of_isRoutine
  have hterms := hadds.terminationsOf Happening.isTermination_of_isRoutine
  constructor
  · intro p n id hid
    obtain ⟨hold, hsince⟩ := hguard p n id hid
    obtain ⟨t₀, hbegin, htimer⟩ := h.guarded p n id hold
    exact ⟨t₀, fun b hb => hsince b t₀ (hbegin b hb), fun a ha => htimer a (harmed a ha)⟩
  · rw [hphase, hsignals]
    exact fun id hid a ha => h.grace id hid a (harmed a ha)
  · rw [hnow]
    exact fun a ha => h.prompt a (harmed a ha)
  · rw [hrun, hnow]
    intro hr x hx
    rcases hposted hr x hx with hx | hx
    · exact (h.posted hr x hx).adds hadds hsignals
    · exact hx
  · rw [hphase, hterms]
    intro x hx
    obtain ⟨t, ht, hcause⟩ := h.decided x hx
    exact ⟨t, ht, hcause.adds hadds hsignals⟩

/-- The timers and what they watch over stay as they are. -/
theorem keep (h : Caused g c) (hnow : c'.now = c.now)
    (hphase : c'.coordinator.phase = c.coordinator.phase)
    (hposted : c'.coordinator.posted = c.coordinator.posted)
    (hadds : Adds Happening.isRoutine c.outline c'.outline)
    (hdone : Adds (fun x => !x.isDone) c.outline c'.outline)
    (hguard : c'.duty.guard? = c.duty.guard?) (harmed : c'.armed = c.armed) : Caused g c' := by
  refine h.go hnow hphase hadds ?_ ?_ ?_
  · rw [hposted]
    exact fun _ x hx => .inl hx
  · rw [harmed]
    exact fun a ha => ha
  · intro p n id hid
    rw [hguard] at hid
    exact ⟨hid, fun b t => hdone.since_isDone p n⟩

/-- The supervisor turns to a duty without a timer. -/
theorem release (h : Caused g c) (hnow : c'.now = c.now)
    (hphase : c'.coordinator.phase = c.coordinator.phase)
    (hposted : c'.coordinator.posted = c.coordinator.posted)
    (hadds : Adds Happening.isRoutine c.outline c'.outline) (hguard : c'.duty.guard? = none)
    (harmed : ∀ a ∈ c'.armed, a ∈ c.armed) : Caused g c' := by
  refine h.go hnow hphase hadds ?_ harmed ?_
  · rw [hposted]
    exact fun _ x hx => .inl hx
  · intro p n id hid
    rw [hguard] at hid
    cases hid

/-- An operation begins under a new timer. -/
theorem begin (h : Caused g c) (hsteer : c.Steered) (hnow : c'.now = c.now)
    (hphase : c'.coordinator.phase = c.coordinator.phase)
    (hposted : c'.coordinator.posted = c.coordinator.posted) {q : Happening → Bool}
    (hadds : Adds q c.outline c'.outline)
    (hsignals : signalTimes c'.outline = signalTimes c.outline)
    (hterms : terminationsOf c'.outline = terminationsOf c.outline) {p : Guard} {n : SessionId}
    (hguard : c'.duty.guard? = some (p, n, c.nextTimer))
    (hbegin : ∀ b ∈ p.beginnings n c.nextTimer, Since (p.IsDone n) b c.now c'.outline)
    (harmed : c'.armed =
      c.armed ++ [⟨c.nextTimer, c.now + p.timeout g, p.timeout g, p.termination⟩]) :
    Caused g c' := by
  have hrun : c'.coordinator.isRunning = c.coordinator.isRunning := by
    simp only [Coordinator.isRunning, hphase]
  constructor
  · intro p' n' id hid
    obtain ⟨rfl, rfl, rfl⟩ : p = p' ∧ n = n' ∧ c.nextTimer = id := by simpa [hguard] using hid
    refine ⟨c.now, hbegin, fun a ha haid => ?_⟩
    rw [harmed] at ha
    rcases List.mem_append.1 ha with ha | ha
    · exact absurd haid (Nat.ne_of_lt (hsteer.id_lt ha))
    · rw [List.mem_singleton.1 ha]
      exact ⟨rfl, rfl⟩
  · rw [hphase, hsignals, harmed]
    intro id hid a ha haid
    rcases List.mem_append.1 ha with ha | ha
    · exact h.grace id hid a ha haid
    · rw [List.mem_singleton.1 ha] at haid
      exact absurd haid.symm (Nat.ne_of_lt (hsteer.warned id hid).1)
  · rw [hnow, harmed]
    intro a ha
    rcases List.mem_append.1 ha with ha | ha
    · exact h.prompt a ha
    · rw [List.mem_singleton.1 ha]
      exact Nat.le_add_right _ _
  · rw [hrun, hnow, hposted]
    exact fun hr x hx => (h.posted hr x hx).adds hadds hsignals
  · rw [hphase, hterms]
    intro x hx
    obtain ⟨t, ht, hcause⟩ := h.decided x hx
    exact ⟨t, ht, hcause.adds hadds hsignals⟩

/-- The timer of an operation that is not done, or of the end of the run, fires. -/
theorem fire (h : Caused g c) (hsteer : c.Steered) {a : AbortTimer} (ha : a ∈ c.armed)
    (hdue : a.deadline ≤ c.now) : Caused g (c.fire a) := by
  have hrun : c.coordinator.isRunning = true := hsteer.isRunning_of_mem ha
  have hnow : c.now = a.deadline := Nat.le_antisymm (h.prompt a ha) hdue
  have hout : (c.fire a).outline =
      (c.now, .terminationPosted a.termination) :: (c.now, .timerFired a.id a.termination) ::
        c.outline :=
    if_pos (Coordinator.isListening_of_isRunning hrun)
  have hcause : Cause g (c.fire a).outline c.now a.termination := by
    rw [hout]
    rcases hsteer.owned a ha with hgrace | htimer
    · obtain ⟨hterm, t₁, hsignals, hdl⟩ := h.grace a.id hgrace a ha rfl
      rw [hterm]
      exact ⟨t₁, hsignals, hnow.trans hdl⟩
    · obtain ⟨⟨p, n, id⟩, hguard, hid⟩ := Option.map_eq_some_iff.1 htimer
      obtain rfl : id = a.id := hid
      obtain ⟨t₀, hbegin, harmed⟩ := h.guarded p n a.id hguard
      obtain ⟨hterm, hdl⟩ := harmed a ha rfl
      have hover : Overdue g p ((c.now, .terminationPosted a.termination) ::
          (c.now, .timerFired a.id a.termination) :: c.outline) c.now :=
        ⟨n, a.id, t₀, [_], c.outline, by rw [hterm]; rfl, hbegin, hnow.trans hdl⟩
      rw [hterm] at hover ⊢
      cases p with
      | activation | removal => exact hover
  refine h.go rfl rfl (adds_post ((Adds.refl _).cons rfl) _ rfl) ?_ ?_ ?_
  · intro _ x hx
    rw [show (c.fire a).coordinator.posted = c.coordinator.posted ++ [a.termination] from
      posted_post hrun _] at hx
    rcases List.mem_append.1 hx with hx | hx
    · exact .inl hx
    · rw [List.mem_singleton.1 hx]
      exact .inr hcause
  · exact fun b hb => (List.mem_filter.1 hb).1
  · intro p n id hid
    have hdone : Adds (fun x => !x.isDone) c.outline (c.fire a).outline :=
      adds_post ((Adds.refl _).cons rfl) _ rfl
    exact ⟨hid, fun b t => hdone.since_isDone p n⟩

/-- The coordinator decides, and has a reason. -/
theorem decide (hterms : terminationsOf c.outline = []) {x : Termination}
    (hcause : Cause g (c.decide x).outline c.now x)
    (howned : ∀ a ∈ c.armed, c.coordinator.phase = .stopping a.id ∨ c.duty.timer? = some a.id) :
    Caused g (c.decide x) := by
  constructor
  · intro p n id hid
    rw [show (c.decide x).duty = c.duty.afterCut from rfl, Duty.guard?_afterCut] at hid
    cases hid
  · rintro id ⟨⟩
  · rw [Steered.armed_decide x howned]
    rintro a ⟨⟩
  · rintro ⟨⟩
  · intro y hy
    obtain rfl : x = y := CoordinatorPhase.decided.inj hy
    exact ⟨c.now, congrArg (List.cons (c.now, Happening.terminated x)) hterms, hcause⟩

/-- The first signal comes, and the grace timer is armed. -/
theorem firstSignal (h : Caused g c) (hsteer : c.Steered) (s : Signal) (b : SignalBuffer)
    (hphase : c.coordinator.phase = .awaitingSignal) :
    Caused g
      ((((c.setSignals b).tell (.signalTaken s)).raiseStop.arm g.shutdown.gracePeriod
        .shutdownTimeout).awaitEnd c.nextTimer) := by
  have hrun : c.coordinator.isRunning = true := by simp [Coordinator.isRunning, hphase]
  have hcalm := (hsteer.calm hphase).2
  let c₁ : Conduct := ((c.setSignals b).tell (.signalTaken s)).raiseStop.arm
    g.shutdown.gracePeriod .shutdownTimeout
  have hdone : Adds (fun x => !x.isDone) c.outline c₁.outline :=
    (adds_raiseStop (c := (c.setSignals b).tell (.signalTaken s)) ((Adds.refl _).cons rfl) rfl).cons
      rfl
  have hsignals : signalTimes c₁.outline = [c.now] :=
    (signalTimes_raiseStop (c := (c.setSignals b).tell (.signalTaken s))).trans
      (congrArg (c.now :: ·) hcalm)
  have harmed : c₁.armed = c.armed ++
      [⟨c.nextTimer, c.now + g.shutdown.gracePeriod, g.shutdown.gracePeriod, .shutdownTimeout⟩] :=
    rfl
  constructor
  · intro p n id hid
    obtain ⟨t₀, hbegin, htimer⟩ := h.guarded p n id hid
    refine ⟨t₀, fun x hx => hdone.since_isDone p n (hbegin x hx), fun a ha haid => ?_⟩
    rcases List.mem_append.1 (harmed ▸ ha) with ha | ha
    · exact htimer a ha haid
    · rw [List.mem_singleton.1 ha] at haid
      exact absurd haid.symm (Nat.ne_of_lt (hsteer.timer id (Duty.timer?_of_guard? hid)).1)
  · rintro id ⟨⟩ a ha haid
    rcases List.mem_append.1 (harmed ▸ ha) with ha | ha
    · exact absurd haid (Nat.ne_of_lt (hsteer.id_lt ha))
    · rw [List.mem_singleton.1 ha]
      exact ⟨rfl, c.now, hsignals, rfl⟩
  · intro a ha
    rcases List.mem_append.1 (harmed ▸ ha) with ha | ha
    · exact h.prompt a ha
    · rw [List.mem_singleton.1 ha]
      exact Nat.le_add_right _ _
  · exact fun _ x hx => (h.posted hrun x hx).adds_of_calm hcalm hdone
  · rintro x ⟨⟩

theorem step (h : Caused g c) (hsteer : c.Steered) (hs : Step g c c') : Caused g c' := by
  cases hs with
  | quiet => exact h
  | look seen =>
    exact h.keep rfl rfl rfl ((Adds.refl _).cons rfl) ((Adds.refl _).cons rfl) rfl rfl
  | signals | ignoreSignals => exact h.keep rfl rfl rfl (Adds.refl _) (Adds.refl _) rfl rfl
  | pass time hle hposted hdue =>
    refine ⟨h.guarded, h.grace, hdue, ?_, h.decided⟩
    intro hr x hx
    rw [show c.coordinator.posted = [] from hposted hr] at hx
    cases hx
  | fire a ha hdue => exact h.fire hsteer ha hdue
  | decide t rest hrun hposted =>
    refine .decide (hsteer.undecided hrun) ?_ hsteer.owned
    have hcause := h.posted hrun t (by simp [hposted])
    exact hcause.adds (q := fun _ => true) ((Adds.refl _).cons rfl) rfl
  | firstSignal s b hphase => exact h.firstSignal hsteer s b hphase
  | secondSignal s b grace hphase =>
    have hrun : c.coordinator.isRunning = true := by simp [Coordinator.isRunning, hphase]
    obtain ⟨-, t₁, hsignals⟩ := hsteer.warned grace hphase
    refine .decide (c := (c.setSignals b).tell (.signalTaken s)) (hsteer.undecided hrun) ?_
      hsteer.owned
    exact ⟨t₁, congrArg (c.now :: ·) hsignals⟩
  | beginStop hduty =>
    exact h.keep rfl rfl rfl ((Adds.refl _).cons rfl) ((Adds.refl _).cons rfl)
      (by rw [hduty]; rfl) rfl
  | beginSession hduty =>
    refine h.begin hsteer rfl rfl rfl (q := fun _ => true) ?_ rfl rfl (p := .activation) rfl ?_ rfl
    · exact ((Adds.refl _).cons rfl).cons rfl |>.cons rfl |>.cons rfl
    · intro b hb
      simp only [Guard.beginnings, List.mem_cons, List.not_mem_nil, or_false] at hb
      rcases hb with rfl | rfl | rfl
      · exact ⟨[_, _], _, rfl, by simp [Guard.IsDone, Guard.entry]⟩
      · exact ⟨[_], _, rfl, by simp [Guard.IsDone]⟩
      · exact ⟨[], _, rfl, by simp⟩
  | added n timer ok hduty =>
    exact h.release rfl rfl rfl (((Adds.refl _).cons rfl).cons rfl |>.cons rfl) rfl
      fun a ha => (mem_armed_drop.1 ha).1
  | skipped n timer hduty =>
    exact h.release rfl rfl rfl ((Adds.refl _).cons rfl) rfl fun a ha => (mem_armed_drop.1 ha).1
  | addPanicked n timer reason hduty =>
    exact h.keep rfl rfl rfl ((Adds.refl _).cons rfl) ((Adds.refl _).cons rfl)
      (by rw [hduty]; rfl) rfl
  | skipStopped n hduty =>
    exact h.release rfl rfl rfl ((Adds.refl _).cons rfl) rfl fun a ha => ha
  | skipEnded n hduty =>
    exact h.release rfl rfl rfl (((Adds.refl _).cons rfl).cons rfl) rfl fun a ha => ha
  | beginRemoval n isOver hduty =>
    refine h.begin hsteer rfl rfl rfl (q := fun _ => true) ?_ rfl rfl (p := .removal) rfl ?_ rfl
    · exact ((Adds.refl _).cons rfl).cons rfl |>.cons rfl |>.cons rfl
    · intro b hb
      simp only [Guard.beginnings, List.mem_cons, List.not_mem_nil, or_false] at hb
      rcases hb with rfl | rfl | rfl
      · exact ⟨[_], _, rfl, by simp [Guard.IsDone]⟩
      · exact ⟨[_, _], _, rfl, by simp [Guard.IsDone, Guard.entry]⟩
      · exact ⟨[], _, rfl, by simp⟩
  | driverRemoved n timer isOver hduty =>
    exact h.keep rfl rfl rfl ((Adds.refl _).cons rfl) ((Adds.refl _).cons rfl)
      (by rw [hduty]; rfl) rfl
  | removalFailed n timer isOver r hduty =>
    exact h.keep rfl rfl rfl (((Adds.refl _).cons rfl).cons rfl)
      (((Adds.refl _).cons rfl).cons rfl) (by rw [hduty]; rfl) rfl
  | sessionEnded n timer hduty =>
    exact h.release rfl rfl rfl ((Adds.refl _).cons rfl) rfl fun a ha => (mem_armed_drop.1 ha).1
  | loopEnded n hloop =>
    exact h.keep rfl rfl rfl ((Adds.refl _).cons rfl) ((Adds.refl _).cons rfl)
      (Duty.guard?_afterLoop _) rfl
  | loopPanicked n reason hloop =>
    have hrun : c.coordinator.isRunning = true :=
      hsteer.running (Duty.isActive_of_looping? hloop)
    refine h.go rfl rfl (adds_post ((Adds.refl _).cons rfl) _ rfl) ?_ ?_ ?_
    · intro _ x hx
      rw [posted_post (c := c.cutOff.tell (.logged (.loopPanicked reason) none)) hrun] at hx
      rcases List.mem_append.1 hx with hx | hx
      · exact .inl hx
      · rw [List.mem_singleton.1 hx]
        refine .inr ⟨reason, ?_⟩
        rw [outline_post (c := c.cutOff.tell (.logged (.loopPanicked reason) none)) hrun]
        exact .tail _ (.head _)
    · exact fun a ha => (mem_armed_cutOff.1 ha).1
    · intro p m id hid
      rw [show ((c.cutOff.tell (.logged (.loopPanicked reason) none)).post
        .supervisorPanicked).duty = c.duty.afterCut from rfl, Duty.guard?_afterCut] at hid
      cases hid
  | stopped r hduty =>
    have hrun : c.coordinator.isRunning = true := hsteer.running (by rw [hduty]; rfl)
    refine h.go rfl rfl (adds_post ((Adds.refl _).cons rfl) _ rfl) ?_ (fun a ha => ha) ?_
    · intro _ x hx
      have hx' : x ∈ ((c.tell (.callEnded .stop r)).post .completed).coordinator.posted := hx
      rw [posted_post (c := c.tell (.callEnded .stop r)) hrun] at hx'
      rcases List.mem_append.1 hx' with hx' | hx'
      · exact .inl hx'
      · rw [List.mem_singleton.1 hx']
        exact .inr trivial
    · intro p n id hid
      cases hid
  | lateEnd k r hduty =>
    exact h.release rfl rfl rfl ((Adds.refl _).cons rfl) rfl fun a ha => ha

end Caused

theorem Reached.caused (h : Reached g c) : Caused g c := by
  induction h with
  | begun b =>
    constructor
    · rintro p n id ⟨⟩
    · rintro id ⟨⟩
    · rintro a ⟨⟩
    · rintro _ x ⟨⟩
    · rintro x ⟨⟩
  | refused b r =>
    constructor
    · rintro p n id ⟨⟩
    · rintro id ⟨⟩
    · rintro a ⟨⟩
    · rintro ⟨⟩
    · rintro x ⟨⟩
  | step hr hs ih => exact ih.step hr.steered hs

/-- A timer of the session under way asks for what the operation is worth, and a grace timer for
the end. -/
theorem Caused.termination_eq_iff (h : Caused g c) (hsteer : c.Steered) {p : Guard}
    {m : SessionId} {id : TimerId} (hguard : c.duty.guard? = some (p, m, id)) {a : AbortTimer}
    (ha : a ∈ c.armed) : a.termination = p.termination ↔ a.id = id := by
  obtain ⟨t₀, -, htimer⟩ := h.guarded p m id hguard
  refine ⟨fun hterm => ?_, fun haid => (htimer a ha haid).1⟩
  rcases hsteer.owned a ha with hphase | hid
  · rw [(h.grace a.id hphase a ha rfl).1] at hterm
    exact absurd hterm.symm p.termination_ne_shutdownTimeout
  · rw [Duty.timer?_of_guard? hguard] at hid
    exact (Option.some.inj hid).symm

/-- An armed timer watches over an operation, or over the end of the run. -/
theorem Caused.termination_of_mem (h : Caused g c) (hsteer : c.Steered) {a : AbortTimer}
    (ha : a ∈ c.armed) :
    c.coordinator.phase = .stopping a.id ∧ a.termination = .shutdownTimeout ∨
      ∃ p m, c.duty.guard? = some (p, m, a.id) ∧ a.termination = p.termination := by
  rcases hsteer.owned a ha with hphase | hid
  · exact .inl ⟨hphase, (h.grace a.id hphase a ha rfl).1⟩
  · obtain ⟨⟨p, m, id⟩, hguard, rfl⟩ := Option.map_eq_some_iff.1 hid
    exact .inr ⟨p, m, hguard, (h.termination_eq_iff hsteer hguard ha).2 rfl⟩

end Conduct

/-! ## Runs that have returned -/

section Outline

variable {g : Settings} {hs : List (Nat × Happening)} {t : Nat}

theorem Guard.isOutline_of_mem_beginnings {p : Guard} {n : SessionId} {id : TimerId}
    {b : Happening} (hb : b ∈ p.beginnings n id) : b.isOutline = true := by
  simp only [beginnings, List.mem_cons, List.not_mem_nil, or_false] at hb
  rcases hb with rfl | rfl | rfl
  · cases p <;> rfl
  · rfl
  · rfl

theorem Guard.isOutline_of_isDone (p : Guard) (n : SessionId) (h : Happening)
    (hh : p.IsDone n h) : h.isOutline = true := by
  cases p with
  | activation | removal =>
    obtain ⟨_, rfl⟩ := hh
    rfl

theorem Overdue.of_outlineOf {p : Guard} (h : Overdue g p (outlineOf hs) t) :
    Overdue g p hs t := by
  obtain ⟨n, id, t₀, newer, older, heq, hsince, ht⟩ := h
  obtain ⟨newer', older', rfl, -, rfl⟩ := outlineOf_eq_append_cons heq
  refine ⟨n, id, t₀, newer', older', rfl, fun b hb => ?_, ht⟩
  exact (since_outlineOf (Guard.isOutline_of_mem_beginnings hb) (p.isOutline_of_isDone n)).1
    (hsince b hb)

/-- A reason in the outline is a reason in all that has happened. -/
theorem Cause.of_outlineOf {x : Termination} (h : Cause g (outlineOf hs) t x) :
    Cause g hs t x := by
  cases x with
  | completed => trivial
  | repeatedSignal | shutdownTimeout =>
    unfold Cause at h ⊢
    rw [signalTimes_outlineOf] at h
    exact h
  | driverActivationTimeout | driverRemovalTimeout => exact Overdue.of_outlineOf h
  | supervisorPanicked =>
    obtain ⟨reason, hmem⟩ := h
    exact ⟨reason, (mem_outlineOf rfl).1 hmem⟩

end Outline

namespace Supervision

variable {L : EventLoop} (s : Supervision L)

/-- **Forced reasons are never spurious.**  A run that returns a termination has decided on
it once, at a time at which the reason for it came. -/
theorem cause_of_outcome (os : List Occurrence) {x : Termination}
    (h : (s.after os).outcome? = some (.ok x)) :
    ∃ t, terminationsOf (s.after os).chronicle.happenings = [(t, .terminated x)] ∧
      Cause s.settings (s.after os).chronicle.happenings t x := by
  obtain ⟨t, hterms, hcause⟩ :=
    (s.reached_after os).caused.decided x (World.phase_of_outcome? h)
  refine ⟨t, ?_, hcause.of_outlineOf⟩
  rw [← terminationsOf_outlineOf]
  exact hterms

/-- A run whose library is busy for ever as it adds the driver. -/
def busy : Supervision (Script.loop []) where
  settings := { driver := { activationTimeout := 100 } }
  files := .plugged
  library := { adding := fun _ => { hold := none } }
  loop := {}

/-- A session begins, and its timer fires. -/
def busyCourse : List Occurrence :=
  [.move .cycle, .move .cycle, .pass 100, .move .fireTimer, .move .decide]

theorem cause_of_outcome_busy :
    (busy.after busyCourse).outcome? = some (.ok .driverActivationTimeout) ∧
      ∃ t, terminationsOf (busy.after busyCourse).chronicle.happenings =
          [(t, .terminated .driverActivationTimeout)] ∧
        Overdue busy.settings .activation (busy.after busyCourse).chronicle.happenings t :=
  ⟨rfl, cause_of_outcome busy busyCourse rfl⟩

end Supervision

end Hotplug
