import Hotplug.Proofs.Docket.Standing
import Hotplug.Proofs.Docket.Closing
import Hotplug.Shutdown.Desk

/-!
# What the coordinator decides on

A coordinator that is run decides on what its docket has as the first outcome, and at its time:
the first termination that was posted, the grace period after the first signal, or the second
signal.  It does so whether or not the buffer of signals is closed.

* `Flagged` — when the stop flag is up.
* `Chain`, `exists_chain` — the coordinator comes to rest.
* `chain_desk`, `rests_settle` — the desk makes a chain of steps, and comes to rest with it.
* `ShutdownRun.meets_reference` — the coordinator and its docket agree.
-/

namespace Hotplug.ShutdownRun

variable {r v : ShutdownRun} {time : Nat}

/-! ## The stop flag -/

theorem gather_taken_aside {c d : Chronicle} (hc : c.Aside d) :
    gather Happening.taken? d.happenings = gather Happening.taken? c.happenings := by
  apply hc.adds.gather
  intro x hx
  cases x <;> first | rfl | simp [Happening.isSignal] at hx

theorem gather_taken_record {c : Chronicle} {x : Happening} (hx : x.taken? = none) :
    gather Happening.taken? (c.record x).happenings = gather Happening.taken? c.happenings := by
  simp [Chronicle.record, hx]

theorem gather_taken_signal {c : Chronicle} {s : Signal} :
    gather Happening.taken? (c.record (.signalTaken s)).happenings =
      gather Happening.taken? c.happenings ++ [s] := by
  simp [Chronicle.record, Happening.taken?]

/-- The flag is up if somebody has raised it or a signal was taken. -/
structure Flagged (r : ShutdownRun) : Prop where
  raised : r.coordinator.stop.isRaised = (r.docket.isTriggered || !r.received.isEmpty)
  heard : ∀ grace, r.coordinator.phase = .stopping grace → r.received ≠ []

namespace Flagged

theorem congr (h : r.Flagged) (hraised : v.coordinator.stop.isRaised = r.coordinator.stop.isRaised)
    (htriggered : v.docket.isTriggered = r.docket.isTriggered) (hreceived : v.received = r.received)
    (hphase : ∀ grace, v.coordinator.phase = .stopping grace →
      r.coordinator.phase = .stopping grace) : v.Flagged where
  raised := by rw [hraised, htriggered, hreceived, h.raised]
  heard grace hgrace := by rw [hreceived]; exact h.heard grace (hphase grace hgrace)

theorem step (h : r.Flagged) (hs : r.Step v) : v.Flagged := by
  cases hs with
  | stay => exact h
  | trigger c hidle hc =>
    refine ⟨rfl, fun grace hgrace => ?_⟩
    rw [hidle] at hgrace
    cases hgrace
  | run => exact h.congr rfl rfl rfl (by rintro grace ⟨⟩)
  | close | pass | ignoreSignals => exact h.congr rfl rfl rfl fun _ => id
  | queue s => exact h.congr rfl rfl rfl fun _ => id
  | post t => exact h.congr rfl rfl (gather_taken_record rfl) fun _ => id
  | ignore t c _ hc | coalesce s c _ _ hc =>
    exact h.congr rfl rfl (gather_taken_aside hc) fun _ => id
  | fire a fired c harmed hdue _ hc =>
    exact h.congr rfl rfl ((gather_taken_record rfl).trans (gather_taken_aside hc)) fun _ => id
  | expire a fired c harmed _ hc => exact h.congr rfl rfl (gather_taken_aside hc) fun _ => id
  | decide t => exact h.congr rfl rfl (gather_taken_record rfl) (by rintro grace ⟨⟩)
  | first s later c hphase hwaiting hc =>
    have hreceived : gather Happening.taken? c.happenings = r.received ++ [s] :=
      (gather_taken_aside hc).trans gather_taken_signal
    constructor
    · simp [received, hreceived]
    · simp [received, hreceived]
  | second s later grace c hphase hwaiting hc =>
    have hheard := h.heard grace hphase
    have hreceived : gather Happening.taken? (c.record (.terminated .repeatedSignal)).happenings =
        r.received ++ [s] :=
      (gather_taken_record rfl).trans ((gather_taken_aside hc).trans gather_taken_signal)
    constructor
    · have hraised := h.raised
      simp only [List.isEmpty_eq_false_iff.2 hheard, Bool.not_false, Bool.or_true] at hraised
      unfold received
      rw [hreceived]
      simp [Coordinator.conclude, StopFlag.abandon, hraised]
    · rintro _ ⟨⟩

end Flagged

/-! ## Progress -/

/-- How many steps a coordinator has left at most: to react to the signals, to find that none can
come any more, to decide, and those of its timers. -/
def work (k : Coordinator) : Nat :=
  (match k.phase with
    | .awaitingSignal => 3 + k.signalsOpen.toNat
    | .stopping _ => 1 + k.signalsOpen.toNat
    | _ => 0) + k.timers.armed.length

theorem work_post (k : Coordinator) (c : Chronicle) (t : Termination) :
    work (k.post c t).1 = work k := by
  unfold Coordinator.post
  split <;> rfl

theorem work_conclude (k : Coordinator) (t : Termination) (hrun : k.isRunning = true) :
    work (k.conclude t) < work k := by
  have hdrop : ∀ id, (k.timers.drop id).armed.length ≤ k.timers.armed.length := fun id =>
    List.length_filter_le _ _
  unfold Coordinator.isRunning at hrun
  split at hrun
  · rename_i hphase
    simp only [work, Coordinator.conclude, hphase]
    omega
  · rename_i grace hphase
    have := hdrop grace
    simp only [work, Coordinator.conclude, hphase]
    omega
  · cases hrun

/-- No step takes time, and each leaves fewer. -/
theorem attempt_spec {i : Incident} {k : Coordinator} {c : Chronicle}
    (h : r.attempt i = some (k, c)) : c.now = r.now ∧ work k < work r.coordinator := by
  cases i with
  | fireTimer =>
    simp only [attempt, Coordinator.fireTimer?] at h
    split at h
    · cases h
    · rename_i a hdue
      obtain ⟨harmed, -⟩ := Timers.due?_eq_some hdue
      have hfewer : (r.coordinator.timers.drop a.id).armed.length <
          r.coordinator.timers.armed.length :=
        List.length_filter_lt_length_iff_exists.2 ⟨a, harmed, by simp⟩
      rw [Option.some.injEq] at h
      obtain rfl : _ = k := congrArg Prod.fst h
      obtain rfl : _ = c := congrArg Prod.snd h
      refine ⟨Coordinator.now_post _ _ _, ?_⟩
      rw [work_post]
      exact Nat.add_lt_add_left hfewer _
  | decide =>
    simp only [attempt, Coordinator.decidePosted?] at h
    split at h
    · rename_i hrun
      obtain ⟨t, -, ht⟩ := Option.map_eq_some_iff.1 h
      obtain ⟨rfl, rfl⟩ := Prod.mk.inj ht
      exact ⟨rfl, work_conclude _ t hrun⟩
    · cases h
  | takeSignal =>
    obtain ⟨hopen, ⟨s, b, -, ⟨hphase, heq⟩ | ⟨grace, hphase, heq⟩⟩ | ⟨hrun, -, heq⟩⟩ :=
      Coordinator.takeSignal?_eq_some h
    · obtain rfl : k = _ := congrArg Prod.fst heq
      obtain rfl : c = _ := congrArg Prod.snd heq
      refine ⟨Coordinator.now_takeFirst _ _ _, ?_⟩
      rw [Coordinator.takeFirst_fst]
      simp only [work, hphase, Timers.arm, List.length_append, List.length_singleton]
      omega
    · obtain ⟨rfl, rfl⟩ := Prod.mk.inj heq
      refine ⟨rfl, ?_⟩
      have hrun : ({ r.coordinator with signals := b } : Coordinator).isRunning = true := by
        simp [Coordinator.isRunning, hphase]
      exact work_conclude _ .repeatedSignal hrun
    · obtain ⟨rfl, rfl⟩ := Prod.mk.inj heq
      refine ⟨rfl, ?_⟩
      unfold Coordinator.isRunning at hrun
      split at hrun <;> simp_all [work, Coordinator.ignoreSignals]
  | _ => cases h

theorem not_rests (hrests : r.rests = false) :
    ∃ i x, i.isOwn = true ∧ r.attempt i = some x := by
  simp only [rests, Bool.and_eq_false_iff, Option.isNone_eq_false_iff,
    Option.isSome_iff_exists] at hrests
  rcases hrests with (⟨x, hx⟩ | ⟨x, hx⟩) | ⟨x, hx⟩
  · exact ⟨_, x, rfl, hx⟩
  · exact ⟨_, x, rfl, hx⟩
  · exact ⟨_, x, rfl, hx⟩

/-- Steps that can be made one after the other, beginning now. -/
inductive Chain : ShutdownRun → List Incident → Prop
  | nil (r : ShutdownRun) : Chain r []
  | cons {r : ShutdownRun} {i : Incident} {is : List Incident} (x : Coordinator × Chronicle)
      (hsome : r.attempt i = some x) (hrest : Chain (r.occur i) is) : Chain r (i :: is)

theorem isOwn_of_attempt {i : Incident} {x : Coordinator × Chronicle}
    (hsome : r.attempt i = some x) : i.isOwn = true := by
  cases i <;> first | rfl | cases hsome

/-- No chain of steps takes time, and none is longer than the work that is left. -/
theorem Chain.spec {is : List Incident} (h : Chain r is) :
    (r.follow is).now = r.now ∧
      is.length + work (r.follow is).coordinator ≤ work r.coordinator := by
  induction h with
  | nil => simp
  | @cons r i is x hsome hrest ih =>
    obtain ⟨hnow, hless⟩ := attempt_spec (k := x.1) (c := x.2) hsome
    have hoccur := occur_of_some (isOwn_of_attempt hsome) hsome
    have hfollow : r.follow (i :: is) = (r.occur i).follow is := rfl
    rw [hoccur] at ih
    rw [hfollow, hoccur, List.length_cons]
    have hmore : is.length + _ ≤ work x.1 := ih.2
    refine ⟨ih.1.trans hnow, ?_⟩
    omega

/-- From every moment on, a chain of steps leads to rest. -/
theorem exists_chain (r : ShutdownRun) : ∃ is, Chain r is ∧ (r.follow is).rests = true := by
  induction hwork : work r.coordinator using Nat.strongRecOn generalizing r with
  | ind n ih =>
    cases hrests : r.rests with
    | true => exact ⟨[], .nil r, hrests⟩
    | false =>
      obtain ⟨i, x, hown, hsome⟩ := not_rests hrests
      have hless := (attempt_spec (k := x.1) (c := x.2) hsome).2
      have hoccur := occur_of_some hown hsome
      obtain ⟨is, hchain, hrest⟩ := ih (work x.1) (hwork ▸ hless) (r.occur i) (by rw [hoccur])
      exact ⟨i :: is, .cons x hsome hchain, hrest⟩

/-! ## The desk -/

/-- A desk rests when its coordinator does. -/
theorem rests_desk (s : ShutdownDesk) (d : Docket) :
    (⟨s.coordinator, s.chronicle, d⟩ : ShutdownRun).rests = s.step?.isNone := by
  unfold rests attempt ShutdownDesk.step? Coordinator.step?
  cases s.coordinator.fireTimer? s.chronicle with
  | some x => simp
  | none =>
    cases s.coordinator.decidePosted? s.chronicle with
    | some x => simp
    | none => cases s.coordinator.takeSignal? s.chronicle <;> simp

/-- Whatever a desk does is a step of its coordinator. -/
theorem attempt_desk {s s' : ShutdownDesk} (hs : s.step? = some s') (d : Docket) :
    ∃ i, (⟨s.coordinator, s.chronicle, d⟩ : ShutdownRun).attempt i =
      some (s'.coordinator, s'.chronicle) := by
  unfold ShutdownDesk.step? Coordinator.step? at hs
  cases hfire : s.coordinator.fireTimer? s.chronicle with
  | some x =>
    rw [hfire, Option.some.injEq] at hs
    subst hs
    exact ⟨.fireTimer, hfire⟩
  | none =>
    cases hdecide : s.coordinator.decidePosted? s.chronicle with
    | some x =>
      simp only [hfire, hdecide, Option.some_or, Option.map_some, Option.some.injEq] at hs
      subst hs
      exact ⟨.decide, hdecide⟩
    | none =>
      simp only [hfire, hdecide, Option.none_or, Option.map_eq_some_iff] at hs
      obtain ⟨x, htake, rfl⟩ := hs
      exact ⟨.takeSignal, htake⟩

/-- Waking those who wait is no step. -/
theorem wake_desk (s : ShutdownDesk) :
    s.wake.coordinator = s.coordinator ∧ s.wake.chronicle = s.chronicle := by
  unfold ShutdownDesk.wake
  split <;> exact ⟨rfl, rfl⟩

/-- The steps that a desk makes are a chain. -/
theorem chain_desk (fuel : Nat) (s : ShutdownDesk) (d : Docket) :
    ∃ js, Chain ⟨s.coordinator, s.chronicle, d⟩ js ∧
      follow ⟨s.coordinator, s.chronicle, d⟩ js =
        ⟨(s.settleWithin fuel).coordinator, (s.settleWithin fuel).chronicle, d⟩ := by
  induction fuel generalizing s with
  | zero => exact ⟨[], .nil _, by simp [ShutdownDesk.settleWithin, wake_desk]⟩
  | succ fuel ih =>
    cases hs : s.step? with
    | none => exact ⟨[], .nil _, by simp [ShutdownDesk.settleWithin, hs, wake_desk]⟩
    | some u =>
      obtain ⟨i, hi⟩ := attempt_desk hs d
      obtain ⟨js, hchain, hfollow⟩ := ih u
      have hoccur := occur_of_some (isOwn_of_attempt hi) hi
      refine ⟨i :: js, .cons _ hi (hoccur ▸ hchain), ?_⟩
      have hsettle : s.settleWithin (fuel + 1) = u.settleWithin fuel := by
        simp [ShutdownDesk.settleWithin, hs]
      rw [hsettle, ← hfollow]
      exact congrArg (follow · js) hoccur

/-- A desk that makes as many steps as are left rests. -/
theorem rests_settleWithin (fuel : Nat) (s : ShutdownDesk) (d : Docket)
    (hwork : work s.coordinator ≤ fuel) :
    (⟨(s.settleWithin fuel).coordinator, (s.settleWithin fuel).chronicle, d⟩ :
      ShutdownRun).rests = true := by
  induction fuel generalizing s with
  | zero =>
    rw [ShutdownDesk.settleWithin, (wake_desk s).1, (wake_desk s).2]
    cases hrests : (⟨s.coordinator, s.chronicle, d⟩ : ShutdownRun).rests with
    | true => rfl
    | false =>
      obtain ⟨i, x, -, hsome⟩ := not_rests hrests
      have hless := (attempt_spec (k := x.1) (c := x.2) hsome).2
      exact absurd (Nat.lt_of_lt_of_le hless hwork) (Nat.not_lt_zero _)
  | succ fuel ih =>
    cases hs : s.step? with
    | none =>
      rw [ShutdownDesk.settleWithin, hs, (wake_desk s).1, (wake_desk s).2, rests_desk, hs]
      rfl
    | some u =>
      obtain ⟨i, hi⟩ := attempt_desk hs d
      have hless := (attempt_spec hi).2
      have hsettle : s.settleWithin (fuel + 1) = u.settleWithin fuel := by
        simp [ShutdownDesk.settleWithin, hs]
      rw [hsettle]
      apply ih u
      exact Nat.le_of_lt_succ (Nat.lt_of_lt_of_le hless hwork)

/-- A desk that has done what is to be done now rests. -/
theorem rests_settle (s : ShutdownDesk) (d : Docket) :
    (⟨s.settle.coordinator, s.settle.chronicle, d⟩ : ShutdownRun).rests = true := by
  apply rests_settleWithin
  have hpolls := Bool.toNat_le s.coordinator.signalsOpen
  unfold work
  split <;> omega

/-! ## At rest -/

theorem lt_deadline_of_rests (hrests : r.rests = true) :
    ∀ a ∈ r.coordinator.timers.armed, r.now < a.deadline := by
  apply Timers.due?_eq_none
  simp only [rests, attempt, Coordinator.fireTimer?, Bool.and_eq_true] at hrests
  have hnone := hrests.1.1
  split at hnone
  · assumption
  · cases hnone

/-- Nothing can have ended a run that rests and has not decided, not even now. -/
theorem Standing.lt_candidates (h : r.Standing) (hattentive : r.Attentive)
    (hrests : r.rests = true) (hundecided : r.coordinator.decision? = none) :
    ∀ x ∈ r.docket.candidates r.coordinator.gracePeriod, r.now < x.1 := by
  cases h with
  | idle h => simp [Docket.candidates, h.begun]
  | awaiting start h =>
    obtain ⟨hposts, harrivals⟩ := h.nothing_left hattentive hrests
    simp [Docket.candidates, h.begun, hposts, harrivals]
  | stopping start first rest h =>
    obtain ⟨hposts, hrest, a, -, hone, -, hdeadline⟩ := h.nothing_left hattentive hrests
    have hdue := lt_deadline_of_rests hrests a (by simp [hone])
    rintro ⟨time, t⟩ hmem
    rcases (Docket.mem_candidates h.begun).1 hmem with
      ⟨x, hx, -⟩ | ⟨x, hx, rfl, -⟩ | ⟨x, hx, -⟩
    · simp [hposts] at hx
    · obtain rfl : first = x := by simpa [h.arrivals] using hx
      exact hdeadline ▸ hdue
    · simp [h.arrivals, hrest] at hx
  | concluded time t h =>
    rw [Coordinator.decision?, h.phase] at hundecided
    cases hundecided

/-- Nothing can have ended a run that has not decided before now. -/
theorem Standing.le_candidates (h : r.Standing) (hundecided : r.coordinator.decision? = none) :
    ∀ x ∈ r.docket.candidates r.coordinator.gracePeriod, r.now ≤ x.1 := by
  cases h with
  | idle h => simp [Docket.candidates, h.begun]
  | awaiting start h => exact h.le_candidates
  | stopping start first rest h => exact h.le_candidates
  | concluded time t h =>
    rw [Coordinator.decision?, h.phase] at hundecided
    cases hundecided

theorem Standing.untold (h : r.Standing) (hundecided : r.coordinator.decision? = none) :
    terminationsOf r.chronicle.happenings = [] := by
  cases h with
  | idle h => exact h.untold
  | awaiting start h => exact h.untold
  | stopping start first rest h => exact h.untold
  | concluded time t h =>
    rw [Coordinator.decision?, h.phase] at hundecided
    cases hundecided

theorem Standing.exists_concluded (h : r.Standing) {t : Termination}
    (ht : r.coordinator.decision? = some t) : ∃ time, r.Concluded time t := by
  cases h with
  | idle h | awaiting start h =>
    rw [Coordinator.decision?, h.phase] at ht
    cases ht
  | stopping start first rest h =>
    obtain ⟨grace, hphase⟩ := h.exists_phase
    rw [Coordinator.decision?, hphase] at ht
    cases ht
  | concluded time u h =>
    rw [Coordinator.decision?, h.phase] at ht
    obtain rfl := Option.some.inj ht
    exact ⟨time, h⟩

/-- No more than four steps are ever left. -/
theorem Standing.work_le (h : r.Standing) : work r.coordinator ≤ 4 := by
  have hpolls := Bool.toNat_le r.coordinator.signalsOpen
  cases h with
  | idle h | concluded time t h => simp [work, h.phase, h.armed]
  | awaiting start h =>
    simp only [work, h.phase, h.armed, List.length_nil]
    omega
  | stopping start first rest h =>
    cases h.graced with
    | armed a hphase harmed | fired a hphase harmed =>
      simp only [work, hphase, harmed, List.length_nil, List.length_singleton]
      omega

/-- Time passes as long as nothing can have ended the run. -/
theorem Standing.now_pass (h : r.Standing) (hrests : r.rests = true) (hle : r.now ≤ time)
    (htime : r.coordinator.decision? = none →
      ∀ x ∈ r.docket.candidates r.coordinator.gracePeriod, time ≤ x.1) :
    (r.occur (.pass time)).now = time := by
  have hdue : ∀ a ∈ r.coordinator.timers.armed, time ≤ a.deadline := by
    intro a ha
    cases h with
    | idle h | awaiting start h | concluded time t h =>
      rw [h.armed] at ha
      cases ha
    | stopping start first rest h =>
      cases h.graced with
      | fired grace hphase harmed =>
        rw [harmed] at ha
        cases ha
      | armed b hphase harmed hdeadline =>
        rw [harmed] at ha
        obtain rfl := List.mem_singleton.1 ha
        have hundecided : r.coordinator.decision? = none := by
          simp [Coordinator.decision?, hphase]
        rw [hdeadline]
        apply htime hundecided (_, .shutdownTimeout)
        exact (Docket.mem_candidates h.begun).2
          (.inr (.inl ⟨first, by simp [h.arrivals], rfl, rfl⟩))
  have hmay : r.mayPass time = true := by
    simpa [mayPass, hrests, hle] using hdue
  simp [occur, hmay, now]

/-! ## Runs -/

/-- Everything that holds of a run at any time. -/
structure Kept (gracePeriod : Nat) (r : ShutdownRun) : Prop where
  gracePeriod : r.coordinator.gracePeriod = gracePeriod
  past : r.docket.Past r.now
  attentive : r.Attentive
  standing : r.Standing
  flagged : r.Flagged

theorem gracePeriod_step (hs : r.Step v) :
    v.coordinator.gracePeriod = r.coordinator.gracePeriod := by
  cases hs <;> rfl

theorem kept_follow (gracePeriod capacity : Nat) (is : List Incident) :
    ((fresh gracePeriod capacity).follow is).Kept gracePeriod := by
  apply follow_induction
  · intro r v hs h
    exact ⟨(gracePeriod_step hs).trans h.gracePeriod, past_step h.past hs, h.attentive.step hs,
      h.standing.step h.past h.attentive hs, h.flagged.step hs⟩
  · refine ⟨rfl, ⟨?_, ?_, ?_⟩, ?_, .idle ⟨⟨rfl, rfl, rfl, rfl⟩, rfl, rfl⟩, ⟨rfl, ?_⟩⟩
    · rintro t ⟨⟩
    · rintro x ⟨⟩
    · rintro x ⟨⟩
    · rintro ⟨⟩
    · rintro grace ⟨⟩

/-- What a coordinator does, by its docket. -/
structure MeetsReference (gracePeriod capacity : Nat) (is : List Incident) (r : ShutdownRun) :
    Prop where
  /-- It decides once, on one of the outcomes and at its time, … -/
  decided : ∀ t, r.coordinator.decision? = some t → ∃ time ≤ r.now,
    terminationsOf r.chronicle.happenings = [(time, .terminated t)] ∧
      (time, t) ∈ r.docket.outcomes gracePeriod
  undecided : r.coordinator.decision? = none → terminationsOf r.chronicle.happenings = []
  /-- … never if there is nothing to decide on, … -/
  never : r.docket.candidates gracePeriod = [] → r.coordinator.decision? = none
  /-- … and before time passes, or all is done, if there is. -/
  inTime : ∀ x ∈ r.docket.candidates gracePeriod,
    x.1 < r.now ∨ (x.1 = r.now ∧ r.rests = true) → r.coordinator.decision? ≠ none
  /-- It raises the flag with the first signal that it takes. -/
  flag : r.coordinator.stop.isRaised = (r.docket.isTriggered || !r.received.isEmpty)
  /-- At any moment a few steps lead to rest, and there is no way to make more of them. -/
  settles : ∃ js, Chain r js ∧ (r.follow js).rests = true
  swift : ∀ js, Chain r js → js.length ≤ 4 ∧ (r.follow js).now = r.now
  /-- At rest, time passes up to the first of the outcomes. -/
  passes : r.rests = true → ∀ time, r.now ≤ time →
    (r.coordinator.decision? = none → ∀ x ∈ r.docket.candidates gracePeriod, time ≤ x.1) →
      (r.occur (.pass time)).now = time
  /-- Whatever it comes to after the closing of the buffer, it comes to as well if that stays open
  and nobody sends any signals.  All that is left out of what happens is a passing of time that was
  refused, as the coordinator had yet to find the buffer closed. -/
  closing : ∀ before after, is = before ++ .closeSignals :: after →
    ∃ silence, Pads Incident.isPass silence (after.filter fun i => !i.isSending) ∧
      r.opened = ((fresh gracePeriod capacity).follow (before ++ silence)).opened
  /-- Whatever it comes to if nobody sends any signals any more, it comes to as well if the buffer
  is closed.  All that is put in is the step in which the coordinator finds that out. -/
  silence : ∀ before silence, is = before ++ silence → (∀ i ∈ silence, i.isSending = false) →
    ∃ after, Pads (· == .takeSignal) silence after ∧
      ((fresh gracePeriod capacity).follow (before ++ .closeSignals :: after)).opened = r.opened

/-- **The coordinator decides as its docket says.**  It ends its run at the earliest of the first
termination that others post, the grace period after the first signal, and the second signal, and
with what belongs to it; without any of them it never ends. -/
theorem meets_reference (gracePeriod capacity : Nat) (is : List Incident) :
    MeetsReference gracePeriod capacity is ((fresh gracePeriod capacity).follow is) := by
  have hkept := kept_follow gracePeriod capacity is
  have hclosing : ∀ before after, is = before ++ .closeSignals :: after →
      ∃ silence, Pads Incident.isPass silence (after.filter fun i => !i.isSending) ∧
        ((fresh gracePeriod capacity).follow is).opened =
          ((fresh gracePeriod capacity).follow (before ++ silence)).opened := by
    rintro before after rfl
    simp only [follow_append]
    exact exists_silence (attentive_follow gracePeriod capacity before) after
  have hsilence : ∀ before silence, is = before ++ silence →
      (∀ i ∈ silence, i.isSending = false) →
      ∃ after, Pads (· == .takeSignal) silence after ∧
        ((fresh gracePeriod capacity).follow (before ++ .closeSignals :: after)).opened =
          ((fresh gracePeriod capacity).follow is).opened := by
    rintro before silence rfl hsilent
    simp only [follow_append]
    exact exists_closing (attentive_follow gracePeriod capacity before) hsilent
  generalize (fresh gracePeriod capacity).follow is = r at hkept hclosing hsilence
  obtain ⟨rfl, hpast, hattentive, hstanding, hflagged⟩ := hkept
  constructor
  · intro t ht
    obtain ⟨time, h⟩ := hstanding.exists_concluded ht
    exact ⟨time, h.past, h.told, h.outcome⟩
  · exact hstanding.untold
  · intro hnone
    rw [Option.eq_none_iff_forall_ne_some]
    intro t ht
    obtain ⟨time, h⟩ := hstanding.exists_concluded ht
    have hmem := (Docket.mem_outcomes.1 h.outcome).1
    rw [hnone] at hmem
    cases hmem
  · rintro x hx hdue hundecided
    rcases hdue with hlate | ⟨hnow, hrests⟩
    · exact Nat.not_le_of_lt hlate (hstanding.le_candidates hundecided x hx)
    · exact Nat.ne_of_gt (hstanding.lt_candidates hattentive hrests hundecided x hx) hnow
  · exact hflagged.raised
  · exact exists_chain r
  · intro js hjs
    have hwork := hstanding.work_le
    obtain ⟨hnow, hlength⟩ := hjs.spec
    exact ⟨by omega, hnow⟩
  · intro hrests time hle htime
    exact hstanding.now_pass hrests hle htime
  · exact hclosing
  · exact hsilence

/-- A signal with nothing after it lets the grace period run out. -/
example :
    let r := (fresh 100 2).follow
      [.run, .signal .interrupt, .takeSignal, .pass 100, .fireTimer, .decide]
    r.docket.outcomes 100 = [(100, .shutdownTimeout)] ∧
      r.coordinator.decision? = some .shutdownTimeout := by
  decide

end Hotplug.ShutdownRun
