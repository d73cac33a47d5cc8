import Hotplug.Proofs.Clock
import Hotplug.Proofs.Graceful
import Hotplug.Proofs.Progress
import Hotplug.Settings.Validation

/-!
# Healthy runs complete

A healthy run that takes one signal completes, just as long after it as its library calls still
take.

* `Supervision.HealthySoFar` — a run that has been healthy at every moment.
* `Supervision.TakesOnly` — the moment at which a run takes its only signal.
* `Supervision.CompletesAt` — what it means to complete at a certain time.
* `Supervision.healthy_run_completes` — so it is in every healthy run.
-/

namespace Hotplug

open Scene (Act Step)

namespace Supervision

variable {L : EventLoop} (s : Supervision L)

/-! ## Runs that take one signal -/

/-- A run was healthy at every moment. -/
def HealthySoFar (os : List Occurrence) : Prop :=
  ∀ ps, ps <+: os → (s.after ps).IsHealthy

/-- Whether a run was healthy at every moment can be seen. -/
instance (os : List Occurrence) : Decidable (s.HealthySoFar os) :=
  decidable_of_iff (∀ n ≤ os.length, (s.after (os.take n)).IsHealthy)
    ⟨fun h ps hps => List.prefix_iff_eq_take.1 hps ▸ h ps.length hps.length_le,
      fun h n _ => h (os.take n) (List.take_prefix n os)⟩

/-- The only signal that the coordinator takes is one that it takes at `t`, after `before`. -/
structure TakesOnly (before after : List Occurrence) (t : Nat) : Prop where
  calm : signalTimes (s.history before) = []
  taken : signalTimes (s.history (before ++ [.move .takeSignal])) = [t]
  only : signalTimes (s.history (before ++ .move .takeSignal :: after)) = [t]

theorem signalTimes_outline (os : List Occurrence) :
    signalTimes (s.after os).scene.outline = signalTimes (s.history os) :=
  signalTimes_outlineOf _

/-- Signals that were taken stay so. -/
theorem length_signalTimes_le (os : List Occurrence) (o : Occurrence) :
    (signalTimes (s.history os)).length ≤ (signalTimes (s.history (os ++ [o]))).length := by
  obtain ⟨new, heq⟩ := (s.step_after os o).outline_suffix
  rw [← s.signalTimes_outline, ← s.signalTimes_outline, ← heq, signalTimes_append,
    List.length_append]
  exact Nat.le_add_left _ _

section

variable {s} {os : List Occurrence} {t time : Nat}

theorem HealthySoFar.scene (h : s.HealthySoFar os) : (s.after os).scene.Healthy :=
  (h os (List.prefix_refl os)).scene (s.quitsRemoved_after os)

theorem HealthySoFar.before {ps : List Occurrence} (h : s.HealthySoFar (os ++ ps)) :
    s.HealthySoFar os :=
  fun qs hqs => h qs (hqs.trans (List.prefix_append os ps))

/-- A healthy run is sound until the first signal. -/
theorem HealthySoFar.sound (h : s.HealthySoFar os)
    (hphase : (s.after os).coordinator.phase = .awaitingSignal) : (s.after os).scene.Sound := by
  revert h hphase
  refine run_induction
    (P := fun os => s.HealthySoFar os → (s.after os).coordinator.phase = .awaitingSignal →
      (s.after os).scene.Sound) ?_ ?_ os
  · intro _ hphase
    have hframe := s.frame_start
    cases hrefusal : s.refusal? with
    | some r =>
      rw [hrefusal] at hframe
      have hdropped : s.start.coordinator.phase = .dropped :=
        congrArg (fun f : Frame => f.coordinator.phase) hframe
      rw [show s.start.coordinator.phase = .awaitingSignal from hphase] at hdropped
      cases hdropped
    | none =>
      rw [hrefusal] at hframe
      exact .of_deciding (congrArg Frame.cycle hframe) s.session_start
        (congrArg Frame.calls hframe) (congrArg (fun f : Frame => f.coordinator.posted) hframe)
  · intro os o ih h hphase
    have hs := s.step_after os o
    have hbefore := hs.awaiting (s.reached_after os).steered (s.reached_after _).steered hphase
    refine (ih h.before hbefore).step_awaiting (s.orderly_after os) (s.reached_after os) hbefore
      h.scene hs ?_
    simp [Coordinator.isRunning, show (s.after (os ++ [o])).scene.coordinator.phase = _ from hphase]

/-- A healthy run that is on its way to its end stays so. -/
theorem completes_append (h : (s.after os).scene.Completes t time)
    (htime : time < t + s.settings.shutdown.gracePeriod) {ps : List Occurrence}
    (hhealthy : s.HealthySoFar (os ++ ps))
    (hone : (signalTimes (s.history (os ++ ps))).length ≤ 1) :
    (s.after (os ++ ps)).scene.Completes t time := by
  revert hhealthy hone
  refine induction_from
    (P := fun os => s.HealthySoFar os → (signalTimes (s.history os)).length ≤ 1 →
      (s.after os).scene.Completes t time) ?_ (fun _ _ => h) ps
  intro os o ih hhealthy hone
  refine (ih hhealthy.before (Nat.le_trans (s.length_signalTimes_le os o) hone)).step
    (s.orderly_after os) (s.accompanied_after os) (s.reached_after os) htime hhealthy.scene ?_
    (s.step_after os o)
  rw [s.signalTimes_outline]
  exact hone

end

end Supervision

/-! ## Runs whose clock is let go -/

namespace World

variable {L : EventLoop} {w w' : World L} {t time target : Nat}

/-- A run goes well while its clock is let go until `target`. -/
structure GoesWell (w : World L) (target : Nat) : Prop where
  healthy : ∀ fuel, (w.advance fuel target).IsHealthy
  /-- It takes one signal at most. -/
  signal : ∀ fuel, (signalTimes (w.advance fuel target).chronicle.happenings).length ≤ 1
  /-- The event loop comes to rest again and again. -/
  rests : ∀ fuel, ∃ more, fuel ≤ more ∧ (w.advance more target).eventLoop? = none

/-- Whether a run goes well while its clock is let go until `target`, if nothing happens any more
after at most so many steps. -/
def goesWellIn (target : Nat) : Nat → World L → Bool
  | 0, _ => false
  | n + 1, w =>
    decide w.IsHealthy && decide ((signalTimes w.chronicle.happenings).length ≤ 1) &&
      match w.advanceStep? target with
      | some w' => goesWellIn target n w'
      | none => decide (w.atTime target).IsHealthy && (w.atTime target).eventLoop?.isNone

theorem GoesWell.of_goesWellIn (n : Nat) (h : w.goesWellIn target n = true) :
    w.GoesWell target := by
  induction n generalizing w with
  | zero => cases h
  | succ n ih =>
    simp only [goesWellIn, Bool.and_eq_true, decide_eq_true_eq] at h
    obtain ⟨⟨hhealthy, hsignal⟩, hrest⟩ := h
    cases hw : w.advanceStep? target with
    | some w' =>
      rw [hw] at hrest
      have hnext := ih hrest
      constructor
      · rintro (_ | fuel)
        · exact hhealthy
        · exact advance_succ hw fuel ▸ hnext.healthy fuel
      · rintro (_ | fuel)
        · exact hsignal
        · exact advance_succ hw fuel ▸ hnext.signal fuel
      · intro fuel
        obtain ⟨more, hle, hidle⟩ := hnext.rests fuel
        refine ⟨more + 1, Nat.le_succ_of_le hle, ?_⟩
        rwa [advance_succ hw]
    | none =>
      rw [hw] at hrest
      simp only [Bool.and_eq_true, decide_eq_true_eq, Option.isNone_iff_eq_none] at hrest
      obtain ⟨hhealthy', hidle⟩ := hrest
      constructor
      · rintro (_ | fuel)
        · exact hhealthy
        · exact advance_of_none hw fuel ▸ hhealthy'
      · rintro (_ | fuel)
        · exact hsignal
        · exact advance_of_none hw fuel ▸ hsignal
      · exact fun fuel => ⟨fuel + 1, Nat.le_succ fuel, advance_of_none hw fuel ▸ hidle⟩

theorem GoesWell.next (h : w.GoesWell target) (hw : w.advanceStep? target = some w') :
    w'.GoesWell target where
  healthy fuel := advance_succ hw fuel ▸ h.healthy (fuel + 1)
  signal fuel := advance_succ hw fuel ▸ h.signal (fuel + 1)
  rests fuel := by
    obtain ⟨more, hle, hrests⟩ := h.rests (fuel + 1)
    obtain ⟨more, rfl⟩ : ∃ n, more = n + 1 := ⟨more - 1, by omega⟩
    rw [advance_succ hw] at hrests
    exact ⟨more, by omega, hrests⟩

/-- Whenever the clock is let go, time passes, or there is less to do, or it was the turn of the
event loop. -/
theorem work_of_advanceStep? {g : Settings} (hord : w.frame.Orderly)
    (hreached : w.frame.conduct.Reached g) (h : w.scene.Closing t time)
    (htime : time < t + g.shutdown.gracePeriod) (hpoll : 0 < w.setup.pollInterval)
    (hhealthy : w'.scene.Healthy) (hrun : w'.coordinator.isRunning = true)
    (hw : w.advanceStep? target = some w') :
    w.now < w'.now ∨ w'.now = w.now ∧
      (w'.scene.work < w.scene.work ∨
        w'.scene.work = w.scene.work ∧ w.eventLoop? = some w') := by
  unfold advanceStep? at hw
  cases hnext : w.next? with
  | some v =>
    obtain rfl : v = w' := by simpa [hnext] using hw
    obtain ⟨m, hm⟩ := exists_move_of_next? hnext
    have hact := act_attempt hord hm
    refine .inr ⟨now_of_next? hord hnext, ?_⟩
    by_cases hloop : m = .eventLoop
    · subst hloop
      exact .inr ⟨hact.work_eq hhealthy, hm⟩
    · exact .inl (hact.work_lt h hord hreached htime hpoll hhealthy hloop hrun)
  | none =>
    simp only [hnext] at hw
    obtain ⟨next, hdue, rfl⟩ := Option.map_eq_some_iff.1 hw
    exact .inl (now_lt_of_nextDue? (Option.filter_eq_some_iff.1 hdue).1)

end World

namespace Supervision

variable {L : EventLoop} {s : Supervision L} {t time target : Nat}

/-- The next moment of a healthy run that is on its way to its end. -/
theorem completes_next (htime : time < t + s.settings.shutdown.gracePeriod)
    {os : List Occurrence} (h : (s.after os).scene.Closing t time)
    (hwell : (s.after os).GoesWell target) {o : Occurrence}
    (ho : (s.after os).advance 1 target = s.after (os ++ [o])) :
    (s.after (os ++ [o])).scene.Healthy ∧ (s.after (os ++ [o])).scene.Completes t time := by
  have hone := hwell.signal 1
  have hhealthy := hwell.healthy 1
  rw [ho] at hone hhealthy
  have hscene := hhealthy.scene (s.quitsRemoved_after _)
  refine ⟨hscene, h.step (s.orderly_after os) (s.accompanied_after os) (s.reached_after os) htime
    hscene ?_ (s.step_after os o)⟩
  rw [s.signalTimes_outline]
  exact hone

/-- Time does not pass beyond the end of a healthy run that is on its way there. -/
theorem exists_advanceStep? (htime : time < t + s.settings.shutdown.gracePeriod)
    (htarget : time < target) {os : List Occurrence} (h : (s.after os).scene.Closing t time)
    (hwell : (s.after os).GoesWell target) :
    ∃ o, (s.after os).advanceStep? target = some (s.after (os ++ [o])) := by
  have hle : (s.after os).now ≤ target := Nat.le_of_lt (Nat.lt_of_le_of_lt h.now_le htarget)
  cases hw : (s.after os).advanceStep? target with
  | some w' =>
    obtain ⟨-, o, ho⟩ := World.occur_of_advanceStep? (s.orderly_after os) hle hw
    rw [← s.after_concat] at ho
    exact ⟨o, by rw [ho]⟩
  | none =>
    have hpass : s.after (os ++ [.pass target]) = (s.after os).atTime target := by
      rw [after_concat]
      simp [World.occur, World.mayPass_of_advanceStep? hle hw]
    obtain ⟨-, hcompletes⟩ :=
      completes_next htime h hwell ((World.advance_of_none hw 0).trans hpass.symm)
    rw [hpass] at hcompletes
    obtain ⟨grace, hphase⟩ := h.phase
    have hphase' : ((s.after os).atTime target).scene.coordinator.phase = .stopping grace := hphase
    rcases hcompletes with hclosing | hdone
    · exact absurd hclosing.now_le (Nat.not_le_of_lt htarget)
    · rw [hdone.phase] at hphase'
      cases hphase'

/-- A healthy run that is on its way to its end gets there as its clock is let go. -/
theorem completes_advance (hpoll : 0 < s.settings.device.pollInterval)
    (htime : time < t + s.settings.shutdown.gracePeriod) (htarget : time < target)
    (os : List Occurrence) (hclosing : (s.after os).scene.Closing t time)
    (hwell : (s.after os).GoesWell target) (rest : Nat)
    (hrest : ((s.after os).advance rest target).eventLoop? = none) :
    ∃ fuel, ((s.after os).advance fuel target).scene.HasCompleted time := by
  obtain ⟨o, hw⟩ := exists_advanceStep? htime htarget hclosing hwell
  have hwell' := hwell.next hw
  obtain ⟨hhealthy, hcompletes⟩ := completes_next htime hclosing hwell (World.advance_succ hw 0)
  -- What the next moment leads to, this one leads to.
  have hback : (∃ fuel, ((s.after (os ++ [o])).advance fuel target).scene.HasCompleted time) →
      ∃ fuel, ((s.after os).advance fuel target).scene.HasCompleted time := by
    rintro ⟨fuel, hfuel⟩
    rw [← World.advance_succ hw] at hfuel
    exact ⟨fuel + 1, hfuel⟩
  refine hback ?_
  obtain ⟨rest', -, hrest'⟩ := hwell'.rests 0
  rcases hcompletes with hclosing' | hdone
  · have hsetup : (s.after os).setup = s.setup := s.setup_after os
    have hpoll' : 0 < (s.after os).setup.pollInterval := by
      rw [hsetup]
      exact hpoll
    rcases World.work_of_advanceStep? (s.orderly_after os) (s.reached_after os) hclosing htime
      hpoll' hhealthy hclosing'.isRunning hw with hlater | ⟨hnow, hless | ⟨hsame, hloop⟩⟩
    · exact completes_advance hpoll htime htarget (os ++ [o]) hclosing' hwell' rest' hrest'
    · exact completes_advance hpoll htime htarget (os ++ [o]) hclosing' hwell' rest' hrest'
    · obtain ⟨n, hn⟩ : ∃ n, rest = n + 1 := by
        refine Nat.exists_eq_succ_of_ne_zero ?_
        rintro rfl
        rw [show ((s.after os).advance 0 target).eventLoop? = _ from hloop] at hrest
        cases hrest
      rw [hn, World.advance_succ hw] at hrest
      exact completes_advance hpoll htime htarget (os ++ [o]) hclosing' hwell' n hrest
  · exact ⟨0, hdone⟩
termination_by (time - (s.after os).now, (s.after os).scene.work, rest)
decreasing_by
  · have hle : (s.after (os ++ [o])).now ≤ time := hclosing'.now_le
    exact Prod.Lex.left _ _ (by omega)
  · rw [hnow]
    exact Prod.Lex.right _ (Prod.Lex.left _ _ hless)
  · rw [hnow, hsame]
    exact Prod.Lex.right _ (Prod.Lex.right _ (by omega))

/-! ## Runs that have returned -/

end Supervision

/-- A run has returned `x`, and decided so at `time` and never else. -/
structure World.HasReturned {L : EventLoop} (w : World L) (x : Termination) (time : Nat) :
    Prop where
  outcome : w.outcome? = some (.ok x)
  decided : terminationsOf w.chronicle.happenings = [(time, .terminated x)]

namespace Supervision

variable {L : EventLoop} (s : Supervision L)

/-- A run is to return that it is completed, at time `time` and no other. -/
structure CompletesAt (os : List Occurrence) (time : Nat) : Prop where
  /-- As long as it goes on, the time has not passed. -/
  inTime : (s.after os).outcome? = none → (s.after os).now ≤ time
  /-- If it has returned, then so. -/
  completed : (s.after os).outcome? ≠ none → (s.after os).HasReturned .completed time
  /-- If its clock is let go beyond that time, it returns. -/
  comes : ∀ target, time < target → (s.after os).GoesWell target →
    ∃ fuel, ((s.after os).advance fuel target).HasReturned .completed time

/-- In a valid configuration some time passes between two looks. -/
theorem pollInterval_pos (h : s.settings.problems = []) : 0 < s.settings.device.pollInterval := by
  refine Nat.pos_of_ne_zero fun hzero => ?_
  obtain ⟨hnamed, -⟩ := List.append_eq_nil_iff.1 (List.append_eq_nil_iff.1 h).1
  have hnone := List.filter_eq_nil_iff.1 (List.map_eq_nil_iff.1 hnamed)
    ("device.poll_interval_ms", s.settings.device.pollInterval) List.mem_cons_self
  simp [hzero] at hnone

variable {s}

/-- A run that has completed has returned so. -/
theorem hasReturned_of_hasCompleted {os : List Occurrence} {time : Nat}
    (h : (s.after os).scene.HasCompleted time) : (s.after os).HasReturned .completed time := by
  have hreached := s.reached_after os
  have hphase : (s.after os).coordinator.phase = .decided .completed := h.phase
  constructor
  · obtain ⟨hduty, -, -⟩ := hreached.honest.decided h.phase
    have hcycle : ∀ r, (s.after os).cycle ≠ .refused r := by
      intro r hr
      have hrefused : (s.after os).frame.duty = .refused r := by
        unfold Frame.duty
        rw [show (s.after os).frame.cycle = .refused r from hr]
      rw [show (s.after os).frame.duty = .finished from hduty] at hrefused
      cases hrefused
    unfold World.outcome?
    split
    · exact absurd ‹_› (hcycle _)
    · simp [Coordinator.decision?, hphase]
  · obtain ⟨t, hterms, -⟩ := hreached.caused.decided .completed h.phase
    have hmem :
        (time, .terminated .completed) ∈ terminationsOf (s.after os).frame.conduct.outline :=
      mem_terminationsOf.2 h.told
    rw [hterms] at hmem
    obtain rfl : time = t := (Prod.mk.inj (List.mem_singleton.1 hmem)).1
    exact (terminationsOf_outlineOf _).symm.trans hterms

theorem outcome?_of_closing {os : List Occurrence} {t time : Nat}
    (h : (s.after os).scene.Closing t time) : (s.after os).outcome? = none := by
  obtain ⟨grace, hphase⟩ := h.phase
  have hphase' : (s.after os).coordinator.phase = .stopping grace := hphase
  have hcycle : ∀ r, (s.after os).cycle ≠ .refused r := by
    intro r hr
    have huncut := h.sound.uncut
    rw [show (s.after os).scene.cycle = .refused r from hr] at huncut
    cases huncut
  unfold World.outcome?
  split
  · exact absurd ‹_› (hcycle _)
  · simp [Coordinator.decision?, hphase']

variable (s)

/-- **A healthy shutdown always completes, with no time lost.**  A run that is healthy takes its
only signal at `t`.  If what its calls still take then is less than the grace period, the run
returns that it is completed as soon as they are over. -/
theorem healthy_run_completes (before after : List Occurrence) {t d : Nat}
    (hvalid : s.settings.problems = []) (hsignal : s.TakesOnly before after t)
    (hhealthy : s.HealthySoFar (before ++ .move .takeSignal :: after))
    (hleft : (s.after before).scene.left? = some d)
    (hgrace : d < s.settings.shutdown.gracePeriod) :
    s.CompletesAt (before ++ .move .takeSignal :: after) (t + d) := by
  have htime : t + d < t + s.settings.shutdown.gracePeriod := Nat.add_lt_add_left hgrace t
  have htaken := hsignal.taken
  have hcalm := hsignal.calm
  have hone : (signalTimes (s.history (before ++ .move .takeSignal :: after))).length ≤ 1 := by
    simp [hsignal.only]
  rw [List.append_cons] at hhealthy hone ⊢
  rw [← s.signalTimes_outline] at htaken hcalm
  -- The coordinator waits for its first signal, or it would have taken none.
  have hphase : (s.after before).coordinator.phase = .awaitingSignal :=
    ((s.step_after before _).firstSignal (s.reached_after before).steered hcalm htaken).1
  have hsound : (s.after before).scene.Sound := hhealthy.before.before.sound hphase
  have hclosing : (s.after (before ++ [.move .takeSignal])).scene.Closing t (t + d) :=
    hsound.closing (s.orderly_after before) (s.reached_after before) hcalm hleft
      hhealthy.before.scene (s.step_after before _) htaken
  rcases completes_append (.inl hclosing) htime hhealthy hone with hclosing' | hdone
  · have hnone := outcome?_of_closing hclosing'
    refine ⟨fun _ => hclosing'.now_le, fun hsome => absurd hnone hsome, ?_⟩
    intro target htarget hwell
    obtain ⟨rest, -, hrest⟩ := hwell.rests 0
    obtain ⟨fuel, hdone⟩ := completes_advance (s.pollInterval_pos hvalid) htime htarget _ hclosing'
      hwell rest hrest
    obtain ⟨ps, hps⟩ := s.advance_after _ fuel
      (Nat.le_of_lt (Nat.lt_of_le_of_lt hclosing'.now_le htarget))
    rw [← hps] at hdone
    refine ⟨fuel, ?_⟩
    rw [← hps]
    exact hasReturned_of_hasCompleted hdone
  · have hreturned := hasReturned_of_hasCompleted hdone
    refine ⟨fun hnone => ?_, fun _ => hreturned, fun _ _ _ => ⟨0, hreturned⟩⟩
    rw [hreturned.outcome] at hnone
    cases hnone

/-- A run whose library takes its time, and whose event loop waits to be told that the driver is
removed. -/
def unhurried : Supervision (Script.loop [[.awaitQuit]]) where
  files := .plugged
  library := {
    adding := fun _ => { hold := some 10 }
    removing := fun _ => { hold := some 20 }
    stopping := { hold := some 5 } }
  loop := {}

/-- A signal comes while the driver is being added. -/
def unhurriedBefore : List Occurrence :=
  [.move .cycle, .move .cycle, .pass 4, .signal .interrupt]

/-- The driver is added and removed, and the manager is stopped. -/
def unhurriedAfter : List Occurrence :=
  [.pass 10, .move .endCall, .move .watchRemoval, .move .forwardStop, .move .session, .pass 30,
    .move .endCall, .move .eventLoop, .move .eventLoop, .move .session, .move .cycle, .pass 35,
    .move .endCall, .move .decide]

/-- The world as the signal is taken. -/
def unhurriedWarned : World (Script.loop [[.awaitQuit]]) :=
  unhurried.after (unhurriedBefore ++ [.move .takeSignal])

/-- The clock may be let go from there on. -/
theorem goesWell_unhurriedWarned : unhurriedWarned.GoesWell 36 :=
  .of_goesWellIn 20 (by decide +kernel)

theorem healthy_run_completes_unhurried :
    (unhurried.after (unhurriedBefore ++ .move .takeSignal :: unhurriedAfter)).HasReturned
        .completed 35 ∧
      ∃ fuel, (unhurriedWarned.advance fuel 36).HasReturned .completed 35 :=
  ⟨(healthy_run_completes (t := 4) (d := 31) unhurried unhurriedBefore unhurriedAfter (by decide)
      ⟨by decide +kernel, by decide +kernel, by decide +kernel⟩ (by decide +kernel)
      (by decide +kernel) (by decide)).completed (by decide +kernel),
    (healthy_run_completes (t := 4) (d := 31) unhurried unhurriedBefore [] (by decide)
      ⟨by decide +kernel, by decide +kernel, by decide +kernel⟩ (by decide +kernel)
      (by decide +kernel) (by decide)).comes 36 (by decide) goesWell_unhurriedWarned⟩

end Supervision

end Hotplug
