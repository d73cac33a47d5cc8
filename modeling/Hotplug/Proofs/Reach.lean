import Hotplug.Proofs.Steps

/-!
# What a run can come to

The conducts that a supervised run can come to, one step after the other.

* `Conduct.Reached` — these conducts.
* `Supervision.run_induction`, `after_induction` — what every step preserves holds in the whole
  run.
* `Supervision.reached_after` — whatever happens in a supervised run, its conduct is one of
  these.
-/

namespace Hotplug

/-- How the coordinator of a run begins, with these signals waiting. -/
def Coordinator.fresh (g : Settings) (b : SignalBuffer) : Coordinator where
  gracePeriod := g.shutdown.gracePeriod
  phase := .awaitingSignal
  signals := b

namespace Conduct

variable {g : Settings}

/-- How a run begins if the library gives out a manager. -/
def begun (g : Settings) (b : SignalBuffer) : Conduct where
  now := 0
  duty := .idle
  count := 0
  coordinator := .fresh g b
  outline := [(0, .managerStarting g.managerOptions)]

/-- How a run begins, and ends, if the library gives out no manager. -/
def refused (g : Settings) (b : SignalBuffer) (r : Refusal) : Conduct where
  now := 0
  duty := .refused r
  count := 0
  coordinator := { Coordinator.fresh g b with phase := .dropped }
  outline := [(0, .managerStarting g.managerOptions)]

/-- The conducts that a run can come to. -/
inductive Reached (g : Settings) : Conduct → Prop where
  | begun (b : SignalBuffer) : Reached g (begun g b)
  | refused (b : SignalBuffer) (r : Refusal) : Reached g (refused g b r)
  | step {c c' : Conduct} (hr : Reached g c) (hs : Step g c c') : Reached g c'

end Conduct

/-- Nothing has happened later than at `now`. -/
def UpTo (now : Nat) (hs : List (Nat × Happening)) : Prop :=
  ∀ e ∈ hs, e.1 ≤ now

theorem UpTo.cons {now : Nat} {hs : List (Nat × Happening)} (h : UpTo now hs) (x : Happening) :
    UpTo now ((now, x) :: hs) :=
  List.forall_mem_cons.2 ⟨Nat.le_refl now, h⟩

namespace Conduct

variable {g : Settings} {c c' : Conduct}

theorem upTo_post (h : UpTo c.now c.outline) (t : Termination) : UpTo c.now (c.post t).outline := by
  change UpTo c.now (if _ then _ else _)
  split
  · exact h.cons _
  · exact h

theorem upTo_raiseStop (h : UpTo c.now c.outline) : UpTo c.now c.raiseStop.outline := by
  change UpTo c.now (if _ then _ else _)
  split
  · exact h
  · exact h.cons _

theorem Step.upTo (h : UpTo c.now c.outline) (hs : Step g c c') : UpTo c'.now c'.outline := by
  cases hs with
  | quiet | signals | ignoreSignals => exact h
  | pass time hle => exact fun e he => Nat.le_trans (h e he) hle
  | fire a => exact upTo_post (c := c.tell (.timerFired a.id a.termination)) (h.cons _) _
  | firstSignal s b =>
    exact (upTo_raiseStop (c := (c.setSignals b).tell (.signalTaken s)) (h.cons _)).cons _
  | look | decide | beginStop | addPanicked | skipped | skipStopped | driverRemoved | sessionEnded
  | loopEnded | lateEnd => exact h.cons _
  | secondSignal | skipEnded | removalFailed => exact (h.cons _).cons _
  | added => exact ((h.cons _).cons _).cons _
  | beginSession | beginRemoval => exact (((h.cons _).cons _).cons _).cons _
  | loopPanicked n reason =>
    exact upTo_post (c := c.cutOff.tell (.logged (.loopPanicked reason) none)) (h.cons _) _
  | stopped r => exact upTo_post (c := c.tell (.callEnded .stop r)) (h.cons _) _

/-- Nothing has happened later than now. -/
theorem Reached.upTo (h : Reached g c) : UpTo c.now c.outline := by
  induction h with
  | begun | refused =>
    intro e he
    obtain rfl := List.mem_singleton.1 he
    exact Nat.le_refl 0
  | step hr hs ih => exact hs.upTo ih

end Conduct

/-- What every step of the conduct preserves holds of whatever an orderly world comes to. -/
theorem World.follow_induction {L : EventLoop} {setup : Setup} {P : Conduct → Prop}
    (hstep : ∀ c c', Conduct.Step setup.settings c c' → P c → P c') (w : World L)
    (os : List Occurrence) (hsetup : w.setup = setup) (h : w.frame.Orderly)
    (hP : P w.frame.conduct) :
    (w.follow os).setup = setup ∧ (w.follow os).frame.Orderly ∧ P (w.follow os).frame.conduct := by
  induction os generalizing w with
  | nil => exact ⟨hsetup, h, hP⟩
  | cons o os ih =>
    obtain ⟨hsame, hord, hs⟩ := orderly_occur h o
    rw [hsetup] at hs
    exact ih (w.occur o) (hsame.trans hsetup) hord (hstep _ _ hs hP)

theorem Frame.cycle_of_refused {f : Frame} {r : Refusal} (hd : f.duty = .refused r) :
    f.cycle = .refused r := by
  cases hc : f.cycle with
  | refused r' => simpa [Frame.duty, hc] using hd
  | inSession =>
    cases hs : f.session with
    | none => simp [Frame.duty, hc, hs] at hd
    | some s =>
      have hactive := s.isActive_duty
      simp only [Frame.duty, hc, hs, Option.elim_some] at hd
      rw [hd] at hactive
      cases hactive
  | attended | deciding | waiting | stopping | finished | cancelled | panicked =>
    simp [Frame.duty, hc] at hd

/-- A run that has returned a termination has decided so. -/
theorem World.phase_of_outcome? {L : EventLoop} {w : World L} {t : Termination}
    (h : w.outcome? = some (.ok t)) : w.coordinator.phase = .decided t := by
  unfold World.outcome? at h
  split at h
  · cases h
  · obtain ⟨t', ht', heq⟩ := Option.map_eq_some_iff.1 h
    obtain rfl := Except.ok.inj heq
    unfold Coordinator.decision? at ht'
    split at ht'
    · rename_i hphase
      rw [hphase, Option.some.inj ht']
    · cases ht'

namespace Supervision

variable {L : EventLoop} (s : Supervision L)

/-- The signals that wait at the start. -/
def signals : SignalBuffer :=
  { capacity := s.signalCapacity }

/-- The frame of a run at its start. -/
theorem frame_start :
    s.start.frame =
      { setup := s.setup
        now := 0
        outline := [(0, .managerStarting s.settings.managerOptions)]
        cycle := s.refusal?.elim .deciding .refused
        session := none
        count := 0
        calls := []
        coordinator := s.refusal?.elim (.fresh s.settings s.signals)
          fun _ =>
            { Coordinator.fresh s.settings s.signals.stopReading with phase := .dropped } } := by
  let c : Chronicle := Chronicle.record {} (.managerStarting s.settings.managerOptions)
  have hstart : s.start = World.launch s.setup s.loop s.files s.signalCapacity := rfl
  have href : s.refusal? = (s.library.start c s.settings.managerOptions).1 := rfl
  rw [hstart, href]
  unfold World.launch
  simp only [setup, Bool.false_eq_true, if_false]
  cases hl : (s.library.start c s.settings.managerOptions).1 with
  | none =>
    simp only [World.frame, World.now, c] at hl ⊢
    simp [Coordinator.fresh, Coordinator.run, Message.isLoopPanic, signals]
    rfl
  | some r =>
    simp only [World.frame, World.now, c] at hl ⊢
    simp [Coordinator.fresh, signals]
    rfl

theorem orderly_start : s.start.frame.Orderly := by
  rw [frame_start]
  cases s.refusal? <;> constructor <;> simp [Coordinator.fresh, setup, Frame.duty, Duty.call?]

theorem reached_start : Conduct.Reached s.settings s.start.frame.conduct := by
  rw [frame_start]
  cases s.refusal? with
  | none => exact .begun _
  | some r => exact .refused _ r

/-- What holds at some time, and is preserved by whatever happens, goes on to hold. -/
theorem induction_from {P : List Occurrence → Prop} {os : List Occurrence}
    (hstep : ∀ os o, P os → P (os ++ [o])) (h : P os) (ps : List Occurrence) : P (os ++ ps) := by
  induction ps generalizing os with
  | nil =>
    rw [List.append_nil]
    exact h
  | cons o ps ih =>
    rw [List.append_cons]
    exact ih (hstep os o h)

/-- What holds at the start, and is preserved by whatever happens, holds in the whole run. -/
theorem run_induction {P : List Occurrence → Prop} (hstart : P [])
    (hstep : ∀ os o, P os → P (os ++ [o])) (os : List Occurrence) : P os :=
  (induction_from hstep hstart os :)

/-- What holds of the conduct at the start of a run, and is preserved by every step, holds in the
whole run. -/
theorem after_induction {P : Conduct → Prop}
    (hstep : ∀ c c', Conduct.Step s.settings c c' → P c → P c') (hstart : P s.start.frame.conduct)
    (os : List Occurrence) :
    (s.after os).setup = s.setup ∧ (s.after os).frame.Orderly ∧ P (s.after os).frame.conduct :=
  World.follow_induction hstep s.start os (congrArg Frame.setup s.frame_start)
    s.orderly_start hstart

theorem orderly_after (os : List Occurrence) : (s.after os).frame.Orderly :=
  (s.after_induction (fun _ _ hs hr => Conduct.Reached.step hr hs) s.reached_start os).2.1

/-- Whatever happens in a run, its conduct is one that it can come to. -/
theorem reached_after (os : List Occurrence) :
    Conduct.Reached s.settings (s.after os).frame.conduct :=
  (s.after_induction (fun _ _ hs hr => .step hr hs) s.reached_start os).2.2

end Supervision

end Hotplug
