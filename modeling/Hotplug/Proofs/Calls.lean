import Hotplug.Proofs.Course
import Hotplug.Proofs.Steering

/-!
# The discipline of library calls

In which order a run calls the library, whatever the library answers and whenever it does.

* `Closed` — a cycle after which the next one, or the stop, may begin.
* `Latest` — the calls that follow the closed cycles, with the one that is busy.
* `Disciplined` — the start of the manager, closed cycles, and the latest calls.
* `Conduct.Silent` — no call begins once the coordinator has decided.
* `Supervision.disciplined_calls` — the calls of every run are disciplined.
-/

namespace Hotplug

/-- Whether a happening is the start of the manager, or the beginning or the end of a call. -/
def Happening.isLibrary : Happening → Bool
  | managerStarting _ | callBegan _ | callEnded .. => true
  | _ => false

/-- What happened at the library, oldest first. -/
def libraryOf (hs : List (Nat × Happening)) : List Happening :=
  pick Happening.isLibrary hs

/-- A cycle that is closed: the driver was added, whatever the policy makes of a refusal, and
removed; or it was refused, and the cycle is skipped. -/
inductive Closed (g : Settings) : List Happening → Prop where
  | served (ok : Bool) (hok : g.goesOn ok) :
      Closed g
        [.callBegan .add, .callEnded .add (.returned ok), .callBegan .remove,
          .callEnded .remove (.returned true)]
  | skipped (hskip : g.driver.onActivationFailure = .skipCycle) :
      Closed g [.callBegan .add, .callEnded .add (.returned false)]

/-- The calls that follow the closed cycles, and the kind of the one that is busy. -/
inductive Latest (g : Settings) : Option CallKind → List Happening → Prop where
  | nothing : Latest g none []
  | adding : Latest g (some .add) [.callBegan .add]
  | added (r : CallResult) : Latest g none [.callBegan .add, .callEnded .add r]
  | removing (ok : Bool) (hok : g.goesOn ok) :
      Latest g (some .remove)
        [.callBegan .add, .callEnded .add (.returned ok), .callBegan .remove]
  | removed (ok : Bool) (hok : g.goesOn ok) (r : CallResult) :
      Latest g none
        [.callBegan .add, .callEnded .add (.returned ok), .callBegan .remove,
          .callEnded .remove r]
  | stopping : Latest g (some .stop) [.callBegan .stop]
  | stopped (r : CallResult) : Latest g none [.callBegan .stop, .callEnded .stop r]

/-- The manager is started once and first.  After it come closed cycles, and after these the
latest calls, of which the last one may be busy. -/
def Disciplined (g : Settings) (busy : Option CallKind) (calls : List Happening) : Prop :=
  ∃ (cycles : List (List Happening)) (latest : List Happening),
    (∀ cycle ∈ cycles, Closed g cycle) ∧ Latest g busy latest ∧
    calls = .managerStarting g.managerOptions :: (cycles.flatten ++ latest)

section Sessions

variable {g : Settings}

theorem libraryOf_eq_filter_courseOf (hs : List (Nat × Happening)) :
    libraryOf hs = (courseOf hs).filter Happening.isLibrary := by
  have h : (fun x => Happening.isLibrary x && Happening.isCourse x) = Happening.isLibrary := by
    funext x
    cases x <;> rfl
  rw [courseOf, filter_pick, h, libraryOf]

/-- One more closed cycle. -/
theorem Closed.concat {cycle : List Happening} (h : Closed g cycle) {cycles : List (List Happening)}
    (hclosed : ∀ cycle ∈ cycles, Closed g cycle) :
    ∃ cycles' : List (List Happening), (∀ cycle ∈ cycles', Closed g cycle) ∧
      cycles.flatten ++ cycle = cycles'.flatten := by
  refine ⟨cycles ++ [cycle], ?_, by simp⟩
  intro x hx
  rcases List.mem_append.1 hx with hx | hx
  · exact hclosed x hx
  · rw [List.mem_singleton.1 hx]
    exact h

/-- The sessions that are over have closed their cycles. -/
theorem Past.closed {n : SessionId} {course loops : List Happening} (h : Past g n course loops) :
    ∃ cycles : List (List Happening), (∀ cycle ∈ cycles, Closed g cycle) ∧
      course.filter Happening.isLibrary = cycles.flatten := by
  induction h with
  | none => exact ⟨[], by simp, rfl⟩
  | served h ok hok ih =>
    obtain ⟨cycles, hclosed, hcalls⟩ := ih
    rw [List.filter_append, hcalls]
    exact (Closed.served ok hok).concat hclosed
  | skipped h hskip ih =>
    obtain ⟨cycles, hclosed, hcalls⟩ := ih
    rw [List.filter_append, hcalls]
    exact (Closed.skipped hskip).concat hclosed

/-- The end of the busy call leaves none busy. -/
theorem Latest.endCall {k : CallKind} {calls : List Happening} (h : Latest g (some k) calls)
    (r : CallResult) : Latest g none (calls ++ [.callEnded k r]) := by
  cases h with
  | adding => exact .added r
  | removing ok hok => exact .removed ok hok r
  | stopping => exact .stopped r

/-- What is under way calls the library as it may, and the busy call is the one of the duty. -/
theorem Present.latest {d : Duty} {course loops : List Happening} (h : Present g d course loops) :
    Latest g d.call? (course.filter Happening.isLibrary) := by
  induction h with
  | refused r => exact .nothing
  | idle => exact .nothing
  | adding n t => exact .adding
  | stranded n t reason => exact .added _
  | skipping n hskip => exact .added _
  | serving n ok isOver hok => exact .added _
  | removing n t ok isOver hok => exact .removing ok hok
  | removed n t ok isOver hok => exact .removed ok hok _
  | failed n t ok isOver hok r hr => exact .removed ok hok r
  | stopping => exact .stopping
  | finished r => exact .stopped r
  | cut h hd ih => exact ih
  | panicked h hd reason ih => exact ih
  | late h r ih =>
    rw [List.filter_append]
    exact ih.endCall r

/-- The calls of a run are disciplined, and the busy one is the one of the duty. -/
theorem Conduct.Told.disciplined {c : Conduct} {n : SessionId} (h : c.Told g n) :
    Disciplined g c.duty.call? (libraryOf c.outline) := by
  obtain ⟨past, pastLoops, present, loops, hpast, hpresent, hcourse, -⟩ := h.split
  obtain ⟨cycles, hclosed, hcycles⟩ := hpast.closed
  refine ⟨cycles, _, hclosed, hpresent.latest, ?_⟩
  rw [libraryOf_eq_filter_courseOf, hcourse, ← hcycles, ← List.filter_append]
  rfl

end Sessions

/-! ## A manager that is refused -/

/-- A run whose manager was refused does nothing more. -/
theorem Conduct.Step.refused {g : Settings} {c c' : Conduct} (hs : Step g c c') {r : Refusal}
    (hd : c.duty = .refused r) :
    c'.duty = .refused r ∧ courseOf c'.outline = courseOf c.outline := by
  cases hs with
  | quiet | signals | ignoreSignals | pass => exact ⟨hd, rfl⟩
  | look seen => exact ⟨hd, by simp [Happening.isCourse]⟩
  | fire a => exact ⟨hd, by simp [Conduct.fire, Happening.isCourse]⟩
  | firstSignal s b => exact ⟨hd, by simp [Happening.isCourse]⟩
  | decide t | secondSignal s b =>
    refine ⟨?_, by simp [Conduct.decide, Happening.isCourse]⟩
    have hactive : ¬ c.duty.isActive = true := by
      rw [hd]
      rintro ⟨⟩
    exact (Duty.afterCut_of_not_isActive hactive).trans hd
  | loopEnded n hloop | loopPanicked n reason hloop =>
    rw [hd] at hloop
    cases hloop
  | beginStop hduty | beginSession hduty | added _ _ _ hduty | skipped _ _ hduty
  | addPanicked _ _ _ hduty | skipStopped _ hduty | skipEnded _ hduty | beginRemoval _ _ hduty
  | driverRemoved _ _ _ hduty | removalFailed _ _ _ _ hduty | sessionEnded _ _ hduty
  | stopped _ hduty | lateEnd _ _ hduty =>
    rw [hd] at hduty
    cases hduty

/-! ## A run that is over -/

/-- Whether a happening is neither that a call begins nor that the coordinator decides. -/
def Happening.isCalm : Happening → Bool
  | callBegan _ | terminated _ => false
  | _ => true

namespace Conduct

/-- No call begins once the coordinator has decided. -/
def Silent (c : Conduct) : Prop :=
  ∀ t x, (t, .terminated x) ∈ c.outline →
    Since (fun h => ∃ k, h = .callBegan k) (.terminated x) t c.outline

variable {g : Settings} {c c' : Conduct}

namespace Silent

/-- No call begins. -/
theorem keep (h : c.Silent) (hadds : Adds Happening.isCalm c.outline c'.outline) : c'.Silent := by
  intro t x hx
  rw [hadds.mem rfl] at hx
  refine hadds.since_of ?_ (h t x hx)
  rintro _ hcalm ⟨k, rfl⟩
  cases hcalm

/-- A call begins, which happens only before the coordinator has decided. -/
theorem call (hsteer : c.Steered) (hactive : c.duty.isActive = true)
    (hadds : Adds (fun x => !x.isTermination) c.outline c'.outline) : c'.Silent := by
  intro t x hx
  rw [hadds.mem rfl] at hx
  exact absurd hx (hsteer.not_terminated (hsteer.running hactive) t x)

/-- The coordinator decides. -/
theorem decide (hsteer : c.Steered) (hrun : c.coordinator.isRunning = true) (x : Termination)
    {hs : List (Nat × Happening)} (hout : c'.outline = (c.now, .terminated x) :: hs)
    (hadds : Adds Happening.isCalm c.outline hs) : c'.Silent := by
  intro t y hy
  rw [hout] at hy ⊢
  rcases List.mem_cons.1 hy with heq | hy
  · obtain ⟨rfl, rfl⟩ : t = c.now ∧ y = x := by simpa using heq
    exact (since_cons _).2 (.inl rfl)
  · rw [hadds.mem rfl] at hy
    exact absurd hy (hsteer.not_terminated hrun t y)

theorem step (h : c.Silent) (hsteer : c.Steered) (hs : Step g c c') : c'.Silent := by
  cases hs with
  | quiet => exact h
  | signals | ignoreSignals | pass => exact h.keep (Adds.refl _)
  | look | lateEnd | loopEnded | addPanicked | driverRemoved =>
    exact h.keep ((Adds.refl _).cons rfl)
  | skipped | skipStopped | sessionEnded => exact h.keep ((Adds.refl _).cons rfl)
  | skipEnded | removalFailed => exact h.keep (((Adds.refl _).cons rfl).cons rfl)
  | added => exact h.keep (((Adds.refl _).cons rfl).cons rfl |>.cons rfl)
  | fire | loopPanicked | stopped => exact h.keep (adds_post ((Adds.refl _).cons rfl) _ rfl)
  | firstSignal s b =>
    exact h.keep ((adds_raiseStop (c := (c.setSignals b).tell (.signalTaken s))
      ((Adds.refl _).cons rfl) rfl).cons rfl)
  | decide t rest hrun => exact .decide hsteer hrun t rfl (Adds.refl _)
  | secondSignal s b grace hphase =>
    have hrun : c.coordinator.isRunning = true := by simp [Coordinator.isRunning, hphase]
    exact .decide hsteer hrun .repeatedSignal rfl ((Adds.refl _).cons rfl)
  | beginStop hduty => exact .call hsteer (by rw [hduty]; rfl) ((Adds.refl _).cons rfl)
  | beginSession hduty =>
    exact .call hsteer (by rw [hduty]; rfl) (((Adds.refl _).cons rfl).cons rfl |>.cons rfl
      |>.cons rfl)
  | beginRemoval n isOver hduty =>
    exact .call hsteer (by rw [hduty]; rfl) (((Adds.refl _).cons rfl).cons rfl |>.cons rfl
      |>.cons rfl)

end Silent

theorem Reached.silent (h : Reached g c) : c.Silent := by
  induction h with
  | begun b | refused b r =>
    intro t x hx
    cases List.mem_singleton.1 hx
  | step hr hs ih => exact ih.step hr.steered hs

end Conduct

namespace Supervision

variable {L : EventLoop} (s : Supervision L)

theorem libraryOf_outline (w : World L) :
    libraryOf w.chronicle.outline = libraryOf w.chronicle.happenings :=
  pick_outlineOf (by rintro h hh; cases h <;> first | rfl | cases hh) _

/-- If the library gives out no manager, it is not called again, and the run returns why. -/
theorem after_of_refusal {r : Refusal} (h : s.refusal? = some r) (os : List Occurrence) :
    libraryOf (s.after os).chronicle.happenings = [.managerStarting s.settings.managerOptions] ∧
      (s.after os).outcome? = some (.error r) := by
  let P (c : Conduct) : Prop := c.duty = .refused r ∧
    courseOf c.outline = [.managerStarting s.settings.managerOptions]
  have hstep : ∀ c c', Conduct.Step s.settings c c' → P c → P c' := by
    rintro c c' hs ⟨hd, hcourse⟩
    obtain ⟨hd', hsame⟩ := hs.refused hd
    exact ⟨hd', hsame.trans hcourse⟩
  have hstart : P s.start.frame.conduct := by
    rw [frame_start, h]
    exact ⟨rfl, rfl⟩
  obtain ⟨-, -, hd, hcourse⟩ := s.after_induction hstep hstart os
  refine ⟨?_, ?_⟩
  · have hout : courseOf (s.after os).chronicle.outline = _ := hcourse
    rw [← libraryOf_outline, libraryOf_eq_filter_courseOf, hout]
    rfl
  · have hc : (s.after os).cycle = .refused r := Frame.cycle_of_refused hd
    simp [World.outcome?, hc]

/-- **The calls of a run are disciplined.**  Whatever the library answers, the device does and
the signals are, the manager is started once and first; what follows are closed cycles, and
after these one that is not closed, or the stop.  At most one call is busy, and it is the
last one that began.  No call begins once the run has returned. -/
theorem disciplined_calls (os : List Occurrence) :
    (∃ busy : Option CallKind, (s.after os).calls.map (·.kind) = busy.toList ∧
      Disciplined s.settings busy (libraryOf (s.after os).chronicle.happenings)) ∧
    (∀ t x, (t, .terminated x) ∈ (s.after os).chronicle.happenings →
      Since (fun h => ∃ k, h = .callBegan k) (.terminated x) t
        (s.after os).chronicle.happenings) ∧
    ∀ r ∈ s.refusal?,
      libraryOf (s.after os).chronicle.happenings =
          [.managerStarting s.settings.managerOptions] ∧
        (s.after os).outcome? = some (.error r) := by
  have hreached := s.reached_after os
  refine ⟨⟨_, (s.orderly_after os).calls, ?_⟩, ?_, fun r hr => s.after_of_refusal hr os⟩
  · obtain ⟨n, htold⟩ := hreached.told
    rw [← libraryOf_outline]
    exact htold.disciplined
  · intro t x hx
    have hsince := hreached.silent t x ((mem_outlineOf rfl).2 hx)
    refine (since_outlineOf rfl ?_).1 hsince
    rintro _ ⟨k, rfl⟩
    rfl

end Supervision

end Hotplug
