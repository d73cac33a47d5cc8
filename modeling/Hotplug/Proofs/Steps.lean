import Hotplug.Proofs.Steps.Library
import Hotplug.Proofs.Steps.Session

/-!
# Every occurrence is a step of the conduct

Whatever happens in an orderly world leaves it orderly, and its conduct goes one of the steps
of `Conduct.Step`.  Everything about the order and the time of what a run does is proved
from these steps.

* `orderly_pass` — time passes when nothing is left to do, up to the next deadline at most.
* `leads_attempt` — one of the moves.
* `orderly_occur` — whatever happens.
-/

namespace Hotplug

open Conduct (Step)

open Hotplug.Frame (Leads)

variable {L : EventLoop} {w w' : World L}

/-! ## Time and the surroundings -/

/-- Time passes only when the coordinator has nothing to decide. -/
theorem posted_eq_nil_of_next?_eq_none (hw : w.next? = none)
    (hrun : w.coordinator.isRunning = true) : w.coordinator.posted = [] := by
  have hnone : w.decide? = none := List.findSome?_eq_none_iff.1 hw .decide (by decide)
  have hposted : w.coordinator.decidePosted? w.chronicle = none := Option.map_eq_none_iff.1 hnone
  unfold Coordinator.decidePosted? at hposted
  rw [if_pos hrun] at hposted
  exact List.head?_eq_none_iff.1 (Option.map_eq_none_iff.1 hposted)

theorem due?_eq_none_of_fireTimer? (hw : w.fireTimer? = none) :
    w.coordinator.timers.due? w.now = none := by
  have hfire : w.coordinator.fireTimer? w.chronicle = none := Option.map_eq_none_iff.1 hw
  unfold Coordinator.fireTimer? at hfire
  split at hfire
  · assumption
  · cases hfire

/-- Time passes only when no timer is due. -/
theorem lt_deadline_of_next?_eq_none (hw : w.next? = none) :
    ∀ a ∈ w.coordinator.timers.armed, w.now < a.deadline := by
  have hnone : w.fireTimer? = none := List.findSome?_eq_none_iff.1 hw .fireTimer (by decide)
  exact Timers.due?_eq_none (due?_eq_none_of_fireTimer? hnone)

/-- Time passes only up to the next deadline. -/
theorem le_deadline_of_mayPass {time : Nat} (hw : w.mayPass time = true) :
    ∀ a ∈ w.coordinator.timers.armed, time ≤ a.deadline := by
  intro a ha
  simp only [World.mayPass, Bool.and_eq_true, Option.isNone_iff_eq_none] at hw
  obtain ⟨⟨hnext, -⟩, hdue⟩ := hw
  have hlt := lt_deadline_of_next?_eq_none hnext a ha
  have hmem : a.deadline ∈ w.dues.filter (w.now < ·) := by
    simp only [World.dues, List.mem_filter, List.mem_append, List.mem_map]
    exact ⟨.inl (.inl (.inl (.inl ⟨a, ha, rfl⟩))), by simpa using hlt⟩
  cases hmin : w.nextDue? with
  | none =>
    rw [World.nextDue?, List.min?_eq_none_iff] at hmin
    rw [hmin] at hmem
    cases hmem
  | some due =>
    have hle : time ≤ due := by simpa [hmin] using hdue
    exact Nat.le_trans hle ((List.min?_eq_some_iff.1 hmin).2 _ hmem)

theorem orderly_pass (h : w.frame.Orderly) {time : Nat} (hw : w.mayPass time = true) :
    (w.atTime time).frame.Orderly ∧
      Step w.setup.settings w.frame.conduct (w.atTime time).frame.conduct := by
  have hdue := le_deadline_of_mayPass hw
  simp only [World.mayPass, Bool.and_eq_true, Option.isNone_iff_eq_none, decide_eq_true_eq] at hw
  obtain ⟨⟨hnext, hle⟩, -⟩ := hw
  refine ⟨h.congr rfl rfl rfl rfl rfl rfl, ?_⟩
  exact (Step.pass w.frame.conduct time hle (posted_eq_nil_of_next?_eq_none hnext) hdue).cast rfl

theorem leads_signal (h : w.frame.Orderly) (s : Signal) : Leads w.frame (w.signal [s]).2.frame :=
  ⟨rfl, rfl, h.congr rfl rfl rfl rfl rfl rfl, (Step.signals w.frame.conduct _).cast rfl⟩

theorem leads_closeSignals (h : w.frame.Orderly) : Leads w.frame w.closeSignals.2.frame :=
  ⟨rfl, rfl, h.congr rfl rfl rfl rfl rfl rfl, (Step.signals w.frame.conduct _).cast rfl⟩

theorem frame_notify (ns : List Notification) : (w.notify ns).2.frame = w.frame := by
  unfold World.notify
  split
  · apply World.frame_congr <;> simp [World.now]
  · rfl

theorem leads_attempt (h : w.frame.Orderly) {m : Move} (hw : w.attempt m = some w') :
    Leads w.frame w'.frame := by
  cases m with
  | fireTimer => exact leads_fireTimer h hw
  | decide => exact leads_decide h hw
  | takeSignal => exact leads_takeSignal h hw
  | cycle => exact leads_cycle h hw
  | eventLoop => exact leads_eventLoop h hw
  | session => exact leads_session h hw
  | skip => exact leads_skip h hw
  | forwardStop => exact leads_forwardStop h hw
  | watchRemoval => exact leads_watchRemoval h hw
  | endCall => exact leads_endCall h hw

/-- Whatever happens in an orderly world is a step of its conduct, and leaves it orderly. -/
theorem orderly_occur (h : w.frame.Orderly) (o : Occurrence) :
    (w.occur o).setup = w.setup ∧ (w.occur o).frame.Orderly ∧
      Step w.setup.settings w.frame.conduct (w.occur o).frame.conduct := by
  have hstay : w.setup = w.setup ∧ w.frame.Orderly ∧
      Step w.setup.settings w.frame.conduct w.frame.conduct := ⟨rfl, h, .quiet _⟩
  have hgo : ∀ v : World L, Leads w.frame v.frame → v.setup = w.setup ∧ v.frame.Orderly ∧
      Step w.setup.settings w.frame.conduct v.frame.conduct :=
    fun v hv => ⟨hv.setup, hv.orderly, hv.step⟩
  cases o with
  | move m =>
    cases hw : w.attempt m with
    | none => simpa [World.occur, hw] using hstay
    | some w' => simpa [World.occur, hw] using hgo w' (leads_attempt h hw)
  | pass time =>
    by_cases hp : w.mayPass time = true
    · obtain ⟨hord, hs⟩ := orderly_pass h hp
      simp only [World.occur, hp, if_true]
      exact ⟨rfl, hord, hs⟩
    · simpa [World.occur, hp] using hstay
  | signal s => exact hgo _ (leads_signal h s)
  | closeSignals => exact hgo _ (leads_closeSignals h)
  | notify ns =>
    refine hgo _ ?_
    change Leads w.frame (w.notify ns).2.frame
    rw [frame_notify]
    exact .refl h
  | detach => exact hgo _ (.refl h)
  | files t => exact hgo _ (.refl h)

end Hotplug
