import Hotplug.Proofs.Scene.Steps
import Hotplug.Proofs.Turns

/-!
# Rest

Time passes only while nobody has anything to do, and nobody has as long as it passes.  In a run
that keeps to the schedule nothing comes from outside before everybody rests.

* `World.attempt_atTime`, `World.mayPass_atTime` — while time passes everybody rests.
* `World.RestsUntil` — nobody has anything to do before a time.
* `World.inputs` — what comes from outside, and when.
* `World.Duly`, `World.GoesDuly` — runs that keep to the schedule.
-/

namespace Hotplug

namespace World

variable {L : EventLoop} {w u : World L} {t time : Nat} {o : Occurrence} {os : List Occurrence}

/-! ## Rest -/

theorem next?_of_mayPass (hw : w.mayPass time = true) : w.next? = none := by
  simp only [mayPass, Bool.and_eq_true, Option.isNone_iff_eq_none] at hw
  exact hw.1.1

/-- Time may pass while nobody has anything to do, up to the next moment that anybody waits for. -/
theorem mayPass_of_dues (hnext : w.next? = none) (hle : w.now ≤ time)
    (hdue : ∀ due ∈ w.dues, w.now < due → time ≤ due) : w.mayPass time = true := by
  have hall : w.nextDue?.all (time ≤ ·) = true := by
    cases hmin : w.nextDue? with
    | none => rfl
    | some first =>
      obtain ⟨hmem, hlt⟩ := List.mem_filter.1 (List.min?_eq_some_iff.1 hmin).1
      exact decide_eq_true (hdue first hmem (of_decide_eq_true hlt))
  simp [mayPass, hnext, hle, hall]

theorem next?_eq_none (h : ∀ m, w.attempt m = none) : w.next? = none :=
  List.findSome?_eq_none_iff.2 fun m _ => h m

/-- What the event loop waits for does not come with time, unless it sleeps. -/
theorem serve?_atTime {s : Session} {x : Executor} {p : LoopPhase} {t : Nat}
    (hwake : ∀ wake, p = .asleep wake → w.now < wake → t < wake) (h : w.serve? s x p = none) :
    (w.atTime t).serve? s x p = none := by
  have hhand (r : Reply) (hr : w.handOver? s x r = none) :
      (w.atTime t).handOver? s x r = none := by
    unfold handOver? at hr ⊢
    rw [show (w.atTime t).queue = w.queue from rfl]
    split at hr
    · cases hr
    · rfl
    · cases hr
  unfold serve? at h ⊢
  rw [show (w.atTime t).loop = w.loop from rfl, show (w.atTime t).queue = w.queue from rfl]
  cases hrequest : L.request w.loop with
  | nextEvent =>
    simp only [hrequest] at h ⊢
    split at h
    · cases h
    · rename_i hquit
      rw [if_neg hquit]
      exact hhand _ h
  | receive =>
    simp only [hrequest] at h ⊢
    exact hhand _ h
  | tryReceive =>
    simp only [hrequest] at h ⊢
    split at h
    · cases h
    · rename_i hempty
      rw [if_neg hempty]
      exact hhand _ h
  | awaitQuit =>
    simp only [hrequest] at h ⊢
    split at h
    · cases h
    · rename_i hquit
      rw [if_neg hquit]
  | sleep duration =>
    simp only [hrequest] at h ⊢
    split at h
    · rename_i wake
      split at h
      · cases h
      · rename_i hasleep
        exact if_neg (Nat.not_le.2 (hwake wake rfl (Nat.lt_of_not_le hasleep)))
    · cases h
  | hang => rfl
  | isQuitting | drop | dropAll | closeQueue | panic | finish =>
    simp only [hrequest] at h
    cases h

/-- While time passes nobody has anything to do. -/
theorem attempt_atTime {t time : Nat} (hw : w.mayPass time = true) (ht : t < time) (m : Move) :
    (w.atTime t).attempt m = none := by
  have hrests := rests_of_mayPass hw
  have hm := attempt_eq_none (next?_of_mayPass hw) m
  cases m with
  | fireTimer =>
    have hdue : w.coordinator.timers.due? t = none := by
      refine List.find?_eq_none.2 fun a ha => ?_
      have hle := (hrests.timers a ha).2
      simpa using Nat.lt_of_lt_of_le ht hle
    have hfire : w.coordinator.fireTimer? (w.atTime t).chronicle = none := by
      unfold Coordinator.fireTimer?
      rw [show (w.atTime t).chronicle.now = t from rfl, hdue]
    exact congrArg (Option.map _) hfire
  | decide =>
    have hdecide : w.coordinator.decidePosted? (w.atTime t).chronicle = none := by
      unfold Coordinator.decidePosted?
      split
      · rename_i hrun
        rw [show w.coordinator.posted = [] from hrests.posted hrun]
        rfl
      · rfl
    exact congrArg (Option.map _) hdecide
  | takeSignal =>
    have htake : w.coordinator.takeSignal? (w.atTime t).chronicle = none :=
      Coordinator.takeSignal?_eq_none.2 hrests.signals
    exact congrArg (Option.map _) htake
  | cycle =>
    change (w.atTime t).cycle? = none
    unfold cycle?
    rw [show (w.atTime t).cycle = w.cycle from rfl]
    cases hc : w.cycle with
    | deciding => exact absurd hc hrests.deciding
    | waiting wait =>
      obtain ⟨hover, -, hle⟩ := hrests.waiting wait hc
      have hover' : (w.atTime t).coordinator.stop.isOver = false := hover
      have hlate : ¬ wait.due ≤ (w.atTime t).now := Nat.not_le.2 (Nat.lt_of_lt_of_le ht hle)
      simp [hover', hlate]
    | _ => rfl
  | eventLoop =>
    have hwake {s : Session} {x : Executor} {p : LoopPhase} (hs : w.session = some s)
        (hst : s.stage = .running x p) (wake : Nat) (hp : p = .asleep wake) (hlt : w.now < wake) :
        t < wake := by
      refine Nat.lt_of_lt_of_le ht (le_due_of_mayPass hw ?_ hlt)
      simp [dues, sessionDue?, hs, hst, hp]
    have hloop : w.eventLoop? = none := hm
    change (w.atTime t).eventLoop? = none
    unfold eventLoop? at hloop ⊢
    rw [show (w.atTime t).session = w.session from rfl]
    rcases hs : w.session with _ | s
    · rfl
    · simp only [hs] at hloop
      dsimp only
      cases hst : s.stage with
      | running x p =>
        simp only [hst] at hloop
        cases p with
        | active => exact serve?_atTime (hwake hs hst) hloop
        | asleep wake => exact serve?_atTime (hwake hs hst) hloop
        | returned => rfl
      | _ => rfl
  | session =>
    change (w.atTime t).session? = none
    unfold session?
    rw [show (w.atTime t).session = w.session from rfl]
    rcases hs : w.session with _ | s
    · rfl
    · dsimp only
      cases hst : s.stage with
      | skipping wait =>
        have hover : (w.atTime t).coordinator.stop.isOver = false :=
          (hrests.skipping s wait hs hst).1
        simp [hover]
      | running x p =>
        cases x with
        | listening => simp [hrests.listening s p hs hst]
        | removed timer =>
          cases p with
          | returned => exact absurd hst (hrests.removed s timer hs)
          | _ => rfl
        | _ => rfl
      | _ => rfl
  | skip =>
    change (w.atTime t).skip? = none
    unfold skip?
    rw [show (w.atTime t).session = w.session from rfl]
    rcases hs : w.session with _ | s
    · rfl
    · dsimp only
      cases hst : s.stage with
      | skipping wait =>
        have hle := (hrests.skipping s wait hs hst).2.2
        exact if_neg (Nat.not_le.2 (Nat.lt_of_lt_of_le ht hle))
      | _ => rfl
  | forwardStop =>
    change (w.atTime t).forwardStop? = none
    unfold forwardStop?
    split
    · rename_i hover
      refine Option.map_eq_none_iff.2 (List.find?_eq_none.2 fun child hchild => ?_)
      simpa using hrests.forwarding hover child hchild
    · rfl
  | watchRemoval =>
    refine Option.map_eq_none_iff.2 (List.findSome?_eq_none_iff.2 fun child hchild => ?_)
    unfold Child.dueLook?
    cases htask : child.task with
    | watchRemoval wait =>
      have hle := (hrests.watching child hchild wait htask).2
      exact if_neg (Nat.not_le.2 (Nat.lt_of_lt_of_le ht hle))
    | forwardStop => rfl
  | endCall =>
    refine Option.map_eq_none_iff.2 (List.find?_eq_none.2 fun call hcall => ?_)
    unfold Call.isOver
    cases hends : call.ends with
    | none => simp
    | some e =>
      have hlate : t < e := Nat.lt_of_lt_of_le ht (hrests.calls call hcall e hends).2
      simpa using show (w.atTime t).now < e from hlate

/-- Time that may pass may also pass in two parts. -/
theorem mayPass_atTime (hw : w.mayPass time = true) (hle : w.now ≤ t) (ht : t < time) :
    w.mayPass t = true ∧ (w.atTime t).mayPass time = true := by
  have hdue (due : Nat) (hmem : due ∈ w.dues) (hlt : w.now < due) : time ≤ due :=
    le_due_of_mayPass hw hmem hlt
  refine ⟨mayPass_of_dues (next?_of_mayPass hw) hle fun due hmem hlt => ?_,
    mayPass_of_dues (next?_eq_none fun m => attempt_atTime hw ht m) (Nat.le_of_lt ht)
      fun due hmem hlt => hdue due hmem (Nat.lt_of_le_of_lt hle hlt)⟩
  exact Nat.le_of_lt (Nat.lt_of_lt_of_le ht (hdue due hmem hlt))

theorem not_rests_of_canHappen (hcan : u.CanHappen (.move m)) : u.next? ≠ none := by
  intro hnone
  have hsome : (u.attempt m).isSome = true := hcan
  rw [attempt_eq_none hnone m] at hsome
  cases hsome

/-- Nobody has anything to do before a time. -/
structure RestsUntil (w : World L) (time : Nat) : Prop where
  le : w.now ≤ time
  idle : ∀ t, w.now ≤ t → t < time → (w.atTime t).next? = none

namespace RestsUntil

variable {t time : Nat}

theorem now (w : World L) : w.RestsUntil w.now where
  le := Nat.le_refl _
  idle _ hle hlt := absurd hlt (Nat.not_lt.2 hle)

theorem trans (h : w.RestsUntil t) (h' : (w.atTime t).RestsUntil time) : w.RestsUntil time where
  le := Nat.le_trans h.le h'.le
  idle t' hle hlt := by
    rcases Nat.lt_or_ge t' t with hbefore | hafter
    · exact h.idle t' hle hbefore
    · exact h'.idle t' hafter hlt

theorem before (h : w.RestsUntil time) (hle : w.now ≤ t) (hle' : t ≤ time) : w.RestsUntil t where
  le := hle
  idle t' ht' hlt := h.idle t' ht' (Nat.lt_of_lt_of_le hlt hle')

theorem after (h : w.RestsUntil time) (hle : w.now ≤ t) (hle' : t ≤ time) :
    (w.atTime t).RestsUntil time where
  le := hle'
  idle t' ht' hlt := h.idle t' (Nat.le_trans hle ht') hlt

end RestsUntil

/-! ## The clock -/

/-- Nothing takes time but its mere passing. -/
theorem now_occur (h : w.frame.Orderly) (ho : ∀ t, o ≠ .pass t) : (w.occur o).now = w.now := by
  cases o with
  | move m =>
    rcases w.occur_move_cases m with hstay | ⟨w', hw, hmove⟩
    · rw [hstay]
    · rw [hmove]
      exact (leads_attempt h hw).now
  | notify ns => exact congrArg (·.now) (scene_notify (w := w) ns)
  | pass t => exact absurd rfl (ho t)
  | _ => rfl

theorem le_now_occur (h : w.frame.Orderly) (o : Occurrence) : w.now ≤ (w.occur o).now := by
  cases o with
  | pass t =>
    rcases w.occur_pass_cases t with hstay | ⟨hmay, hpass⟩
    · exact Nat.le_of_eq (congrArg World.now hstay).symm
    · rw [hpass]
      exact (rests_of_mayPass hmay).le
  | _ => exact Nat.le_of_eq (now_occur h (by rintro t ⟨⟩)).symm

theorem le_now_follow (h : w.frame.Orderly) (os : List Occurrence) : w.now ≤ (w.follow os).now := by
  induction os generalizing w with
  | nil => exact Nat.le_refl _
  | cons o os ih => exact Nat.le_trans (le_now_occur h o) (ih (orderly_occur h o).2.1)

/-! ## Runs that keep to the schedule -/

/-- What comes from outside in a list of occurrences, and when. -/
def inputs (isInput : Occurrence → Bool) (w : World L) : List Occurrence → List (Nat × Occurrence)
  | [] => []
  | o :: os => (if isInput o then [(w.now, o)] else []) ++ (w.occur o).inputs isInput os

/-- Something happens duly: a move when it is its turn, and what comes from outside when nothing is
left to do. -/
structure Duly (isInput : Occurrence → Bool) (w : World L) (o : Occurrence) : Prop where
  turn : w.InTurn o
  rest : isInput o = true → w.next? = none

/-- Everything in a list happens duly, and in the end nothing is left to do. -/
structure GoesDuly (isInput : Occurrence → Bool) (w : World L) (os : List Occurrence) : Prop where
  plays : w.Plays os
  duly : w.Goes (Duly isInput) os
  rest : (w.follow os).next? = none

variable {isInput : Occurrence → Bool}

instance : DecidablePred (w.Duly isInput) := fun o =>
  decidable_of_iff (w.InTurn o ∧ (isInput o = true → w.next?.isNone = true))
    ⟨fun h => ⟨h.1, fun ho => Option.isNone_iff_eq_none.1 (h.2 ho)⟩,
      fun h => ⟨h.turn, fun ho => Option.isNone_iff_eq_none.2 (h.rest ho)⟩⟩

instance : DecidablePred (w.GoesDuly isInput) := fun os =>
  decidable_of_iff
    (w.Plays os ∧ w.Goes (Duly isInput) os ∧ (w.follow os).next?.isNone = true)
    ⟨fun h => ⟨h.1, h.2.1, Option.isNone_iff_eq_none.1 h.2.2⟩,
      fun h => ⟨h.plays, h.duly, Option.isNone_iff_eq_none.2 h.rest⟩⟩

theorem GoesDuly.tail (h : w.GoesDuly isInput (o :: os)) : (w.occur o).GoesDuly isInput os :=
  ⟨h.plays.2, h.duly.2, h.rest⟩

theorem inputs_of_pos (ho : isInput o = true) :
    w.inputs isInput (o :: os) = (w.now, o) :: (w.occur o).inputs isInput os := by
  simp [inputs, ho]

theorem inputs_of_neg (ho : isInput o = false) :
    w.inputs isInput (o :: os) = (w.occur o).inputs isInput os := by
  simp [inputs, ho]

/-- Nothing that is still to come comes before now. -/
theorem le_of_mem_inputs (h : w.frame.Orderly) {e : Nat × Occurrence}
    (he : e ∈ w.inputs isInput os) : w.now ≤ e.1 := by
  induction os generalizing w with
  | nil => cases he
  | cons o os ih =>
    have hlater (he : e ∈ (w.occur o).inputs isInput os) : w.now ≤ e.1 :=
      Nat.le_trans (le_now_occur h o) (ih (orderly_occur h o).2.1 he)
    cases ho : isInput o with
    | false => exact hlater (inputs_of_neg ho ▸ he)
    | true =>
      rcases List.mem_cons.1 (inputs_of_pos ho ▸ he) with rfl | he
      · exact Nat.le_refl _
      · exact hlater he

end World

end Hotplug
