import Hotplug.Proofs.Reach

/-!
# The clock

A world that goes on by itself does what can happen in it: first whatever a task has to do,
and then time passes up to the next moment.  So whatever holds after every list of
occurrences holds of a run whose clock is let go.

* `World.exists_move_of_next?` — what comes next is a move.
* `World.advance_eq_follow`, `World.advanceUntil_eq_follow` — letting time pass is a list of
  occurrences.
* `Supervision.advance_after` — so it is in a supervised run.
-/

namespace Hotplug

namespace World

variable {L : EventLoop} {w w' : World L}

theorem exists_move_of_next? (hw : w.next? = some w') : ∃ m, w.attempt m = some w' := by
  obtain ⟨m, -, hm⟩ := List.exists_of_findSome?_eq_some hw
  exact ⟨m, hm⟩

theorem occur_of_next? (hw : w.next? = some w') : ∃ m, w.occur (.move m) = w' := by
  obtain ⟨m, hm⟩ := exists_move_of_next? hw
  exact ⟨m, by simp [occur, hm]⟩

/-- A move takes no time. -/
theorem now_of_next? (h : w.frame.Orderly) (hw : w.next? = some w') : w'.now = w.now := by
  obtain ⟨m, hm⟩ := exists_move_of_next? hw
  exact (leads_attempt h hm).now

/-- The next moment is later than now. -/
theorem now_lt_of_nextDue? {time : Nat} (hdue : w.nextDue? = some time) : w.now < time := by
  have hmem : time ∈ w.dues.filter (w.now < ·) := (List.min?_eq_some_iff.1 hdue).1
  simpa using (List.mem_filter.1 hmem).2

/-- Time may pass to the next moment at which anything happens. -/
theorem mayPass_of_nextDue? (hw : w.next? = none) {time : Nat} (hdue : w.nextDue? = some time) :
    w.mayPass time = true := by
  simp [mayPass, hw, hdue, Nat.le_of_lt (now_lt_of_nextDue? hdue)]

/-- Time may pass as long as nothing happens. -/
theorem mayPass_of_advanceStep? {target : Nat} (hle : w.now ≤ target)
    (hw : w.advanceStep? target = none) : w.mayPass target = true := by
  unfold advanceStep? at hw
  cases hnext : w.next? with
  | some v => simp [hnext] at hw
  | none =>
    cases hdue : w.nextDue? with
    | none => simp [mayPass, hnext, hdue, hle]
    | some time =>
      have hlt : target < time := by simpa [hnext, hdue, Option.filter] using hw
      simp [mayPass, hnext, hdue, hle, Nat.le_of_lt hlt]

/-- One step on the way to a time is an occurrence before that time. -/
theorem occur_of_advanceStep? (h : w.frame.Orderly) {target : Nat} (hle : w.now ≤ target)
    (hw : w.advanceStep? target = some w') : w'.now ≤ target ∧ ∃ o, w.occur o = w' := by
  unfold advanceStep? at hw
  cases hnext : w.next? with
  | some v =>
    simp only [hnext] at hw
    obtain rfl := Option.some.inj hw
    obtain ⟨m, hm⟩ := occur_of_next? hnext
    exact ⟨(now_of_next? h hnext).symm ▸ hle, .move m, hm⟩
  | none =>
    simp only [hnext] at hw
    obtain ⟨time, hdue, rfl⟩ := Option.map_eq_some_iff.1 hw
    obtain ⟨hdue, hbefore⟩ := Option.filter_eq_some_iff.1 hdue
    have hle' : time ≤ target := by simpa using hbefore
    refine ⟨hle', .pass time, ?_⟩
    simp [occur, mayPass_of_nextDue? hnext hdue]

theorem advance_succ {target : Nat} (hw : w.advanceStep? target = some w') (fuel : Nat) :
    w.advance (fuel + 1) target = w'.advance fuel target := by
  simp only [advance, hw]

theorem advance_of_none {target : Nat} (hw : w.advanceStep? target = none) (fuel : Nat) :
    w.advance (fuel + 1) target = w.atTime target := by
  simp only [advance, hw]

/-- Letting time pass is a list of occurrences. -/
theorem advance_eq_follow (fuel : Nat) (w : World L) (h : w.frame.Orderly) {target : Nat}
    (hle : w.now ≤ target) : ∃ os, w.follow os = w.advance fuel target := by
  induction fuel generalizing w with
  | zero => exact ⟨[], rfl⟩
  | succ fuel ih =>
    cases hw : w.advanceStep? target with
    | some v =>
      obtain ⟨hle', o, rfl⟩ := occur_of_advanceStep? h hle hw
      obtain ⟨os, hos⟩ := ih (w.occur o) (orderly_occur h o).2.1 hle'
      exact ⟨o :: os, hos.trans (advance_succ hw fuel).symm⟩
    | none =>
      refine ⟨[.pass target], ?_⟩
      rw [advance_of_none hw]
      simp [follow, occur, mayPass_of_advanceStep? hle hw]

/-- Letting time pass until something is the case is a list of occurrences. -/
theorem advanceUntil_eq_follow (p : World L → Bool) (fuel : Nat) (w : World L)
    (h : w.frame.Orderly) : ∃ os, w.follow os = w.advanceUntil p fuel := by
  induction fuel generalizing w with
  | zero => exact ⟨[], rfl⟩
  | succ fuel ih =>
    cases hnext : w.next? with
    | some v =>
      obtain ⟨m, rfl⟩ := occur_of_next? hnext
      obtain ⟨os, hos⟩ := ih (w.occur (.move m)) (orderly_occur h _).2.1
      refine ⟨.move m :: os, ?_⟩
      simp only [advanceUntil, hnext]
      exact hos
    | none =>
      by_cases hp : p w = true
      · exact ⟨[], by simp [advanceUntil, hnext, hp]⟩
      · cases hdue : w.nextDue? with
        | none => exact ⟨[], by simp [advanceUntil, hnext, hp, hdue]⟩
        | some time =>
          have hpass : w.occur (.pass time) = w.atTime time := by
            simp [occur, mayPass_of_nextDue? hnext hdue]
          obtain ⟨os, hos⟩ := ih (w.atTime time) (hpass ▸ (orderly_occur h (.pass time)).2.1)
          refine ⟨.pass time :: os, ?_⟩
          simp only [advanceUntil, hnext, hp, hdue, Bool.false_eq_true, if_false]
          rw [← hpass] at hos ⊢
          exact hos

end World

/-- A supervised run whose clock is let go comes to what it can come to. -/
theorem Supervision.advance_after {L : EventLoop} (s : Supervision L) (os : List Occurrence)
    (fuel : Nat) {target : Nat} (hle : (s.after os).now ≤ target) :
    ∃ ps, s.after (os ++ ps) = (s.after os).advance fuel target := by
  obtain ⟨ps, hps⟩ := World.advance_eq_follow fuel (s.after os) (s.orderly_after os) hle
  exact ⟨ps, (World.follow_append _ _ _).trans hps⟩

end Hotplug
