import Hotplug.Proofs.AbortTimers
import Hotplug.Proofs.Broadcast
import Mathlib.Logic.Relation

/-!
# What a coordinator goes through of its own accord

A coordinator decides, takes signals, hears of terminations and lets timers fire, and nobody else
disarms a timer meanwhile.

* `Coordinator.Moves` — one such thing happens; if a timer is disarmed, it is the grace timer.
* `Coordinator.moves_conclude`, `Coordinator.moves_takeFirst`, … — what these things are.
* `Coordinator.Course` — several of them happen one after the other.
* `AbortTimer.Runs` — a timer that was not disarmed runs on.
-/

namespace Hotplug

/-! ## One thing happens -/

namespace Coordinator

variable {k : Coordinator} {c d : Chronicle} {x y : Coordinator × Chronicle} {a : AbortTimer}

/-- Something becomes of a coordinator, and if a timer is disarmed, it is the grace timer. -/
def Moves (x y : Coordinator × Chronicle) : Prop :=
  ∃ shed, x.1.Change x.2 shed y.1 y.2 ∧ ∀ id, shed = some id → x.1.phase = .stopping id

theorem Moves.of_change (h : x.1.Change x.2 none y.1 y.2) : Moves x y :=
  ⟨none, h, nofun⟩

theorem moves_trigger (k : Coordinator) (c : Chronicle) :
    Moves (k, c) ((k.trigger c).2.1, (k.trigger c).2.2) := by
  have hmute : c.Mute (k.trigger c).2.2 := by
    unfold trigger
    dsimp only
    split
    · exact (Chronicle.Mute.refl c).record rfl
    · exact .refl c
  exact .of_change (.keep _ _ ⟨hmute, fun hlistening => ⟨hlistening, rfl⟩⟩ rfl fun _ => id)

theorem moves_run (hidle : k.isIdle = true) : Moves (k, c) (k.run, c) := by
  have hphase := isIdle_iff.1 hidle
  exact .of_change (.keep _ _ ⟨.refl c, fun _ => ⟨by simp [isListening, hphase], rfl⟩⟩ rfl
    (by rintro _ ⟨⟩))

theorem moves_drop (k : Coordinator) (c : Chronicle) : Moves (k, c) (k.drop, c) :=
  .of_change (.keep _ _ ⟨.refl c, by rintro ⟨⟩⟩ rfl (by rintro _ ⟨⟩))

theorem moves_signals (k : Coordinator) (c : Chronicle) (b : SignalBuffer) :
    Moves (k, c) ({ k with signals := b }, c) :=
  .of_change (.keep _ _ ⟨.refl c, fun hlistening => ⟨hlistening, rfl⟩⟩ rfl fun _ => id)

/-- A coordinator that decides drops its grace timer, if it has one. -/
theorem moves_conclude (hc : c.Mute d) (b : SignalBuffer) (t : Termination) :
    Moves (k, c) ({ k with signals := b }.conclude t, d) := by
  have hgoes : k.Goes c ({ k with signals := b }.conclude t) d := ⟨hc, by rintro ⟨⟩⟩
  by_cases hstopping : ∃ grace, k.phase = .stopping grace
  · obtain ⟨grace, hphase⟩ := hstopping
    exact ⟨some grace, .disarm _ _ _ hgoes (by simp [conclude, hphase]) (by rintro _ ⟨⟩),
      fun id hid => Option.some.inj hid ▸ hphase⟩
  · refine .of_change (.keep _ _ hgoes ?_ (by rintro _ ⟨⟩))
    unfold conclude
    dsimp only
    split
    · next grace hphase => exact absurd ⟨grace, hphase⟩ hstopping
    · rfl

theorem moves_takeFirst (c : Chronicle) (b : SignalBuffer) (s : Signal)
    (hlistening : k.isListening = true) :
    Moves (k, c) ({ k with signals := b }.takeFirst c s) := by
  have hmute : c.Mute ({ k with signals := b }.takeFirst c s).2 := by
    have htaken : c.Mute ((c.record (.signalTaken s)).log (.signalReceived s)) :=
      ((Chronicle.Mute.refl c).record rfl).log (.signalReceived s)
    cases hraised : k.stop.isRaised with
    | true =>
      simpa [takeFirst, trigger, StopFlag.raise, Timers.arm, hraised] using htaken.record rfl
    | false =>
      simpa [takeFirst, trigger, StopFlag.raise, Timers.arm, hraised] using
        (htaken.record (x := .stopRaised) rfl).record rfl
  refine .of_change
    (.arm _ _ k.gracePeriod .shutdownTimeout ⟨hmute, fun _ => ⟨hlistening, ?_⟩⟩ ?_ ?_)
  · rw [takeFirst_fst]
  · rw [takeFirst_fst]
  · rw [takeFirst_fst]
    exact .inr rfl

theorem fireTimer?_eq (k : Coordinator) (c : Chronicle) :
    k.fireTimer? c = (k.timers.due? c.now).map (k.expire c) := by
  unfold fireTimer?
  cases k.timers.due? c.now <;> rfl

theorem moves_fireTimer? (h : k.fireTimer? c = some x) : Moves (k, c) x := by
  rw [fireTimer?_eq] at h
  obtain ⟨a, hdue, rfl⟩ := Option.map_eq_some_iff.1 h
  exact .of_change (.fire a hdue)

theorem moves_decidePosted? (h : k.decidePosted? c = some x) : Moves (k, c) x := by
  unfold decidePosted? at h
  split at h
  · obtain ⟨t, -, rfl⟩ := Option.map_eq_some_iff.1 h
    exact moves_conclude ((Chronicle.Mute.refl c).record rfl) k.signals t
  · cases h

theorem moves_takeSignal? (h : k.takeSignal? c = some x) : Moves (k, c) x := by
  obtain ⟨-, ⟨s, b, -, ⟨hphase, rfl⟩ | ⟨grace, hphase, rfl⟩⟩ | ⟨-, -, rfl⟩⟩ :=
    takeSignal?_eq_some h
  · exact moves_takeFirst c b s (by simp [isListening, hphase])
  · exact moves_conclude
      ((((Chronicle.Mute.refl c).record rfl).log (.secondSignal s)).record rfl) b .repeatedSignal
  · exact .of_change (.keep _ _ ⟨.refl c, fun hlistening => ⟨hlistening, rfl⟩⟩ rfl fun _ => id)

theorem moves_giveUp (k : Coordinator) (c : Chronicle) : Moves (k, c) (k.giveUp, c) := by
  have hgoes : k.Goes c k.giveUp c := ⟨.refl c, fun h => by simp at h⟩
  cases hphase : k.phase with
  | stopping grace =>
    refine ⟨some grace, .disarm _ _ _ hgoes ?_ ?_, fun id hid => Option.some.inj hid ▸ hphase⟩
    · simp [giveUp, hphase, drop]
    · simp [giveUp, hphase, drop]
  | _ => exact .of_change (.keep _ _ hgoes (by simp [giveUp, hphase, drop])
      (by simp [giveUp, hphase, drop]))

/-- What becomes of a coordinator as such things happen one after the other. -/
def Course : Coordinator × Chronicle → Coordinator × Chronicle → Prop :=
  Relation.ReflTransGen Moves

theorem Course.le_now (h : Course x y) : x.2.now ≤ y.2.now := by
  induction h with
  | refl => exact Nat.le_refl _
  | tail _ hlast ih =>
    obtain ⟨shed, hchange, -⟩ := hlast
    exact Nat.le_trans ih hchange.le_now

theorem Course.made_le (h : Course x y) : x.1.timers.made ≤ y.1.timers.made := by
  induction h with
  | refl => exact Nat.le_refl _
  | tail _ hlast ih =>
    obtain ⟨shed, hchange, -⟩ := hlast
    exact Nat.le_trans ih hchange.made_le

theorem Course.kept (h : Course x y) (hk : x.1.Kept x.2) : y.1.Kept y.2 := by
  induction h with
  | refl => exact hk
  | tail _ hlast ih =>
    obtain ⟨shed, hchange, -⟩ := hlast
    exact ih.change hchange

theorem Course.isOff {id : TimerId} (h : Course x y) (hoff : x.1.timers.IsOff id) :
    y.1.timers.IsOff id ∧ firings id y.2.happenings = firings id x.2.happenings := by
  induction h with
  | refl => exact ⟨hoff, rfl⟩
  | tail _ hlast ih =>
    obtain ⟨shed, hchange, -⟩ := hlast
    obtain ⟨hoff', hsame⟩ := ih.1.change hchange
    exact ⟨hoff', hsame.trans ih.2⟩

end Coordinator

/-- A timer that was not disarmed: it ticks, or it has fired at its deadline and just once. -/
def AbortTimer.Runs (a : AbortTimer) (x : Coordinator × Chronicle) : Prop :=
  a.Ticks x.1 ∨ a.deadline ≤ x.2.now ∧ x.1.timers.IsOff a.id ∧
    firings a.id x.2.happenings = [(a.deadline, a.termination)]

theorem AbortTimer.Runs.change {a : AbortTimer} {x y : Coordinator × Chronicle}
    {shed : Option TimerId} (h : a.Runs x) (hk : x.1.Kept x.2)
    (hs : x.1.Change x.2 shed y.1 y.2) (hshed : a.Ticks x.1 → shed ≠ some a.id) : a.Runs y := by
  rcases h with hticks | ⟨hpast, hoff, hfired⟩
  · rcases hticks.change hk hs (hshed hticks) with hticks | ⟨hnow, hoff, hfired⟩
    · exact .inl hticks
    · exact .inr ⟨Nat.le_of_eq hnow.symm, hoff, hfired⟩
  · obtain ⟨hoff', hsame⟩ := hoff.change hs
    exact .inr ⟨Nat.le_trans hpast hs.le_now, hoff', hsame.trans hfired⟩

theorem AbortTimer.Runs.course {a : AbortTimer} {x y : Coordinator × Chronicle} (h : a.Runs x)
    (hk : x.1.Kept x.2) (hs : Coordinator.Course x y) : a.Runs y := by
  induction hs with
  | refl => exact h
  | @tail u v hbefore hlast ih =>
    obtain ⟨shed, hchange, hgrace⟩ := hlast
    refine ih.change (Coordinator.Course.kept hbefore hk) hchange fun hticks heq => ?_
    exact hticks.given a.id (hgrace a.id heq) rfl

end Hotplug
