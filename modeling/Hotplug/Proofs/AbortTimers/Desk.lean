import Hotplug.Proofs.AbortTimers.Course
import Hotplug.Proofs.Verdict

/-!
# What can happen at a desk

Many parties deal with one coordinator: they arm timers, cancel and drop them, post terminations,
send signals and let time pass.

* `DeskAct`, `DeskOp` — what they can do, and what else can happen, in whatever order.
* `ShutdownDesk.orderly` — they do one thing after the other, and all that is due is done first.
* `ShutdownDesk.arrives_wait` — a desk that lets time pass leaves nothing out, and nothing is due.
* `ShutdownDesk.Step`, `ShutdownDesk.step_occur` — everything that can become of a desk.
-/

namespace Hotplug

/-! ## Acts and other things that happen -/

/-- What those who have to do with a coordinator can do. -/
inductive DeskAct where
  | rest
  | subscribe
  | trigger
  | run
  | drop
  | signal (signals : List Signal)
  | closeSignals
  | arm (i delay : Nat) (t : Termination)
  | cancel (j : Nat)
  | dropTimer (j : Nat)
  | await (i : Nat)
  | terminate (i : Nat) (t : Termination)
  | dropHandle (i : Nat)
  deriving DecidableEq, Repr, Inhabited

/-- One thing that can happen at a desk. -/
inductive DeskOp where
  | act (a : DeskAct)
  /-- A timer fires, or the coordinator goes a step. -/
  | own (i : Incident)
  /-- Time passes until then. -/
  | pass (time : Nat)
  /-- The coordinator is given up, whether it is being run or not. -/
  | giveUp
  /-- All that is due is done while so much time passes. -/
  | wait (duration : Nat)
  deriving DecidableEq, Repr, Inhabited

/-- Whether somebody disarms a timer. -/
def DeskOp.disarms (j : Nat) : DeskOp → Bool
  | .act (.cancel i) | .act (.dropTimer i) => i = j
  | _ => false

namespace ShutdownDesk

/-- A desk before anything has happened. -/
def fresh (gracePeriod capacity : Nat) : ShutdownDesk :=
  { coordinator := { gracePeriod := gracePeriod, signals := { capacity := capacity } } }

/-- The time at a desk. -/
def now (s : ShutdownDesk) : Nat :=
  s.chronicle.now

/-- The desk after somebody has done something.  What cannot be done leaves it as it is. -/
def act (s : ShutdownDesk) : DeskAct → ShutdownDesk
  | .rest => s
  | .subscribe => s.subscribe.elim s (·.2)
  | .trigger => s.trigger.elim s (·.2)
  | .run => s.run.getD s
  | .drop => s.drop.2
  | .signal signals => (s.signal signals).2
  | .closeSignals => s.closeSignals.2
  | .arm i delay t => (s.arm i delay t).elim s (·.2)
  | .cancel j => (s.cancel j).2
  | .dropTimer j => (s.dropTimer j).2
  | .await i => (s.await i).elim s (·.2)
  | .terminate i t => (s.terminate i t).getD s
  | .dropHandle i => (s.dropHandle i).getD s

/-- The desk after a step of the coordinator or of a timer, if that can be made now. -/
def turn (s : ShutdownDesk) (i : Incident) : ShutdownDesk :=
  (ShutdownRun.attempt ⟨s.coordinator, s.chronicle, {}⟩ i).elim s fun (k, c) =>
    { s with
      coordinator := k
      chronicle := c
      ended := s.ended.or (k.decision?.map (c.now, ·)) }

/-- The desk at another time. -/
def atTime (s : ShutdownDesk) (time : Nat) : ShutdownDesk :=
  { s with chronicle := { s.chronicle with now := time } }

/-- The desk after something has happened, in whatever order.  No time passes beyond the deadline
of an armed timer. -/
def occur (s : ShutdownDesk) : DeskOp → ShutdownDesk
  | .act a => s.act a
  | .own i => s.turn i
  | .pass time =>
    if s.now ≤ time ∧ ∀ a ∈ s.coordinator.timers.armed, time ≤ a.deadline then s.atTime time else s
  | .giveUp => { s with coordinator := s.coordinator.giveUp }
  | .wait duration => s.wait duration

/-- The desk after several things have happened. -/
def follow (s : ShutdownDesk) (os : List DeskOp) : ShutdownDesk :=
  os.foldl occur s

/-- What happens when somebody does one thing after the other, and lets time pass after each. -/
def orderly (steps : List (DeskAct × Nat)) : List DeskOp :=
  steps.flatMap fun (a, duration) => [.act a, .wait duration]

/-- Until when timer `j` is held as that happens. -/
def heldUntil (s : ShutdownDesk) (j : Nat) : List (DeskAct × Nat) → Nat
  | [] => s.now
  | (a, duration) :: steps =>
    if (DeskOp.act a).disarms j then s.now else ((s.act a).wait duration).heldUntil j steps

/-- When timer `id` fired and what for, the latest first. -/
def firings (s : ShutdownDesk) (id : TimerId) : List (Nat × Termination) :=
  Hotplug.firings id s.chronicle.happenings

/-- The coordinator with what was recorded. -/
def state (s : ShutdownDesk) : Coordinator × Chronicle :=
  (s.coordinator, s.chronicle)

/-! ## Letting time pass -/

section Wait

variable {s u : ShutdownDesk}

/-- What the next thing at a desk can be: a timer fires, or none is due and the coordinator decides
or takes a signal. -/
theorem step?_eq_some (hs : s.step? = some u) : u.timers = s.timers ∧
    ((∃ a, s.coordinator.timers.due? s.now = some a ∧
        u.state = s.coordinator.expire s.chronicle a) ∨
      s.coordinator.timers.due? s.now = none ∧
        (s.coordinator.decidePosted? s.chronicle = some u.state ∨
          s.coordinator.takeSignal? s.chronicle = some u.state)) := by
  unfold step? at hs
  rw [Coordinator.fireTimer?_eq] at hs
  cases hdue : s.coordinator.timers.due? s.chronicle.now with
  | some a =>
    rw [hdue, Option.map_some, Option.some.injEq] at hs
    subst hs
    exact ⟨rfl, .inl ⟨a, hdue, rfl⟩⟩
  | none =>
    rw [hdue, Option.map_none] at hs
    obtain ⟨x, hx, rfl⟩ := Option.map_eq_some_iff.1 hs
    exact ⟨rfl, .inr ⟨hdue, (Option.or_eq_some_iff.1 hx).imp_right (·.2)⟩⟩

theorem moves_step? (hs : s.step? = some u) : Coordinator.Moves s.state u.state := by
  obtain ⟨-, ⟨a, hdue, heq⟩ | ⟨-, hdecide | htake⟩⟩ := step?_eq_some hs
  · rw [heq]
    exact .of_change (.fire a hdue)
  · exact Coordinator.moves_decidePosted? hdecide
  · exact Coordinator.moves_takeSignal? htake

theorem state_wake (s : ShutdownDesk) : s.wake.state = s.state ∧ s.wake.timers = s.timers := by
  unfold wake
  split <;> exact ⟨rfl, rfl⟩

theorem course_settleWithin (fuel : Nat) (s : ShutdownDesk) :
    Coordinator.Course s.state (s.settleWithin fuel).state ∧
      (s.settleWithin fuel).timers = s.timers := by
  induction fuel generalizing s with
  | zero =>
    rw [settleWithin, (state_wake s).1, (state_wake s).2]
    exact ⟨.refl, rfl⟩
  | succ fuel ih =>
    cases hs : s.step? with
    | none =>
      rw [settleWithin, hs, (state_wake s).1, (state_wake s).2]
      exact ⟨.refl, rfl⟩
    | some u =>
      rw [settleWithin, hs]
      exact ⟨.head (moves_step? hs) (ih u).1, (ih u).2.trans (step?_eq_some hs).1⟩

theorem now_settle (s : ShutdownDesk) : s.settle.now = s.now := by
  obtain ⟨js, hchain, hfollow⟩ := ShutdownRun.chain_desk _ s {}
  have hnow := hchain.spec.1
  rw [hfollow] at hnow
  exact hnow

/-- What is due has been done. -/
theorem lt_deadline_of_settle (s : ShutdownDesk) :
    ∀ a ∈ s.settle.coordinator.timers.armed, s.settle.now < a.deadline :=
  ShutdownRun.lt_deadline_of_rests (ShutdownRun.rests_settle s {})

/-- How many timers can still fire: those that are armed, and the grace timer. -/
def pending (k : Coordinator) : Nat :=
  k.timers.armed.length + if k.phase = .awaitingSignal then 1 else 0

theorem pending_conclude (k : Coordinator) (b : SignalBuffer) (t : Termination) :
    pending ({ k with signals := b }.conclude t) ≤ k.timers.armed.length := by
  have harmed : ({ k with signals := b }.conclude t).timers.armed.length ≤
      k.timers.armed.length := by
    unfold Coordinator.conclude
    dsimp only
    split
    · exact List.length_filter_le _ _
    · exact Nat.le_refl _
  simpa [pending, Coordinator.conclude] using harmed

theorem pending_expire {k : Coordinator} {a : AbortTimer} (c : Chronicle)
    (ha : a ∈ k.timers.armed) : pending (k.expire c a).1 < pending k := by
  have hfewer : (k.timers.drop a.id).armed.length < k.timers.armed.length :=
    List.length_filter_lt_length_iff_exists.2 ⟨a, ha, by simp⟩
  rw [pending, Coordinator.phase_expire, Coordinator.timers_expire]
  exact Nat.add_lt_add_right hfewer _

theorem pending_decidePosted? {k : Coordinator} {c : Chronicle} {x : Coordinator × Chronicle}
    (h : k.decidePosted? c = some x) : pending x.1 ≤ pending k := by
  unfold Coordinator.decidePosted? at h
  split at h
  · obtain ⟨t, -, rfl⟩ := Option.map_eq_some_iff.1 h
    exact Nat.le_trans (pending_conclude k k.signals t) (Nat.le_add_right _ _)
  · cases h

theorem pending_takeSignal? {k : Coordinator} {c : Chronicle} {x : Coordinator × Chronicle}
    (h : k.takeSignal? c = some x) : pending x.1 ≤ pending k := by
  obtain ⟨-, ⟨s, b, -, ⟨hphase, rfl⟩ | ⟨grace, hphase, rfl⟩⟩ | ⟨-, -, rfl⟩⟩ :=
    Coordinator.takeSignal?_eq_some h
  · simp [pending, Coordinator.takeFirst_fst, Timers.arm, hphase]
  · exact Nat.le_trans (pending_conclude k b .repeatedSignal) (Nat.le_add_right _ _)
  · exact Nat.le_refl _

/-- No step makes more timers fire, and a timer that is due fires first. -/
theorem pending_step? (hs : s.step? = some u) : pending u.coordinator ≤ pending s.coordinator ∧
    ((∃ a ∈ s.coordinator.timers.armed, a.deadline ≤ s.now) →
      pending u.coordinator < pending s.coordinator) := by
  obtain ⟨-, ⟨a, hdue, heq⟩ | ⟨hnone, hdecides⟩⟩ := step?_eq_some hs
  · have hless : pending u.coordinator < pending s.coordinator := by
      rw [show u.coordinator = _ from congrArg Prod.fst heq]
      exact pending_expire s.chronicle (Timers.due?_eq_some hdue).1
    exact ⟨Nat.le_of_lt hless, fun _ => hless⟩
  · refine ⟨hdecides.elim pending_decidePosted? pending_takeSignal?, ?_⟩
    rintro ⟨a, ha, hle⟩
    exact absurd hle (Nat.not_le_of_lt (Timers.due?_eq_none hnone a ha))

theorem coordinator_wake (s : ShutdownDesk) : s.wake.coordinator = s.coordinator :=
  congrArg Prod.fst (state_wake s).1

theorem pending_settleWithin (fuel : Nat) (s : ShutdownDesk) :
    pending (s.settleWithin fuel).coordinator ≤ pending s.coordinator := by
  induction fuel generalizing s with
  | zero => exact Nat.le_of_eq (congrArg pending (coordinator_wake s))
  | succ fuel ih =>
    cases hs : s.step? with
    | none =>
      have hwake : s.settleWithin (fuel + 1) = s.wake := by rw [settleWithin, hs]
      rw [hwake]
      exact Nat.le_of_eq (congrArg pending (coordinator_wake s))
    | some u =>
      rw [settleWithin, hs]
      exact Nat.le_trans (ih u) (pending_step? hs).1

/-- A timer that is due has fired, or was disarmed before. -/
theorem pending_settle (hdue : ∃ a ∈ s.coordinator.timers.armed, a.deadline ≤ s.now) :
    pending s.settle.coordinator < pending s.coordinator := by
  obtain ⟨u, hs⟩ : ∃ u, s.step? = some u := by
    cases hdue' : s.coordinator.timers.due? s.chronicle.now with
    | none =>
      obtain ⟨a, ha, hle⟩ := hdue
      exact absurd hle (Nat.not_le_of_lt (Timers.due?_eq_none hdue' a ha))
    | some a => exact ⟨_, by rw [step?, Coordinator.fireTimer?_eq, hdue']; rfl⟩
  rw [settle, settleWithin, hs]
  exact Nat.lt_of_le_of_lt (pending_settleWithin _ u) ((pending_step? hs).2 hdue)

theorem nextDeadline?_eq_some {ts : Timers} {time : Nat} (h : ts.nextDeadline? = some time) :
    (∃ a ∈ ts.armed, a.deadline = time) ∧ ∀ a ∈ ts.armed, time ≤ a.deadline := by
  obtain ⟨hmem, hleast⟩ := List.min?_eq_some_iff.1 h
  exact ⟨List.mem_map.1 hmem, fun a ha => hleast a.deadline (List.mem_map_of_mem ha)⟩

theorem course_atTime {time : Nat} (hle : s.now ≤ time)
    (hdue : ∀ a ∈ s.coordinator.timers.armed, time ≤ a.deadline) :
    Coordinator.Course s.state (s.atTime time).state :=
  .single (.of_change (.pass time hle hdue))

/-- What has become of a desk at `target`: nothing was left out on the way, and nothing is due. -/
structure Arrives (s : ShutdownDesk) (target : Nat) (u : ShutdownDesk) : Prop where
  course : Coordinator.Course s.state u.state
  timers : u.timers = s.timers
  now : u.now = target
  prompt : ∀ a ∈ u.coordinator.timers.armed, u.now < a.deadline

theorem arrives_advance (fuel : Nat) (target : Nat) (hfuel : pending s.settle.coordinator < fuel)
    (htarget : s.now ≤ target) : s.Arrives target (advance fuel s target) := by
  induction fuel generalizing s with
  | zero => cases hfuel
  | succ fuel ih =>
    have hsettle := course_settleWithin
      (s.coordinator.timers.armed.length + s.coordinator.signals.waiting.length + 4) s
    have hprompt := s.lt_deadline_of_settle
    have hle : s.settle.now ≤ target := now_settle s ▸ htarget
    rw [advance]
    cases hnext : s.settle.coordinator.timers.nextDeadline?.filter (· ≤ target) with
    | some due =>
      -- a timer is due then, so fewer of them are pending once the desk has settled again
      obtain ⟨hdue, hbefore⟩ := Option.filter_eq_some_iff.1 hnext
      obtain ⟨⟨a, ha, rfl⟩, hleast⟩ := nextDeadline?_eq_some hdue
      have hreached := pending_settle (s := s.settle.atTime a.deadline) ⟨a, ha, Nat.le_refl _⟩
      have hrest := ih (s := s.settle.atTime a.deadline)
        (Nat.lt_of_lt_of_le hreached (Nat.le_of_lt_succ hfuel)) (of_decide_eq_true hbefore)
      have hpass := course_atTime (Nat.le_of_lt (hprompt a ha)) hleast
      exact
        { hrest with
          course := (hsettle.1.trans hpass).trans hrest.course
          timers := hrest.timers.trans hsettle.2 }
    | none =>
      have hlater : ∀ a ∈ s.settle.coordinator.timers.armed, target < a.deadline := by
        intro a ha
        cases hleast : s.settle.coordinator.timers.nextDeadline? with
        | none =>
          have hnil := List.map_eq_nil_iff.1 (List.min?_eq_none_iff.1 hleast)
          exact absurd ha (hnil ▸ List.not_mem_nil)
        | some time =>
          have hfar : ¬ time ≤ target := by simpa [hleast] using hnext
          exact Nat.lt_of_lt_of_le (Nat.lt_of_not_le hfar) ((nextDeadline?_eq_some hleast).2 a ha)
      exact
        { course := hsettle.1.trans (course_atTime hle fun a ha => Nat.le_of_lt (hlater a ha))
          timers := hsettle.2
          now := rfl
          prompt := hlater }

theorem arrives_wait (s : ShutdownDesk) (duration : Nat) :
    s.Arrives (s.now + duration) (s.wait duration) := by
  have hfewer : pending s.settle.coordinator < s.coordinator.timers.armed.length + 4 := by
    have hsettle := pending_settleWithin
      (s.coordinator.timers.armed.length + s.coordinator.signals.waiting.length + 4) s
    have hpending : pending s.coordinator ≤ s.coordinator.timers.armed.length + 1 := by
      unfold pending
      split <;> omega
    exact Nat.lt_of_le_of_lt (Nat.le_trans hsettle hpending) (by omega)
  exact arrives_advance _ _ hfewer (Nat.le_add_right _ _)

end Wait

/-! ## Whatever happens -/

variable {s u : ShutdownDesk} {o : DeskOp} {j : Nat} {a : AbortTimer}

/-- Everything that can become of a desk as one thing happens. -/
inductive Step (s : ShutdownDesk) (o : DeskOp) : ShutdownDesk → Prop
  | stay (hspared : ∀ j, o.disarms j = true → s.timer? j = none) : Step s o s
  | course (u : ShutdownDesk) (hspared : ∀ j, o.disarms j = false)
      (hcourse : Coordinator.Course s.state u.state) (htimers : u.timers = s.timers) : Step s o u
  | arm (u : ShutdownDesk) (delay : Nat) (t : Termination) (hspared : ∀ j, o.disarms j = false)
      (hmoves : Coordinator.Moves s.state u.state)
      (hmade : u.coordinator.timers.made = s.coordinator.timers.made + 1)
      (htimers : u.timers = s.timers ++ [some (s.coordinator.timers.made, t)]) : Step s o u
  | disarm (u : ShutdownDesk) (j : Nat) (id : TimerId) (t : Termination)
      (hdisarms : o.disarms j = true) (hheld : s.timer? j = some (id, t))
      (hchange : s.coordinator.Change s.chronicle (some id) u.coordinator u.chronicle)
      (htimers : u.timers = s.timers.set j none) : Step s o u

theorem Step.of_moves (hspared : ∀ j, o.disarms j = false)
    (hmoves : Coordinator.Moves s.state u.state) (htimers : u.timers = s.timers) : s.Step o u :=
  .course u hspared (.single hmoves) htimers

theorem step_arm (s : ShutdownDesk) (i delay : Nat) (t : Termination) :
    s.Step (.act (.arm i delay t)) (s.act (.arm i delay t)) := by
  change s.Step _ ((s.arm i delay t).elim s (·.2))
  unfold arm
  split
  · have hmute : s.chronicle.Mute (s.coordinator.timers.arm s.chronicle delay t).2.2 :=
      (Chronicle.Mute.refl s.chronicle).record rfl
    exact .arm _ delay t (fun _ => rfl) (.of_change
      (.arm _ _ delay t ⟨hmute, fun hlistening => ⟨hlistening, rfl⟩⟩ rfl (.inl rfl))) rfl rfl
  · exact .stay nofun

/-- Nobody can disarm a timer that is not held. -/
theorem Step.unheld (hnone : s.timer? j = none) (hdisarms : ∀ i, o.disarms i = true → j = i) :
    s.Step o s :=
  .stay fun i hi => hdisarms i hi ▸ hnone

theorem step_cancel (s : ShutdownDesk) (j : Nat) :
    s.Step (.act (.cancel j)) (s.act (.cancel j)) := by
  change s.Step _ (s.cancel j).2
  unfold cancel
  split
  · next hnone => exact .unheld hnone fun i hi => of_decide_eq_true hi
  · next id t hheld =>
    have hgoes : s.coordinator.Goes s.chronicle
        { s.coordinator with timers := s.coordinator.timers.drop id }
        (s.chronicle.log (.timerCancelled t)) :=
      ⟨(Chronicle.Mute.refl s.chronicle).log _, fun hlistening => ⟨hlistening, rfl⟩⟩
    exact .disarm _ j id t (by simp [DeskOp.disarms]) hheld
      (.disarm id _ _ hgoes rfl fun _ hg => hg) rfl

theorem step_dropTimer (s : ShutdownDesk) (j : Nat) :
    s.Step (.act (.dropTimer j)) (s.act (.dropTimer j)) := by
  change s.Step _ (s.dropTimer j).2
  unfold dropTimer
  split
  · next hnone => exact .unheld hnone fun i hi => of_decide_eq_true hi
  · next id t hheld =>
    have hgoes : s.coordinator.Goes s.chronicle
        { s.coordinator with timers := s.coordinator.timers.drop id } s.chronicle :=
      ⟨.refl s.chronicle, fun hlistening => ⟨hlistening, rfl⟩⟩
    exact .disarm _ j id t (by simp [DeskOp.disarms]) hheld
      (.disarm id _ _ hgoes rfl fun _ hg => hg) rfl

theorem step_act (s : ShutdownDesk) (b : DeskAct) : s.Step (.act b) (s.act b) := by
  cases b with
  | rest => exact .stay nofun
  | arm i delay t => exact s.step_arm i delay t
  | cancel j => exact s.step_cancel j
  | dropTimer j => exact s.step_dropTimer j
  | subscribe =>
    change s.Step _ (s.subscribe.elim s (·.2))
    unfold subscribe
    split <;> exact .course _ (fun _ => rfl) .refl rfl
  | trigger =>
    change s.Step _ (s.trigger.elim s (·.2))
    unfold trigger
    split
    · exact .of_moves (fun _ => rfl) (Coordinator.moves_trigger _ _) rfl
    · exact .stay nofun
  | run =>
    change s.Step _ (s.run.getD s)
    unfold run
    split
    · next hidle => exact .of_moves (fun _ => rfl) (Coordinator.moves_run hidle) rfl
    · exact .stay nofun
  | drop =>
    change s.Step _ s.drop.2
    unfold drop
    split
    · exact .of_moves (fun _ => rfl) (Coordinator.moves_drop _ _) rfl
    · exact .stay nofun
  | signal signals => exact .of_moves (fun _ => rfl) (Coordinator.moves_signals _ _ _) rfl
  | closeSignals => exact .of_moves (fun _ => rfl) (Coordinator.moves_signals _ _ _) rfl
  | await i =>
    change s.Step _ ((s.await i).elim s (·.2))
    unfold await
    split <;> exact .course _ (fun _ => rfl) .refl rfl
  | terminate i t =>
    change s.Step _ ((s.terminate i t).getD s)
    unfold terminate
    split
    · exact .of_moves (fun _ => rfl) (.of_change (.post t)) rfl
    · exact .stay nofun
  | dropHandle i =>
    change s.Step _ ((s.dropHandle i).getD s)
    unfold dropHandle
    split <;> exact .course _ (fun _ => rfl) .refl rfl

theorem step_own (s : ShutdownDesk) (i : Incident) : s.Step (.own i) (s.turn i) := by
  unfold turn
  cases hattempt : ShutdownRun.attempt ⟨s.coordinator, s.chronicle, {}⟩ i with
  | none => exact .stay nofun
  | some x =>
    refine .of_moves (fun _ => rfl) ?_ rfl
    cases i with
    | fireTimer => exact Coordinator.moves_fireTimer? hattempt
    | decide => exact Coordinator.moves_decidePosted? hattempt
    | takeSignal => exact Coordinator.moves_takeSignal? hattempt
    | _ => cases hattempt

theorem step_pass (s : ShutdownDesk) (time : Nat) : s.Step (.pass time) (s.occur (.pass time)) := by
  change s.Step _ (if s.now ≤ time ∧ ∀ a ∈ s.coordinator.timers.armed, time ≤ a.deadline then
    s.atTime time else s)
  split
  · next hmay => exact .course _ (fun _ => rfl) (course_atTime hmay.1 hmay.2) rfl
  · exact .stay nofun

/-- Whatever happens is a step. -/
theorem step_occur (s : ShutdownDesk) (o : DeskOp) : s.Step o (s.occur o) := by
  cases o with
  | act b => exact s.step_act b
  | own i => exact s.step_own i
  | pass time => exact s.step_pass time
  | giveUp => exact .of_moves (fun _ => rfl) (Coordinator.moves_giveUp _ _) rfl
  | wait duration =>
    have harrives := s.arrives_wait duration
    exact .course _ (fun _ => rfl) harrives.course harrives.timers

end ShutdownDesk

end Hotplug
