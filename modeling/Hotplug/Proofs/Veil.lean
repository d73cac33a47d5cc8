import Hotplug.World.Occurrence

/-!
# Veils

A veil hides some of what a chronicle records, or part of it.  The coordinator and its timers do
the same whether or not they write behind a veil, as they never read what was written.

* `Veil` — what is shown of a chronicle.
* `Veil.Candid` — a veil that shows whatever the coordinator does.
* `Veil.Candid.fireTimer?`, `Veil.Candid.takeSignal?`, … — the steps of the coordinator.
-/

namespace Hotplug

/-- What is shown of a chronicle. -/
structure Veil where
  /-- What is shown of a happening, if anything. -/
  shows : Happening → Option Happening
  metrics : Metrics → Metrics
  outstanding : Int → Int

/-- Whether a happening is of the coordinator, or of one of its timers. -/
def Happening.isSteering : Happening → Bool
  | signalTaken _ | stopRaised | timerArmed .. | timerFired .. => true
  | terminationPosted _ | terminated _ => true
  | logged (.terminationIgnored _) _ | logged (.signalReceived _) _ => true
  | logged (.secondSignal _) _ | logged (.timerFired ..) _ | logged (.timerCancelled _) _ => true
  | logged (.finished _) _ | logged (.aborted _) _ => true
  | _ => false

namespace Veil

/-- What a veil shows of a chronicle. -/
def chronicle (v : Veil) (c : Chronicle) : Chronicle where
  now := c.now
  happenings := c.happenings.filterMap fun (time, h) => (v.shows h).map (time, ·)
  metrics := v.metrics c.metrics
  outstanding := v.outstanding c.outstanding

/-- A veil that shows whatever the coordinator does. -/
structure Candid (v : Veil) : Prop where
  steering : ∀ h : Happening, h.isSteering = true → v.shows h = some h
  aborts : ∀ (t : Termination) (m : Metrics),
    v.metrics { m with aborts := Tally.bump t m.aborts } =
      { v.metrics m with aborts := Tally.bump t (v.metrics m).aborts }

variable {v : Veil} {c : Chronicle}

@[simp] theorem now_chronicle : (v.chronicle c).now = c.now := rfl

theorem record_as {h h' : Happening} (hh : v.shows h = some h') :
    v.chronicle (c.record h) = (v.chronicle c).record h' := by
  simp [chronicle, Chronicle.record, hh]

theorem record_of_shows {h : Happening} (hh : v.shows h = some h) :
    v.chronicle (c.record h) = (v.chronicle c).record h :=
  record_as hh

theorem record_of_hides {h : Happening} (hh : v.shows h = none) :
    v.chronicle (c.record h) = v.chronicle c := by
  simp [chronicle, Chronicle.record, hh]

theorem measure {f : Metrics → Metrics} (hf : ∀ m, v.metrics (f m) = f (v.metrics m)) :
    v.chronicle (c.measure f) = (v.chronicle c).measure f := by
  simp [chronicle, Chronicle.measure, hf]

/-- A veil shows every happening of some kind, and makes none of that kind of another. -/
def Keeps (v : Veil) (p : Happening → Bool) : Prop :=
  ∀ h : Happening, (v.shows h).filter p = (some h).filter p

theorem Keeps.filter_happenings {p : Happening → Bool} (h : v.Keeps p) :
    (v.chronicle c).happenings.filter (p ·.2) = c.happenings.filter (p ·.2) := by
  change (c.happenings.filterMap _).filter _ = _
  induction c.happenings with
  | nil => rfl
  | cons e es ih =>
    have he := h e.2
    cases hs : v.shows e.2 <;> cases hp : p e.2 <;> simp_all [Option.filter]

namespace Candid

variable (h : v.Candid)
include h

theorem record {x : Happening} (hx : x.isSteering = true) :
    v.chronicle (c.record x) = (v.chronicle c).record x :=
  record_of_shows (h.steering x hx)

theorem log {m : Message} {s : Option SessionId} (hm : (Happening.logged m s).isSteering = true) :
    v.chronicle (c.log m s) = (v.chronicle c).log m s :=
  h.record hm

/-! ## Timers -/

theorem arm (ts : Timers) (delay : Nat) (t : Termination) :
    ts.arm (v.chronicle c) delay t =
      ((ts.arm c delay t).1, (ts.arm c delay t).2.1, v.chronicle (ts.arm c delay t).2.2) := by
  simp only [Timers.arm, now_chronicle, h.record (x := .timerArmed ts.made t) rfl]

theorem cancel (ts : Timers) (id : TimerId) (t : Termination) (s : Option SessionId) :
    ts.cancel (v.chronicle c) id t s =
      ((ts.cancel c id t s).1, v.chronicle (ts.cancel c id t s).2) := by
  simp only [Timers.cancel, h.log (m := .timerCancelled t) (s := s) rfl]

theorem fire (ts : Timers) (a : AbortTimer) :
    ts.fire (v.chronicle c) a = ((ts.fire c a).1, v.chronicle (ts.fire c a).2) := by
  simp only [Timers.fire]
  rw [measure (h.aborts a.termination), h.record rfl, h.log rfl]

/-! ## The coordinator -/

theorem post (k : Coordinator) (t : Termination) :
    k.post (v.chronicle c) t = ((k.post c t).1, v.chronicle (k.post c t).2) := by
  unfold Coordinator.post
  split
  · rw [h.record rfl]
  · rw [h.log rfl]

theorem trigger (k : Coordinator) :
    k.trigger (v.chronicle c) =
      ((k.trigger c).1, (k.trigger c).2.1, v.chronicle (k.trigger c).2.2) := by
  simp only [Coordinator.trigger]
  split
  · rw [h.record rfl]
  · rfl

theorem fireTimer? (k : Coordinator) :
    k.fireTimer? (v.chronicle c) = (k.fireTimer? c).map (Prod.map id v.chronicle) := by
  unfold Coordinator.fireTimer?
  rw [now_chronicle]
  cases k.timers.due? c.now with
  | none => rfl
  | some a =>
    simp only [h.fire, h.post]
    rfl

theorem decide (k : Coordinator) (t : Termination) :
    k.decide (v.chronicle c) t = ((k.decide c t).1, v.chronicle (k.decide c t).2) := by
  unfold Coordinator.decide
  rw [h.record rfl]

theorem decidePosted? (k : Coordinator) :
    k.decidePosted? (v.chronicle c) = (k.decidePosted? c).map (Prod.map id v.chronicle) := by
  unfold Coordinator.decidePosted?
  split
  · cases k.posted with
    | nil => rfl
    | cons t rest => exact congrArg some (h.decide k t)
  · rfl

theorem takeFirst (k : Coordinator) (s : Signal) :
    k.takeFirst (v.chronicle c) s = ((k.takeFirst c s).1, v.chronicle (k.takeFirst c s).2) := by
  simp only [Coordinator.takeFirst]
  rw [← h.record rfl, ← h.log rfl, h.trigger, h.arm]

theorem takeSecond (k : Coordinator) (s : Signal) :
    k.takeSecond (v.chronicle c) s = ((k.takeSecond c s).1, v.chronicle (k.takeSecond c s).2) := by
  unfold Coordinator.takeSecond
  rw [← h.record rfl, ← h.log rfl, h.decide]

omit h in
/-- The signals are polled alike, if the reaction to a signal is alike. -/
theorem poll? (k : Coordinator)
    {react : Coordinator → Chronicle → Signal → Coordinator × Chronicle}
    (hreact : ∀ k s, react k (v.chronicle c) s = Prod.map id v.chronicle (react k c s)) :
    k.poll? (v.chronicle c) react = (k.poll? c react).map (Prod.map id v.chronicle) := by
  unfold Coordinator.poll?
  split
  · split
    · exact congrArg some (hreact _ _)
    · rfl
    · rfl
  · rfl

theorem takeSignal? (k : Coordinator) :
    k.takeSignal? (v.chronicle c) = (k.takeSignal? c).map (Prod.map id v.chronicle) := by
  unfold Coordinator.takeSignal?
  split
  · exact poll? k h.takeFirst
  · exact poll? k h.takeSecond
  · rfl

end Candid

end Veil

end Hotplug
